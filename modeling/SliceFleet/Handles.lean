/-
SliceFleet.Handles — numbered handles on open connections.

Connections that are opened get the numbers 0, 1, 2, … in turn. A handle is
used up when its connection is closed or dropped, whether or not the close
went well; its number is not given out again.
-/
import SliceFleet.Factory

namespace SliceFleet

/-- The connections by number; a number that is used up holds none. -/
structure Handles (C : Type) where
  slots : List (Option (Connection C))

namespace Handles

variable {σ F C : Type}

def none : Handles C := ⟨[]⟩

/-- The connection with a number, if it is still open. -/
def get? (handles : Handles C) (number : Nat) : Option (Connection C) :=
  handles.slots[number]?.join

def store (handles : Handles C) (connection : Connection C) : Nat × Handles C :=
  (handles.slots.length, ⟨handles.slots ++ [some connection]⟩)

def useUp (handles : Handles C) (number : Nat) : Handles C :=
  ⟨handles.slots.set number Option.none⟩

/-- Opens a connection and numbers it, if there is one. -/
def openWith (handles : Handles C) (provider : Provider σ F C) (factory : Factory F)
    (world : World σ F C) : Outcome BackendFault (Option Nat) × Handles C × World σ F C :=
  match factory.connect provider world with
  | (.done (some connection), world) =>
    let (number, handles) := handles.store connection
    (.done (some number), handles, world)
  | (.done .none, world) => (.done .none, handles, world)
  | (.failed fault, world) => (.failed fault, handles, world)
  | (.panicked text, world) => (.panicked text, handles, world)

/-- Closes the connection with a number; answers nothing if it is not open,
else what went wrong if something did. -/
def close (handles : Handles C) (provider : Provider σ F C) (number : Nat)
    (world : World σ F C) : Option (Option BackendFault) × Handles C × World σ F C :=
  match handles.get? number with
  | .none => (.none, handles, world)
  | some connection =>
    let (fault, world) := connection.close provider world
    (some fault, handles.useUp number, world)

/-- Drops the connection with a number; answers whether it was open. -/
def drop (handles : Handles C) (provider : Provider σ F C) (number : Nat)
    (world : World σ F C) : Bool × Handles C × World σ F C :=
  match handles.get? number with
  | .none => (false, handles, world)
  | some connection => (true, handles.useUp number, connection.drop provider world)

end Handles

end SliceFleet
