/-
SliceFleet.Slice — slices and their statuses.

A slice is one backend among several: its place in the order of discovery,
its name and its configuration. Statuses are kept apart from the slices, on
a board that gives one to every place, so that configurations never change.
A place starts uninitialized and is settled once: what is settled first
stays (`Board.status_settle`).
-/
import SliceFleet.BackendConfig

namespace SliceFleet

/-! ## Statuses -/

/-- What is known of a slice. -/
inductive Status where
  | uninitialized
  | active
  | inactive
deriving DecidableEq, Repr

namespace Status

def word : Status → String
  | .uninitialized => "uninitialized"
  | .active => "active"
  | .inactive => "inactive"

def all : List Status := [.uninitialized, .active, .inactive]

/-- The status that a word names, letter by letter. -/
def ofWord? (word : String) : Option Status :=
  all.find? fun status => status.word == word

/-- The wording for a word that names no status. -/
def unknownWord (word : String) : String :=
  "unknown variant `" ++ word ++ "`, expected one of " ++
    String.intercalate ", " (all.map fun status => "`" ++ status.word ++ "`")

theorem ofWord?_word (status : Status) : ofWord? status.word = some status := by
  cases status <;> decide

/-- The status after a verification that found the slice reachable or not. -/
def ofReachable (reachable : Bool) : Status :=
  if reachable then .active else .inactive

end Status

/-! ## Slices -/

/-- One backend among several. -/
structure Slice where
  place : Nat
  name : String
  config : BackendConfig
deriving DecidableEq

def Slice.target (slice : Slice) : String :=
  slice.config.target

/-! ## The board of statuses -/

/-- The status of every place. -/
structure Board where
  status : Nat → Status

namespace Board

def blank : Board := ⟨fun _ => .uninitialized⟩

instance : Inhabited Board := ⟨blank⟩

def of (board : Board) (slice : Slice) : Status :=
  board.status slice.place

def isActive (board : Board) (slice : Slice) : Bool :=
  board.of slice == .active

/-- Records what the verification of a slice found, unless it was settled before. -/
def settle (board : Board) (slice : Slice) (reachable : Bool) : Board where
  status place :=
    if place = slice.place ∧ board.status place = .uninitialized then .ofReachable reachable
    else board.status place

theorem status_settle (board : Board) (slice : Slice) (reachable : Bool) (place : Nat) :
    (board.settle slice reachable).status place =
      if place = slice.place ∧ board.status place = .uninitialized then .ofReachable reachable
      else board.status place := rfl

/-- A place that is settled stays as it is. -/
theorem status_settle_of_ne {board : Board} {place : Nat} (slice : Slice) (reachable : Bool)
    (settled : board.status place ≠ .uninitialized) :
    (board.settle slice reachable).status place = board.status place := by
  simp [status_settle, settled]

/-- After it is settled a slice is not uninitialized. -/
theorem of_settle_ne (board : Board) (slice : Slice) (reachable : Bool) :
    (board.settle slice reachable).of slice ≠ .uninitialized := by
  rw [of, status_settle]
  split
  · cases reachable <;> simp [Status.ofReachable]
  · simp_all

end Board

end SliceFleet
