/-
SliceFleet.Provider — backends as the slices see them.

A provider makes connection factories for configurations, and connections
from factories. It has a state of its own, about which nothing is assumed:
what an attempt answers may depend on everything that happened before. Every
call ends in one of three ways (`Outcome`): with an answer, with a fault
that it reports, or by a panic that leaves it; its changes to the state stay
in all three cases.

A `World` is the provider's state with a journal of what was asked of it. The
connections that are opened are numbered in the order of the journal, so the
journal says of each connection whether and how often it was closed.
-/
import SliceFleet.BackendConfig

namespace SliceFleet

/-- How a call ends. -/
inductive Outcome (ε α : Type) where
  | done (answer : α)
  | failed (fault : ε)
  | panicked (text : String)
deriving DecidableEq, Repr

namespace Outcome

def map {ε α β : Type} (f : α → β) : Outcome ε α → Outcome ε β
  | .done answer => .done (f answer)
  | .failed fault => .failed fault
  | .panicked text => .panicked text

/-- A result that was obtained without a panic. -/
def ofExcept {ε α : Type} : Except ε α → Outcome ε α
  | .ok answer => .done answer
  | .error fault => .failed fault

end Outcome

/-- A provider of backends: its state is of type `σ`, its connection factories
are of type `F` and its connections of type `C`. -/
structure Provider (σ F C : Type) where
  makeFactory : BackendConfig → σ → Outcome BackendFault F × σ
  /-- Puts the provider's own behaviour around a factory. -/
  decorate : BackendConfig → F → σ → F × σ := fun _ factory state => (factory, state)
  /-- Attempts a connection; the backend may answer without one. -/
  connect : F → σ → Outcome BackendFault (Option C) × σ
  /-- Closes a connection, and says what went wrong if something did. -/
  close : C → σ → Option BackendFault × σ
  /-- Whether the factory takes part in distributed transactions. -/
  capable : F → Bool

/-- An open connection to one backend, with its number. -/
structure Link (C : Type) where
  serial : Nat
  handle : C
deriving DecidableEq

/-- What was asked of a provider, with its answer. -/
inductive Event (F C : Type) where
  | requested (config : BackendConfig)
  | attempted (factory : F) (answer : Outcome BackendFault (Option C))
  | closed (link : Link C) (fault : Option BackendFault)

namespace Event

variable {F C : Type}

def isOpening : Event F C → Bool
  | .attempted _ (.done (some _)) => true
  | _ => false

def isClosing : Event F C → Bool
  | .closed _ _ => true
  | _ => false

end Event

/-- A provider's state and the journal of what was asked of it, oldest first. -/
structure World (σ F C : Type) where
  backend : σ
  journal : List (Event F C)

namespace World

variable {σ F C : Type}

def initial (backend : σ) : World σ F C := ⟨backend, []⟩

def opened (world : World σ F C) : Nat :=
  world.journal.countP Event.isOpening

def closed (world : World σ F C) : Nat :=
  world.journal.countP Event.isClosing

/-- Goes on with a state of the provider, after an event. -/
def after (world : World σ F C) (backend : σ) (event : Event F C) : World σ F C :=
  ⟨backend, world.journal ++ [event]⟩

end World

namespace Provider

variable {σ F C : Type}

/-- Asks for the factory of a configuration. -/
def request (provider : Provider σ F C) (config : BackendConfig) (world : World σ F C) :
    Outcome BackendFault F × World σ F C :=
  let (answer, backend) := provider.makeFactory config world.backend
  (answer, world.after backend (.requested config))

/-- Puts the provider's own behaviour around a factory. -/
def dress (provider : Provider σ F C) (config : BackendConfig) (factory : F)
    (world : World σ F C) : F × World σ F C :=
  let (factory, backend) := provider.decorate config factory world.backend
  (factory, { world with backend })

def attempt (provider : Provider σ F C) (factory : F) (world : World σ F C) :
    Outcome BackendFault (Option (Link C)) × World σ F C :=
  let (answer, backend) := provider.connect factory world.backend
  (answer.map fun connection => connection.map fun handle => ⟨world.opened, handle⟩,
    world.after backend (.attempted factory answer))

def release (provider : Provider σ F C) (link : Link C) (world : World σ F C) :
    Option BackendFault × World σ F C :=
  let (fault, backend) := provider.close link.handle world.backend
  (fault, world.after backend (.closed link fault))

/-! ## What each step leaves in the journal -/

theorem journal_request (provider : Provider σ F C) (config : BackendConfig)
    (world : World σ F C) :
    (provider.request config world).2.journal = world.journal ++ [.requested config] := rfl

theorem journal_dress (provider : Provider σ F C) (config : BackendConfig) (factory : F)
    (world : World σ F C) :
    (provider.dress config factory world).2.journal = world.journal := rfl

theorem journal_attempt (provider : Provider σ F C) (factory : F) (world : World σ F C) :
    (provider.attempt factory world).2.journal =
      world.journal ++ [.attempted factory (provider.connect factory world.backend).1] := rfl

theorem journal_release (provider : Provider σ F C) (link : Link C) (world : World σ F C) :
    (provider.release link world).2.journal =
      world.journal ++ [.closed link (provider.close link.handle world.backend).1] := rfl

/-- Only an attempt that yields a connection opens one. -/
theorem opened_attempt (provider : Provider σ F C) (factory : F) (world : World σ F C) :
    (provider.attempt factory world).2.opened =
      world.opened + (match (provider.attempt factory world).1 with
        | .done (some _) => 1
        | _ => 0) := by
  simp only [World.opened, journal_attempt, List.countP_append, List.countP_singleton]
  simp only [attempt]
  match (provider.connect factory world.backend).1 with
  | .done (some _) => rfl
  | .done none => rfl
  | .failed _ => rfl
  | .panicked _ => rfl

theorem closed_release (provider : Provider σ F C) (link : Link C) (world : World σ F C) :
    (provider.release link world).2.closed = world.closed + 1 := by
  simp [World.closed, journal_release, Event.isClosing]

end Provider

end SliceFleet
