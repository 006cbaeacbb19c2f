/-
SliceFleet.Composite — the slices in reach as one virtual backend.

A composite has at least one member, each the recorded factory of a slice,
in the order of the slices. It takes part in distributed transactions when
every member does. Its connections are those of the composite factory.
-/
import SliceFleet.Factory
import SliceFleet.Fault

namespace SliceFleet

/-- The members of a virtual backend, at least one. -/
structure Composite (F : Type) where
  members : List (Member F)
  nonempty : members ≠ []

namespace Composite

variable {σ F C : Type}

def ofMembers : List (Member F) → Except SliceFault (Composite F)
  | [] => .error .noneReachable
  | member :: rest => .ok ⟨member :: rest, List.cons_ne_nil member rest⟩

theorem ofMembers_eq_ok_iff {members : List (Member F)} {composite : Composite F} :
    ofMembers members = .ok composite ↔ composite.members = members := by
  obtain ⟨own, nonempty⟩ := composite
  cases members with
  | nil => simp [ofMembers, nonempty]
  | cons member rest =>
    simp only [ofMembers, Except.ok.injEq, Composite.mk.injEq]
    exact eq_comm

theorem ofMembers_eq_error_iff {members : List (Member F)} {fault : SliceFault} :
    ofMembers members = .error fault ↔ members = [] ∧ fault = .noneReachable := by
  cases members with
  | nil => simp [ofMembers, eq_comm]
  | cons member rest => simp [ofMembers]

/-- The names of the member slices in order. -/
def slices (composite : Composite F) : List String :=
  composite.members.map Member.slice

/-- Whether every member takes part in distributed transactions, as recorded. -/
def capable (composite : Composite F) : Bool :=
  composite.members.all Member.capable

def size (composite : Composite F) : Nat :=
  composite.members.length

def isEmpty (composite : Composite F) : Bool :=
  composite.members.isEmpty

def toFactory (composite : Composite F) : Factory F :=
  .composite composite.members

/-- The factory of the first member of that name. -/
def factory? (composite : Composite F) (slice : String) : Option (Factory F) :=
  (composite.members.find? fun member => member.slice == slice).map Member.factory

/-- Opens a connection to every member, or to none. -/
def connect (composite : Composite F) (provider : Provider σ F C) (world : World σ F C) :
    Outcome BackendFault (Option (Connection C)) × World σ F C :=
  composite.toFactory.connect provider world

end Composite

end SliceFleet
