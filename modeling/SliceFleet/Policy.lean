/-
SliceFleet.Policy — distribution policies.

A policy chooses the slice that stores a record, given the candidates in
order and the name of the master. The round-robin policy holds a ticket
counter of 64 bits: a call with candidates takes a ticket and picks by its
remainder, a call without candidates takes none.

A policy book holds policies under their names, each as it is when it is
made; creating a policy copies it.
-/
import SliceFleet.KeyMap
import SliceFleet.Fault

namespace SliceFleet

/-- A rule that chooses the slice for a record, with what it remembers. -/
inductive Policy where
  | master
  /-- Records go around the candidates; `next` is the ticket to be taken. -/
  | roundRobin (next : UInt64)
  /-- The choice is a function of the candidates and the master. -/
  | custom (choose : List String → String → Option String)

namespace Policy

/-- Chooses a slice, or leaves the choice open. -/
def distribute (policy : Policy) (candidates : List String) (masterName : String) :
    Option String × Policy :=
  match policy with
  | .master => (some masterName, .master)
  | .roundRobin next =>
    if candidates.isEmpty then (none, .roundRobin next)
    else (candidates[next.toNat % candidates.length]?, .roundRobin (next + 1))
  | .custom choose => (choose candidates masterName, .custom choose)

def last : Policy :=
  .custom fun candidates _ => candidates.getLast?

end Policy

/-- Policies by name, as they are when they are made. -/
abbrev PolicyBook := KeyMap Policy

namespace PolicyBook

/-- The name of the policy that is taken when none is given. -/
def masterName : String := "master"

/-- The name of the policy that goes around the slices. -/
def roundRobinName : String := "round-robin"

/-- The book with the two policies of this library. -/
def standard : PolicyBook :=
  KeyMap.ofList [(masterName, .master), (roundRobinName, .roundRobin 0)]

/-- Enters a policy, in the place of an earlier one of that name. -/
def register (book : PolicyBook) (name : String) (policy : Policy) : PolicyBook :=
  book.insert name policy

def names (book : PolicyBook) : List String :=
  book.keys

def create (book : PolicyBook) (name : String) : Except SliceFault Policy :=
  match book.get? name with
  | some policy => .ok policy
  | none => .error (.unknownPolicy name book.names)

def render (book : PolicyBook) : String :=
  "PolicyRegistry \x7b policies: " ++ Text.quoteList book.names ++ " \x7d"

end PolicyBook

end SliceFleet
