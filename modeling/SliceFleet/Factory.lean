/-
SliceFleet.Factory — connection factories composed of others, and the
connections that they open.

A factory is a provider's own (`leaf`), passes its requests on to another
(`delegating`), or is composed of members, each the factory of one slice
(`composite`). Members may be composed themselves. A connection of a
composite factory consists of one connection per member.

Opening is all or nothing: the members are asked in order, and at the first
one that does not yield a connection those opened so far are closed again,
in the order in which they were opened, before the call is left. Closing
goes through all parts, whatever goes wrong on the way, and reports the
first fault.
-/
import SliceFleet.Provider

namespace SliceFleet

mutual

/-- A connection factory, possibly composed of others. -/
inductive Factory (F : Type) where
  | leaf (factory : F)
  /-- A factory that passes requests on and states a capability of its own. -/
  | delegating (capable : Bool) (inner : Factory F)
  | composite (members : List (Member F))

/-- One member of a composite factory. -/
inductive Member (F : Type) where
  /-- The slice's name, its capability as recorded, and its factory. -/
  | mk (slice : String) (capable : Bool) (factory : Factory F)

end

namespace Member

variable {F : Type}

def slice : Member F → String
  | .mk slice _ _ => slice

/-- Whether the member takes part in distributed transactions, as recorded. -/
def capable : Member F → Bool
  | .mk _ capable _ => capable

def factory : Member F → Factory F
  | .mk _ _ factory => factory

end Member

/-- An open connection. -/
inductive Connection (C : Type) where
  | leaf (link : Link C)
  /-- One connection per member of a composite factory. -/
  | distributed (parts : List (Connection C))

variable {σ F C : Type}

/-! ## Capability -/

/-- Whether the factory takes part in distributed transactions: for a composite
one, whether all its members do, as recorded. -/
def Factory.capable (provider : Provider σ F C) : Factory F → Bool
  | .leaf factory => provider.capable factory
  | .delegating capable _ => capable
  | .composite members => members.all Member.capable

/-! ## Closing -/

mutual

/-- Closes a connection with all its parts; the first fault is reported. -/
def Connection.close (provider : Provider σ F C) :
    Connection C → World σ F C → Option BackendFault × World σ F C
  | .leaf link, world => provider.release link world
  | .distributed parts, world => Connection.closeAll provider parts world

/-- Closes connections one after the other; the first fault is reported. -/
def Connection.closeAll (provider : Provider σ F C) :
    List (Connection C) → World σ F C → Option BackendFault × World σ F C
  | [], world => (none, world)
  | connection :: rest, world =>
    let (fault, world) := connection.close provider world
    let (later, world) := Connection.closeAll provider rest world
    (fault.or later, world)

end

/-- Lets go of a connection without closing it: the parts of a distributed one
are closed then, and faults are ignored; a plain one stays open. -/
def Connection.drop (provider : Provider σ F C) : Connection C → World σ F C → World σ F C
  | .leaf _, world => world
  | .distributed parts, world => (Connection.closeAll provider parts world).2

/-! ## Opening -/

/-- How far the members' connections came: those opened so far, and what
stopped the opening if something did. -/
structure Opening (C : Type) where
  /-- The connections, in the order of the members. -/
  parts : List (Connection C)
  /-- The fault or the panic of the first member without a connection. -/
  stop : Option (BackendFault ⊕ String)

def Opening.add (part : Connection C) (opening : Opening C) : Opening C :=
  { opening with parts := part :: opening.parts }

/-- Makes one connection of those opened, or closes them again. -/
def Opening.finish (provider : Provider σ F C) (opening : Opening C) (world : World σ F C) :
    Outcome BackendFault (Option (Connection C)) × World σ F C :=
  match opening.stop with
  | none => (.done (some (.distributed opening.parts)), world)
  | some (.inl fault) => (.failed fault, (Connection.closeAll provider opening.parts world).2)
  | some (.inr text) => (.panicked text, (Connection.closeAll provider opening.parts world).2)

mutual

def Factory.connect (provider : Provider σ F C) :
    Factory F → World σ F C → Outcome BackendFault (Option (Connection C)) × World σ F C
  | .leaf factory, world =>
    let (answer, world) := provider.attempt factory world
    (answer.map fun link => link.map Connection.leaf, world)
  | .delegating _ inner, world => inner.connect provider world
  | .composite members, world =>
    let (opening, world) := Factory.connectAll provider members world
    opening.finish provider world

/-- Opens one connection per member, up to the first that yields none. -/
def Factory.connectAll (provider : Provider σ F C) :
    List (Member F) → World σ F C → Opening C × World σ F C
  | [], world => (⟨[], none⟩, world)
  | .mk slice _ factory :: rest, world =>
    match factory.connect provider world with
    | (.done (some part), world) =>
      let (opening, world) := Factory.connectAll provider rest world
      (opening.add part, world)
    | (.done none, world) => (⟨[], some (.inl (.noConnection slice))⟩, world)
    | (.failed fault, world) => (⟨[], some (.inl fault)⟩, world)
    | (.panicked text, world) => (⟨[], some (.inr text)⟩, world)

end

end SliceFleet
