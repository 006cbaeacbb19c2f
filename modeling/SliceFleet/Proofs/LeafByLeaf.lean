/-
SliceFleet.Proofs.LeafByLeaf — composite factories and connections, leaf by leaf.

However deeply factories are composed, opening a connection is attempting the
leaves one after the other, up to the first that yields none
(`Factory.connect_of_whole`, `Factory.connect_of_stopped`), and closing one is
releasing its links one after the other (`Connection.close_eq`). What is left to
say of the nesting is in which order the links are given back when a leaf stops
the opening. That is `Factory.closingOrder`: the inner composite that failed
comes first, then those around it, each going through its own members in the
order of their opening.
-/
import SliceFleet.Composite

namespace SliceFleet

variable {σ F C : Type}

/-! ## Leaves and links -/

/-- A factory of the provider's own in a composite, with the name of the slice
whose member it is. -/
structure Leaf (F : Type) where
  slice : String
  factory : F
deriving DecidableEq

mutual

/-- The leaves of a factory that is a member of that name, in order, depth first. -/
def Factory.leaves (slice : String) : Factory F → List (Leaf F)
  | .leaf factory => [⟨slice, factory⟩]
  | .delegating _ inner => inner.leaves slice
  | .composite members => Factory.leavesOf members

def Factory.leavesOf : List (Member F) → List (Leaf F)
  | [] => []
  | .mk slice _ factory :: rest => factory.leaves slice ++ Factory.leavesOf rest

end

mutual

/-- The links of a connection, one per leaf, in order. -/
def Connection.links : Connection C → List (Link C)
  | .leaf link => [link]
  | .distributed parts => Connection.linksOf parts

def Connection.linksOf : List (Connection C) → List (Link C)
  | [] => []
  | part :: rest => part.links ++ Connection.linksOf rest

end

/-! ## Releasing links -/

/-- Releases links one after the other, and lists what went wrong with each. -/
def releaseEach (provider : Provider σ F C) :
    List (Link C) → World σ F C → List (Option BackendFault) × World σ F C
  | [], world => ([], world)
  | link :: rest, world =>
    let (fault, world) := provider.release link world
    let (faults, world) := releaseEach provider rest world
    (fault :: faults, world)

/-- The first fault of several, if there is one. -/
def firstFault (faults : List (Option BackendFault)) : Option BackendFault :=
  faults.findSome? id

theorem releaseEach_append (provider : Provider σ F C) (first second : List (Link C))
    (world : World σ F C) :
    releaseEach provider (first ++ second) world =
      let (ahead, between) := releaseEach provider first world
      let (behind, after) := releaseEach provider second between
      (ahead ++ behind, after) := by
  induction first generalizing world with
  | nil => rfl
  | cons link rest ih => simp only [List.cons_append, releaseEach, ih]

theorem firstFault_append (ahead behind : List (Option BackendFault)) :
    firstFault (ahead ++ behind) = (firstFault ahead).or (firstFault behind) := by
  induction ahead with
  | nil => rfl
  | cons fault rest ih =>
    cases fault with
    | none => exact ih
    | some fault => rfl

mutual

/-- **Closing releases every link once**, in order, whatever goes wrong, and
reports the first fault. -/
theorem Connection.close_eq (provider : Provider σ F C) :
    ∀ (connection : Connection C) (world : World σ F C),
      connection.close provider world =
        let (faults, after) := releaseEach provider connection.links world
        (firstFault faults, after)
  | .leaf link, world => by
    rw [Connection.close, Connection.links, releaseEach]
    rcases provider.release link world with ⟨fault, after⟩
    cases fault <;> rfl
  | .distributed parts, world => by
    rw [Connection.close, Connection.closeAll_eq provider parts world, Connection.links]

theorem Connection.closeAll_eq (provider : Provider σ F C) :
    ∀ (parts : List (Connection C)) (world : World σ F C),
      Connection.closeAll provider parts world =
        let (faults, after) := releaseEach provider (Connection.linksOf parts) world
        (firstFault faults, after)
  | [], world => rfl
  | part :: rest, world => by
    rw [Connection.closeAll, Connection.close_eq provider part world]
    simp only [Connection.closeAll_eq provider rest, Connection.linksOf, releaseEach_append,
      firstFault_append]

end

/-! ## Attempting leaves -/

/-- Why there is no connection for the member of that name, if there is none. -/
def stopOf {α : Type} (slice : String) :
    Outcome BackendFault (Option α) → Option (BackendFault ⊕ String)
  | .done (some _) => none
  | .done none => some (.inl (.noConnection slice))
  | .failed fault => some (.inl fault)
  | .panicked text => some (.inr text)

/-- What is made of the connection does not matter. -/
theorem stopOf_map {α β : Type} (f : α → β) (slice : String)
    (answer : Outcome BackendFault (Option α)) :
    stopOf slice (answer.map fun connection => connection.map f) = stopOf slice answer := by
  match answer with
  | .done (some _) => rfl
  | .done none => rfl
  | .failed _ => rfl
  | .panicked _ => rfl

/-- How a composite reports what stopped its opening. -/
def haltedBy {α : Type} : BackendFault ⊕ String → Outcome BackendFault α
  | .inl fault => .failed fault
  | .inr text => .panicked text

/-- A composite hands on what stopped it, whatever the name it goes by. -/
theorem stopOf_haltedBy {α : Type} (slice : String) (cause : BackendFault ⊕ String) :
    stopOf slice (haltedBy cause : Outcome BackendFault (Option α)) = some cause := by
  cases cause <;> rfl

/-- How far the leaves of a composite came: the links opened so far, and what
stopped the opening if something did. -/
structure LeafOpening (C : Type) where
  links : List (Link C)
  stop : Option (BackendFault ⊕ String)

/-- Attempts the leaves one after the other, up to the first that yields no connection. -/
def openEach (provider : Provider σ F C) :
    List (Leaf F) → World σ F C → LeafOpening C × World σ F C
  | [], world => (⟨[], none⟩, world)
  | leaf :: rest, world =>
    match provider.attempt leaf.factory world with
    | (.done (some link), world) =>
      let (opening, world) := openEach provider rest world
      ({ opening with links := link :: opening.links }, world)
    | (answer, world) => (⟨[], stopOf leaf.slice answer⟩, world)

variable {provider : Provider σ F C} {leaf : Leaf F} {leaves : List (Leaf F)}
  {world between : World σ F C} {links : List (Link C)} {cause : BackendFault ⊕ String}

theorem openEach_cons_of_yields {link : Link C} {next : World σ F C}
    (yields : provider.attempt leaf.factory world = (.done (some link), next)) :
    openEach provider (leaf :: leaves) world =
      let (opening, after) := openEach provider leaves next
      ({ opening with links := link :: opening.links }, after) := by
  rw [openEach, yields]

theorem openEach_cons_of_stops
    (stops : stopOf leaf.slice (provider.attempt leaf.factory world).1 = some cause) :
    openEach provider (leaf :: leaves) world =
      (⟨[], some cause⟩, (provider.attempt leaf.factory world).2) := by
  rw [openEach]
  rcases attempted : provider.attempt leaf.factory world with ⟨answer, next⟩
  rw [attempted] at stops
  match answer with
  | .done (some link) => cases stops
  | .done none => exact Prod.ext (congrArg (LeafOpening.mk []) stops) rfl
  | .failed fault => exact Prod.ext (congrArg (LeafOpening.mk []) stops) rfl
  | .panicked text => exact Prod.ext (congrArg (LeafOpening.mk []) stops) rfl

/-- **How the first leaf goes**: it yields a link and the others follow, or it stops
the opening. -/
theorem openEach_cons_cases {stop : Option (BackendFault ⊕ String)}
    (opening : openEach provider (leaf :: leaves) world = (⟨links, stop⟩, between)) :
    (∃ link next behind, provider.attempt leaf.factory world = (.done (some link), next) ∧
      openEach provider leaves next = (⟨behind, stop⟩, between) ∧ links = link :: behind) ∨
    ∃ cause, stopOf leaf.slice (provider.attempt leaf.factory world).1 = some cause ∧
      stop = some cause ∧ links = [] ∧ between = (provider.attempt leaf.factory world).2 := by
  cases stops : stopOf leaf.slice (provider.attempt leaf.factory world).1 with
  | some cause =>
    rw [openEach_cons_of_stops stops] at opening
    cases opening
    exact .inr ⟨cause, rfl, rfl, rfl, rfl⟩
  | none =>
    rcases attempted : provider.attempt leaf.factory world with ⟨answer, next⟩
    rw [attempted] at stops
    match answer with
    | .done (some link) =>
      rw [openEach_cons_of_yields attempted] at opening
      rcases later : openEach provider leaves next with ⟨⟨behind, rest⟩, after⟩
      rw [later] at opening
      cases opening
      exact .inl ⟨link, next, behind, rfl, later, rfl⟩
    | .done none => cases stops
    | .failed fault => cases stops
    | .panicked text => cases stops

/-- **How the first leaves go**: all of them yield and the others follow, or one of
them stops the opening and the others are not attempted. -/
theorem openEach_append_cases {rest : List (Leaf F)} {stop : Option (BackendFault ⊕ String)}
    (opening : openEach provider (leaves ++ rest) world = (⟨links, stop⟩, between)) :
    (∃ ahead behind next, openEach provider leaves world = (⟨ahead, none⟩, next) ∧
      openEach provider rest next = (⟨behind, stop⟩, between) ∧ links = ahead ++ behind) ∨
    ∃ cause, stop = some cause ∧
      openEach provider leaves world = (⟨links, some cause⟩, between) := by
  induction leaves generalizing world links with
  | nil => exact .inl ⟨[], links, world, rfl, opening, rfl⟩
  | cons leaf more ih =>
    rcases openEach_cons_cases opening with
      ⟨link, next, behind, yields, later, rfl⟩ | ⟨cause, stops, rfl, rfl, rfl⟩
    · rcases ih later with ⟨ahead, others, after, own, theirs, rfl⟩ | ⟨cause, rfl, own⟩
      · refine .inl ⟨link :: ahead, others, after, ?_, theirs, rfl⟩
        rw [openEach_cons_of_yields yields, own]
      · refine .inr ⟨cause, rfl, ?_⟩
        rw [openEach_cons_of_yields yields, own]
    · exact .inr ⟨cause, rfl, openEach_cons_of_stops stops⟩

/-- Leaves that all yield have a link each. -/
theorem length_of_whole (opened : openEach provider leaves world = (⟨links, none⟩, between)) :
    links.length = leaves.length := by
  induction leaves generalizing world links with
  | nil =>
    cases opened
    rfl
  | cons leaf more ih =>
    rcases openEach_cons_cases opened with ⟨_, _, _, _, later, rfl⟩ | ⟨_, _, stopped, _⟩
    · simp [ih later]
    · cases stopped

/-- An opening that was stopped has fewer links than leaves. -/
theorem length_of_stopped
    (stopped : openEach provider leaves world = (⟨links, some cause⟩, between)) :
    links.length < leaves.length := by
  induction leaves generalizing world links with
  | nil => cases stopped
  | cons leaf more ih =>
    rcases openEach_cons_cases stopped with ⟨_, _, _, _, later, rfl⟩ | ⟨_, _, _, rfl, _⟩
    · simpa using ih later
    · simp

/-! ## The order of giving back -/

mutual

/-- In which order the links opened under a factory are given back when one of
its leaves stops the opening. -/
def Factory.closingOrder {α : Type} : Factory F → List α → List α
  | .leaf _, opened => opened
  | .delegating _ inner, opened => inner.closingOrder opened
  | .composite members, opened => Factory.closingOrderOf members [] opened

/-- Goes through the members with what they opened, up to the one that was
stopped: its own come first, then those of the members before it, `own`. -/
def Factory.closingOrderOf {α : Type} : List (Member F) → List α → List α → List α
  | [], own, opened => own ++ opened
  | .mk slice _ factory :: rest, own, opened =>
    let size := (factory.leaves slice).length
    if opened.length < size then factory.closingOrder opened ++ own
    else Factory.closingOrderOf rest (own ++ opened.take size) (opened.drop size)

end

/-- The second leaf of the inner composite stops the opening: what the inner one has
opened comes first. -/
example : (Factory.composite [.mk "a" true (.leaf 0), .mk "b" true (.leaf 1),
    .mk "c" true (.composite [.mk "d" true (.leaf 2), .mk "e" true (.leaf 3)]),
    .mk "f" true (.leaf 4)]).closingOrder [0, 1, 2] = [2, 0, 1] := by decide

mutual

/-- Every link is given back once. -/
theorem Factory.closingOrder_perm {α : Type} :
    ∀ (factory : Factory F) (opened : List α), (factory.closingOrder opened).Perm opened
  | .leaf _, opened => List.Perm.refl opened
  | .delegating _ inner, opened => inner.closingOrder_perm opened
  | .composite members, opened => Factory.closingOrderOf_perm members [] opened

theorem Factory.closingOrderOf_perm {α : Type} :
    ∀ (members : List (Member F)) (own opened : List α),
      (Factory.closingOrderOf members own opened).Perm (own ++ opened)
  | [], own, opened => List.Perm.refl _
  | .mk slice _ factory :: rest, own, opened => by
    rw [Factory.closingOrderOf]
    split
    · exact ((factory.closingOrder_perm opened).append_right own).trans List.perm_append_comm
    · refine (Factory.closingOrderOf_perm rest _ _).trans ?_
      rw [List.append_assoc, List.take_append_drop]

end

/-! ## Opening -/

mutual

/-- **If every leaf yields**, the connection has their links. -/
theorem Factory.connect_of_whole :
    ∀ (factory : Factory F) {slice : String} {world between : World σ F C}
      {links : List (Link C)},
      openEach provider (factory.leaves slice) world = (⟨links, none⟩, between) →
      ∃ connection, factory.connect provider world = (.done (some connection), between) ∧
        connection.links = links
  | .leaf factory, slice, world, between, links, opened => by
    rw [Factory.leaves] at opened
    rcases openEach_cons_cases opened with ⟨link, next, _, yields, alone, rfl⟩ | ⟨_, _, stopped, _⟩
    · cases alone
      rw [Factory.connect, yields]
      exact ⟨.leaf link, rfl, rfl⟩
    · cases stopped
  | .delegating _ inner, slice, world, between, links, opened => by
    rw [Factory.leaves] at opened
    rw [Factory.connect]
    exact inner.connect_of_whole opened
  | .composite members, slice, world, between, links, opened => by
    rw [Factory.leaves] at opened
    obtain ⟨parts, connects, own⟩ := Factory.connectAll_of_whole members opened
    rw [Factory.connect, connects]
    exact ⟨.distributed parts, rfl, own⟩

theorem Factory.connectAll_of_whole :
    ∀ (members : List (Member F)) {world between : World σ F C} {links : List (Link C)},
      openEach provider (Factory.leavesOf members) world = (⟨links, none⟩, between) →
      ∃ parts, Factory.connectAll provider members world = (⟨parts, none⟩, between) ∧
        Connection.linksOf parts = links
  | [], world, between, links, opened => by
    cases opened
    exact ⟨[], rfl, rfl⟩
  | .mk slice capable factory :: rest, world, between, links, opened => by
    rw [Factory.leavesOf] at opened
    rcases openEach_append_cases opened with ⟨_, _, _, first, later, rfl⟩ | ⟨_, stopped, _⟩
    · obtain ⟨connection, connects, own⟩ := factory.connect_of_whole first
      obtain ⟨parts, others, theirs⟩ := Factory.connectAll_of_whole rest later
      refine ⟨connection :: parts, ?_, by rw [Connection.linksOf, own, theirs]⟩
      rw [Factory.connectAll, connects]
      simp only [others]
      rfl
    · cases stopped

end

/-- A composite one of whose members was stopped: that member has given back the
links `inside`, and the composite gives back those of `parts`. -/
theorem Factory.connect_of_member_stopped {members : List (Member F)}
    {parts : List (Connection C)} {inside : List (Link C)}
    (connects : Factory.connectAll provider members world =
      (⟨parts, some cause⟩, (releaseEach provider inside between).2))
    (order : ∀ own, Factory.closingOrderOf members own links =
      inside ++ (own ++ Connection.linksOf parts)) :
    (Factory.composite members).connect provider world = (haltedBy cause,
      (releaseEach provider ((Factory.composite members).closingOrder links) between).2) := by
  have closes : (Factory.composite members).closingOrder links =
      inside ++ Connection.linksOf parts := order []
  rw [Factory.connect, connects, closes, releaseEach_append]
  cases cause with
  | inl fault => simp only [Opening.finish, Connection.closeAll_eq, haltedBy]
  | inr text => simp only [Opening.finish, Connection.closeAll_eq, haltedBy]

mutual

/-- **If a leaf stops the opening**, the call reports why, and the links opened
before are given back in their order. -/
theorem Factory.connect_of_stopped :
    ∀ (factory : Factory F) {slice : String} {world between : World σ F C}
      {links : List (Link C)} {cause : BackendFault ⊕ String},
      openEach provider (factory.leaves slice) world = (⟨links, some cause⟩, between) →
      stopOf slice (factory.connect provider world).1 = some cause ∧
        (factory.connect provider world).2 =
          (releaseEach provider (factory.closingOrder links) between).2
  | .leaf factory, slice, world, between, links, cause, stopped => by
    rw [Factory.leaves] at stopped
    rcases openEach_cons_cases stopped with ⟨_, _, _, _, alone, _⟩ | ⟨own, stops, same, rfl, rfl⟩
    · cases alone
    · cases same
      exact ⟨(stopOf_map Connection.leaf slice _).trans stops, rfl⟩
  | .delegating _ inner, slice, world, between, links, cause, stopped => by
    rw [Factory.leaves] at stopped
    rw [Factory.connect]
    exact inner.connect_of_stopped stopped
  | .composite members, slice, world, between, links, cause, stopped => by
    rw [Factory.leaves] at stopped
    obtain ⟨parts, inside, connects, order⟩ := Factory.connectAll_of_stopped members stopped
    rw [Factory.connect_of_member_stopped connects order]
    exact ⟨stopOf_haltedBy slice cause, rfl⟩

/-- The member that was stopped has given back the links `inside` itself; `parts`
are the connections of the members before it. -/
theorem Factory.connectAll_of_stopped :
    ∀ (members : List (Member F)) {world between : World σ F C} {links : List (Link C)}
      {cause : BackendFault ⊕ String},
      openEach provider (Factory.leavesOf members) world = (⟨links, some cause⟩, between) →
      ∃ parts inside,
        Factory.connectAll provider members world =
          (⟨parts, some cause⟩, (releaseEach provider inside between).2) ∧
        ∀ own, Factory.closingOrderOf members own links =
          inside ++ (own ++ Connection.linksOf parts)
  | [], world, between, links, cause, stopped => by cases stopped
  | .mk slice capable factory :: rest, world, between, links, cause, stopped => by
    rw [Factory.leavesOf] at stopped
    rcases openEach_append_cases stopped with
      ⟨ahead, behind, next, first, later, rfl⟩ | ⟨own, same, first⟩
    · obtain ⟨connection, connects, own⟩ := factory.connect_of_whole first
      obtain ⟨parts, inside, others, order⟩ := Factory.connectAll_of_stopped rest later
      refine ⟨connection :: parts, inside, ?_, fun before => ?_⟩
      · rw [Factory.connectAll, connects]
        simp only [others]
        rfl
      · have size := length_of_whole first
        have enough : ¬ (ahead ++ behind).length < (factory.leaves slice).length := by
          rw [List.length_append]
          omega
        rw [Factory.closingOrderOf, if_neg enough, ← size, List.take_left, List.drop_left, order,
          Connection.linksOf, own, List.append_assoc]
    · -- The member gives back what it opened; those before it have opened `own`.
      cases same
      obtain ⟨reports, after⟩ := factory.connect_of_stopped first
      refine ⟨[], factory.closingOrder links, ?_, fun own => ?_⟩
      · rw [Factory.connectAll]
        rcases connects : factory.connect provider world with ⟨answer, later⟩
        rw [connects] at reports after
        match answer with
        | .done (some connection) => cases reports
        | .done none =>
          cases reports
          exact Prod.ext rfl after
        | .failed fault =>
          cases reports
          exact Prod.ext rfl after
        | .panicked text =>
          cases reports
          exact Prod.ext rfl after
      · rw [Factory.closingOrderOf, if_pos (length_of_stopped first), Connection.linksOf,
          List.append_nil]

end

/-- **A composite that is stopped** reports why, and has given back what it opened. -/
theorem Factory.connect_composite_of_stopped {members : List (Member F)}
    (stopped : openEach provider (Factory.leavesOf members) world =
      (⟨links, some cause⟩, between)) :
    (Factory.composite members).connect provider world = (haltedBy cause,
      (releaseEach provider ((Factory.composite members).closingOrder links) between).2) := by
  obtain ⟨parts, inside, connects, order⟩ := Factory.connectAll_of_stopped members stopped
  exact Factory.connect_of_member_stopped connects order

end SliceFleet
