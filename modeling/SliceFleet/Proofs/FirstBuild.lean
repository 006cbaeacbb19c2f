/-
SliceFleet.Proofs.FirstBuild — the first composite of a configuration that
probes its slices in turn.

The two specifications read the outcomes of the probes, slice by slice in the
order of the configuration, each in the world that the probes before it
leave (`probesInTurn`). `BuiltLeniently`: all slices are probed, each gets the
status of its own outcome, and those in reach are composed. `StoppedAt` and
`BuiltStrictly`: the first slice out of reach ends the build and those behind
it are left alone, or there is none and all slices are composed.

`connectionFactory_of_unverified`: the first call meets the specification of
its configuration, whatever the outcomes are.
-/
import SliceFleet.Simulation
import SliceFleet.Proofs.Building
import SliceFleet.Proofs.DistinctNames
import SliceFleet.Proofs.SequentialVerification

namespace SliceFleet

open Verifier

variable {σ F C : Type}

/-! ## The composite that the outcomes call for -/

/-- The slices in reach as members: each with the factory that its probe found
and the capability that this factory reports. -/
def membersOf (provider : Provider σ F C) (probes : List (Slice × Outcome BackendFault F)) :
    List (Member F) :=
  probes.filterMap fun found =>
    found.2.answer?.map fun factory =>
      .mk found.1.name (provider.capable factory) (.leaf factory)

/-- The composite of the slices in reach, in their order. -/
structure Composes (provider : Provider σ F C) (probes : List (Slice × Outcome BackendFault F))
    (composite : Composite F) : Prop where
  /-- Its members are the slices in reach, with their capabilities. -/
  members : composite.members = membersOf provider probes
  /-- Its slices are those with a connection. -/
  slices : composite.slices = (probes.filter fun found => found.2.isDone).map (·.1.name)
  /-- It takes part in distributed transactions if all factories do. -/
  capable : composite.capable = true ↔
    ∀ slice factory, (slice, .done factory) ∈ probes → provider.capable factory = true

theorem mem_membersOf_iff {provider : Provider σ F C}
    {probes : List (Slice × Outcome BackendFault F)} {member : Member F} :
    member ∈ membersOf provider probes ↔ ∃ slice factory, (slice, .done factory) ∈ probes ∧
      member = .mk slice.name (provider.capable factory) (.leaf factory) := by
  rw [membersOf, List.mem_filterMap]
  constructor
  · rintro ⟨⟨slice, outcome⟩, inProbes, isMember⟩
    cases outcome with
    | done factory => exact ⟨slice, factory, inProbes, (Option.some.inj isMember).symm⟩
    | failed fault => cases isMember
    | panicked text => cases isMember
  · rintro ⟨slice, factory, inProbes, rfl⟩
    exact ⟨(slice, .done factory), inProbes, rfl⟩

/-- The members are named like the slices in reach. -/
theorem slices_membersOf (provider : Provider σ F C)
    (probes : List (Slice × Outcome BackendFault F)) :
    (membersOf provider probes).map Member.slice =
      (probes.filter fun found => found.2.isDone).map (·.1.name) := by
  induction probes with
  | nil => rfl
  | cons found rest ih =>
    obtain ⟨slice, outcome⟩ := found
    cases outcome with
    | done factory => exact congrArg (slice.name :: ·) ih
    | failed fault => exact ih
    | panicked text => exact ih

/-- The composite with these members is the one that the outcomes call for. -/
theorem composes_of_members {provider : Provider σ F C}
    {probes : List (Slice × Outcome BackendFault F)} {composite : Composite F}
    (members : composite.members = membersOf provider probes) :
    Composes provider probes composite where
  members := members
  slices := by rw [Composite.slices, members, slices_membersOf]
  capable := by
    rw [Composite.capable, members, List.all_eq_true]
    constructor
    · intro all slice factory inProbes
      exact all _ (mem_membersOf_iff.2 ⟨slice, factory, inProbes, rfl⟩)
    · intro all member isMember
      obtain ⟨slice, factory, inProbes, rfl⟩ := mem_membersOf_iff.1 isMember
      exact all slice factory inProbes

theorem map_memberOf_verifiedOf (provider : Provider σ F C)
    (probes : List (Slice × Outcome BackendFault F)) :
    (verifiedOf provider probes).map Configuration.memberOf = membersOf provider probes := by
  rw [verifiedOf, membersOf, List.map_filterMap]
  simp only [Option.map_map]
  rfl

/-- What is composed of the verified slices is what the outcomes call for. -/
theorem composes_of_compose {provider : Provider σ F C}
    {probes : List (Slice × Outcome BackendFault F)} {composite : Composite F}
    (composed : Configuration.compose (verifiedOf provider probes) = .ok composite) :
    Composes provider probes composite := by
  rw [Configuration.compose, map_memberOf_verifiedOf] at composed
  exact composes_of_members (Composite.ofMembers_eq_ok_iff.1 composed)

/-- Composing the verified slices: nothing without a slice in reach, else the
composite that the outcomes call for. -/
theorem compose_verifiedOf (provider : Provider σ F C)
    (probes : List (Slice × Outcome BackendFault F)) :
    ((∀ found ∈ probes, found.2.isDone = false) →
      Configuration.compose (verifiedOf provider probes) = .error .noneReachable) ∧
    ((∃ found ∈ probes, found.2.isDone = true) → ∃ composite,
      Configuration.compose (verifiedOf provider probes) = .ok composite ∧
        Composes provider probes composite) := by
  constructor
  · intro nobody
    rw [Configuration.compose, map_memberOf_verifiedOf]
    refine Composite.ofMembers_eq_error_iff.2 ⟨?_, rfl⟩
    refine List.eq_nil_iff_forall_not_mem.2 fun member isMember => ?_
    obtain ⟨slice, factory, inProbes, -⟩ := mem_membersOf_iff.1 isMember
    cases nobody _ inProbes
  · rintro ⟨⟨slice, outcome⟩, inProbes, done⟩
    obtain ⟨factory, rfl⟩ := Outcome.isDone_eq_true_iff.1 done
    cases composed : Configuration.compose (verifiedOf provider probes) with
    | ok composite => exact ⟨composite, rfl, composes_of_compose composed⟩
    | error fault =>
      have isMember : Member.mk slice.name (provider.capable factory) (.leaf factory) ∈
          membersOf provider probes := mem_membersOf_iff.2 ⟨slice, factory, inProbes, rfl⟩
      rw [Configuration.compose, map_memberOf_verifiedOf] at composed
      rw [(Composite.ofMembers_eq_error_iff.1 composed).1] at isMember
      cases isMember

/-! ## What the first build does -/

/-- A build that leaves out the slices out of reach. -/
structure BuiltLeniently (provider : Provider σ F C) (slices : List Slice) (start : World σ F C)
    (answer : Outcome SliceFault (Composite F)) (after : Session σ F C) : Prop where
  /-- Every slice was probed once, in order, and nothing else happened. -/
  world : after.world = probeThrough provider slices start
  /-- So every slice got one request for a factory. -/
  requests : after.world.requests = start.requests ++ slices.map (·.config)
  /-- Every slice has the status of its own outcome. -/
  statuses : ∀ found ∈ probesInTurn provider slices start,
    after.board.of found.1 = .ofReachable found.2.isDone
  /-- Without a slice in reach there is no composite. -/
  nobody : (∀ found ∈ probesInTurn provider slices start, found.2.isDone = false) →
    answer = .failed .noneReachable
  /-- Otherwise the composite is that of the slices in reach. -/
  somebody : (∃ found ∈ probesInTurn provider slices start, found.2.isDone = true) →
    ∃ composite, answer = .done composite ∧
      Composes provider (probesInTurn provider slices start) composite

/-- A build that ended at the first slice out of reach, after those `ahead` and
before those `behind`. -/
structure StoppedAt (provider : Provider σ F C) (slices : List Slice) (start : World σ F C)
    (answer : Outcome SliceFault (Composite F)) (after : Session σ F C)
    (ahead : List (Slice × Outcome BackendFault F)) (slice : Slice) (cause : BackendFault)
    (behind : List (Slice × Outcome BackendFault F)) : Prop where
  /-- The slice is the first one for which no connection could be obtained. -/
  probes : probesInTurn provider slices start = ahead ++ (slice, .failed cause) :: behind
  reached : ∀ found ∈ ahead, found.2.isDone = true
  /-- It is named with its target and what was found when it was probed. -/
  answer : answer = .failed (.unreachable slice.name slice.target cause)
  /-- The slices behind it were not probed: no factory, no connection. -/
  world : after.world = probeThrough provider (ahead.map (·.1) ++ [slice]) start
  requests : after.world.requests =
    start.requests ++ (ahead.map (·.1) ++ [slice]).map (·.config)
  active : ∀ found ∈ ahead, after.board.of found.1 = .active
  inactive : after.board.of slice = .inactive
  untouched : ∀ found ∈ behind, after.board.of found.1 = .uninitialized

/-- A build that found every slice in reach. -/
structure BuiltStrictly (provider : Provider σ F C) (slices : List Slice) (start : World σ F C)
    (answer : Outcome SliceFault (Composite F)) (after : Session σ F C) : Prop where
  reached : ∀ found ∈ probesInTurn provider slices start, found.2.isDone = true
  world : after.world = probeThrough provider slices start
  requests : after.world.requests = start.requests ++ slices.map (·.config)
  active : ∀ slice ∈ slices, after.board.of slice = .active
  /-- The composite holds all slices. -/
  composite : ∃ composite, answer = .done composite ∧
    Composes provider (probesInTurn provider slices start) composite ∧
    composite.slices = slices.map (·.name)

/-! ## The first call -/

/-- The places of the slices that were probed are their own. -/
theorem nodup_probed_places (registry : Registry) (provider : Provider σ F C)
    (world : World σ F C) :
    ((probesInTurn provider registry.slices world).map (·.1.place)).Nodup := by
  have places := registry.nodup_places
  rw [← map_fst_probesInTurn provider registry.slices world, List.map_map] at places
  exact places

section FirstCall

variable {config : Configuration} {provider : Provider σ F C} {session : Session σ F C}

theorem verify_in_turn (schedule : Schedule) (sequential : config.mode = .sequential) :
    (config.verifier schedule).verify provider config.registry.slices session.board
      session.world = verifySequentially config.lenient provider config.registry.slices
        session.board session.world := by
  simp only [Configuration.verifier, verify, sequential]

/-- Slices that pass are all settled, each as it was found. -/
theorem status_of_passed
    (unverified : ∀ slice ∈ config.registry.slices, session.board.of slice = .uninitialized)
    {found : Slice × Outcome BackendFault F}
    (member : found ∈ probesInTurn provider config.registry.slices session.world) :
    (session.board.settleEach (findingsOf
      (probesInTurn provider config.registry.slices session.world))).of found.1 =
      .ofReachable found.2.isDone :=
  of_settleEach_findingsOf (nodup_probed_places _ _ _) member
    (unverified found.1 (slice_mem_of_mem_probesInTurn member))

/-- A first call of a lenient configuration, when every probe returns. -/
theorem builtLeniently (schedule : Schedule) (sequential : config.mode = .sequential)
    (lenient : config.lenient = true) (fresh : session.outcome = none)
    (unverified : ∀ slice ∈ config.registry.slices, session.board.of slice = .uninitialized)
    (returns : ∀ found ∈ probesInTurn provider config.registry.slices session.world,
      found.2.returns = true) :
    BuiltLeniently provider config.registry.slices session.world
      (config.connectionFactory provider schedule session).1
      (config.connectionFactory provider schedule session).2 := by
  have passes : ∀ found ∈ probesInTurn provider config.registry.slices session.world,
      Passes config.lenient found.2 := by
    rw [lenient]
    exact fun found member => passes_lenient_iff.2 (returns found member)
  have done := verifySequentially_of_passes session.board passes
  rw [← verify_in_turn schedule sequential] at done
  obtain ⟨nobody, somebody⟩ := compose_verifiedOf provider
    (probesInTurn provider config.registry.slices session.world)
  rw [Configuration.connectionFactory_of_done fresh done]
  exact {
    world := rfl
    requests := requests_probeThrough provider config.registry.slices session.world
    statuses := fun found member => status_of_passed unverified member
    nobody := fun none => by rw [nobody none]; rfl
    somebody := fun some => by
      obtain ⟨composite, composed, composes⟩ := somebody some
      exact ⟨composite, by rw [composed]; rfl, composes⟩ }

/-- A first call of a strict configuration that finds every slice in reach. -/
theorem builtStrictly (schedule : Schedule) (sequential : config.mode = .sequential)
    (fresh : session.outcome = none)
    (unverified : ∀ slice ∈ config.registry.slices, session.board.of slice = .uninitialized)
    (reached : ∀ found ∈ probesInTurn provider config.registry.slices session.world,
      found.2.isDone = true) :
    BuiltStrictly provider config.registry.slices session.world
      (config.connectionFactory provider schedule session).1
      (config.connectionFactory provider schedule session).2 := by
  have passes : ∀ found ∈ probesInTurn provider config.registry.slices session.world,
      Passes config.lenient found.2 := fun found member => passes_of_isDone (reached found member)
  have done := verifySequentially_of_passes session.board passes
  rw [← verify_in_turn schedule sequential] at done
  have probed := map_fst_probesInTurn provider config.registry.slices session.world
  have inReach : ∃ found ∈ probesInTurn provider config.registry.slices session.world,
      found.2.isDone = true := by
    have first := config.registry.first_mem
    rw [← probed] at first
    obtain ⟨found, member, -⟩ := List.mem_map.1 first
    exact ⟨found, member, reached found member⟩
  obtain ⟨composite, composed, composes⟩ := (compose_verifiedOf provider _).2 inReach
  rw [Configuration.connectionFactory_of_done fresh done]
  refine {
    reached
    world := rfl
    requests := requests_probeThrough provider config.registry.slices session.world
    active := fun slice member => ?_
    composite := ⟨composite, by rw [composed]; rfl, composes, ?_⟩ }
  · rw [← probed] at member
    obtain ⟨found, inProbes, rfl⟩ := List.mem_map.1 member
    rw [status_of_passed unverified inProbes, reached found inProbes]
    rfl
  · rw [composes.slices, List.filter_eq_self.2 reached]
    conv => rhs; rw [← probed, List.map_map]
    rfl

/-- A first call of a strict configuration that finds a slice out of reach. -/
theorem stoppedAt (schedule : Schedule) (sequential : config.mode = .sequential)
    (strict : config.lenient = false) (fresh : session.outcome = none)
    (unverified : ∀ slice ∈ config.registry.slices, session.board.of slice = .uninitialized)
    {ahead behind : List (Slice × Outcome BackendFault F)} {slice : Slice} {cause : BackendFault}
    (split : probesInTurn provider config.registry.slices session.world =
      ahead ++ (slice, .failed cause) :: behind)
    (reached : ∀ found ∈ ahead, found.2.isDone = true) :
    StoppedAt provider config.registry.slices session.world
      (config.connectionFactory provider schedule session).1
      (config.connectionFactory provider schedule session).2 ahead slice cause behind := by
  have failed := verifySequentially_of_refused session.board split reached
  rw [← strict, ← verify_in_turn schedule sequential] at failed
  have unsettled : ∀ found ∈ ahead ++ (slice, .failed cause) :: behind,
      session.board.of found.1 = .uninitialized := by
    rw [← split]
    exact fun found member => unverified found.1 (slice_mem_of_mem_probesInTurn member)
  have places := nodup_probed_places config.registry provider session.world
  rw [split, List.append_cons, List.map_append] at places
  obtain ⟨probedPlaces, -, apart⟩ := List.nodup_append.1 places
  rw [Configuration.connectionFactory_of_failed fresh failed]
  refine {
    probes := split
    reached
    answer := rfl
    world := rfl
    requests := requests_probeThrough provider _ session.world
    active := fun found member => ?_
    inactive := ?_
    untouched := fun found member => ?_ }
  · have settled := of_settleEach_findingsOf probedPlaces (List.mem_append_left _ member)
      (unsettled found (List.mem_append_left _ member))
    rw [reached found member] at settled
    exact settled
  · exact of_settleEach_findingsOf probedPlaces (List.mem_append_right _ List.mem_cons_self)
      (unsettled (slice, .failed cause) (List.mem_append_right _ List.mem_cons_self))
  · have absent : found.1.place ∉ List.map (·.1.place) (ahead ++ [(slice, .failed cause)]) := by
      intro inProbed
      exact apart _ inProbed _ (List.mem_map_of_mem member) rfl
    rw [of_settleEach_findingsOf_of_absent absent]
    exact unsettled found (List.mem_append_right _ (List.mem_cons_of_mem _ member))

/-- What the probes in turn find of each slice: a factory that connects, or why
there is none, in the world that the slices before it leave. -/
theorem found_in_turn (provider : Provider σ F C) (slices : List Slice) (start : World σ F C)
    (slice : Slice) :
    (∀ factory, (slice, .done factory) ∈ probesInTurn provider slices start ↔
      ∃ ahead behind, slices = ahead ++ slice :: behind ∧
        Obtains provider slice (probeThrough provider ahead start) factory) ∧
    (∀ cause, (slice, .failed cause) ∈ probesInTurn provider slices start ↔
      ∃ ahead behind, slices = ahead ++ slice :: behind ∧
        Refuses provider slice (probeThrough provider ahead start) cause) := by
  constructor
  · intro factory
    simp only [mem_probesInTurn_iff, probe_eq_done_iff]
  · intro cause
    simp only [mem_probesInTurn_iff, probe_eq_failed_iff]

/-- **The first call**: for a configuration that probes in turn, none of whose
slices was verified before, with a provider whose probes all return. -/
theorem connectionFactory_of_unverified (config : Configuration) (provider : Provider σ F C)
    (schedule : Schedule) (session : Session σ F C) (sequential : config.mode = .sequential)
    (fresh : session.outcome = none)
    (unverified : ∀ slice ∈ config.registry.slices, session.board.of slice = .uninitialized)
    (returns : ∀ found ∈ probesInTurn provider config.registry.slices session.world,
      found.2.returns = true) :
    let call := config.connectionFactory provider schedule session
    let slices := config.registry.slices
    (∀ slice,
      (∀ factory, (slice, .done factory) ∈ probesInTurn provider slices session.world ↔
        ∃ ahead behind, slices = ahead ++ slice :: behind ∧
          Obtains provider slice (probeThrough provider ahead session.world) factory) ∧
      (∀ cause, (slice, .failed cause) ∈ probesInTurn provider slices session.world ↔
        ∃ ahead behind, slices = ahead ++ slice :: behind ∧
          Refuses provider slice (probeThrough provider ahead session.world) cause)) ∧
    (config.lenient = true → BuiltLeniently provider slices session.world call.1 call.2) ∧
    (config.lenient = false →
      (∃ ahead slice cause behind,
        StoppedAt provider slices session.world call.1 call.2 ahead slice cause behind) ∨
      BuiltStrictly provider slices session.world call.1 call.2) := by
  intro call slices
  refine ⟨found_in_turn provider slices session.world, ?_, ?_⟩
  · intro lenient
    exact builtLeniently schedule sequential lenient fresh unverified returns
  · intro strict
    rcases passes_or_stops false (probesInTurn provider slices session.world) with
      passes | ⟨ahead, slice, outcome, behind, split, passes, stops⟩
    · refine .inr (builtStrictly schedule sequential fresh unverified ?_)
      exact fun found member => passes_strict_iff.1 (passes found member)
    · have returned : outcome.returns = true := returns (slice, outcome) (by simp [slices, split])
      have without : outcome.isDone = false := by
        simpa [passes_strict_iff] using stops
      obtain ⟨cause, rfl⟩ := Outcome.exists_fault returned without
      refine .inl ⟨ahead, slice, cause, behind, ?_⟩
      exact stoppedAt schedule sequential strict fresh unverified split
        fun found member => passes_strict_iff.1 (passes found member)

/-- Of the targets of the three regions the second one refuses. -/
def northRefuses : Simulation.Field :=
  ((Simulation.Field.empty.setSteady "u1" .connects true).setSteady "u2" .refuses true).setSteady
    "u3" .connects false

/-- The three regions, strictly: the build stops at the second one. -/
theorem stoppedAt_north :
    (Configuration.regions false).mode = .sequential ∧
    ∃ ahead slice cause behind,
      StoppedAt Simulation.provider (Configuration.regions false).registry.slices
        (.initial northRefuses)
        ((Configuration.regions false).connectionFactory Simulation.provider .inOrder
          (.initial northRefuses)).1
        ((Configuration.regions false).connectionFactory Simulation.provider .inOrder
          (.initial northRefuses)).2 ahead slice cause behind := by
  let start : World Simulation.Field Simulation.SimulatedFactory
    Simulation.SimulatedConnection := .initial northRefuses
  have evaluated : (Configuration.regions false).mode = .sequential ∧
      (Configuration.regions false).lenient = false ∧
      (∀ found ∈ probesInTurn Simulation.provider (Configuration.regions false).registry.slices
        start, found.2.returns = true) ∧
      ¬ ∀ found ∈ probesInTurn Simulation.provider (Configuration.regions false).registry.slices
        start, found.2.isDone = true := by decide +kernel
  obtain ⟨sequential, strict, returns, refused⟩ := evaluated
  obtain ⟨-, -, strictly⟩ := connectionFactory_of_unverified (Configuration.regions false)
    Simulation.provider .inOrder (.initial northRefuses) sequential rfl (fun _ _ => rfl) returns
  refine ⟨sequential, ?_⟩
  rcases strictly strict with stopped | built
  · exact stopped
  · exact absurd built.reached refused

end FirstCall

end SliceFleet
