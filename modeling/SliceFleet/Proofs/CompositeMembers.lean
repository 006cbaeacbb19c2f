/-
SliceFleet.Proofs.CompositeMembers — who is in the composite, after any calls.

The members are the slices that the completing build found in reach; the
statuses are those that the first findings settled. A build that a panic
left has settled slices without composing any, so the next build may find
something else of them. `composite_slices_eq_active_iff` says exactly when
the members are the active slices: when no slice that was settled before is
found otherwise. It takes a lenient configuration that probes in turn, and a
panic, to set them apart.
-/
import SliceFleet.Proofs.Calls
import SliceFleet.Proofs.FirstBuild
import SliceFleet.Proofs.ParallelVerification

namespace SliceFleet

open Verifier

variable {σ F C : Type}

/-! ## What a build finds -/

/-- What the verifier's probes find, in the order of the slices. -/
def Verifier.probes (verifier : Verifier) (provider : Provider σ F C) (slices : List Slice)
    (world : World σ F C) : List (Slice × Outcome BackendFault F) :=
  match verifier.mode with
  | .sequential => probesInTurn provider slices world
  | .parallel => probesAtOnce verifier.schedule provider slices world

theorem Verifier.map_fst_probes (verifier : Verifier) (provider : Provider σ F C)
    (slices : List Slice) (world : World σ F C) :
    (verifier.probes provider slices world).map (·.1) = slices := by
  rw [probes]
  split
  · exact map_fst_probesInTurn provider slices world
  · exact map_fst_probesAtOnce verifier.schedule provider slices world

/-- How a verification ends: all probes passed, or a slice out of reach stopped a
strict one, or a panic stopped one that probes in turn. -/
theorem Verifier.verify_cases (verifier : Verifier) (provider : Provider σ F C)
    (slices : List Slice) (board : Board) (world : World σ F C) :
    (∃ after, (∀ found ∈ verifier.probes provider slices world, Passes verifier.lenient found.2) ∧
      verifier.verify provider slices board world =
        (.done (verifiedOf provider (verifier.probes provider slices world)),
          board.settleEach (findingsOf (verifier.probes provider slices world)), after)) ∨
    (verifier.lenient = false ∧
      ∃ fault later, verifier.verify provider slices board world = (.failed fault, later)) ∨
    ∃ ahead slice text behind after,
      verifier.probes provider slices world = ahead ++ (slice, .panicked text) :: behind ∧
      (∀ found ∈ ahead, Passes verifier.lenient found.2) ∧ verifier.mode = .sequential ∧
      verifier.verify provider slices board world =
        (.panicked text, board.settleEach (findingsOf ahead), after) := by
  obtain ⟨lenient, mode, schedule⟩ := verifier
  rcases passes_or_stops lenient (probes ⟨lenient, mode, schedule⟩ provider slices world) with
    passes | ⟨ahead, slice, outcome, behind, split, passes, stops⟩
  · cases mode with
    | sequential => exact .inl ⟨_, passes, verifySequentially_of_passes board passes⟩
    | parallel => exact .inl ⟨_, passes, verifyInParallel_of_passes board passes⟩
  · cases outcome with
    | done factory => exact absurd trivial stops
    | failed cause =>
      have strict : lenient = false := Bool.eq_false_iff.2 stops
      subst strict
      have reached := fun found member => passes_strict_iff.1 (passes found member)
      cases mode with
      | sequential =>
        exact .inr (.inl ⟨rfl, _, _, verifySequentially_of_refused board split reached⟩)
      | parallel => exact .inr (.inl ⟨rfl, _, _, verifyInParallel_of_refused board split reached⟩)
    | panicked text =>
      cases mode with
      | sequential =>
        exact .inr (.inr ⟨ahead, slice, text, behind, _, split, passes, rfl,
          verifySequentially_of_panicked board split passes⟩)
      | parallel =>
        -- A thread reports its panic as a fault, so none stops the verification.
        have member : (slice, .panicked text) ∈ probesAtOnce schedule provider slices world := by
          rw [show probesAtOnce schedule provider slices world = _ from split]
          exact List.mem_append_right _ List.mem_cons_self
        cases returns_of_mem_probesOf member

/-- A verification that came to an end: every probe passed, and the slices are
listed and settled by what was found. -/
theorem Verifier.passes_of_done {verifier : Verifier} {provider : Provider σ F C}
    {slices : List Slice} {board later : Board} {world after : World σ F C}
    {verified : List (Verified F)}
    (done : verifier.verify provider slices board world = (.done verified, later, after)) :
    (∀ found ∈ verifier.probes provider slices world, Passes verifier.lenient found.2) ∧
      verified = verifiedOf provider (verifier.probes provider slices world) ∧
      later = board.settleEach (findingsOf (verifier.probes provider slices world)) := by
  rcases verifier.verify_cases provider slices board world with
    ⟨_, passes, ends⟩ | ⟨-, _, _, ends⟩ | ⟨_, _, _, _, _, _, _, _, ends⟩
  · rw [ends] at done
    cases done
    exact ⟨passes, rfl, rfl⟩
  · rw [ends] at done
    cases done
  · rw [ends] at done
    cases done

/-- A verification that a panic left probes in turn; it settled the slices before. -/
theorem Verifier.passes_of_panicked {verifier : Verifier} {provider : Provider σ F C}
    {slices : List Slice} {board later : Board} {world after : World σ F C} {text : String}
    (left : verifier.verify provider slices board world = (.panicked text, later, after)) :
    verifier.mode = .sequential ∧ ∃ ahead : List (Slice × Outcome BackendFault F),
      (∀ found ∈ ahead, Passes verifier.lenient found.2) ∧
        later = board.settleEach (findingsOf ahead) := by
  rcases verifier.verify_cases provider slices board world with
    ⟨_, _, ends⟩ | ⟨-, _, _, ends⟩ | ⟨ahead, _, _, _, _, _, passes, sequential, ends⟩
  · rw [ends] at left
    cases left
  · rw [ends] at left
    cases left
  · rw [ends] at left
    cases left
    exact ⟨sequential, ahead, passes, rfl⟩

/-! ## Members and active slices -/

/-- A slice is active behind a verification if it was found in reach, unless it
was settled otherwise before. -/
theorem isActive_settleEach_iff {board : Board} {probes : List (Slice × Outcome BackendFault F)}
    (places : (probes.map (·.1.place)).Nodup) {found : Slice × Outcome BackendFault F}
    (member : found ∈ probes) :
    found.2.isDone = (board.settleEach (findingsOf probes)).isActive found.1 ↔
      board.of found.1 = .uninitialized ∨ board.of found.1 = .ofReachable found.2.isDone := by
  by_cases fresh : board.of found.1 = .uninitialized
  · rw [Board.isActive, of_settleEach_findingsOf places member fresh]
    cases found.2.isDone <;> simp [fresh, Status.ofReachable]
  · have kept : (board.settleEach (findingsOf probes)).of found.1 = board.of found.1 :=
      Board.status_settleEach_of_settled _ fresh
    rw [Board.isActive, kept]
    cases status : board.of found.1 <;> cases found.2.isDone <;>
      simp_all [Status.ofReachable]

/-- No slice was settled otherwise than it is found. -/
def FoundAsSettled (board : Board) (probes : List (Slice × Outcome BackendFault F)) : Prop :=
  ∀ found ∈ probes,
    board.of found.1 = .uninitialized ∨ board.of found.1 = .ofReachable found.2.isDone

/-- **Members and active slices**: they are the same exactly if no slice was
settled otherwise than it is found. -/
theorem slices_eq_activeNames_iff {registry : Registry} {provider : Provider σ F C}
    {probes : List (Slice × Outcome BackendFault F)} {composite : Composite F} (board : Board)
    (distinct : registry.names.Nodup) (all : probes.map (·.1) = registry.slices)
    (composes : Composes provider probes composite) :
    composite.slices = registry.activeNames (board.settleEach (findingsOf probes)) ↔
      FoundAsSettled board probes := by
  have places : (probes.map (·.1.place)).Nodup := by
    have own := registry.nodup_places
    rw [← all, List.map_map] at own
    exact own
  have named : (probes.map (·.1.name)).Nodup := by
    rw [Registry.names, ← all, List.map_map] at distinct
    exact distinct
  have active : registry.activeNames (board.settleEach (findingsOf probes)) =
      (probes.filter fun found =>
        (board.settleEach (findingsOf probes)).isActive found.1).map (·.1.name) := by
    rw [Registry.activeNames_eq, ← all, List.filter_map, List.map_map]
    rfl
  rw [composes.slices, active]
  constructor
  · intro same found member
    exact (isActive_settleEach_iff places member).1 (filter_eq_of_keys_eq named same found member)
  · intro agree
    rw [List.filter_congr fun found member =>
      (isActive_settleEach_iff places member).2 (agree found member)]

/-! ## After any calls -/

namespace Configuration

variable {config : Configuration} {provider : Provider σ F C} {session : Session σ F C}

/-- A strict configuration that has not built yet has found no slice out of reach. -/
theorem status_ne_inactive_of_strict (provider : Provider σ F C) (strict : config.lenient = false)
    (start : ∀ place, session.board.status place ≠ .inactive) {calls : List (Call σ F C)}
    (unknown : (config.afterCalls provider session calls).outcome = none) (place : Nat) :
    (config.afterCalls provider session calls).board.status place ≠ .inactive := by
  refine board_of_unknown (fun board => ∀ place, board.status place ≠ .inactive) ?_ start
    unknown place
  intro before schedule kept abandoned place
  obtain ⟨text, left⟩ := panicked_of_unknown abandoned
  obtain ⟨-, ahead, passes, settled⟩ := passes_of_panicked left
  rw [settled]
  refine Board.status_settleEach_ne_inactive (fun finding member => ?_) (kept place)
  obtain ⟨found, inAhead, rfl⟩ := List.mem_map.1 member
  have passed := passes found inAhead
  rw [verifier, strict] at passed
  exact passes_strict_iff.1 passed

/-- What a strict build finds agrees with what abandoned ones settled: all slices
are in reach, or there is no composite. -/
theorem foundAsSettled_of_strict (strict : config.lenient = false) {calls : List (Call σ F C)}
    (start : ∀ place, session.board.status place ≠ .inactive)
    (unknown : (config.afterCalls provider session calls).outcome = none)
    {probes : List (Slice × Outcome BackendFault F)}
    (passes : ∀ found ∈ probes, Passes config.lenient found.2) :
    FoundAsSettled (config.afterCalls provider session calls).board probes := by
  intro found member
  have passed := passes found member
  rw [strict] at passed
  rw [passes_strict_iff.1 passed, Board.of]
  have reached := status_ne_inactive_of_strict provider strict start unknown found.1.place
  cases status : (config.afterCalls provider session calls).board.status found.1.place with
  | uninitialized => exact .inl rfl
  | active => exact .inr rfl
  | inactive => exact absurd status reached

/-- If no call was left by a panic, nothing was settled before the build. -/
theorem foundAsSettled_of_returned {calls : List (Call σ F C)}
    (start : ∀ place, session.board.status place = .uninitialized)
    (unknown : (config.afterCalls provider session calls).outcome = none)
    (returned : ∀ earlier schedule later, calls = earlier ++ .compose schedule :: later →
      (config.connectionFactory provider schedule
        (config.afterCalls provider session earlier)).1.returns = true)
    (probes : List (Slice × Outcome BackendFault F)) :
    FoundAsSettled (config.afterCalls provider session calls).board probes := by
  intro found _
  have none := not_compose_of_unknown unknown returned
  rw [(config.afterCalls_leaves provider none session).2]
  exact .inl (start found.1.place)

/-- Only a verification that probes in turn is abandoned. -/
theorem sequential_of_abandoned {earlier later : List (Call σ F C)} {schedule : Schedule}
    (unknown : (config.afterCalls provider session
      (earlier ++ .compose schedule :: later)).outcome = none) : config.mode = .sequential := by
  rw [List.append_cons] at unknown
  have still := unknown_of_append unknown
  rw [afterCalls_append] at still
  obtain ⟨text, left⟩ := panicked_of_unknown still
  exact (passes_of_panicked left).1

/-- **Who is in the composite**: after any calls, the members are the active
slices exactly if the build found no slice otherwise than it was settled
before. They can differ only if a panic left an earlier build of a lenient
configuration that probes in turn. -/
theorem composite_slices_eq_active_iff {keys : Keyspace} {policies : PolicyBook}
    {whole : Properties} {config : Configuration} (provider : Provider σ F C) (backend : σ)
    (calls : List (Call σ F C)) (schedule : Schedule) {composite : Composite F}
    (built : build keys policies whole = .ok config)
    (answered : (config.connectionFactory provider schedule
      (config.afterCalls provider (.initial backend) calls)).1 = .done composite) :
    let last := (config.connectionFactory provider schedule
      (config.afterCalls provider (.initial backend) calls)).2
    ∃ earlier building later, calls ++ [.compose schedule] = earlier ++ .compose building :: later ∧
      let before := config.afterCalls provider (.initial backend) earlier
      let probes := (config.verifier building).probes provider config.registry.slices before.world
      before.outcome = none ∧
      (config.connectionFactory provider building before).1 = .done composite ∧
      (composite.slices = config.registry.activeNames last.board ↔
        FoundAsSettled before.board probes) ∧
      (composite.slices ≠ config.registry.activeNames last.board →
        config.lenient = true ∧ config.mode = .sequential ∧
        ∃ ahead abandoned behind, earlier = ahead ++ .compose abandoned :: behind ∧
          (config.connectionFactory provider abandoned
            (config.afterCalls provider (.initial backend) ahead)).1.returns = false) := by
  intro last
  have whole : config.afterCalls provider (.initial backend) (calls ++ [.compose schedule]) =
      last := afterCalls_append _ calls [.compose schedule]
  have stored : (config.afterCalls provider (.initial backend)
      (calls ++ [.compose schedule])).outcome = some (.ok composite) := by
    rw [whole]
    exact stored_of_done answered
  obtain ⟨earlier, building, later, split, unknown, stores, board⟩ :=
    stored_by_one_call rfl stored
  obtain ⟨verified, done, composed, answers⟩ := verified_of_stored unknown stores
  obtain ⟨passes, rfl, settled⟩ := passes_of_done done
  rw [whole, settled] at board
  have same := slices_eq_activeNames_iff
    (config.afterCalls provider (.initial backend) earlier).board (nodup_names_of_build built)
    (map_fst_probes _ provider config.registry.slices _) (composes_of_compose composed)
  rw [← board] at same
  refine ⟨earlier, building, later, split, unknown, answers, same, fun apart => ?_⟩
  have lenient : config.lenient = true := by
    by_contra tolerant
    have strict : config.lenient = false := Bool.eq_false_iff.2 tolerant
    exact apart (same.2 (foundAsSettled_of_strict strict (fun _ => Status.noConfusion)
      unknown passes))
  have panicked : ∃ ahead abandoned behind, earlier = ahead ++ .compose abandoned :: behind ∧
      (config.connectionFactory provider abandoned
        (config.afterCalls provider (.initial backend) ahead)).1.returns = false := by
    by_contra none
    refine apart (same.2 (foundAsSettled_of_returned (fun _ => rfl) unknown ?_ _))
    intro ahead abandoned behind split
    by_contra left
    exact none ⟨ahead, abandoned, behind, split, Bool.eq_false_iff.2 left⟩
  refine ⟨lenient, ?_, panicked⟩
  obtain ⟨ahead, abandoned, behind, rfl, -⟩ := panicked
  exact sequential_of_abandoned unknown

/-- The first target connects and then refuses, the second one panics and then
connects; the third one is unknown. -/
def flickering : Simulation.Field :=
  (Simulation.Field.empty.setScripted "u1" ["connect", "refuse"] false).setScripted "u2"
    ["panic", "connect"] false

/-- The session of the three regions behind a build that the second one left. -/
def abandoned : Session Simulation.Field Simulation.SimulatedFactory
    Simulation.SimulatedConnection :=
  (regions true).afterCalls Simulation.provider (.initial flickering) [.compose .inOrder]

/-- The call behind it answers a composite without the first region, which is active. -/
theorem slices_ne_active_of_flickering :
    build default .standard (regionProperties true) = .ok (regions true) ∧
      ∃ composite, ((regions true).connectionFactory Simulation.provider .inOrder abandoned).1 =
          .done composite ∧
        composite.slices = ["north"] ∧
        (regions true).registry.activeNames
          ((regions true).connectionFactory Simulation.provider .inOrder abandoned).2.board =
            ["east", "north"] := by
  have evaluated : ((regions true).connectionFactory Simulation.provider .inOrder
        abandoned).1.map Composite.slices = .done ["north"] ∧
      (regions true).registry.activeNames
        ((regions true).connectionFactory Simulation.provider .inOrder abandoned).2.board =
          ["east", "north"] := by decide +kernel
  obtain ⟨members, active⟩ := evaluated
  cases answered : ((regions true).connectionFactory Simulation.provider .inOrder abandoned).1 with
  | done composite =>
    rw [answered] at members
    exact ⟨build_regions true, composite, rfl, Outcome.done.inj members, active⟩
  | failed fault =>
    rw [answered] at members
    cases members
  | panicked text =>
    rw [answered] at members
    cases members

/-- What the first region was settled by is not what the build found of it. -/
theorem abandoned_found_otherwise :
    ∃ composite, ((regions true).connectionFactory Simulation.provider .inOrder abandoned).1 =
        .done composite ∧
      ∃ earlier building later,
        [.compose .inOrder, .compose .inOrder] = earlier ++ .compose building :: later ∧
        let before := (regions true).afterCalls Simulation.provider (.initial flickering) earlier
        (composite.slices = (regions true).registry.activeNames
            ((regions true).connectionFactory Simulation.provider .inOrder abandoned).2.board ↔
          FoundAsSettled before.board (((regions true).verifier building).probes
            Simulation.provider (regions true).registry.slices before.world)) := by
  have done : ((regions true).connectionFactory Simulation.provider .inOrder
      abandoned).1.isDone = true := by decide +kernel
  obtain ⟨composite, answered⟩ := Outcome.isDone_eq_true_iff.1 done
  obtain ⟨earlier, building, later, split, -, -, same, -⟩ :=
    composite_slices_eq_active_iff Simulation.provider flickering [.compose .inOrder] .inOrder
      (build_regions true) answered
  exact ⟨composite, answered, earlier, building, later, split, same⟩

end Configuration

end SliceFleet
