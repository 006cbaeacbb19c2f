/-
SliceFleet.Proofs.ModesAgree — verifying in turn and verifying all at once.

`OrderIndependent`: what a probe finds of a slice is a verdict on the slice
alone, whatever probes came before. Then both ways of probing find the same
of every slice, whichever order the threads run in (`toldOf_probesInTurn`,
`toldOf_probesAtOnce`). The answers agree, but not the boards: after a strict
fault only the verification in turn leaves the slices behind it alone
(`verify_modes_agree`).
-/
import SliceFleet.Simulation
import SliceFleet.Proofs.DistinctNames
import SliceFleet.Proofs.ParallelVerification

namespace SliceFleet

open Verifier

variable {σ F C : Type}

/-! ## Verdicts that no order changes -/

/-- The worlds that probing the slices leads to, in any order and number. -/
inductive ReachedByProbes (provider : Provider σ F C) (slices : List Slice)
    (start : World σ F C) : World σ F C → Prop
  | start : ReachedByProbes provider slices start start
  | probe {world : World σ F C} {slice : Slice}
      (reached : ReachedByProbes provider slices start world) (member : slice ∈ slices) :
      ReachedByProbes provider slices start (probe provider slice world).2

/-- Every probe returns, and what it finds of a slice is the verdict on the
slice: the capability of a factory that connects, or why there is none. -/
def OrderIndependent (provider : Provider σ F C) (slices : List Slice) (start : World σ F C)
    (verdict : Slice → Except BackendFault Bool) : Prop :=
  ∀ world, ReachedByProbes provider slices start world → ∀ slice ∈ slices,
    (probe provider slice world).1.map provider.capable = .ofExcept (verdict slice)

/-- The slices with the verdicts on them. -/
def judged (verdict : Slice → Except BackendFault Bool) (slices : List Slice) :
    List (Slice × Except BackendFault Bool) :=
  slices.map fun slice => (slice, verdict slice)

/-- What probes find, up to the identity of the factories. -/
def toldOf (provider : Provider σ F C) (probes : List (Slice × Outcome BackendFault F)) :
    List (Slice × Outcome BackendFault Bool) :=
  probes.map fun found => (found.1, found.2.map provider.capable)

section Verdicts

variable {provider : Provider σ F C} {slices : List Slice} {start : World σ F C}
  {verdict : Slice → Except BackendFault Bool}

theorem ReachedByProbes.probeThrough {world : World σ F C}
    (reached : ReachedByProbes provider slices start world) {part : List Slice}
    (within : ∀ slice ∈ part, slice ∈ slices) :
    ReachedByProbes provider slices start (probeThrough provider part world) := by
  induction part generalizing world with
  | nil => exact reached
  | cons slice rest ih =>
    obtain ⟨member, others⟩ := List.forall_mem_cons.1 within
    exact ih (reached.probe member) others

/-- Probing in turn finds the verdicts. -/
theorem toldOf_probesInTurn (independent : OrderIndependent provider slices start verdict) :
    toldOf provider (probesInTurn provider slices start) = probesOf (judged verdict slices) := by
  have found : ∀ found ∈ probesInTurn provider slices start,
      found.2.map provider.capable = .ofExcept (verdict found.1) := by
    rintro ⟨slice, outcome⟩ member
    obtain ⟨ahead, behind, rfl, rfl⟩ := mem_probesInTurn_iff.1 member
    refine independent _ ?_ slice (List.mem_append_right _ List.mem_cons_self)
    exact ReachedByProbes.start.probeThrough fun other => List.mem_append_left _
  calc toldOf provider (probesInTurn provider slices start)
    _ = (probesInTurn provider slices start).map
          fun found => (found.1, .ofExcept (verdict found.1)) := by
        refine List.map_congr_left fun one member => ?_
        rw [found one member]
    _ = probesOf (judged verdict slices) := by
        rw [probesOf, judged, List.map_map]
        conv => rhs; rw [← map_fst_probesInTurn provider slices start, List.map_map]
        rfl

/-- Threads report the verdicts, in whatever order they run. -/
theorem verdicts_runThreads (independent : OrderIndependent provider slices start verdict)
    {world : World σ F C} (reached : ReachedByProbes provider slices start world)
    {threads : List (Nat × Slice)} (within : ∀ thread ∈ threads, thread.2 ∈ slices) :
    (runThreads provider threads world).1.map (Prod.map id (Except.map provider.capable)) =
      threads.map (Prod.map id verdict) := by
  induction threads generalizing world with
  | nil => rfl
  | cons thread rest ih =>
    obtain ⟨member, others⟩ := List.forall_mem_cons.1 within
    have own := independent world reached thread.2 member
    have later := ih (reached.probe member) others
    have reported : (findingOf (probe provider thread.2 world).1).map provider.capable =
        verdict thread.2 := by
      cases outcome : (probe provider thread.2 world).1 <;> cases said : verdict thread.2 <;>
        rw [outcome, said] at own <;> cases own <;> rfl
    simp only [runThreads, List.map_cons, later, Prod.map, reported, id]

/-- The reports are put into the order of the slices. -/
theorem verdicts_probeAll (schedule : Schedule)
    (independent : OrderIndependent provider slices start verdict) :
    (probeAll schedule provider slices start).1.map (Except.map provider.capable) =
      slices.map verdict := by
  have within : ∀ thread ∈ schedule.arrange (numbered slices), thread.2 ∈ slices :=
    fun thread => slice_mem_of_mem_arrange
  have ascending : ((numbered slices).map (Prod.map id verdict)).Pairwise fun a b => a.1 < b.1 :=
    List.pairwise_map.2 (numbered_ascending slices)
  have arranged := (schedule.perm (numbered slices)).map (Prod.map id verdict)
  calc (probeAll schedule provider slices start).1.map (Except.map provider.capable)
    _ = ((byNumber (runThreads provider (schedule.arrange (numbered slices)) start).1).map
          (Prod.map id (Except.map provider.capable))).map (·.2) := by
        rw [probeAll_eq, List.map_map, List.map_map]
        rfl
    _ = ((numbered slices).map (Prod.map id verdict)).map (·.2) := by
        rw [map_byNumber, verdicts_runThreads independent .start within,
          byNumber_of_perm ascending arranged]
    _ = slices.map verdict := by
        conv => rhs; rw [← map_snd_numbered slices, List.map_map]
        rw [List.map_map]
        rfl

/-- Probing all at once finds the verdicts, too. -/
theorem toldOf_probesAtOnce (schedule : Schedule)
    (independent : OrderIndependent provider slices start verdict) :
    toldOf provider (probesAtOnce schedule provider slices start) =
      probesOf (judged verdict slices) := by
  calc toldOf provider (probesAtOnce schedule provider slices start)
    _ = probesOf (slices.zip ((probeAll schedule provider slices start).1.map
          (Except.map provider.capable))) := by
        rw [toldOf, probesAtOnce, probesOf, probesOf, List.zip_map_right, List.map_map,
          List.map_map]
        refine List.map_congr_left fun report _ => ?_
        obtain ⟨slice, report⟩ := report
        cases report <;> rfl
    _ = probesOf (judged verdict slices) := by
        rw [verdicts_probeAll schedule independent, judged]
        conv => lhs; rw [← List.map_id slices, List.map_map, List.zip_map']
        rfl

/-! ## What the verdicts call for -/

/-- The slices in reach with their capabilities. -/
def inReach (verdict : Slice → Except BackendFault Bool) (slices : List Slice) :
    List (Slice × Bool) :=
  slices.filterMap fun slice => (verdict slice).toOption.map (slice, ·)

/-- Verified slices with the capabilities that were recorded. -/
def marksOf (verified : List (Verified F)) : List (Slice × Bool) :=
  verified.map fun one => (one.slice, one.capable)

/-- Either all slices are in reach, or there is a first one that is not. -/
theorem all_or_refused (verdict : Slice → Except BackendFault Bool) (slices : List Slice) :
    (∀ slice ∈ slices, (verdict slice).isOk = true) ∨
      ∃ ahead slice cause behind, slices = ahead ++ slice :: behind ∧
        (∀ earlier ∈ ahead, (verdict earlier).isOk = true) ∧ verdict slice = .error cause := by
  induction slices with
  | nil => exact .inl (List.forall_mem_nil _)
  | cons first rest ih =>
    cases said : verdict first with
    | error cause => exact .inr ⟨[], first, cause, rest, rfl, List.forall_mem_nil _, said⟩
    | ok capable =>
      have ok : (verdict first).isOk = true := by rw [said]; rfl
      rcases ih with all | ⟨ahead, slice, cause, behind, rfl, allAhead, refused⟩
      · exact .inl (List.forall_mem_cons.2 ⟨ok, all⟩)
      · exact .inr ⟨first :: ahead, slice, cause, behind, rfl,
          List.forall_mem_cons.2 ⟨ok, allAhead⟩, refused⟩

variable {probes : List (Slice × Outcome BackendFault F)}

theorem isDone_of_map_eq {α β ε : Type} {f : α → β} {outcome : Outcome ε α}
    {answer : Except ε β} (said : outcome.map f = .ofExcept answer) :
    outcome.isDone = answer.isOk ∧ outcome.returns = true := by
  cases outcome <;> cases answer <;> cases said <;> exact ⟨rfl, rfl⟩

theorem marksOf_verifiedOf (told : toldOf provider probes = probesOf (judged verdict slices)) :
    marksOf (verifiedOf provider probes) = inReach verdict slices := by
  have seen : marksOf (verifiedOf provider probes) =
      (toldOf provider probes).filterMap fun found => found.2.answer?.map (found.1, ·) := by
    rw [marksOf, verifiedOf, toldOf, List.map_filterMap, List.filterMap_map]
    refine List.filterMap_congr fun found _ => ?_
    obtain ⟨slice, outcome⟩ := found
    cases outcome <;> rfl
  rw [seen, told, probesOf, judged, List.map_map, List.filterMap_map]
  refine List.filterMap_congr fun slice _ => ?_
  cases said : verdict slice <;> simp [said, Outcome.ofExcept, Outcome.answer?, Except.toOption]

theorem findingsOf_told (told : toldOf provider probes = probesOf (judged verdict slices)) :
    findingsOf probes = slices.map fun slice => (slice, (verdict slice).isOk) := by
  have seen : findingsOf probes = findingsOf (toldOf provider probes) := by
    rw [findingsOf, findingsOf, toldOf, List.map_map]
    refine List.map_congr_left fun found _ => ?_
    obtain ⟨slice, outcome⟩ := found
    cases outcome <;> rfl
  rw [seen, told, findingsOf, probesOf, judged, List.map_map, List.map_map]
  refine List.map_congr_left fun slice _ => ?_
  cases said : verdict slice <;> simp [said, Outcome.ofExcept, Outcome.isDone, Except.isOk,
    Except.toBool]

/-- The probes pass if the verdicts do. -/
theorem passes_told {lenient : Bool}
    (told : toldOf provider probes = probesOf (judged verdict slices))
    (passes : lenient = true ∨ ∀ slice ∈ slices, (verdict slice).isOk = true) :
    ∀ found ∈ probes, Passes lenient found.2 := by
  intro found member
  have inTold : (found.1, found.2.map provider.capable) ∈ toldOf provider probes :=
    List.mem_map_of_mem member
  rw [told, probesOf, judged, List.map_map] at inTold
  obtain ⟨slice, inSlices, same⟩ := List.mem_map.1 inTold
  obtain ⟨done, returned⟩ := isDone_of_map_eq (Prod.mk.inj same).2.symm
  rcases passes with rfl | all
  · exact passes_lenient_iff.2 returned
  · exact passes_of_isDone (done.trans (all slice inSlices))

/-- A slice out of reach is the first one in the probes, too. -/
theorem split_told {ahead behind : List Slice} {slice : Slice} {cause : BackendFault}
    (told : toldOf provider probes = probesOf (judged verdict slices))
    (order : slices = ahead ++ slice :: behind)
    (reached : ∀ earlier ∈ ahead, (verdict earlier).isOk = true)
    (refused : verdict slice = .error cause) :
    ∃ front back, probes = front ++ (slice, .failed cause) :: back ∧
      (∀ found ∈ front, found.2.isDone = true) ∧
      toldOf provider (front ++ [(slice, .failed cause)]) =
        probesOf (judged verdict (ahead ++ [slice])) := by
  rw [order, probesOf, judged, List.map_map, List.map_append, List.map_cons] at told
  obtain ⟨front, rest, rfl, frontTold, restTold⟩ := List.map_eq_append_iff.1 told
  obtain ⟨⟨other, outcome⟩, back, rfl, same, -⟩ := List.map_eq_cons_iff.1 restTold
  obtain ⟨rfl, said⟩ := Prod.mk.inj same
  have failed : outcome = .failed cause := by
    cases outcome <;> simp_all [Outcome.map, Outcome.ofExcept]
  subst failed
  have toldFront : toldOf provider front = probesOf (judged verdict ahead) := by
    rw [probesOf, judged, List.map_map]
    exact frontTold
  refine ⟨front, back, rfl, ?_, ?_⟩
  · intro found member
    exact passes_strict_iff.1 (passes_told toldFront (.inr reached) found member)
  · have last : toldOf provider [(other, .failed cause)] = probesOf (judged verdict [other]) := by
      simp [toldOf, probesOf, judged, refused, Outcome.map, Outcome.ofExcept]
    rw [toldOf, List.map_append, judged, List.map_append, probesOf, List.map_append]
    exact congrArg₂ (· ++ ·) toldFront last

/-! ## The boards behind it -/

variable {board : Board}

/-- Settling by the verdicts gives every slice the status of its own. -/
theorem of_settleEach_verdicts (unverified : ∀ slice ∈ slices, board.of slice = .uninitialized)
    (apart : ∀ a ∈ slices, ∀ b ∈ slices, a.place = b.place → a = b)
    {slice : Slice} (member : slice ∈ slices) :
    (board.settleEach (slices.map fun slice => (slice, (verdict slice).isOk))).of slice =
      .ofReachable (verdict slice).isOk := by
  refine Board.of_settleEach (unverified slice member) (List.mem_map_of_mem member) ?_
  intro finding inFindings same
  obtain ⟨other, inSlices, rfl⟩ := List.mem_map.1 inFindings
  rw [apart other inSlices slice member same]

/-! ## Both ways agree -/

/-- Both verifications list the slices in reach and leave the same statuses. -/
structure BothAnswer (verdict : Slice → Except BackendFault Bool) (slices : List Slice)
    (inTurn atOnce : Outcome SliceFault (List (Verified F)) × Board × World σ F C) : Prop where
  turnAnswer : inTurn.1.map marksOf = .done (inReach verdict slices)
  onceAnswer : atOnce.1.map marksOf = .done (inReach verdict slices)
  statuses : ∀ slice ∈ slices, atOnce.2.1.of slice = inTurn.2.1.of slice
  own : ∀ slice ∈ slices, atOnce.2.1.of slice = .ofReachable (verdict slice).isOk

/-- Both verifications name the first slice out of reach; those behind it were
settled only where all were probed at once. -/
structure BothRefuse (verdict : Slice → Except BackendFault Bool) (slices : List Slice)
    (inTurn atOnce : Outcome SliceFault (List (Verified F)) × Board × World σ F C)
    (ahead : List Slice) (slice : Slice) (cause : BackendFault) (behind : List Slice) :
    Prop where
  order : slices = ahead ++ slice :: behind
  reached : ∀ earlier ∈ ahead, (verdict earlier).isOk = true
  refused : verdict slice = .error cause
  turnAnswer : inTurn.1 = .failed (.unreachable slice.name slice.target cause)
  onceAnswer : atOnce.1 = .failed (.unreachable slice.name slice.target cause)
  statuses : ∀ earlier ∈ ahead ++ [slice], atOnce.2.1.of earlier = inTurn.2.1.of earlier
  untouched : ∀ later ∈ behind, later ∉ ahead ++ [slice] →
    inTurn.2.1.of later = .uninitialized
  own : ∀ slice ∈ slices, atOnce.2.1.of slice = .ofReachable (verdict slice).isOk

theorem bothAnswer {lenient : Bool} (schedule : Schedule)
    (unverified : ∀ slice ∈ slices, board.of slice = .uninitialized)
    (apart : ∀ a ∈ slices, ∀ b ∈ slices, a.place = b.place → a = b)
    (independent : OrderIndependent provider slices start verdict)
    (passes : lenient = true ∨ ∀ slice ∈ slices, (verdict slice).isOk = true) :
    BothAnswer verdict slices (verifySequentially lenient provider slices board start)
      (verifyInParallel lenient schedule provider slices board start) := by
  have turnTold := toldOf_probesInTurn independent
  have onceTold := toldOf_probesAtOnce schedule independent
  rw [verifySequentially_of_passes board (passes_told turnTold passes),
    verifyInParallel_of_passes board (passes_told onceTold passes)]
  exact {
    turnAnswer := congrArg Outcome.done (marksOf_verifiedOf turnTold)
    onceAnswer := congrArg Outcome.done (marksOf_verifiedOf onceTold)
    statuses := fun slice _ => by rw [findingsOf_told turnTold, findingsOf_told onceTold]
    own := fun slice member => by
      rw [findingsOf_told onceTold]
      exact of_settleEach_verdicts unverified apart member }

theorem bothRefuse (schedule : Schedule) {ahead behind : List Slice} {slice : Slice}
    {cause : BackendFault} (order : slices = ahead ++ slice :: behind)
    (reached : ∀ earlier ∈ ahead, (verdict earlier).isOk = true)
    (refused : verdict slice = .error cause)
    (unverified : ∀ slice ∈ slices, board.of slice = .uninitialized)
    (apart : ∀ a ∈ slices, ∀ b ∈ slices, a.place = b.place → a = b)
    (independent : OrderIndependent provider slices start verdict) :
    BothRefuse verdict slices (verifySequentially false provider slices board start)
      (verifyInParallel false schedule provider slices board start) ahead slice cause behind := by
  have turnTold := toldOf_probesInTurn independent
  have onceTold := toldOf_probesAtOnce schedule independent
  have within : ∀ earlier ∈ ahead ++ [slice], earlier ∈ slices := by
    intro earlier member
    rw [order, List.append_cons]
    exact List.mem_append_left _ member
  have own : ∀ one ∈ slices, (board.settleEach
      (findingsOf (probesAtOnce schedule provider slices start))).of one =
        .ofReachable (verdict one).isOk := by
    intro one member
    rw [findingsOf_told onceTold]
    exact of_settleEach_verdicts unverified apart member
  obtain ⟨front, back, turnSplit, turnReached, frontTold⟩ :=
    split_told turnTold order reached refused
  obtain ⟨_, _, onceSplit, onceReached, -⟩ := split_told onceTold order reached refused
  rw [verifySequentially_of_refused board turnSplit turnReached,
    verifyInParallel_of_refused board onceSplit onceReached, findingsOf_told frontTold]
  refine {
    order, reached, refused, own
    turnAnswer := rfl
    onceAnswer := rfl
    statuses := fun earlier member => ?_
    untouched := fun later member other => ?_ }
  · -- Up to the refused slice both boards have the status of the verdict.
    have partUnverified := fun one inPart => unverified one (within one inPart)
    have partApart := fun a inA b inB => apart a (within a inA) b (within b inB)
    exact (own earlier (within earlier member)).trans
      (of_settleEach_verdicts partUnverified partApart member).symm
  · have inSlices : later ∈ slices := by
      rw [order]
      exact List.mem_append_right _ (List.mem_cons_of_mem _ member)
    refine (Board.status_settleEach_of_absent fun finding inFindings same => other ?_).trans
      (unverified later inSlices)
    obtain ⟨earlier, inPart, rfl⟩ := List.mem_map.1 inFindings
    rw [← apart earlier (within earlier inPart) later inSlices same]
    exact inPart

end Verdicts

/-! ## Steady targets -/

namespace Simulation

/-- What a probe finds of a slice while nothing else happens. -/
def verdictOf (field : Field) (slice : Slice) : Except BackendFault Bool :=
  (findingOf (probe provider slice (.initial field)).1).map SimulatedFactory.capable

theorem makeFactory_of_steady {config : BackendConfig} {field : Field}
    (steady : (field.targets.get? config.target).all (·.conduct.isSteady) = true) :
    ∃ behavior capable,
      makeFactory config field = (.done ⟨config.target, .steady behavior, capable⟩, field) := by
  cases found : field.targets.get? config.target with
  | none => exact ⟨.refuses, false, by simp only [makeFactory, found]⟩
  | some target =>
    obtain ⟨conduct, capable⟩ := target
    rw [found] at steady
    cases conduct with
    | steady behavior => exact ⟨behavior, capable, by simp only [makeFactory, found]⟩
    | scripted script => cases steady

theorem decorate_eq (config : BackendConfig) (factory : SimulatedFactory) (field : Field) :
    ∃ capable, decorate config factory field = ({ factory with capable }, field) := by
  cases stated : field.decorations.get? config.target with
  | none => exact ⟨factory.capable, by simp only [decorate, stated]⟩
  | some capable => exact ⟨capable, by simp only [decorate, stated]⟩

/-- Probing a steady target changes nothing, and it does not matter when. -/
theorem probe_of_steady (slice : Slice) (world : SimulatedWorld)
    (steady : (world.backend.targets.get? slice.target).all (·.conduct.isSteady) = true) :
    (probe provider slice world).2.backend = world.backend ∧
      (probe provider slice world).1.map SimulatedFactory.capable =
        .ofExcept (verdictOf world.backend slice) := by
  obtain ⟨behavior, raw, made⟩ := makeFactory_of_steady steady
  obtain ⟨capable, decorated⟩ :=
    decorate_eq slice.config ⟨slice.config.target, .steady behavior, raw⟩ world.backend
  cases behavior <;>
    simp [verdictOf, probe, Provider.request, Provider.dress, Provider.attempt, Provider.release,
      provider, made, decorated, connect, answerSteadily, close, World.after, World.initial,
      findingOf, Outcome.map, Outcome.ofExcept, Except.map]

/-- **Steady targets give verdicts**: what they answer depends on no order. -/
theorem orderIndependent_of_steady {field : Field} {slices : List Slice}
    (steady : ∀ slice ∈ slices,
      (field.targets.get? slice.target).all (·.conduct.isSteady) = true) :
    OrderIndependent provider slices (.initial field) (verdictOf field) := by
  have unchanged : ∀ world, ReachedByProbes provider slices (.initial field) world →
      world.backend = field := by
    intro world reached
    induction reached with
    | start => rfl
    | @probe world slice _ member ih =>
      have kept := (probe_of_steady slice world (by rw [ih]; exact steady slice member)).1
      rw [kept, ih]
  intro world reached slice member
  have same := unchanged world reached
  have said := (probe_of_steady slice world (by rw [same]; exact steady slice member)).2
  rw [same] at said
  exact said

end Simulation

/-! ## Both ways agree, in any order -/

/-- **Both ways of probing agree**: with the same verdicts, verifying all slices
at once answers like verifying them in turn, whichever order the threads run in. -/
theorem verify_modes_agree {provider : Provider σ F C} {slices : List Slice} {board : Board}
    {start : World σ F C} {verdict : Slice → Except BackendFault Bool} (lenient : Bool)
    (schedule : Schedule)
    (unverified : ∀ slice ∈ slices, board.of slice = .uninitialized)
    (apart : ∀ a ∈ slices, ∀ b ∈ slices, a.place = b.place → a = b)
    (independent : OrderIndependent provider slices start verdict) :
    let inTurn := verify ⟨lenient, .sequential, schedule⟩ provider slices board start
    let atOnce := verify ⟨lenient, .parallel, schedule⟩ provider slices board start
    atOnce.1.map marksOf = inTurn.1.map marksOf ∧
      (BothAnswer verdict slices inTurn atOnce ∨
        ∃ ahead slice cause behind,
          BothRefuse verdict slices inTurn atOnce ahead slice cause behind) := by
  intro inTurn atOnce
  suffices both : BothAnswer verdict slices inTurn atOnce ∨ ∃ ahead slice cause behind,
      BothRefuse verdict slices inTurn atOnce ahead slice cause behind by
    refine ⟨?_, both⟩
    rcases both with answer | ⟨ahead, slice, cause, behind, refuse⟩
    · rw [answer.turnAnswer, answer.onceAnswer]
    · rw [refuse.turnAnswer, refuse.onceAnswer]
  by_cases tolerant : lenient = true
  · exact .inl (bothAnswer schedule unverified apart independent (.inl tolerant))
  · have strict : lenient = false := Bool.eq_false_iff.2 tolerant
    rcases all_or_refused verdict slices with
      all | ⟨ahead, slice, cause, behind, order, reached, refused⟩
    · exact .inl (bothAnswer schedule unverified apart independent (.inr all))
    · refine .inr ⟨ahead, slice, cause, behind, ?_⟩
      have refuse := bothRefuse schedule order reached refused unverified apart independent
      rw [← strict] at refuse
      exact refuse

/-- The threads run in the opposite order. -/
def Schedule.reversed : Schedule := ⟨List.reverse, List.reverse_perm⟩

/-- Of the targets of the three regions the second one is unknown. -/
def twoKnown : Simulation.Field :=
  (Simulation.Field.empty.setSteady "u1" .connects true).setSteady "u3" .answersNothing false

/-- The three regions, strictly, with their threads in the opposite order. -/
theorem regions_modes_agree :
    let slices := (Configuration.regions false).registry.slices
    let inTurn := verify ⟨false, .sequential, .reversed⟩ Simulation.provider slices .blank
      (.initial twoKnown)
    let atOnce := verify ⟨false, .parallel, .reversed⟩ Simulation.provider slices .blank
      (.initial twoKnown)
    atOnce.1.map marksOf = inTurn.1.map marksOf ∧
      (BothAnswer (Simulation.verdictOf twoKnown) slices inTurn atOnce ∨
        ∃ ahead slice cause behind, BothRefuse (Simulation.verdictOf twoKnown) slices inTurn
          atOnce ahead slice cause behind) :=
  verify_modes_agree false .reversed (fun _ _ => rfl)
    (fun _ first _ second same => Registry.eq_of_place_eq first second same)
    (Simulation.orderIndependent_of_steady (by decide +kernel))

end SliceFleet
