/-
SliceFleet.Proofs.LenientRuns — when a lenient run returns, and what it leaves out.

A lenient verification goes on after every slice out of reach, so only a panic
can leave it, and only if it probes in turn (`returns_iff_of_lenient`). What is
found of a slice is what some probe of that slice finds, also where threads
report in another order than the slices have (`probed_of_mem_probes`). So a
slice that no probe can reach is inactive behind a lenient run, and not among
the members (`left_out_of_lenient`).
-/
import SliceFleet.Proofs.CompositeMembers
import SliceFleet.Proofs.ModesAgree

namespace SliceFleet

open Verifier

variable {σ F C : Type}

/-! ## What is found of a slice -/

/-- What this probe of the slice finds, as it is kept in turn or as a thread reports it. -/
def FoundBy (provider : Provider σ F C) (slice : Slice) (before : World σ F C)
    (outcome : Outcome BackendFault F) : Prop :=
  outcome = (probe provider slice before).1 ∨
    outcome = .ofExcept (findingOf (probe provider slice before).1)

/-- A report says whether the probe reached the slice. -/
theorem FoundBy.isDone_eq {provider : Provider σ F C} {slice : Slice} {before : World σ F C}
    {outcome : Outcome BackendFault F} (found : FoundBy provider slice before outcome) :
    outcome.isDone = (probe provider slice before).1.isDone := by
  rcases found with rfl | rfl
  · rfl
  · cases (probe provider slice before).1 <;> rfl

namespace Verifier

/-- Every thread reports a probe of its own slice, under its own number. -/
theorem exists_threads_with_reports {provider : Provider σ F C} {slices : List Slice}
    {start world : World σ F C} (reached : ReachedByProbes provider slices start world)
    {threads : List (Nat × Slice)} (within : ∀ thread ∈ threads, thread.2 ∈ slices) :
    ∃ joined : List (Nat × (Slice × Except BackendFault F)),
      joined.map (Prod.map id Prod.fst) = threads ∧
      joined.map (Prod.map id Prod.snd) = (runThreads provider threads world).1 ∧
      ∀ entry ∈ joined, ∃ before, ReachedByProbes provider slices start before ∧
        entry.2.2 = findingOf (probe provider entry.2.1 before).1 := by
  induction threads generalizing world with
  | nil => exact ⟨[], rfl, rfl, List.forall_mem_nil _⟩
  | cons thread rest ih =>
    obtain ⟨member, others⟩ := List.forall_mem_cons.1 within
    obtain ⟨joined, threads, reports, own⟩ := ih (reached.probe member) others
    refine ⟨(thread.1, thread.2, findingOf (probe provider thread.2 world).1) :: joined, ?_, ?_, ?_⟩
    · rw [List.map_cons, threads]
      rfl
    · rw [List.map_cons, reports]
      rfl
    · exact List.forall_mem_cons.2 ⟨⟨world, reached, rfl⟩, own⟩

/-- Sorted by number, the reports stand beside the slices that they are about. -/
theorem reported_by_probe {schedule : Schedule} {provider : Provider σ F C} {slices : List Slice}
    {world : World σ F C} {slice : Slice} {report : Except BackendFault F}
    (member : (slice, report) ∈ slices.zip (probeAll schedule provider slices world).1) :
    ∃ before, ReachedByProbes provider slices world before ∧
      report = findingOf (probe provider slice before).1 := by
  have here : ReachedByProbes provider slices world world := .start
  have within : ∀ thread ∈ schedule.arrange (numbered slices), thread.2 ∈ slices :=
    fun thread => slice_mem_of_mem_arrange
  obtain ⟨joined, threads, reports, own⟩ := exists_threads_with_reports here within
  -- Sorting looks at numbers only, so it may come before or after a report is forgotten.
  have inOrder : (byNumber joined).map (Prod.map id Prod.fst) = numbered slices := by
    rw [map_byNumber, threads]
    exact byNumber_of_perm (numbered_ascending slices) (schedule.perm _)
  have firsts : slices = ((byNumber joined).map (·.2)).map Prod.fst := by
    calc slices
      _ = (numbered slices).map (·.2) := (map_snd_numbered slices).symm
      _ = ((byNumber joined).map (·.2)).map Prod.fst := by
        rw [← inOrder, List.map_map, List.map_map]
        rfl
  have seconds : (probeAll schedule provider slices world).1 =
      ((byNumber joined).map (·.2)).map Prod.snd := by
    rw [probeAll_eq, ← reports, ← map_byNumber, List.map_map, List.map_map]
    rfl
  rw [seconds] at member
  conv at member => enter [1, 1]; rw [firsts]
  rw [List.zip_map', List.map_map] at member
  obtain ⟨entry, inSorted, same⟩ := List.mem_map.1 member
  obtain ⟨before, reached, found⟩ := own entry (List.mem_mergeSort.1 inSorted)
  obtain ⟨rfl, rfl⟩ := Prod.mk.inj same
  exact ⟨before, reached, found⟩

/-- **What is found of a slice** is what a probe of that slice finds, in a world that the
probes of this verification have led to. -/
theorem probed_of_mem_probes {verifier : Verifier} {provider : Provider σ F C}
    {slices : List Slice} {world : World σ F C} {slice : Slice} {outcome : Outcome BackendFault F}
    (member : (slice, outcome) ∈ verifier.probes provider slices world) :
    ∃ before, ReachedByProbes provider slices world before ∧
      FoundBy provider slice before outcome := by
  have here : ReachedByProbes provider slices world world := .start
  rw [probes] at member
  split at member
  · obtain ⟨ahead, behind, order, found⟩ := mem_probesInTurn_iff.1 member
    have within : ∀ earlier ∈ ahead, earlier ∈ slices := by
      intro earlier inAhead
      rw [order]
      exact List.mem_append_left _ inAhead
    exact ⟨_, here.probeThrough within, .inl found.symm⟩
  · obtain ⟨⟨own, report⟩, inReports, same⟩ := List.mem_map.1 member
    obtain ⟨rfl, rfl⟩ := Prod.mk.inj same
    obtain ⟨before, reached, reported⟩ := reported_by_probe inReports
    exact ⟨before, reached, .inr (congrArg Outcome.ofExcept reported)⟩

/-! ## How a lenient verification ends -/

/-- Only a panic leaves a lenient verification. -/
theorem returns_iff_of_lenient {verifier : Verifier} (lenient : verifier.lenient = true)
    (provider : Provider σ F C) (slices : List Slice) (board : Board) (world : World σ F C) :
    (verifier.verify provider slices board world).1.returns = true ↔
      ∀ found ∈ verifier.probes provider slices world, found.2.returns = true := by
  rcases verifier.verify_cases provider slices board world with
    ⟨after, passes, ends⟩ | ⟨strict, -⟩ | ⟨ahead, slice, text, behind, after, split, -, -, ends⟩
  · rw [lenient] at passes
    rw [ends]
    exact iff_of_true rfl fun found member => passes_lenient_iff.1 (passes found member)
  · rw [lenient] at strict
    cases strict
  · rw [ends, split]
    refine iff_of_false Bool.false_ne_true fun all => ?_
    cases all (slice, .panicked text) (List.mem_append_right _ List.mem_cons_self)

end Verifier

/-! ## Lenient runs -/

namespace Configuration

variable {config : Configuration} {provider : Provider σ F C} {schedule : Schedule}
  {session : Session σ F C}

/-- A call that is not answered from memory returns just if its verification does. -/
theorem returns_connectionFactory_iff (fresh : session.outcome = none) :
    (config.connectionFactory provider schedule session).1.returns = true ↔
      ((config.verifier schedule).verify provider config.registry.slices session.board
        session.world).1.returns = true := by
  rcases config.connectionFactory_cases provider schedule session with
    ⟨known, before, -⟩ |
    ⟨-, ⟨verified, _, _, ends, call⟩ | ⟨_, _, _, ends, call⟩ | ⟨_, _, _, ends, call⟩⟩
  · exact absurd (before.symm.trans fresh) (Option.some_ne_none known)
  · rw [call, ends]
    cases compose verified <;> exact iff_of_true rfl rfl
  · rw [call, ends]
    exact iff_of_true rfl rfl
  · rw [call, ends]
    exact iff_of_false Bool.false_ne_true Bool.false_ne_true

/-- **What a lenient run leaves out**: a slice that no probe can reach is inactive
afterwards, and not a member. -/
theorem left_out_of_lenient (distinct : config.registry.names.Nodup)
    (lenient : config.lenient = true) (fresh : session.outcome = none)
    (returned : (config.connectionFactory provider schedule session).1.returns = true)
    {slice : Slice} (member : slice ∈ config.registry.slices)
    (unverified : session.board.of slice = .uninitialized)
    (beyond : ∀ before, (probe provider slice before).1.isDone = false) :
    (config.connectionFactory provider schedule session).2.board.of slice = .inactive ∧
      ∀ composite, (config.connectionFactory provider schedule session).1 = .done composite →
        slice.name ∉ composite.slices := by
  have all := map_fst_probes (config.verifier schedule) provider config.registry.slices
    session.world
  have unreached : ∀ found ∈ (config.verifier schedule).probes provider config.registry.slices
      session.world, found.1 = slice → found.2.isDone = false := by
    rintro ⟨own, outcome⟩ inProbes rfl
    obtain ⟨before, -, found⟩ := probed_of_mem_probes inProbes
    exact found.isDone_eq.trans (beyond before)
  rcases (config.verifier schedule).verify_cases provider config.registry.slices session.board
    session.world with ⟨after, -, ends⟩ | ⟨strict, -⟩ | ⟨_, _, text, _, after, -, -, -, ends⟩
  · rw [connectionFactory_of_done fresh ends]
    constructor
    · rw [← all] at member
      obtain ⟨found, inProbes, rfl⟩ := List.mem_map.1 member
      have places := config.registry.nodup_places
      rw [← all, List.map_map] at places
      rw [of_settleEach_findingsOf places inProbes unverified, unreached found inProbes rfl]
      rfl
    · intro composite answered among
      rw [(composes_of_compose (Outcome.ofExcept_eq_done_iff.1 answered)).slices] at among
      obtain ⟨found, chosen, named⟩ := List.mem_map.1 among
      obtain ⟨inProbes, reached⟩ := List.mem_filter.1 chosen
      have inSlices : found.1 ∈ config.registry.slices := by
        rw [← all]
        exact List.mem_map_of_mem inProbes
      have same := List.inj_on_of_nodup_map distinct inSlices member named
      rw [unreached found inProbes same] at reached
      cases reached
  · rw [show (config.verifier schedule).lenient = config.lenient from rfl, lenient] at strict
    cases strict
  · rw [connectionFactory_of_panicked fresh ends] at returned
    cases returned

end Configuration

end SliceFleet
