/-
SliceFleet.Proofs.SequentialVerification — verifying one slice after the other.

A sequential verification goes on as long as the probes pass: a slice in
reach always does, a slice out of reach does for a lenient verifier, a panic
never does. `verifySequentially_append` says what has happened by the time
the slices `ahead` have passed; how the verification ends then depends on the
first slice that does not pass, if there is one (`passes_or_stops`).
-/
import SliceFleet.Proofs.Probing
import SliceFleet.Proofs.Statuses

namespace SliceFleet

theorem Outcome.map_map {ε α β γ : Type} (f : α → β) (g : β → γ) (outcome : Outcome ε α) :
    (outcome.map f).map g = outcome.map (g ∘ f) := by
  cases outcome <;> rfl

@[simp] theorem Outcome.map_self {ε α : Type} (outcome : Outcome ε α) :
    outcome.map (fun answer => answer) = outcome := by
  cases outcome <;> rfl

namespace Verifier

variable {σ F C : Type}

/-! ## What is kept of the probes -/

/-- After such a probe the verification goes on. -/
def Passes (lenient : Bool) : Outcome BackendFault F → Prop
  | .done _ => True
  | .failed _ => lenient = true
  | .panicked _ => False

/-- The slices in reach with their factories. -/
def verifiedOf (provider : Provider σ F C) (probes : List (Slice × Outcome BackendFault F)) :
    List (Verified F) :=
  probes.filterMap fun found => found.2.answer?.map (record provider found.1)

/-- What the board is told of the probes. -/
def findingsOf (probes : List (Slice × Outcome BackendFault F)) : List (Slice × Bool) :=
  probes.map fun found => (found.1, found.2.isDone)

theorem verifiedOf_cons_done (provider : Provider σ F C) (slice : Slice) (factory : F)
    (rest : List (Slice × Outcome BackendFault F)) :
    verifiedOf provider ((slice, .done factory) :: rest) =
      record provider slice factory :: verifiedOf provider rest := rfl

theorem verifiedOf_cons_failed (provider : Provider σ F C) (slice : Slice) (cause : BackendFault)
    (rest : List (Slice × Outcome BackendFault F)) :
    verifiedOf provider ((slice, .failed cause) :: rest) = verifiedOf provider rest := rfl

theorem findingsOf_cons_done (slice : Slice) (factory : F)
    (rest : List (Slice × Outcome BackendFault F)) :
    findingsOf ((slice, .done factory) :: rest) = (slice, true) :: findingsOf rest := rfl

theorem findingsOf_cons_failed (slice : Slice) (cause : BackendFault)
    (rest : List (Slice × Outcome BackendFault F)) :
    findingsOf ((slice, .failed cause) :: rest) = (slice, false) :: findingsOf rest := rfl

theorem passes_of_isDone {lenient : Bool} {outcome : Outcome BackendFault F}
    (done : outcome.isDone = true) : Passes lenient outcome := by
  obtain ⟨factory, rfl⟩ := Outcome.isDone_eq_true_iff.1 done
  trivial

/-- A strict verification goes on after a slice in reach only. -/
theorem passes_strict_iff {outcome : Outcome BackendFault F} :
    Passes false outcome ↔ outcome.isDone = true := by
  cases outcome <;> simp [Passes, Outcome.isDone]

/-- A lenient verification goes on after every probe that returns. -/
theorem passes_lenient_iff {outcome : Outcome BackendFault F} :
    Passes true outcome ↔ outcome.returns = true := by
  cases outcome <;> simp [Passes, Outcome.returns]

/-- Either all probes pass, or there is a first one that does not. -/
theorem passes_or_stops (lenient : Bool) (probes : List (Slice × Outcome BackendFault F)) :
    (∀ found ∈ probes, Passes lenient found.2) ∨
      ∃ ahead slice outcome behind, probes = ahead ++ (slice, outcome) :: behind ∧
        (∀ found ∈ ahead, Passes lenient found.2) ∧ ¬ Passes lenient outcome := by
  induction probes with
  | nil => exact .inl (List.forall_mem_nil _)
  | cons first rest ih =>
    by_cases passes : Passes lenient first.2
    · rcases ih with all | ⟨ahead, slice, outcome, behind, rfl, allAhead, stops⟩
      · exact .inl (List.forall_mem_cons.2 ⟨passes, all⟩)
      · exact .inr ⟨first :: ahead, slice, outcome, behind, rfl,
          List.forall_mem_cons.2 ⟨passes, allAhead⟩, stops⟩
    · exact .inr ⟨[], first.1, first.2, rest, rfl, List.forall_mem_nil _, passes⟩

/-! ## How the verification goes -/

/-- **Slices that pass**: they are settled as they were found, those in reach are
listed, and the verification goes on with the rest in the world behind them. -/
theorem verifySequentially_append {lenient : Bool} {provider : Provider σ F C}
    {ahead : List Slice} {board : Board} {world : World σ F C}
    (passes : ∀ found ∈ probesInTurn provider ahead world, Passes lenient found.2)
    (rest : List Slice) :
    verifySequentially lenient provider (ahead ++ rest) board world =
      let probes := probesInTurn provider ahead world
      let later := verifySequentially lenient provider rest
        (board.settleEach (findingsOf probes)) (probeThrough provider ahead world)
      (later.1.map (verifiedOf provider probes ++ ·), later.2) := by
  induction ahead generalizing board world with
  | nil => simp [probesInTurn, verifiedOf, findingsOf, probeThrough]
  | cons slice ahead ih =>
    obtain ⟨first, others⟩ := List.forall_mem_cons.1 passes
    rcases probed : probe provider slice world with ⟨outcome, after⟩
    have behind : probeThrough provider (slice :: ahead) world =
        probeThrough provider ahead after := by
      rw [probeThrough, List.foldl_cons, probed, probeThrough]
    rw [probed] at first others
    simp only [List.cons_append, verifySequentially, probesInTurn, probed, behind]
    cases outcome with
    | done factory =>
      simp only [ih others, Outcome.map_map, verifiedOf_cons_done, findingsOf_cons_done,
        Board.settleEach_cons]
      rfl
    | failed cause =>
      have tolerated : lenient = true := first
      simp only [tolerated, if_true]
      rw [← tolerated, ih others, verifiedOf_cons_failed, findingsOf_cons_failed,
        Board.settleEach_cons]
    | panicked text => exact absurd first id

/-- A verification that all slices pass lists those in reach. -/
theorem verifySequentially_of_passes {lenient : Bool} {provider : Provider σ F C}
    {slices : List Slice} {world : World σ F C} (board : Board)
    (passes : ∀ found ∈ probesInTurn provider slices world, Passes lenient found.2) :
    verifySequentially lenient provider slices board world =
      (.done (verifiedOf provider (probesInTurn provider slices world)),
        board.settleEach (findingsOf (probesInTurn provider slices world)),
        probeThrough provider slices world) := by
  have whole : verifySequentially lenient provider (slices ++ []) board world = _ :=
    verifySequentially_append passes []
  rw [List.append_nil] at whole
  rw [whole]
  simp [verifySequentially, Outcome.map]

/-- When the slices `ahead` have passed, the next one is probed in their world
and the verification goes on with it. -/
theorem verifySequentially_of_split {lenient : Bool} {provider : Provider σ F C}
    {slices : List Slice} {world : World σ F C}
    {ahead behind : List (Slice × Outcome BackendFault F)} {slice : Slice}
    {outcome : Outcome BackendFault F} (board : Board)
    (split : probesInTurn provider slices world = ahead ++ (slice, outcome) :: behind)
    (passes : ∀ found ∈ ahead, Passes lenient found.2) :
    probe provider slice (probeThrough provider (ahead.map (·.1)) world) =
      (outcome, probeThrough provider (ahead.map (·.1) ++ [slice]) world) ∧
    verifySequentially lenient provider slices board world =
      let later := verifySequentially lenient provider (slice :: behind.map (·.1))
        (board.settleEach (findingsOf ahead)) (probeThrough provider (ahead.map (·.1)) world)
      (later.1.map (verifiedOf provider ahead ++ ·), later.2) := by
  obtain ⟨order, front, probed⟩ := probesInTurn_split split
  have passesInTurn : ∀ found ∈ probesInTurn provider (ahead.map (·.1)) world,
      Passes lenient found.2 := by
    rw [front]
    exact passes
  constructor
  · rw [probeThrough_append]
    exact Prod.ext probed.symm rfl
  · rw [order, verifySequentially_append passesInTurn, front]

/-- A strict verification ends at the first slice out of reach: that slice is
settled and named, and those behind it are not looked at. -/
theorem verifySequentially_of_refused {provider : Provider σ F C} {slices : List Slice}
    {world : World σ F C} {ahead behind : List (Slice × Outcome BackendFault F)} {slice : Slice}
    {cause : BackendFault} (board : Board)
    (split : probesInTurn provider slices world = ahead ++ (slice, .failed cause) :: behind)
    (reached : ∀ found ∈ ahead, found.2.isDone = true) :
    verifySequentially false provider slices board world =
      (.failed (outOfReach slice cause),
        board.settleEach (findingsOf (ahead ++ [(slice, .failed cause)])),
        probeThrough provider (ahead.map (·.1) ++ [slice]) world) := by
  obtain ⟨probed, goesOn⟩ := verifySequentially_of_split board split
    fun found member => passes_of_isDone (reached found member)
  rw [goesOn]
  simp only [verifySequentially, probed]
  simp [Outcome.map, findingsOf, Board.settleEach_append, Outcome.isDone]

/-- A verification that a panic leaves has settled the slices ahead of it. -/
theorem verifySequentially_of_panicked {lenient : Bool} {provider : Provider σ F C}
    {slices : List Slice} {world : World σ F C}
    {ahead behind : List (Slice × Outcome BackendFault F)} {slice : Slice} {text : String}
    (board : Board)
    (split : probesInTurn provider slices world = ahead ++ (slice, .panicked text) :: behind)
    (passes : ∀ found ∈ ahead, Passes lenient found.2) :
    verifySequentially lenient provider slices board world =
      (.panicked text, board.settleEach (findingsOf ahead),
        probeThrough provider (ahead.map (·.1) ++ [slice]) world) := by
  obtain ⟨probed, goesOn⟩ := verifySequentially_of_split board split passes
  rw [goesOn]
  simp only [verifySequentially, probed, Outcome.map]

/-! ## The board behind it -/

/-- Slices with places of their own, none settled before, get the statuses that
the probes call for. -/
theorem of_settleEach_findingsOf {board : Board}
    {probes : List (Slice × Outcome BackendFault F)} {found : Slice × Outcome BackendFault F}
    (places : (probes.map (·.1.place)).Nodup) (member : found ∈ probes)
    (fresh : board.of found.1 = .uninitialized) :
    (board.settleEach (findingsOf probes)).of found.1 = .ofReachable found.2.isDone := by
  refine Board.of_settleEach fresh (List.mem_map_of_mem member) fun finding inFindings same => ?_
  obtain ⟨other, inProbes, rfl⟩ := List.mem_map.1 inFindings
  rw [List.inj_on_of_nodup_map places inProbes member same]

/-- A slice whose place no probe was about keeps its status. -/
theorem of_settleEach_findingsOf_of_absent {board : Board} {slice : Slice}
    {probes : List (Slice × Outcome BackendFault F)}
    (absent : slice.place ∉ probes.map (·.1.place)) :
    (board.settleEach (findingsOf probes)).of slice = board.of slice := by
  refine Board.status_settleEach_of_absent fun finding inFindings same => absent ?_
  obtain ⟨other, inProbes, rfl⟩ := List.mem_map.1 inFindings
  exact List.mem_map.2 ⟨other, inProbes, same⟩

end Verifier

end SliceFleet
