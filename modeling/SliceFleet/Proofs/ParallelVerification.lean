/-
SliceFleet.Proofs.ParallelVerification — probing all slices, then settling all.

The threads run in any order, but their reports are put back into the order
of the slices: sorting by number undoes every schedule (`byNumber_of_perm`).
`probesAtOnce` lists the slices with what their threads report; a
panic is a report like any other, so every one of these probes returns.

Unlike a verification in turn, this one settles all slices before it
answers. `verifyInParallel_of_passes` and `verifyInParallel_of_refused` are
otherwise worded like their counterparts.
-/
import SliceFleet.Proofs.SequentialVerification

namespace SliceFleet.Verifier

variable {σ F C : Type}

/-! ## Settling reports -/

/-- Reports as probes that returned. -/
def probesOf (reports : List (Slice × Except BackendFault F)) :
    List (Slice × Outcome BackendFault F) :=
  reports.map fun report => (report.1, .ofExcept report.2)

theorem probesOf_cons (slice : Slice) (report : Except BackendFault F)
    (rest : List (Slice × Except BackendFault F)) :
    probesOf ((slice, report) :: rest) = (slice, .ofExcept report) :: probesOf rest := rfl

/-- All slices are settled, whatever was reported. -/
theorem board_settleAll (lenient : Bool) (provider : Provider σ F C)
    (reports : List (Slice × Except BackendFault F)) (board : Board) :
    (settleAll lenient provider reports board).2.2 =
      board.settleEach (findingsOf (probesOf reports)) := by
  induction reports generalizing board with
  | nil => rfl
  | cons report rest ih =>
    obtain ⟨slice, report⟩ := report
    cases report with
    | ok factory =>
      simp only [settleAll, ih]
      rfl
    | error cause =>
      simp only [settleAll, ih]
      rfl

theorem settleAll_of_passes {lenient : Bool} (provider : Provider σ F C)
    {reports : List (Slice × Except BackendFault F)} (board : Board)
    (passes : ∀ found ∈ probesOf reports, Passes lenient found.2) :
    settleAll lenient provider reports board =
      (verifiedOf provider (probesOf reports), none,
        board.settleEach (findingsOf (probesOf reports))) := by
  induction reports generalizing board with
  | nil => rfl
  | cons report rest ih =>
    obtain ⟨slice, report⟩ := report
    rw [probesOf_cons] at passes
    obtain ⟨first, others⟩ := List.forall_mem_cons.1 passes
    cases report with
    | ok factory =>
      simp only [settleAll, ih _ others]
      rfl
    | error cause =>
      have tolerated : lenient = true := first
      subst tolerated
      simp only [settleAll, ih _ others, if_true]
      rfl

/-- The fault of a strict verification is that of the first slice out of reach. -/
theorem fault_settleAll {provider : Provider σ F C}
    {reports : List (Slice × Except BackendFault F)}
    {ahead behind : List (Slice × Outcome BackendFault F)} {slice : Slice} {cause : BackendFault}
    (board : Board) (split : probesOf reports = ahead ++ (slice, .failed cause) :: behind)
    (reached : ∀ found ∈ ahead, found.2.isDone = true) :
    (settleAll false provider reports board).2.1 = some (outOfReach slice cause) := by
  induction ahead generalizing reports board with
  | nil =>
    cases reports with
    | nil => cases split
    | cons report rest =>
      obtain ⟨other, report⟩ := report
      obtain ⟨same, -⟩ := List.cons.inj split
      cases report with
      | ok factory => cases same
      | error fault =>
        cases same
        rfl
  | cons found ahead ih =>
    obtain ⟨first, others⟩ := List.forall_mem_cons.1 reached
    cases reports with
    | nil => cases split
    | cons report rest =>
      obtain ⟨other, report⟩ := report
      obtain ⟨same, back⟩ := List.cons.inj split
      rw [← same] at first
      cases report with
      | ok factory => exact ih (board.settle other true) back others
      | error fault => cases first

/-! ## Reports in the order of the slices -/

/-- The slices, numbered in order. -/
def numbered (slices : List Slice) : List (Nat × Slice) :=
  slices.zipIdx.map fun (slice, number) => (number, slice)

/-- Entries sorted by number. -/
def byNumber {α : Type} (entries : List (Nat × α)) : List (Nat × α) :=
  entries.mergeSort fun a b => decide (a.1 ≤ b.1)

/-- Sorting looks at the numbers only. -/
theorem map_byNumber {α β : Type} (f : α → β) (entries : List (Nat × α)) :
    (byNumber entries).map (Prod.map id f) = byNumber (entries.map (Prod.map id f)) :=
  List.map_mergeSort fun _ _ _ _ => rfl

/-- **Sorting undoes every schedule**: entries with ascending numbers are what
any permutation of them is sorted to. -/
theorem byNumber_of_perm {α : Type} {entries arranged : List (Nat × α)}
    (ascending : entries.Pairwise fun a b => a.1 < b.1) (perm : arranged.Perm entries) :
    byNumber arranged = entries := by
  have sorted : (byNumber arranged).Pairwise fun a b => a.1 ≤ b.1 := by
    simpa [byNumber] using @List.pairwise_mergeSort (Nat × α) (fun a b => decide (a.1 ≤ b.1))
      (fun a b c one two => by simp only [decide_eq_true_eq] at *; omega)
      (fun a b => by simp only [Bool.or_eq_true, decide_eq_true_eq]; omega) arranged
  have same : (byNumber arranged).Perm entries := (List.mergeSort_perm arranged _).trans perm
  have apart : (entries.map (·.1)).Nodup :=
    List.pairwise_map.2 (ascending.imp Nat.ne_of_lt)
  refine same.eq_of_pairwise ?_ sorted (ascending.imp Nat.le_of_lt)
  intro a b inSorted inEntries below above
  exact List.inj_on_of_nodup_map apart (same.mem_iff.1 inSorted) inEntries
    (Nat.le_antisymm below above)

theorem map_fst_numbered (slices : List Slice) :
    (numbered slices).map (·.1) = List.range slices.length := by
  rw [numbered, List.map_map, List.range_eq_range']
  exact List.zipIdx_map_snd 0 slices

theorem map_snd_numbered (slices : List Slice) : (numbered slices).map (·.2) = slices := by
  rw [numbered, List.map_map]
  exact List.zipIdx_map_fst 0 slices

theorem getElem?_numbered (slices : List Slice) (number : Nat) :
    (numbered slices)[number]? = slices[number]?.map (number, ·) := by
  simp [numbered, Function.comp_def]

theorem numbered_ascending (slices : List Slice) :
    (numbered slices).Pairwise fun a b => a.1 < b.1 := by
  rw [← List.pairwise_map, map_fst_numbered]
  exact List.pairwise_lt_range

/-- Every thread is that of one of the slices. -/
theorem slice_mem_of_mem_arrange {schedule : Schedule} {slices : List Slice}
    {thread : Nat × Slice} (member : thread ∈ schedule.arrange (numbered slices)) :
    thread.2 ∈ slices := by
  have inNumbered := (schedule.perm (numbered slices)).mem_iff.1 member
  obtain ⟨⟨slice, number⟩, inSlices, rfl⟩ := List.mem_map.1 inNumbered
  exact List.fst_mem_of_mem_zipIdx inSlices

/-! ## How the verification goes -/

theorem probeAll_eq (schedule : Schedule) (provider : Provider σ F C) (slices : List Slice)
    (world : World σ F C) :
    (probeAll schedule provider slices world).1 =
      (byNumber (runThreads provider (schedule.arrange (numbered slices)) world).1).map (·.2) :=
  rfl

/-- The slices with what their threads report, in the order of the slices. -/
def probesAtOnce (schedule : Schedule) (provider : Provider σ F C) (slices : List Slice)
    (world : World σ F C) : List (Slice × Outcome BackendFault F) :=
  probesOf (slices.zip (probeAll schedule provider slices world).1)

theorem length_runThreads (provider : Provider σ F C) (threads : List (Nat × Slice))
    (world : World σ F C) : (runThreads provider threads world).1.length = threads.length := by
  induction threads generalizing world with
  | nil => rfl
  | cons thread rest ih => simp [runThreads, ih]

/-- There is one report a slice. -/
theorem length_probeAll (schedule : Schedule) (provider : Provider σ F C) (slices : List Slice)
    (world : World σ F C) : (probeAll schedule provider slices world).1.length = slices.length := by
  simp only [probeAll, List.length_map, List.length_mergeSort, length_runThreads,
    (schedule.perm _).length_eq, List.length_zipIdx]

@[simp] theorem map_fst_probesAtOnce (schedule : Schedule) (provider : Provider σ F C)
    (slices : List Slice) (world : World σ F C) :
    (probesAtOnce schedule provider slices world).map (·.1) = slices := by
  have enough := Nat.le_of_eq (length_probeAll schedule provider slices world).symm
  rw [probesAtOnce, probesOf, List.map_map]
  exact List.map_fst_zip enough

/-- A panic stays within its thread, so every probe returns. -/
theorem returns_of_mem_probesOf {reports : List (Slice × Except BackendFault F)}
    {found : Slice × Outcome BackendFault F} (member : found ∈ probesOf reports) :
    found.2.returns = true := by
  obtain ⟨⟨slice, report⟩, -, rfl⟩ := List.mem_map.1 member
  cases report <;> rfl

/-- **Behind the verification** all slices are settled by the reports, whatever it answers. -/
theorem verifyInParallel_snd (lenient : Bool) (schedule : Schedule) (provider : Provider σ F C)
    (slices : List Slice) (board : Board) (world : World σ F C) :
    (verifyInParallel lenient schedule provider slices board world).2 =
      (board.settleEach (findingsOf (probesAtOnce schedule provider slices world)),
        (probeAll schedule provider slices world).2) := by
  rw [probesAtOnce, ← board_settleAll lenient provider]
  unfold verifyInParallel
  dsimp only
  split <;> rfl

/-- A verification that all slices pass lists those in reach. -/
theorem verifyInParallel_of_passes {lenient : Bool} {schedule : Schedule}
    {provider : Provider σ F C} {slices : List Slice} {world : World σ F C} (board : Board)
    (passes : ∀ found ∈ probesAtOnce schedule provider slices world, Passes lenient found.2) :
    verifyInParallel lenient schedule provider slices board world =
      (.done (verifiedOf provider (probesAtOnce schedule provider slices world)),
        board.settleEach (findingsOf (probesAtOnce schedule provider slices world)),
        (probeAll schedule provider slices world).2) := by
  simp only [verifyInParallel, settleAll_of_passes provider board passes]
  rfl

/-- A strict verification names the first slice out of reach, but it settles all. -/
theorem verifyInParallel_of_refused {schedule : Schedule} {provider : Provider σ F C}
    {slices : List Slice} {world : World σ F C}
    {ahead behind : List (Slice × Outcome BackendFault F)} {slice : Slice} {cause : BackendFault}
    (board : Board)
    (split : probesAtOnce schedule provider slices world =
      ahead ++ (slice, .failed cause) :: behind)
    (reached : ∀ found ∈ ahead, found.2.isDone = true) :
    verifyInParallel false schedule provider slices board world =
      (.failed (outOfReach slice cause),
        board.settleEach (findingsOf (probesAtOnce schedule provider slices world)),
        (probeAll schedule provider slices world).2) := by
  simp only [verifyInParallel, fault_settleAll board split reached, board_settleAll]
  rfl

end SliceFleet.Verifier
