/-
SliceFleet.Proofs.Inspections — the statuses through any run of inspections.

The slices of a registry may be verified in any selection and order, in either
mode, strictly or not, by providers that change in between, and they may be
probed past the board. Of all these probes some are settled
(`Verifier.settled`): in turn those up to the first that ends the verification,
which is itself left out if it panicked; at once all of them. The board behind a
run is the blank board with the settled probes of the run settled on it, one
after the other (`Survey.board_afterAll`), so `boardAt` names every board there
was. From that `statuses_settle_once` reads off when and how a slice is settled.

Whatever a board says, the slices with each of the three statuses share out the
registry (`Registry.splitBy`).
-/
import SliceFleet.Proofs.LenientRuns

namespace SliceFleet

variable {σ F C : Type}

/-! ## The probes that a verification settles -/

namespace Verifier

/-- Of probes in turn those that are settled: all up to the first that ends the verification. -/
def settledInTurn (lenient : Bool) :
    List (Slice × Outcome BackendFault F) → List (Slice × Outcome BackendFault F)
  | [] => []
  | (slice, .done factory) :: rest => (slice, .done factory) :: settledInTurn lenient rest
  | (slice, .failed cause) :: rest =>
    (slice, .failed cause) :: if lenient then settledInTurn lenient rest else []
  | (_, .panicked _) :: _ => []

/-- The probes that a verification settles, in the order in which it does. -/
def settled (verifier : Verifier) (provider : Provider σ F C) (slices : List Slice)
    (world : World σ F C) : List (Slice × Outcome BackendFault F) :=
  match verifier.mode with
  | .sequential => settledInTurn verifier.lenient (probesInTurn provider slices world)
  | .parallel => probesAtOnce verifier.schedule provider slices world

theorem settledInTurn_prefix (lenient : Bool) (probes : List (Slice × Outcome BackendFault F)) :
    settledInTurn lenient probes <+: probes := by
  induction probes with
  | nil => exact List.prefix_rfl
  | cons found rest ih =>
    obtain ⟨slice, outcome⟩ := found
    cases outcome with
    | done factory => exact (List.prefix_cons_inj _).2 ih
    | failed cause =>
      cases lenient with
      | true => exact (List.prefix_cons_inj _).2 ih
      | false => exact (List.prefix_cons_inj _).2 List.nil_prefix
    | panicked text => exact List.nil_prefix

theorem settled_prefix (verifier : Verifier) (provider : Provider σ F C) (slices : List Slice)
    (world : World σ F C) :
    verifier.settled provider slices world <+: verifier.probes provider slices world := by
  obtain ⟨lenient, mode, schedule⟩ := verifier
  cases mode with
  | sequential => exact settledInTurn_prefix lenient _
  | parallel => exact List.prefix_rfl

theorem slice_mem_of_mem_settled {verifier : Verifier} {provider : Provider σ F C}
    {slices : List Slice} {world : World σ F C} {found : Slice × Outcome BackendFault F}
    (member : found ∈ verifier.settled provider slices world) : found.1 ∈ slices := by
  have probed := (verifier.settled_prefix provider slices world).subset member
  rw [← verifier.map_fst_probes provider slices world]
  exact List.mem_map_of_mem probed

theorem board_verifySequentially (lenient : Bool) (provider : Provider σ F C)
    (slices : List Slice) (board : Board) (world : World σ F C) :
    (verifySequentially lenient provider slices board world).2.1 =
      board.settleEach
        (findingsOf (settledInTurn lenient (probesInTurn provider slices world))) := by
  induction slices generalizing board world with
  | nil => rfl
  | cons slice rest ih =>
    rcases probed : probe provider slice world with ⟨outcome, after⟩
    simp only [verifySequentially, probesInTurn, probed]
    cases outcome with
    | done factory => exact ih _ _
    | failed cause =>
      cases lenient with
      | true => exact ih _ _
      | false => rfl
    | panicked text => rfl

/-- **The board behind a verification**, however it ends. -/
theorem board_verify (verifier : Verifier) (provider : Provider σ F C) (slices : List Slice)
    (board : Board) (world : World σ F C) :
    (verifier.verify provider slices board world).2.1 =
      board.settleEach (findingsOf (verifier.settled provider slices world)) := by
  obtain ⟨lenient, mode, schedule⟩ := verifier
  cases mode with
  | sequential => exact board_verifySequentially lenient provider slices board world
  | parallel =>
    exact congrArg Prod.fst (verifyInParallel_snd lenient schedule provider slices board world)

end Verifier

/-! ## Inspections -/

/-- One of the slices of a registry. -/
abbrev Registry.Own (registry : Registry) : Type :=
  { slice : Slice // slice ∈ registry.slices }

/-- What may be done about the slices of a registry. -/
inductive Inspection (σ F C : Type) (registry : Registry) where
  /-- Slices are verified, in this order, also repeatedly. -/
  | verify (provider : Provider σ F C) (verifier : Verifier) (slices : List registry.Own)
  /-- A slice is probed, and the board is not told. -/
  | probe (provider : Provider σ F C) (slice : registry.Own)
  /-- The backends change by themselves. -/
  | meanwhile (change : σ → σ)

/-- What changes through a run of inspections. -/
structure Survey (σ F C : Type) where
  board : Board
  world : World σ F C

namespace Survey

variable {registry : Registry}

/-- Nothing was inspected yet. -/
def start (world : World σ F C) : Survey σ F C :=
  ⟨.blank, world⟩

def after (survey : Survey σ F C) : Inspection σ F C registry → Survey σ F C
  | .verify provider verifier slices =>
    let (_, board, world) :=
      verifier.verify provider (slices.map (·.1)) survey.board survey.world
    ⟨board, world⟩
  | .probe provider slice => { survey with world := (probe provider slice.1 survey.world).2 }
  | .meanwhile change => { survey with world.backend := change survey.world.backend }

def afterAll (survey : Survey σ F C) (steps : List (Inspection σ F C registry)) : Survey σ F C :=
  steps.foldl after survey

/-- The probes that an inspection settles. -/
def settledBy (survey : Survey σ F C) :
    Inspection σ F C registry → List (Slice × Outcome BackendFault F)
  | .verify provider verifier slices =>
    verifier.settled provider (slices.map (·.1)) survey.world
  | .probe _ _ => []
  | .meanwhile _ => []

/-- The probes that a run of inspections settles, oldest first. -/
def settledByAll (survey : Survey σ F C) :
    List (Inspection σ F C registry) → List (Slice × Outcome BackendFault F)
  | [] => []
  | step :: rest => survey.settledBy step ++ (survey.after step).settledByAll rest

theorem settledByAll_append (survey : Survey σ F C)
    (ahead behind : List (Inspection σ F C registry)) :
    survey.settledByAll (ahead ++ behind) =
      survey.settledByAll ahead ++ (survey.afterAll ahead).settledByAll behind := by
  induction ahead generalizing survey with
  | nil => rfl
  | cons step rest ih =>
    simp only [List.cons_append, settledByAll, ih, List.append_assoc]
    rfl

/-- One inspection settles what it settles, and changes nothing else of the board. -/
theorem board_after (survey : Survey σ F C) (step : Inspection σ F C registry) :
    (survey.after step).board =
      survey.board.settleEach (Verifier.findingsOf (survey.settledBy step)) := by
  cases step with
  | verify provider verifier slices => exact verifier.board_verify provider _ _ _
  | probe provider slice => rfl
  | meanwhile change => rfl

/-- **The board behind a run** has the settled probes of the run on it. -/
theorem board_afterAll (survey : Survey σ F C) (steps : List (Inspection σ F C registry)) :
    (survey.afterAll steps).board =
      survey.board.settleEach (Verifier.findingsOf (survey.settledByAll steps)) := by
  induction steps generalizing survey with
  | nil => rfl
  | cons step rest ih =>
    calc ((survey.after step).afterAll rest).board
      _ = (survey.after step).board.settleEach
            (Verifier.findingsOf ((survey.after step).settledByAll rest)) := ih _
      _ = _ := by
        rw [board_after, ← Board.settleEach_append, settledByAll, Verifier.findingsOf,
          Verifier.findingsOf, Verifier.findingsOf, List.map_append]

/-- Whatever was settled was settled by a verification of the run. -/
theorem settled_of_mem {survey : Survey σ F C} {steps : List (Inspection σ F C registry)}
    {found : Slice × Outcome BackendFault F} (member : found ∈ survey.settledByAll steps) :
    ∃ ahead provider verifier slices behind,
      steps = ahead ++ .verify provider verifier slices :: behind ∧
        found ∈ verifier.settled provider (slices.map (·.1)) (survey.afterAll ahead).world := by
  induction steps generalizing survey with
  | nil => cases member
  | cons step rest ih =>
    rcases List.mem_append.1 member with here | later
    · cases step with
      | verify provider verifier slices => exact ⟨[], provider, verifier, slices, rest, rfl, here⟩
      | probe provider slice => cases here
      | meanwhile change => cases here
    · obtain ⟨ahead, provider, verifier, slices, behind, rfl, among⟩ := ih later
      exact ⟨step :: ahead, provider, verifier, slices, behind, rfl, among⟩

/-- Only slices of the registry are settled. -/
theorem mem_slices_of_settled {survey : Survey σ F C}
    {steps : List (Inspection σ F C registry)} {found : Slice × Outcome BackendFault F}
    (member : found ∈ survey.settledByAll steps) : found.1 ∈ registry.slices := by
  obtain ⟨ahead, provider, verifier, slices, behind, -, among⟩ := settled_of_mem member
  obtain ⟨own, -, same⟩ := List.mem_map.1 (Verifier.slice_mem_of_mem_settled among)
  rw [← same]
  exact own.2

end Survey

/-! ## Every board there was -/

section Moments

variable {log : List (Slice × Outcome BackendFault F)} {slice : Slice}

/-- The board when so many of the probes were settled. -/
def boardAt (log : List (Slice × Outcome BackendFault F)) (moment : Nat) : Board :=
  Board.blank.settleEach (Verifier.findingsOf (log.take moment))

/-- The first of these probes that is one of the slice settles it, and it stays so. -/
def SettledByFirst (log : List (Slice × Outcome BackendFault F)) (slice : Slice) : Prop :=
  ((∀ found ∈ log, found.1 ≠ slice) ∧ ∀ moment, (boardAt log moment).of slice = .uninitialized) ∨
    ∃ ahead outcome behind, log = ahead ++ (slice, outcome) :: behind ∧
      (∀ found ∈ ahead, found.1 ≠ slice) ∧
      ∀ moment, (boardAt log moment).of slice =
        if moment ≤ ahead.length then .uninitialized else .ofReachable outcome.isDone

/-- As long as no probe of the slice was settled, it is not verified. -/
theorem of_boardAt_of_absent {moment : Nat}
    (absent : ∀ found ∈ log.take moment, found.1.place ≠ slice.place) :
    (boardAt log moment).of slice = .uninitialized := by
  refine Board.status_settleEach_of_absent fun finding inFindings => ?_
  obtain ⟨found, member, rfl⟩ := List.mem_map.1 inFindings
  exact absent found member

/-- From the moment when its first probe was settled, a slice has the status of that one. -/
theorem of_boardAt_of_first {ahead behind : List (Slice × Outcome BackendFault F)}
    {outcome : Outcome BackendFault F} {moment : Nat}
    (split : log = ahead ++ (slice, outcome) :: behind)
    (absent : ∀ found ∈ ahead, found.1.place ≠ slice.place) (later : ahead.length < moment) :
    (boardAt log moment).of slice = .ofReachable outcome.isDone := by
  obtain ⟨more, rfl⟩ := Nat.exists_eq_add_of_lt later
  have settled : log.take (ahead.length + more + 1) =
      ahead ++ (slice, outcome) :: behind.take more := by
    rw [split, Nat.add_assoc, List.take_length_add_append, List.take_succ_cons]
  unfold boardAt
  rw [settled, Verifier.findingsOf, List.map_append, List.map_cons]
  refine Board.of_settleEach_of_first _ rfl fun finding inFindings => ?_
  obtain ⟨found, member, rfl⟩ := List.mem_map.1 inFindings
  exact absent found member

/-- **Every slice of the registry is settled once**, by its first probe, or never. -/
theorem settledByFirst {registry : Registry} (own : ∀ found ∈ log, found.1 ∈ registry.slices)
    (member : slice ∈ registry.slices) : SettledByFirst log slice := by
  have apart : ∀ found ∈ log, found.1 ≠ slice → found.1.place ≠ slice.place :=
    fun found inLog other same => other (Registry.eq_of_place_eq (own found inLog) member same)
  by_cases probed : slice ∈ log.map (·.1)
  · obtain ⟨before, after, split, first⟩ := List.eq_append_cons_of_mem probed
    obtain ⟨ahead, rest, rfl, rfl, back⟩ := List.map_eq_append_iff.1 split
    obtain ⟨⟨slice, outcome⟩, behind, rfl, rfl, rfl⟩ := List.map_eq_cons_iff.1 back
    have others : ∀ found ∈ ahead, found.1 ≠ slice := by
      intro found inAhead same
      have among : found.1 ∈ ahead.map (·.1) := List.mem_map_of_mem inAhead
      rw [same] at among
      exact first among
    have elsewhere : ∀ found ∈ ahead, found.1.place ≠ slice.place := fun found inAhead =>
      apart found (List.mem_append_left _ inAhead) (others found inAhead)
    refine .inr ⟨ahead, outcome, behind, rfl, others, fun moment => ?_⟩
    split
    · rename_i early
      refine of_boardAt_of_absent fun found inTaken => elsewhere found ?_
      rw [List.take_append_of_le_length early] at inTaken
      exact List.mem_of_mem_take inTaken
    · rename_i late
      exact of_boardAt_of_first rfl elsewhere (Nat.lt_of_not_le late)
  · have others : ∀ found ∈ log, found.1 ≠ slice := by
      rintro found inLog rfl
      exact probed (List.mem_map_of_mem inLog)
    refine .inl ⟨others, fun moment => of_boardAt_of_absent fun found inTaken => ?_⟩
    have inLog := List.mem_of_mem_take inTaken
    exact apart found inLog (others found inLog)

end Moments

/-! ## The slices by status -/

namespace Registry

/-- The slices with each of the three statuses share out the registry: each list is in the
order of the registry, no two have a slice in common, and together they have every slice once. -/
structure SplitBy (registry : Registry) (board : Board) : Prop where
  ordered : ∀ status, (registry.withStatus board [status]).Sublist registry.slices
  disjoint : ∀ one other, one ≠ other →
    (registry.withStatus board [one]).Disjoint (registry.withStatus board [other])
  whole : (registry.withStatus board [.uninitialized] ++ registry.withStatus board [.active] ++
    registry.withStatus board [.inactive]).Perm registry.slices

theorem mem_withStatus_singleton {registry : Registry} {board : Board} {status : Status}
    {slice : Slice} : slice ∈ registry.withStatus board [status] ↔
      slice ∈ registry.slices ∧ board.of slice = status := by
  simp [withStatus]

/-- **Any board splits the registry**, whatever statuses it gives. -/
theorem splitBy (registry : Registry) (board : Board) : registry.SplitBy board where
  ordered _ := List.filter_sublist
  disjoint one other differ slice inOne inOther := by
    have first := (mem_withStatus_singleton.1 inOne).2
    have second := (mem_withStatus_singleton.1 inOther).2
    exact differ (first.symm.trans second)
  whole := by
    unfold withStatus
    induction registry.slices with
    | nil => exact .nil
    | cons slice rest ih =>
      cases status : board.of slice with
      | uninitialized => simpa [List.filter_cons, status] using ih
      | active =>
        rw [List.append_assoc] at ih
        simpa [List.filter_cons, status] using List.perm_middle.trans (.cons slice ih)
      | inactive => simpa [List.filter_cons, status] using List.perm_middle.trans (.cons slice ih)

end Registry

/-! ## Any run of inspections -/

/-- How the statuses come about through a run of inspections. -/
structure StatusesSettleOnce (registry : Registry) (world : World σ F C)
    (steps : List (Inspection σ F C registry)) : Prop where
  /-- The board behind every part of the run is the one when its probes were settled. -/
  reached : ∀ ahead behind, steps = ahead ++ behind →
    ((Survey.start world).afterAll ahead).board =
      boardAt ((Survey.start world).settledByAll steps)
        ((Survey.start world).settledByAll ahead).length
  /-- What was settled of a slice is what a verification of the run has found by probing it. -/
  found : ∀ entry ∈ (Survey.start world).settledByAll steps,
    ∃ ahead provider verifier slices behind,
      steps = ahead ++ .verify provider verifier slices :: behind ∧
        entry.1 ∈ slices.map Subtype.val ∧
        ∃ before, ReachedByProbes provider (slices.map Subtype.val)
            ((Survey.start world).afterAll ahead).world before ∧
          FoundBy provider entry.1 before entry.2
  once : ∀ slice ∈ registry.slices,
    SettledByFirst ((Survey.start world).settledByAll steps) slice
  /-- A direct probe leaves the board as it is. -/
  direct : ∀ ahead provider slice behind, steps = ahead ++ .probe provider slice :: behind →
    ((Survey.start world).afterAll (ahead ++ [.probe provider slice])).board =
      ((Survey.start world).afterAll ahead).board
  split : ∀ moment, registry.SplitBy (boardAt ((Survey.start world).settledByAll steps) moment)

/-- **A status is settled once**: through any run of inspections, each slice gets the status
that the first of its settled probes calls for, and keeps it. -/
theorem statuses_settle_once (registry : Registry) (world : World σ F C)
    (steps : List (Inspection σ F C registry)) : StatusesSettleOnce registry world steps where
  reached := by
    rintro ahead behind rfl
    rw [Survey.board_afterAll, boardAt, Survey.settledByAll_append, List.take_left]
    rfl
  found := by
    rintro ⟨slice, outcome⟩ inLog
    obtain ⟨ahead, provider, verifier, slices, behind, split, among⟩ := Survey.settled_of_mem inLog
    have probed := (verifier.settled_prefix provider _ _).subset among
    exact ⟨ahead, provider, verifier, slices, behind, split,
      Verifier.slice_mem_of_mem_settled among, Verifier.probed_of_mem_probes probed⟩
  once slice member := settledByFirst (fun found => Survey.mem_slices_of_settled) member
  direct := by
    rintro ahead provider slice behind -
    rw [Survey.board_afterAll, Survey.board_afterAll, Survey.settledByAll_append]
    simp [Survey.settledByAll, Survey.settledBy]
  split moment := registry.splitBy _

namespace Configuration

/-- The three regions are inspected: strictly until the second one panics, then the first one
is probed directly, and last all of them are verified again and the third one twice. -/
def changeable : List (Inspection Simulation.Field Simulation.SimulatedFactory
    Simulation.SimulatedConnection (regions true).registry) :=
  let own := (regions true).registry.slices.attach
  [.verify Simulation.provider ⟨false, .sequential, .inOrder⟩ own,
    .probe Simulation.provider ⟨(regions true).registry.first, (regions true).registry.first_mem⟩,
    .verify Simulation.provider ⟨true, .sequential, .inOrder⟩ (own ++ own.drop 2)]

/-- The first region was settled before it refused, so it stays active. -/
theorem changeable_settles_once :
    let start := Survey.start (.initial flickering)
    (start.settledByAll changeable).map (fun found => (found.1.name, found.2.isDone)) =
        [("east", true), ("east", false), ("north", true), ("west", false), ("west", false)] ∧
      (regions true).registry.slices.map (start.afterAll changeable).board.of =
        [.active, .active, .inactive] ∧
      StatusesSettleOnce (regions true).registry (.initial flickering) changeable := by
  refine ⟨?_, ?_, statuses_settle_once _ _ _⟩
  · decide +kernel
  · decide +kernel

end Configuration

end SliceFleet
