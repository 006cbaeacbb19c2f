/-
SliceFleet.Proofs.Calls — a configuration through any sequence of calls.

Only a call for the composite writes the board of statuses or the outcome,
and only while there is no outcome: afterwards both stay as they are
(`afterCalls_of_known`). So an outcome was stored by one call, the first one
that was not left by a panic (`stored_by_one_call`). Nor does any other call ask
anything of the provider (`world_afterCalls`).
-/
import Mathlib.Data.List.Induction
import SliceFleet.Proofs.Building

namespace SliceFleet

/-- What can be asked of a configuration in use. -/
inductive Call (σ F C : Type) where
  | available
  | active
  | lookUp (name : String)
  | list (statuses : Option (List Status))
  | compose (schedule : Schedule)
  | policy
  | distribute (candidates : List String) (masterName : String)
  /-- Not a call: the provider's world changes by other doings. -/
  | meanwhile (change : World σ F C → World σ F C)

/-- Whether a call asks for the composite. -/
def Call.isCompose {σ F C : Type} : Call σ F C → Bool
  | .compose _ => true
  | _ => false

/-- Whether a call leaves the provider's world alone. -/
def Call.isQuiet {σ F C : Type} : Call σ F C → Bool
  | .compose _ | .meanwhile _ => false
  | _ => true

theorem Call.isCompose_iff {σ F C : Type} {call : Call σ F C} :
    call.isCompose = true ↔ ∃ schedule, call = .compose schedule := by
  cases call <;> simp [isCompose]

namespace Configuration

variable {σ F C : Type}

/-- The session behind a call. -/
def afterCall (config : Configuration) (provider : Provider σ F C) (session : Session σ F C) :
    Call σ F C → Session σ F C
  | .available => session
  | .active => (config.activeNames session).2
  | .lookUp name => (config.slice name session).2
  | .list _ => session
  | .compose schedule => (config.connectionFactory provider schedule session).2
  | .policy => (config.distributionPolicy session).2
  | .distribute candidates masterName => (config.distribute candidates masterName session).2
  | .meanwhile change => { session with world := change session.world }

/-- The session behind several calls. -/
def afterCalls (config : Configuration) (provider : Provider σ F C) (session : Session σ F C)
    (calls : List (Call σ F C)) : Session σ F C :=
  calls.foldl (config.afterCall provider) session

variable {config : Configuration} {provider : Provider σ F C} {session : Session σ F C}

theorem afterCalls_append (session : Session σ F C) (earlier later : List (Call σ F C)) :
    config.afterCalls provider session (earlier ++ later) =
      config.afterCalls provider (config.afterCalls provider session earlier) later :=
  List.foldl_append

/-! ## Calls that do not compose -/

theorem activeNames_leaves (config : Configuration) (session : Session σ F C) :
    (config.activeNames session).2.outcome = session.outcome ∧
      (config.activeNames session).2.board = session.board ∧
      (config.activeNames session).2.world = session.world := by
  rw [activeNames]
  split <;> exact ⟨rfl, rfl, rfl⟩

theorem slice_leaves (config : Configuration) (name : String) (session : Session σ F C) :
    (config.slice name session).2.outcome = session.outcome ∧
      (config.slice name session).2.board = session.board ∧
      (config.slice name session).2.world = session.world := by
  rw [slice]
  split
  · exact ⟨rfl, rfl, rfl⟩
  · exact config.activeNames_leaves session

theorem distributionPolicy_leaves (config : Configuration) (session : Session σ F C) :
    (config.distributionPolicy session).2.outcome = session.outcome ∧
      (config.distributionPolicy session).2.board = session.board ∧
      (config.distributionPolicy session).2.world = session.world := by
  rw [distributionPolicy]
  split
  · exact ⟨rfl, rfl, rfl⟩
  · split <;> exact ⟨rfl, rfl, rfl⟩

theorem distribute_leaves (config : Configuration) (candidates : List String) (masterName : String)
    (session : Session σ F C) :
    (config.distribute candidates masterName session).2.outcome = session.outcome ∧
      (config.distribute candidates masterName session).2.board = session.board ∧
      (config.distribute candidates masterName session).2.world = session.world := by
  have leaves := config.distributionPolicy_leaves session
  rcases made : config.distributionPolicy session with ⟨policy, after⟩
  rw [made] at leaves
  cases policy <;> simpa only [distribute, made] using leaves

/-- Only a call for the composite writes the outcome or the board. -/
theorem afterCall_leaves (config : Configuration) (provider : Provider σ F C)
    {call : Call σ F C} (other : call.isCompose = false) (session : Session σ F C) :
    (config.afterCall provider session call).outcome = session.outcome ∧
      (config.afterCall provider session call).board = session.board := by
  cases call with
  | compose schedule => cases other
  | active => exact ⟨(config.activeNames_leaves session).1, (config.activeNames_leaves session).2.1⟩
  | lookUp name =>
    exact ⟨(config.slice_leaves name session).1, (config.slice_leaves name session).2.1⟩
  | policy =>
    exact ⟨(config.distributionPolicy_leaves session).1,
      (config.distributionPolicy_leaves session).2.1⟩
  | distribute candidates masterName =>
    have leaves := config.distribute_leaves candidates masterName session
    exact ⟨leaves.1, leaves.2.1⟩
  | available | list _ | meanwhile _ => exact ⟨rfl, rfl⟩

theorem afterCalls_leaves (config : Configuration) (provider : Provider σ F C)
    {calls : List (Call σ F C)} (others : ∀ call ∈ calls, call.isCompose = false)
    (session : Session σ F C) :
    (config.afterCalls provider session calls).outcome = session.outcome ∧
      (config.afterCalls provider session calls).board = session.board := by
  induction calls generalizing session with
  | nil => exact ⟨rfl, rfl⟩
  | cons call rest ih =>
    obtain ⟨first, later⟩ := List.forall_mem_cons.1 others
    obtain ⟨outcome, board⟩ := config.afterCall_leaves provider first session
    obtain ⟨restOutcome, restBoard⟩ := ih later (config.afterCall provider session call)
    exact ⟨restOutcome.trans outcome, restBoard.trans board⟩

/-- Nothing is asked of the provider by a quiet call. -/
theorem world_afterCall (config : Configuration) (provider : Provider σ F C) {call : Call σ F C}
    (quiet : call.isQuiet = true) (session : Session σ F C) :
    (config.afterCall provider session call).world = session.world := by
  cases call with
  | compose _ | meanwhile _ => cases quiet
  | available | list _ => rfl
  | active => exact (config.activeNames_leaves session).2.2
  | lookUp name => exact (config.slice_leaves name session).2.2
  | policy => exact (config.distributionPolicy_leaves session).2.2
  | distribute candidates masterName =>
    exact (config.distribute_leaves candidates masterName session).2.2

theorem world_afterCalls (config : Configuration) (provider : Provider σ F C)
    {calls : List (Call σ F C)} (quiet : ∀ call ∈ calls, call.isQuiet = true)
    (session : Session σ F C) :
    (config.afterCalls provider session calls).world = session.world := by
  induction calls generalizing session with
  | nil => rfl
  | cons call rest ih =>
    obtain ⟨first, later⟩ := List.forall_mem_cons.1 quiet
    exact (ih later _).trans (config.world_afterCall provider first session)

/-! ## Once there is an outcome -/

variable {outcome : Except SliceFault (Composite F)}

/-- A known outcome stays, and so does the board. -/
theorem afterCall_of_known (config : Configuration) (provider : Provider σ F C)
    (known : session.outcome = some outcome) (call : Call σ F C) :
    (config.afterCall provider session call).outcome = some outcome ∧
      (config.afterCall provider session call).board = session.board := by
  cases composing : call.isCompose with
  | false =>
    obtain ⟨same, board⟩ := config.afterCall_leaves provider
      composing session
    exact ⟨same.trans known, board⟩
  | true =>
    obtain ⟨schedule, rfl⟩ := Call.isCompose_iff.1 composing
    rw [afterCall, connectionFactory_of_known known]
    exact ⟨known, rfl⟩

theorem afterCalls_of_known (config : Configuration) (provider : Provider σ F C)
    (known : session.outcome = some outcome) (calls : List (Call σ F C)) :
    (config.afterCalls provider session calls).outcome = some outcome ∧
      (config.afterCalls provider session calls).board = session.board := by
  induction calls generalizing session with
  | nil => exact ⟨known, rfl⟩
  | cons call rest ih =>
    obtain ⟨stays, board⟩ := config.afterCall_of_known provider known call
    obtain ⟨restStays, restBoard⟩ := ih stays
    exact ⟨restStays, restBoard.trans board⟩

/-- **One call stores the outcome**: there was none before it, and its board is
the last one. -/
theorem stored_by_one_call {calls : List (Call σ F C)} (fresh : session.outcome = none)
    (stored : (config.afterCalls provider session calls).outcome = some outcome) :
    ∃ earlier schedule later, calls = earlier ++ .compose schedule :: later ∧
      (config.afterCalls provider session earlier).outcome = none ∧
      (config.connectionFactory provider schedule
        (config.afterCalls provider session earlier)).2.outcome = some outcome ∧
      (config.afterCalls provider session calls).board =
        (config.connectionFactory provider schedule
          (config.afterCalls provider session earlier)).2.board := by
  induction calls using List.reverseRecOn with
  | nil =>
    rw [afterCalls, List.foldl_nil, fresh] at stored
    cases stored
  | append_singleton rest call ih =>
    rw [afterCalls_append] at stored ⊢
    cases before : (config.afterCalls provider session rest).outcome with
    | some known =>
      -- The outcome is older than the last call, which changes nothing.
      obtain ⟨stays, board⟩ := config.afterCalls_of_known provider
        before [call]
      rw [stays] at stored
      obtain ⟨earlier, schedule, later, rfl, unknown, stores, same⟩ := ih (before.trans stored)
      exact ⟨earlier, schedule, later ++ [call], by simp, unknown, stores, board.trans same⟩
    | none =>
      cases composing : call.isCompose with
      | true =>
        obtain ⟨schedule, rfl⟩ := Call.isCompose_iff.1 composing
        exact ⟨rest, schedule, [], rfl, before, stored, rfl⟩
      | false =>
        have leaves := (config.afterCall_leaves provider composing
          (config.afterCalls provider session rest)).1
        exact absurd (stored.symm.trans (leaves.trans before)) (Option.some_ne_none outcome)

/-! ## As long as there is none -/

theorem unknown_of_append {earlier later : List (Call σ F C)}
    (unknown : (config.afterCalls provider session (earlier ++ later)).outcome = none) :
    (config.afterCalls provider session earlier).outcome = none := by
  cases known : (config.afterCalls provider session earlier).outcome with
  | none => rfl
  | some outcome =>
    rw [afterCalls_append] at unknown
    have stays := (config.afterCalls_of_known provider known later).1
    exact absurd (stays.symm.trans unknown) (Option.some_ne_none outcome)

/-- What every abandoned build keeps of the board holds while nothing is stored. -/
theorem board_of_unknown (Keeps : Board → Prop)
    (kept : ∀ session : Session σ F C, ∀ schedule, Keeps session.board →
      (config.connectionFactory provider schedule session).2.outcome = none →
      Keeps (config.connectionFactory provider schedule session).2.board)
    (start : Keeps session.board) {calls : List (Call σ F C)}
    (unknown : (config.afterCalls provider session calls).outcome = none) :
    Keeps (config.afterCalls provider session calls).board := by
  induction calls using List.reverseRecOn with
  | nil => exact start
  | append_singleton rest call ih =>
    have before := unknown_of_append unknown
    rw [afterCalls_append] at unknown ⊢
    cases composing : call.isCompose with
    | true =>
      obtain ⟨schedule, rfl⟩ := Call.isCompose_iff.1 composing
      exact kept _ schedule (ih before) unknown
    | false =>
      have leaves := (config.afterCall_leaves provider composing
        (config.afterCalls provider session rest)).2
      rw [show config.afterCalls provider (config.afterCalls provider session rest) [call] =
        config.afterCall provider (config.afterCalls provider session rest) call from rfl, leaves]
      exact ih before

/-- Without a panic nothing is stored only while nothing was composed. -/
theorem not_compose_of_unknown {calls : List (Call σ F C)}
    (unknown : (config.afterCalls provider session calls).outcome = none)
    (returned : ∀ earlier schedule later, calls = earlier ++ .compose schedule :: later →
      (config.connectionFactory provider schedule
        (config.afterCalls provider session earlier)).1.returns = true) :
    ∀ call ∈ calls, call.isCompose = false := by
  intro call member
  cases composing : call.isCompose with
  | false => rfl
  | true =>
    obtain ⟨schedule, rfl⟩ := Call.isCompose_iff.1 composing
    obtain ⟨earlier, later, split⟩ := List.append_of_mem member
    obtain ⟨outcome, known⟩ := known_of_returns (returned earlier schedule later split)
    rw [split, List.append_cons] at unknown
    have still := unknown_of_append unknown
    rw [afterCalls_append] at still
    exact absurd (known.symm.trans still) (Option.some_ne_none outcome)

end Configuration

end SliceFleet
