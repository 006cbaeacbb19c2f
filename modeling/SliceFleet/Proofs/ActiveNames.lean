/-
SliceFleet.Proofs.ActiveNames — the names of the active slices, asked at any time.

Names are kept from the first time that there are any. While a verification
is running, or after a panic left one, these may be the names of some slices
only, and a look-up of an unknown name keeps them, too. `answer_after_moves`:
what is answered are the names as they were when they were first asked for
and there were any, a part of those that are active now; it is all of them
exactly if every time they were asked for there were none or all.
-/
import SliceFleet.Simulation
import SliceFleet.Proofs.DistinctNames
import SliceFleet.Proofs.Statuses
import SliceFleet.Proofs.StepByStep

namespace SliceFleet

variable {σ F C : Type}

/-- Whether a move asks for the names of the active slices. -/
def Move.asks (config : Configuration) : Move σ F C → Bool
  | .ask => true
  | .lookUp name => (config.registry.get? name).isNone
  | _ => false

namespace Configuration

variable {config : Configuration} {provider : Provider σ F C}

/-! ## What a move leaves -/

theorem activeNames_fst (config : Configuration) (session : Session σ F C) :
    (config.activeNames session).1 =
      if session.activeNames = [] then config.registry.activeNames session.board
      else session.activeNames := by
  rw [activeNames]
  cases session.activeNames <;> rfl

/-- What is answered is kept, and nothing else changes. -/
theorem activeNames_snd (config : Configuration) (session : Session σ F C) :
    (config.activeNames session).2 =
      { session with activeNames := (config.activeNames session).1 } := by
  rw [activeNames]
  split <;> rfl

theorem slice_snd (config : Configuration) (name : String) (session : Session σ F C) :
    (config.slice name session).2 =
      if (config.registry.get? name).isNone then (config.activeNames session).2 else session := by
  rw [slice]
  cases config.registry.get? name <;> rfl

/-- A move that asks keeps the answer and leaves all else. -/
theorem afterMove_of_asks (provider : Provider σ F C) (scene : Scene σ F C) {move : Move σ F C}
    (asks : move.asks config = true) :
    config.afterMove provider scene move = { scene with session :=
      { scene.session with activeNames := (config.activeNames scene.session).1 } } := by
  cases move with
  | ask => rw [afterMove, activeNames_snd]
  | lookUp name =>
    have unknown : (config.registry.get? name).isNone = true := asks
    rw [afterMove, slice_snd, if_pos unknown, activeNames_snd]
  | enter _ | advance | meanwhile _ => cases asks

/-- Looking up a known name leaves everything. -/
theorem afterMove_of_named (provider : Provider σ F C) (scene : Scene σ F C) {name : String}
    (named : (Move.lookUp name : Move σ F C).asks config = false) :
    config.afterMove provider scene (.lookUp name) = scene := by
  have known : ¬ (config.registry.get? name).isNone = true := by
    rw [show (config.registry.get? name).isNone = false from named]
    exact Bool.false_ne_true
  rw [afterMove, slice_snd, if_neg known]

/-- A move that does not ask keeps the names, and boards only grow. -/
theorem afterMove_of_not_asks (provider : Provider σ F C) (scene : Scene σ F C)
    {move : Move σ F C} (other : move.asks config = false) :
    (config.afterMove provider scene move).session.activeNames = scene.session.activeNames ∧
      scene.session.board.Extends (config.afterMove provider scene move).session.board := by
  cases move with
  | ask => cases other
  | lookUp name =>
    rw [afterMove_of_named provider scene other]
    exact ⟨rfl, .refl _⟩
  | enter schedule =>
    rw [afterMove]
    split
    · obtain ⟨world, stage, begins⟩ := config.begin_eq provider schedule scene.session
      rw [begins]
      exact ⟨rfl, .refl _⟩
    · exact ⟨rfl, .refl _⟩
  | advance =>
    rw [afterMove]
    split
    next => exact ⟨rfl, .refl _⟩
    next stage _ =>
      obtain ⟨world, board, outcome, later, steps, grows, -⟩ :=
        config.advance_eq provider scene.session stage
      rw [steps]
      exact ⟨rfl, grows⟩
  | meanwhile change => exact ⟨rfl, .refl _⟩

/-! ## What was seen when names were asked for -/

/-- The names that were active each time that they were asked for. -/
def seenNames (config : Configuration) (provider : Provider σ F C) :
    Scene σ F C → List (Move σ F C) → List (List String)
  | _, [] => []
  | scene, move :: rest =>
    if move.asks config then
      config.registry.activeNames scene.session.board ::
        seenNames config provider (config.afterMove provider scene move) rest
    else seenNames config provider (config.afterMove provider scene move) rest

theorem afterMove_extends (config : Configuration) (provider : Provider σ F C)
    (scene : Scene σ F C) (move : Move σ F C) :
    scene.session.board.Extends (config.afterMove provider scene move).session.board := by
  cases asks : move.asks config with
  | true =>
    rw [afterMove_of_asks provider scene asks]
    exact .refl _
  | false => exact (afterMove_of_not_asks provider scene asks).2

theorem afterMoves_extends (config : Configuration) (provider : Provider σ F C)
    (scene : Scene σ F C) (moves : List (Move σ F C)) :
    scene.session.board.Extends (config.afterMoves provider scene moves).session.board := by
  induction moves generalizing scene with
  | nil => exact .refl _
  | cons move rest ih => exact (config.afterMove_extends provider scene move).trans (ih _)

/-- What is seen lies between what was active at first and what is in the end. -/
theorem seenNames_between {scene : Scene σ F C} {moves : List (Move σ F C)} {names : List String}
    (seen : names ∈ seenNames config provider scene moves) :
    (config.registry.activeNames scene.session.board).Sublist names ∧
      names.Sublist (config.registry.activeNames
        (config.afterMoves provider scene moves).session.board) := by
  induction moves generalizing scene with
  | nil => cases seen
  | cons move rest ih =>
    have grows := config.registry.activeNames_sublist (config.afterMove_extends provider scene move)
    have later : names ∈ seenNames config provider (config.afterMove provider scene move) rest →
        (config.registry.activeNames scene.session.board).Sublist names ∧
          names.Sublist (config.registry.activeNames
            (config.afterMoves provider scene (move :: rest)).session.board) := by
      intro inRest
      obtain ⟨above, below⟩ := ih inRest
      exact ⟨grows.trans above, below⟩
    rw [seenNames] at seen
    split at seen
    · rcases List.mem_cons.1 seen with rfl | inRest
      · exact ⟨List.Sublist.refl _, config.registry.activeNames_sublist
          (config.afterMoves_extends provider scene (move :: rest))⟩
      · exact later inRest
    · exact later seen

/-- What is seen only gets longer. -/
theorem seenNames_ascending (scene : Scene σ F C) (moves : List (Move σ F C)) :
    (seenNames config provider scene moves).Pairwise List.Sublist := by
  induction moves generalizing scene with
  | nil => exact List.Pairwise.nil
  | cons move rest ih =>
    rw [seenNames]
    split
    · refine List.pairwise_cons.2 ⟨fun names seen => ?_, ih _⟩
      have grows := config.registry.activeNames_sublist
        (config.afterMove_extends provider scene move)
      exact grows.trans (seenNames_between seen).1
    · exact ih _

/-- Names that are kept stay. -/
theorem kept_of_ne_nil {scene : Scene σ F C} (kept : scene.session.activeNames ≠ [])
    (moves : List (Move σ F C)) :
    (config.afterMoves provider scene moves).session.activeNames = scene.session.activeNames := by
  induction moves generalizing scene with
  | nil => rfl
  | cons move rest ih =>
    have same : (config.afterMove provider scene move).session.activeNames =
        scene.session.activeNames := by
      cases asks : move.asks config with
      | true => rw [afterMove_of_asks provider scene asks, activeNames_fst, if_neg kept]
      | false => exact (afterMove_of_not_asks provider scene asks).1
    exact (ih (by rw [same]; exact kept)).trans same

/-- The first of the lists with a name in it, or another one. -/
def firstOr (current : List String) (seen : List (List String)) : List String :=
  (seen.find? fun names => !names.isEmpty).getD current

/-- **What is kept** are the first names that were seen, once there were any. -/
theorem kept_names (config : Configuration) (provider : Provider σ F C) {scene : Scene σ F C}
    (fresh : scene.session.activeNames = [])
    (moves : List (Move σ F C)) :
    (config.afterMoves provider scene moves).session.activeNames =
      firstOr [] (seenNames config provider scene moves) := by
  induction moves generalizing scene with
  | nil => exact fresh
  | cons move rest ih =>
    have steps : config.afterMoves provider scene (move :: rest) =
        config.afterMoves provider (config.afterMove provider scene move) rest := rfl
    rw [steps, seenNames]
    cases asks : move.asks config with
    | false =>
      rw [if_neg Bool.false_ne_true]
      exact ih ((afterMove_of_not_asks provider scene asks).1.trans fresh)
    | true =>
      have answered : (config.afterMove provider scene move).session.activeNames =
          config.registry.activeNames scene.session.board := by
        rw [afterMove_of_asks provider scene asks, activeNames_fst, if_pos fresh]
      rw [if_pos rfl, firstOr, List.find?_cons]
      cases now : config.registry.activeNames scene.session.board with
      | nil => exact ih (answered.trans now)
      | cons first others =>
        rw [now] at answered
        rw [kept_of_ne_nil (by rw [answered]; exact List.cons_ne_nil first others), answered]
        rfl

/-! ## Once there is an outcome -/

/-- A verification runs only as long as there is no outcome. -/
def IdleOnceKnown (scene : Scene σ F C) : Prop :=
  scene.session.outcome = none ∨ scene.stage = none

theorem afterMove_idle (provider : Provider σ F C) {scene : Scene σ F C}
    (idle : IdleOnceKnown scene) (move : Move σ F C) :
    IdleOnceKnown (config.afterMove provider scene move) := by
  cases asks : move.asks config with
  | true =>
    rw [afterMove_of_asks provider scene asks]
    exact idle
  | false =>
    cases move with
    | ask => cases asks
    | lookUp name =>
      rw [afterMove_of_named provider scene asks]
      exact idle
    | enter schedule =>
      rw [afterMove]
      split
      next _ unknown =>
        obtain ⟨world, stage, begins⟩ := config.begin_eq provider schedule scene.session
        rw [begins]
        exact .inl unknown
      next => exact idle
    | advance =>
      rw [afterMove]
      split
      next => exact idle
      next stage running =>
        have unknown : scene.session.outcome = none := by
          rcases idle with unknown | stopped
          · exact unknown
          · rw [running] at stopped
            cases stopped
        obtain ⟨world, board, outcome, later, steps, -, ends⟩ :=
          config.advance_eq provider scene.session stage
        rw [steps]
        rcases ends with same | stopped
        · exact .inl (same.trans unknown)
        · exact .inr stopped
    | meanwhile change => exact idle

theorem afterMoves_idle (provider : Provider σ F C) {scene : Scene σ F C}
    (idle : IdleOnceKnown scene) (moves : List (Move σ F C)) :
    IdleOnceKnown (config.afterMoves provider scene moves) := by
  induction moves generalizing scene with
  | nil => exact idle
  | cons move rest ih => exact ih (afterMove_idle provider idle move)

/-- Once there is an outcome, outcome and board stay as they are. -/
theorem afterMove_of_known (config : Configuration) (provider : Provider σ F C)
    {scene : Scene σ F C}
    {outcome : Except SliceFault (Composite F)} (known : scene.session.outcome = some outcome)
    (stopped : scene.stage = none) (move : Move σ F C) :
    (config.afterMove provider scene move).session.outcome = some outcome ∧
      (config.afterMove provider scene move).stage = none ∧
      (config.afterMove provider scene move).session.board = scene.session.board := by
  cases asks : move.asks config with
  | true =>
    rw [afterMove_of_asks provider scene asks]
    exact ⟨known, stopped, rfl⟩
  | false =>
    cases move with
    | ask => cases asks
    | lookUp name =>
      rw [afterMove_of_named provider scene asks]
      exact ⟨known, stopped, rfl⟩
    | enter schedule =>
      simp only [afterMove, stopped, known]
      exact ⟨trivial, trivial, trivial⟩
    | advance =>
      simp only [afterMove, stopped]
      exact ⟨known, trivial, trivial⟩
    | meanwhile change => exact ⟨known, stopped, rfl⟩

theorem answer_afterMove (provider : Provider σ F C) {scene : Scene σ F C} (move : Move σ F C)
    (board : (config.afterMove provider scene move).session.board = scene.session.board) :
    (config.activeNames (config.afterMove provider scene move).session).1 =
      (config.activeNames scene.session).1 := by
  cases asks : move.asks config with
  | true =>
    rw [activeNames_fst, board, afterMove_of_asks provider scene asks, activeNames_fst]
    split <;> simp_all
  | false =>
    rw [activeNames_fst, board, (afterMove_of_not_asks provider scene asks).1, activeNames_fst]

/-- Once there is an outcome, the same names are answered again and again. -/
theorem unchanged_of_known (provider : Provider σ F C) {scene : Scene σ F C}
    {outcome : Except SliceFault (Composite F)} (known : scene.session.outcome = some outcome)
    (stopped : scene.stage = none) (moves : List (Move σ F C)) :
    (config.afterMoves provider scene moves).session.board = scene.session.board ∧
      (config.activeNames (config.afterMoves provider scene moves).session).1 =
        (config.activeNames scene.session).1 := by
  induction moves generalizing scene with
  | nil => exact ⟨rfl, rfl⟩
  | cons move rest ih =>
    obtain ⟨stays, idle, board⟩ := config.afterMove_of_known provider known stopped move
    obtain ⟨laterBoard, laterAnswer⟩ := ih stays idle
    exact ⟨laterBoard.trans board, laterAnswer.trans (answer_afterMove provider move board)⟩

/-! ## What is answered -/

/-- Of lists that get longer, none longer than `current`, the first one with a
name in it is `current` exactly if there is no list in between. -/
theorem firstOr_eq_iff {current : List String} {seen : List (List String)}
    (ascending : seen.Pairwise List.Sublist) (below : ∀ names ∈ seen, names.Sublist current) :
    firstOr current seen = current ↔ ∀ names ∈ seen, names = [] ∨ names = current := by
  induction seen with
  | nil => exact ⟨fun _ => List.forall_mem_nil _, fun _ => rfl⟩
  | cons names rest ih =>
    obtain ⟨first, later⟩ := List.pairwise_cons.1 ascending
    obtain ⟨own, others⟩ := List.forall_mem_cons.1 below
    cases names with
    | nil =>
      rw [List.forall_mem_cons]
      exact (ih later others).trans ⟨fun all => ⟨.inl rfl, all⟩, fun all => all.2⟩
    | cons name more =>
      constructor
      · intro same
        -- What comes later lies between the first list and the last.
        have equal : name :: more = current := same
        refine List.forall_mem_cons.2 ⟨.inr equal, fun between inRest => .inr ?_⟩
        refine (others between inRest).antisymm ?_
        rw [← equal]
        exact first between inRest
      · intro all
        rcases (List.forall_mem_cons.1 all).1 with none | same
        · cases none
        · exact same

theorem firstOr_sublist {current : List String} {seen : List (List String)}
    (below : ∀ names ∈ seen, names.Sublist current) : (firstOr current seen).Sublist current := by
  rw [firstOr]
  cases found : seen.find? fun names => !names.isEmpty with
  | none => exact List.Sublist.refl _
  | some names => exact below names (List.mem_of_find?_eq_some found)

/-- What is answered are the first names that were seen, or those active now. -/
theorem answer_eq (config : Configuration) (provider : Provider σ F C) (backend : σ)
    (moves : List (Move σ F C)) :
    (config.activeNames (config.afterMoves provider (.initial backend) moves).session).1 =
      firstOr (config.registry.activeNames
          (config.afterMoves provider (.initial backend) moves).session.board)
        (seenNames config provider (.initial backend) moves) := by
  have fresh : (Scene.initial (F := F) (C := C) backend).session.activeNames = [] := rfl
  have kept := config.kept_names provider fresh moves
  rw [firstOr] at kept
  rw [activeNames_fst, firstOr]
  cases first : List.find? (fun names => !names.isEmpty)
    (seenNames config provider (.initial backend) moves) with
  | none =>
    rw [first, Option.getD_none] at kept
    rw [if_pos kept, Option.getD_none]
  | some names =>
    rw [first, Option.getD_some] at kept
    have any := List.find?_some first
    rw [if_neg, kept, Option.getD_some]
    rw [kept]
    rintro rfl
    cases any

/-- **The names that are answered**, whatever steps and calls came before: those
that were active when names were first asked for and there were any, else those
active now. -/
theorem answer_after_moves (config : Configuration) (provider : Provider σ F C) (backend : σ)
    (moves : List (Move σ F C)) :
    let scene := config.afterMoves provider (.initial backend) moves
    let answer := (config.activeNames scene.session).1
    let current := config.registry.activeNames scene.session.board
    let seen := seenNames config provider (.initial backend) moves
    answer = firstOr current seen ∧
    answer.Sublist current ∧
    (answer = current ↔ ∀ names ∈ seen, names = [] ∨ names = current) ∧
    ∀ outcome, scene.session.outcome = some outcome → ∀ further,
      (config.afterMoves provider scene further).session.board = scene.session.board ∧
      (config.activeNames (config.afterMoves provider scene further).session).1 = answer := by
  intro scene answer current seen
  have answered : answer = firstOr current seen := answer_eq config provider backend moves
  have below : ∀ names ∈ seen, names.Sublist current :=
    fun names member => (seenNames_between member).2
  refine ⟨answered, ?_, ?_, ?_⟩
  · rw [answered]
    exact firstOr_sublist below
  · rw [answered]
    exact firstOr_eq_iff (seenNames_ascending _ moves) below
  · intro outcome known further
    have start : IdleOnceKnown (Scene.initial (F := F) (C := C) backend) := .inl rfl
    have stopped : scene.stage = none := by
      rcases afterMoves_idle provider start moves with unknown | stopped
      · exact absurd (known.symm.trans unknown) (Option.some_ne_none outcome)
      · exact stopped
    exact unchanged_of_known provider known stopped further

/-- The second target panics and then connects, the others connect. -/
def hesitant : Simulation.Field :=
  ((Simulation.Field.empty.setSteady "u1" .connects true).setScripted "u2" ["panic", "connect"]
    false).setSteady "u3" .connects false

/-- Names are asked for after a panic left the first verification; the second
one comes to its end. -/
def askedBetween : List (Move Simulation.Field Simulation.SimulatedFactory
    Simulation.SimulatedConnection) :=
  [.enter .inOrder, .advance, .advance, .ask, .enter .inOrder] ++ steps 4

/-- The three regions are active and composed, but one name is answered. -/
theorem answer_ne_active_of_hesitant :
    let scene := (regions false).afterMoves Simulation.provider (.initial hesitant) askedBetween
    scene.session.outcome.isSome = true ∧
      ((regions false).activeNames scene.session).1 = ["east"] ∧
      (regions false).registry.activeNames scene.session.board = ["east", "north", "west"] := by
  decide +kernel

/-- One name was seen in between, so it is answered from then on. -/
theorem hesitant_answered :
    let scene := (regions false).afterMoves Simulation.provider (.initial hesitant) askedBetween
    scene.session.outcome.isSome = true ∧ ∀ further,
      ((regions false).activeNames
        ((regions false).afterMoves Simulation.provider scene further).session).1 = ["east"] := by
  intro scene
  have evaluated : scene.session.outcome.isSome = true ∧
      ((regions false).activeNames scene.session).1 = ["east"] := by decide +kernel
  obtain ⟨known, answered⟩ := evaluated
  obtain ⟨outcome, stored⟩ := Option.isSome_iff_exists.1 known
  obtain ⟨-, -, -, unchanged⟩ :=
    answer_after_moves (regions false) Simulation.provider hesitant askedBetween
  exact ⟨known, fun further => (unchanged outcome stored further).2.trans answered⟩

end Configuration

end SliceFleet
