/-
SliceFleet.Proofs.StepByStep — a verification step by step, with calls in between.

Names can be asked for while a verification is running, so its steps are
told apart here: one step settles one slice, and a last one stores the
outcome. Only one verification runs at a time; another call for the composite
waits, which leaves no trace. A panic abandons the verification, and the
next call starts a new one.

Nothing in between, the steps are those of one call
(`afterMoves_uninterrupted`): this machine has the runs of
`connectionFactory`, and those with calls in between.
-/
import SliceFleet.Proofs.Building
import SliceFleet.Proofs.ParallelVerification

namespace SliceFleet

open Verifier

/-- What a running verification has left to do, and what it has found. -/
inductive Stage (F : Type) where
  /-- Slices are probed and settled one after the other. -/
  | probing (left : List Slice) (verified : List (Verified F))
  /-- All slices are probed; what was found is settled. -/
  | settling (left : List (Slice × Except BackendFault F)) (verified : List (Verified F))
    (fault : Option SliceFault)

/-- A session with the verification that runs in it, if any. -/
structure Scene (σ F C : Type) where
  session : Session σ F C
  stage : Option (Stage F)

/-- Nothing was called yet. -/
def Scene.initial {σ F C : Type} (backend : σ) : Scene σ F C := ⟨.initial backend, none⟩

/-- What can happen next. -/
inductive Move (σ F C : Type) where
  /-- The composite is asked for. -/
  | enter (schedule : Schedule)
  /-- The running verification makes a step. -/
  | advance
  /-- The names of the active slices are asked for. -/
  | ask
  | lookUp (name : String)
  /-- The provider's world changes by other doings. -/
  | meanwhile (change : World σ F C → World σ F C)

namespace Configuration

variable {σ F C : Type}

/-- Starts a verification. -/
def begin (config : Configuration) (provider : Provider σ F C) (schedule : Schedule)
    (session : Session σ F C) : Scene σ F C :=
  match config.mode with
  | .sequential => ⟨session, some (.probing config.registry.slices [])⟩
  | .parallel =>
    let (findings, world) := probeAll schedule provider config.registry.slices session.world
    ⟨{ session with world }, some (.settling (config.registry.slices.zip findings) [] none)⟩

/-- Ends the verification with an outcome. -/
def store (session : Session σ F C) (outcome : Except SliceFault (Composite F)) : Scene σ F C :=
  ⟨{ session with outcome := some outcome }, none⟩

/-- One step of a verification. -/
def advance (config : Configuration) (provider : Provider σ F C) (session : Session σ F C) :
    Stage F → Scene σ F C
  | .probing [] verified => store session (compose verified)
  | .probing (slice :: rest) verified =>
    match probe provider slice session.world with
    | (.panicked _, world) => ⟨{ session with world }, none⟩
    | (.done factory, world) =>
      ⟨{ session with world, board := session.board.settle slice true },
        some (.probing rest (verified ++ [record provider slice factory]))⟩
    | (.failed cause, world) =>
      let session := { session with world, board := session.board.settle slice false }
      if config.lenient then ⟨session, some (.probing rest verified)⟩
      else store session (.error (outOfReach slice cause))
  | .settling [] verified none => store session (compose verified)
  | .settling [] _ (some fault) => store session (.error fault)
  | .settling ((slice, .ok factory) :: rest) verified fault =>
    ⟨{ session with board := session.board.settle slice true },
      some (.settling rest (verified ++ [record provider slice factory]) fault)⟩
  | .settling ((slice, .error cause) :: rest) verified fault =>
    ⟨{ session with board := session.board.settle slice false },
      some (.settling rest verified
        (if config.lenient then fault else fault <|> some (outOfReach slice cause)))⟩

/-- The scene behind a move. -/
def afterMove (config : Configuration) (provider : Provider σ F C) (scene : Scene σ F C) :
    Move σ F C → Scene σ F C
  | .enter schedule =>
    match scene.stage, scene.session.outcome with
    | none, none => config.begin provider schedule scene.session
    | _, _ => scene
  | .advance =>
    match scene.stage with
    | none => scene
    | some stage => config.advance provider scene.session stage
  | .ask => { scene with session := (config.activeNames scene.session).2 }
  | .lookUp name => { scene with session := (config.slice name scene.session).2 }
  | .meanwhile change =>
    { scene with session := { scene.session with world := change scene.session.world } }

/-- The scene behind several moves. -/
def afterMoves (config : Configuration) (provider : Provider σ F C) (scene : Scene σ F C)
    (moves : List (Move σ F C)) : Scene σ F C :=
  moves.foldl (config.afterMove provider) scene

/-- **What a step can do**: the board grows, and an outcome ends the verification. -/
theorem advance_eq (config : Configuration) (provider : Provider σ F C) (session : Session σ F C)
    (stage : Stage F) : ∃ world board outcome later,
      config.advance provider session stage = ⟨{ session with world, board, outcome }, later⟩ ∧
        session.board.Extends board ∧ (outcome = session.outcome ∨ later = none) := by
  have settles := fun slice reachable => Board.extends_settle session.board slice reachable
  cases stage with
  | probing left verified =>
    cases left with
    | nil => exact ⟨_, _, _, _, rfl, .refl _, .inr rfl⟩
    | cons slice rest =>
      rcases probed : probe provider slice session.world with ⟨outcome, world⟩
      cases outcome with
      | done factory =>
        simp only [advance, probed]
        exact ⟨_, _, _, _, rfl, settles slice true, .inl rfl⟩
      | failed cause =>
        simp only [advance, probed]
        split
        · exact ⟨_, _, _, _, rfl, settles slice false, .inl rfl⟩
        · exact ⟨_, _, _, _, rfl, settles slice false, .inr rfl⟩
      | panicked text =>
        simp only [advance, probed]
        exact ⟨_, _, _, _, rfl, .refl _, .inl rfl⟩
  | settling left verified fault =>
    cases left with
    | nil => cases fault <;> exact ⟨_, _, _, _, rfl, .refl _, .inr rfl⟩
    | cons report rest =>
      obtain ⟨slice, report⟩ := report
      cases report with
      | ok factory => exact ⟨_, _, _, _, rfl, settles slice true, .inl rfl⟩
      | error cause => exact ⟨_, _, _, _, rfl, settles slice false, .inl rfl⟩

theorem begin_eq (config : Configuration) (provider : Provider σ F C) (schedule : Schedule)
    (session : Session σ F C) : ∃ world stage,
      config.begin provider schedule session = ⟨{ session with world }, stage⟩ := by
  rw [begin]
  split
  · exact ⟨_, _, rfl⟩
  · exact ⟨_, _, rfl⟩

/-! ## A verification with nothing in between -/

/-- Several steps of the running verification. -/
def steps (count : Nat) : List (Move σ F C) := List.replicate count .advance

section Uninterrupted

variable {config : Configuration} {provider : Provider σ F C}

theorem afterMoves_steps_of_idle (session : Session σ F C) (count : Nat) :
    config.afterMoves provider ⟨session, none⟩ (steps count) = ⟨session, none⟩ := by
  induction count with
  | zero => rfl
  | succ count ih => exact ih

theorem afterMoves_steps_succ (session : Session σ F C) (stage : Stage F) (count : Nat) :
    config.afterMoves provider ⟨session, some stage⟩ (steps (count + 1)) =
      config.afterMoves provider (config.advance provider session stage) (steps count) := rfl

/-- The session behind a verification, with those verified before it. -/
def concluded (session : Session σ F C) (before : List (Verified F)) :
    Outcome SliceFault (List (Verified F)) × Board × World σ F C → Session σ F C
  | (.panicked _, board, world) => { session with board, world }
  | (.failed fault, board, world) =>
    { session with board, world, outcome := some (.error fault) }
  | (.done verified, board, world) =>
    { session with board, world, outcome := some (compose (before ++ verified)) }

/-- Slices that are probed in turn, step by step and in one go. -/
theorem afterMoves_probing (session : Session σ F C) (left : List Slice)
    (verified : List (Verified F)) :
    config.afterMoves provider ⟨session, some (.probing left verified)⟩ (steps (left.length + 1)) =
      ⟨concluded session verified
        (verifySequentially config.lenient provider left session.board session.world), none⟩ := by
  induction left generalizing session verified with
  | nil =>
    rw [List.length_nil, afterMoves_steps_succ, advance, store, verifySequentially, concluded,
      List.append_nil]
    rfl
  | cons slice rest ih =>
    rw [List.length_cons, afterMoves_steps_succ]
    rcases probed : probe provider slice session.world with ⟨outcome, world⟩
    cases outcome with
    | done factory =>
      simp only [advance, probed, ih, verifySequentially]
      rcases verifySequentially config.lenient provider rest (session.board.settle slice true)
        world with ⟨answer, later⟩
      cases answer <;> simp [concluded, Outcome.map]
    | failed cause =>
      cases tolerant : config.lenient with
      | true =>
        simp only [advance, probed, tolerant, if_true, ih, verifySequentially]
        rw [← tolerant]
        rfl
      | false =>
        simp only [advance, probed, tolerant, verifySequentially, store]
        exact afterMoves_steps_of_idle _ _
    | panicked text =>
      simp only [advance, probed, verifySequentially]
      exact afterMoves_steps_of_idle _ _

/-- What was found of all slices, settled step by step and in one go. -/
theorem afterMoves_settling (config : Configuration) (provider : Provider σ F C)
    (session : Session σ F C)
    (left : List (Slice × Except BackendFault F)) (verified : List (Verified F))
    (fault : Option SliceFault) :
    config.afterMoves provider ⟨session, some (.settling left verified fault)⟩
        (steps (left.length + 1)) =
      let (more, later, board) := settleAll config.lenient provider left session.board
      ⟨concluded session verified (match fault <|> later with
        | some fault => (.failed fault, board, session.world)
        | none => (.done more, board, session.world)), none⟩ := by
  induction left generalizing session verified fault with
  | nil =>
    rw [List.length_nil, afterMoves_steps_succ]
    cases fault with
    | none => simp [advance, store, steps, afterMoves, settleAll, concluded]
    | some fault => simp [advance, store, steps, afterMoves, settleAll, concluded]
  | cons report rest ih =>
    rw [List.length_cons, afterMoves_steps_succ]
    obtain ⟨slice, report⟩ := report
    cases report with
    | ok factory =>
      simp only [advance, ih, settleAll]
      cases fault <;> cases (settleAll config.lenient provider rest
        (session.board.settle slice true)).2.1 <;> simp [concluded]
    | error cause =>
      simp only [advance, ih, settleAll]
      cases config.lenient <;> cases fault <;> simp [concluded]

/-- **Nothing in between**: the steps of a verification are those of one call. -/
theorem afterMoves_uninterrupted (config : Configuration) (provider : Provider σ F C)
    (schedule : Schedule) (session : Session σ F C) :
    config.afterMoves provider ⟨session, none⟩
        (.enter schedule :: steps (config.registry.slices.length + 1)) =
      ⟨(config.connectionFactory provider schedule session).2, none⟩ := by
  have entered : config.afterMoves provider ⟨session, none⟩
      (.enter schedule :: steps (config.registry.slices.length + 1)) =
        config.afterMoves provider (config.afterMove provider ⟨session, none⟩ (.enter schedule))
          (steps (config.registry.slices.length + 1)) := rfl
  rw [entered]
  cases known : session.outcome with
  | some outcome =>
    rw [connectionFactory_of_known known]
    simp only [afterMove, known]
    exact afterMoves_steps_of_idle session _
  | none =>
    have called : (config.connectionFactory provider schedule session).2 =
        concluded session [] ((config.verifier schedule).verify provider config.registry.slices
          session.board session.world) := by
      rcases verification : (config.verifier schedule).verify provider config.registry.slices
        session.board session.world with ⟨verified | fault | text, board, world⟩
      · rw [connectionFactory_of_done known verification]
        rfl
      · rw [connectionFactory_of_failed known verification]
        rfl
      · rw [connectionFactory_of_panicked known verification]
        rfl
    have begins : config.afterMove provider ⟨session, none⟩ (.enter schedule) =
        config.begin provider schedule session := by simp only [afterMove, known]
    rw [called, begins, begin, verifier, verify]
    cases config.mode with
    | sequential => exact afterMoves_probing session config.registry.slices []
    | parallel =>
      have enough := length_probeAll schedule provider config.registry.slices session.world
      rcases found : probeAll schedule provider config.registry.slices session.world with
        ⟨findings, world⟩
      rw [found] at enough
      have length : (config.registry.slices.zip findings).length =
          config.registry.slices.length := by rw [List.length_zip, enough, Nat.min_self]
      have settled := config.afterMoves_settling provider
        { session with world } (config.registry.slices.zip findings) [] none
      rw [length] at settled
      refine settled.trans ?_
      simp only [verifyInParallel, found]
      cases (settleAll config.lenient provider (config.registry.slices.zip findings)
        session.board).2.1 <;> simp [concluded]

end Uninterrupted

end Configuration

end SliceFleet
