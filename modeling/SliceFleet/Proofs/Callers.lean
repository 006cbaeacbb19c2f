/-
SliceFleet.Proofs.Callers — several callers ask for the composite at once.

A call takes the lock, looks for an outcome in memory, and builds one if there
is none; it gives the lock back when it answers or when a panic leaves it.
Calls are numbered and take their turns in any order, and the provider may be
changed at any time. An outcome that a build makes is handed on in copies of
one instance, which is known by its number.

`Orderly` is kept by every turn: one call at a time is inside, and a build
runs only as long as there is nothing in memory. So there is one instance for
all callers, and once a call has it the others leave no trace
(`one_instance_for_all`). A call that nothing interrupts is the
`connectionFactory` of a session (`afterTurns_alone`).
-/
import Mathlib.Logic.Function.Basic
import SliceFleet.Simulation
import SliceFleet.Proofs.DistinctNames
import SliceFleet.Proofs.StepByStep

namespace SliceFleet

/-- How far a call for the composite has come. -/
inductive Progress (F : Type) where
  | away
  /-- The call waits for the lock. -/
  | waiting
  /-- The call has the lock and has not looked into the memory yet. -/
  | entered (schedule : Schedule)
  | building (stage : Stage F)
  /-- The call has returned the instance with this number. -/
  | answered (number : Nat)
  /-- A panic left the call. -/
  | left

/-- The instance that a call has returned. -/
def Progress.answer? {F : Type} : Progress F → Option Nat
  | .answered number => some number
  | _ => none

/-- A session that several callers share. -/
structure Contest (σ F C : Type) where
  session : Session σ F C
  /-- The call that has the lock. -/
  holder : Option Nat
  /-- The outcomes that builds have made, oldest first, each an instance of its own. -/
  made : List (Except SliceFault (Composite F))
  /-- The instance that is in memory. -/
  memory : Option Nat
  calls : Nat → Progress F

/-- Nothing was called yet. -/
def Contest.initial {σ F C : Type} (backend : σ) : Contest σ F C :=
  ⟨.initial backend, none, [], none, fun _ => .away⟩

/-- Whose turn it is. -/
inductive Turn (σ F C : Type) where
  /-- A call begins, and waits for the lock. -/
  | arrive (call : Nat)
  /-- A waiting call gets the lock if it is free. -/
  | enter (call : Nat) (schedule : Schedule)
  /-- A call that is inside makes a step. -/
  | proceed (call : Nat)
  /-- The provider's world changes by other doings. -/
  | meanwhile (change : World σ F C → World σ F C)

/-- What the other doings alone make of a world. -/
def Turn.doings {σ F C : Type} (turns : List (Turn σ F C)) (world : World σ F C) : World σ F C :=
  turns.foldl (fun world turn => match turn with
    | .meanwhile change => change world
    | _ => world) world

namespace Contest

variable {σ F C : Type}

/-- The call goes on with a scene: its build is running, or has made an instance
which is kept and returned, or was left by a panic. -/
def carryOn (contest : Contest σ F C) (call : Nat) (scene : Scene σ F C) : Contest σ F C :=
  match scene.stage, scene.session.outcome with
  | some stage, _ =>
    { contest with
      session := scene.session
      calls := Function.update contest.calls call (.building stage) }
  | none, some outcome =>
    { session := scene.session
      holder := none
      made := contest.made ++ [outcome]
      memory := some contest.made.length
      calls := Function.update contest.calls call (.answered contest.made.length) }
  | none, none =>
    { contest with
      session := scene.session
      holder := none
      calls := Function.update contest.calls call .left }

end Contest

namespace Configuration

variable {σ F C : Type}

/-- A step of a call that is inside. -/
def proceed (config : Configuration) (provider : Provider σ F C) (contest : Contest σ F C)
    (call : Nat) : Contest σ F C :=
  match contest.calls call with
  | .entered schedule =>
    match contest.memory with
    | some number =>
      { contest with
        holder := none
        calls := Function.update contest.calls call (.answered number) }
    | none => contest.carryOn call (config.begin provider schedule contest.session)
  | .building stage => contest.carryOn call (config.advance provider contest.session stage)
  | _ => contest

/-- The contest behind a turn. -/
def afterTurn (config : Configuration) (provider : Provider σ F C) (contest : Contest σ F C) :
    Turn σ F C → Contest σ F C
  | .arrive call =>
    match contest.calls call with
    | .away => { contest with calls := Function.update contest.calls call .waiting }
    | _ => contest
  | .enter call schedule =>
    match contest.holder, contest.calls call with
    | none, .waiting =>
      { contest with
        holder := some call
        calls := Function.update contest.calls call (.entered schedule) }
    | _, _ => contest
  | .proceed call => config.proceed provider contest call
  | .meanwhile change =>
    { contest with
      session := { contest.session with world := change contest.session.world } }

/-- The contest behind several turns. -/
def afterTurns (config : Configuration) (provider : Provider σ F C) (contest : Contest σ F C)
    (turns : List (Turn σ F C)) : Contest σ F C :=
  turns.foldl (config.afterTurn provider) contest

end Configuration

/-! ## What every turn keeps -/

/-- How far a call may have come, given who has the lock and what is in memory:
who is inside has the lock, a build runs only as long as there is nothing in
memory, and who has answered has answered what is there. -/
def Progress.Fits {F : Type} (holder memory : Option Nat) (call : Nat) : Progress F → Prop
  | .entered _ => holder = some call
  | .building _ => holder = some call ∧ memory = none
  | .answered number => memory = some number
  | .away | .waiting | .left => True

namespace Progress

variable {F : Type} {progress : Progress F} {holder memory : Option Nat} {call other : Nat}

/-- Where nothing is in memory, a call without the lock is neither inside nor
answered; so it fits everything. -/
theorem fits_of_outside (fits : progress.Fits (some call) none other) (outside : other ≠ call)
    (holder memory : Option Nat) : progress.Fits holder memory other := by
  cases progress with
  | entered schedule => exact absurd (Option.some.inj fits).symm outside
  | building stage => exact absurd (Option.some.inj fits.1).symm outside
  | answered number => cases fits
  | away | waiting | left => trivial

theorem memory_of_answer (fits : progress.Fits holder memory call) {number : Nat}
    (answered : progress.answer? = some number) : memory = some number := by
  cases progress with
  | answered own =>
    rw [← Option.some.inj answered]
    exact fits
  | away | waiting | entered _ | building _ | left => cases answered

/-- The lock passes from one call to none, or to another. -/
theorem fits_of_passing (fits : progress.Fits holder memory other) (outside : holder ≠ some other)
    (next : Option Nat) : progress.Fits next memory other := by
  cases progress with
  | entered schedule => exact absurd fits outside
  | building stage => exact absurd fits.1 outside
  | answered number => exact fits
  | away | waiting | left => trivial

/-- One call goes on and the others stay as they are. -/
theorem fits_update {calls : Nat → Progress F} (own : progress.Fits holder memory call)
    (others : ∀ other, other ≠ call → (calls other).Fits holder memory other) :
    ∀ other, (Function.update calls call progress other).Fits holder memory other :=
  (Function.forall_update_iff calls fun other progress =>
    progress.Fits holder memory other).2 ⟨own, others⟩

end Progress

/-- What holds of a contest at any time. -/
structure Contest.Orderly {σ F C : Type} (contest : Contest σ F C) : Prop where
  fits : ∀ call, (contest.calls call).Fits contest.holder contest.memory call
  /-- At most one build has made an instance: the one that is in memory. -/
  once : (contest.memory = none ∧ contest.made = [] ∧ contest.session.outcome = none) ∨
    ∃ outcome, contest.memory = some 0 ∧ contest.made = [outcome] ∧
      contest.session.outcome = some outcome

namespace Contest

variable {σ F C : Type} {contest : Contest σ F C} {call : Nat}

theorem orderly_initial (backend : σ) : (Contest.initial (F := F) (C := C) backend).Orderly :=
  ⟨fun _ => trivial, .inl ⟨rfl, rfl, rfl⟩⟩

theorem Orderly.nothing_made (orderly : contest.Orderly) (empty : contest.memory = none) :
    contest.made = [] ∧ contest.session.outcome = none := by
  rcases orderly.once with ⟨-, nothing, unknown⟩ | ⟨outcome, stored, -, -⟩
  · exact ⟨nothing, unknown⟩
  · rw [empty] at stored
    cases stored

theorem Orderly.known (orderly : contest.Orderly) {number : Nat}
    (stored : contest.memory = some number) :
    ∃ outcome, number = 0 ∧ contest.made = [outcome] ∧
      contest.session.outcome = some outcome := by
  rcases orderly.once with ⟨empty, -, -⟩ | ⟨outcome, first, made, known⟩
  · rw [empty] at stored
    cases stored
  · exact ⟨outcome, Option.some.inj (stored.symm.trans first), made, known⟩

/-- A call that has the lock goes on: it keeps the lock, or makes the one
instance, or is left. -/
theorem Orderly.carryOn (orderly : contest.Orderly) (holds : contest.holder = some call)
    (empty : contest.memory = none) {scene : Scene σ F C}
    (unknown : scene.stage ≠ none → scene.session.outcome = none) :
    (contest.carryOn call scene).Orderly := by
  obtain ⟨nothing, -⟩ := orderly.nothing_made empty
  have others : ∀ holder memory other, other ≠ call →
      (contest.calls other).Fits holder memory other := by
    intro holder memory other outside
    have fits := orderly.fits other
    rw [holds, empty] at fits
    exact Progress.fits_of_outside fits outside holder memory
  obtain ⟨session, stage⟩ := scene
  cases stage with
  | some stage =>
    have fresh : session.outcome = none := unknown (Option.some_ne_none stage)
    refine ⟨?_, .inl ⟨empty, nothing, fresh⟩⟩
    exact Progress.fits_update ⟨holds, empty⟩ (others contest.holder contest.memory)
  | none =>
    cases result : session.outcome with
    | some outcome =>
      simp only [Contest.carryOn, result, nothing]
      refine ⟨?_, .inr ⟨outcome, rfl, rfl, result⟩⟩
      exact Progress.fits_update rfl (others none (some 0))
    | none =>
      simp only [Contest.carryOn, result]
      refine ⟨?_, .inl ⟨empty, nothing, result⟩⟩
      exact Progress.fits_update trivial (others none contest.memory)

end Contest

namespace Configuration

variable {σ F C : Type} {config : Configuration} {provider : Provider σ F C}
  {contest : Contest σ F C}

open Contest

/-! A step of a call, by how far it has come. -/

section Steps

variable {call : Nat}

theorem proceed_of_stored {schedule : Schedule} {number : Nat}
    (inside : contest.calls call = .entered schedule) (stored : contest.memory = some number) :
    config.proceed provider contest call = { contest with
      holder := none
      calls := Function.update contest.calls call (.answered number) } := by
  simp only [proceed, inside, stored]

theorem proceed_of_empty {schedule : Schedule} (inside : contest.calls call = .entered schedule)
    (empty : contest.memory = none) :
    config.proceed provider contest call =
      contest.carryOn call (config.begin provider schedule contest.session) := by
  simp only [proceed, inside, empty]

theorem proceed_of_building {stage : Stage F} (running : contest.calls call = .building stage) :
    config.proceed provider contest call =
      contest.carryOn call (config.advance provider contest.session stage) := by
  simp only [proceed, running]

end Steps

theorem proceed_orderly (config : Configuration) (provider : Provider σ F C)
    (orderly : contest.Orderly) (call : Nat) : (config.proceed provider contest call).Orderly := by
  have fits := orderly.fits call
  cases progress : contest.calls call with
  | entered schedule =>
    rw [progress] at fits
    have holds : contest.holder = some call := fits
    cases stored : contest.memory with
    | some number =>
      rw [proceed_of_stored progress stored]
      refine ⟨?_, orderly.once⟩
      refine Progress.fits_update stored fun other outside => ?_
      refine Progress.fits_of_passing (orderly.fits other) ?_ none
      rw [holds]
      exact fun same => outside (Option.some.inj same).symm
    | none =>
      obtain ⟨-, unknown⟩ := orderly.nothing_made stored
      obtain ⟨world, stage, begins⟩ := config.begin_eq provider schedule contest.session
      rw [proceed_of_empty progress stored, begins]
      exact orderly.carryOn holds stored fun _ => unknown
  | building stage =>
    rw [progress] at fits
    obtain ⟨holds, empty⟩ := fits
    obtain ⟨-, unknown⟩ := orderly.nothing_made empty
    obtain ⟨world, board, outcome, later, advances, -, ends⟩ :=
      config.advance_eq provider contest.session stage
    rw [proceed_of_building progress, advances]
    refine orderly.carryOn holds empty fun running => ?_
    rcases ends with same | stopped
    · exact same.trans unknown
    · exact absurd stopped running
  | away | waiting | answered _ | left =>
    simp only [proceed, progress]
    exact orderly

/-- **Every turn keeps order.** -/
theorem afterTurn_orderly (config : Configuration) (provider : Provider σ F C)
    (orderly : contest.Orderly) (turn : Turn σ F C) :
    (config.afterTurn provider contest turn).Orderly := by
  cases turn with
  | arrive call =>
    rw [afterTurn]
    split
    · refine ⟨?_, orderly.once⟩
      exact Progress.fits_update trivial fun other _ => orderly.fits other
    · exact orderly
  | enter call schedule =>
    rw [afterTurn]
    split
    next free _ =>
      refine ⟨?_, orderly.once⟩
      refine Progress.fits_update rfl fun other _ => ?_
      refine Progress.fits_of_passing (orderly.fits other) ?_ (some call)
      rw [free]
      exact fun same => Option.some_ne_none other same.symm
    next => exact orderly
  | proceed call => exact config.proceed_orderly provider orderly call
  | meanwhile change => exact ⟨orderly.fits, orderly.once⟩

theorem afterTurns_orderly (config : Configuration) (provider : Provider σ F C)
    (orderly : contest.Orderly) (turns : List (Turn σ F C)) :
    (config.afterTurns provider contest turns).Orderly := by
  induction turns generalizing contest with
  | nil => exact orderly
  | cons turn rest ih => exact ih (config.afterTurn_orderly provider orderly turn)

/-! ## Once there is an outcome -/

/-- A turn that finds something in memory leaves it there; it builds nothing, and
changes the world only if it is another's doing. -/
theorem afterTurn_of_stored (config : Configuration) (provider : Provider σ F C)
    (orderly : contest.Orderly) {number : Nat} (stored : contest.memory = some number)
    (turn : Turn σ F C) :
    let later := config.afterTurn provider contest turn
    later.memory = some number ∧ later.made = contest.made ∧
      later.session.board = contest.session.board ∧
      later.session.world = Turn.doings [turn] contest.session.world := by
  cases turn with
  | arrive call =>
    simp only [afterTurn]
    split <;> exact ⟨stored, rfl, rfl, rfl⟩
  | enter call schedule =>
    simp only [afterTurn]
    split <;> exact ⟨stored, rfl, rfl, rfl⟩
  | proceed call =>
    have fits := orderly.fits call
    rw [afterTurn]
    cases progress : contest.calls call with
    | entered schedule =>
      rw [proceed_of_stored progress stored]
      exact ⟨stored, rfl, rfl, rfl⟩
    | building stage =>
      rw [progress] at fits
      exact absurd (stored.symm.trans fits.2) (Option.some_ne_none number)
    | away | waiting | answered _ | left =>
      have idle : config.proceed provider contest call = contest := by
        simp only [proceed, progress]
      rw [idle]
      exact ⟨stored, rfl, rfl, rfl⟩
  | meanwhile change => exact ⟨stored, rfl, rfl, rfl⟩

theorem afterTurns_of_stored (config : Configuration) (provider : Provider σ F C)
    (orderly : contest.Orderly) {number : Nat} (stored : contest.memory = some number)
    (turns : List (Turn σ F C)) :
    let later := config.afterTurns provider contest turns
    later.memory = some number ∧ later.made = contest.made ∧
      later.session.board = contest.session.board ∧
      later.session.world = Turn.doings turns contest.session.world := by
  induction turns generalizing contest with
  | nil => exact ⟨stored, rfl, rfl, rfl⟩
  | cons turn rest ih =>
    obtain ⟨stays, made, board, world⟩ := config.afterTurn_of_stored provider orderly stored turn
    obtain ⟨restStays, restMade, restBoard, restWorld⟩ :=
      ih (config.afterTurn_orderly provider orderly turn) stays
    refine ⟨restStays, restMade.trans made, restBoard.trans board, restWorld.trans ?_⟩
    rw [world]
    rfl

/-- **One instance for all**: whatever turns the calls took, at most one build has
made an instance, and every call that has answered has answered that one. From
then on no turn of a call builds, attempts or settles anything; the world is
what the other doings alone make of it. -/
theorem one_instance_for_all (config : Configuration) (provider : Provider σ F C) (backend : σ)
    (turns : List (Turn σ F C)) :
    let contest := config.afterTurns provider (.initial backend) turns
    contest.made.length ≤ 1 ∧
    ∀ call number, (contest.calls call).answer? = some number →
      (∃ outcome, contest.made[number]? = some outcome ∧
        contest.session.outcome = some outcome) ∧
      ∀ further,
        let later := config.afterTurns provider contest further
        (∀ other another, (later.calls other).answer? = some another → another = number) ∧
        later.made = contest.made ∧
        later.session.board = contest.session.board ∧
        later.session.world = Turn.doings further contest.session.world := by
  intro contest
  have orderly : contest.Orderly :=
    config.afterTurns_orderly provider (orderly_initial backend) turns
  constructor
  · rcases orderly.once with ⟨-, nothing, -⟩ | ⟨outcome, -, made, -⟩
    · rw [nothing]
      exact Nat.zero_le 1
    · rw [made]
      exact Nat.le_refl 1
  · intro call number answered
    have stored : contest.memory = some number :=
      Progress.memory_of_answer (orderly.fits call) answered
    obtain ⟨outcome, rfl, made, known⟩ := orderly.known stored
    refine ⟨⟨outcome, by rw [made]; rfl, known⟩, fun further => ?_⟩
    intro later
    obtain ⟨stays, same, board, world⟩ := config.afterTurns_of_stored provider orderly stored further
    refine ⟨fun other another again => ?_, same, board, world⟩
    have laterOrderly : later.Orderly := config.afterTurns_orderly provider orderly further
    have holds := Progress.memory_of_answer (laterOrderly.fits other) again
    exact Option.some.inj (holds.symm.trans stays)

/-- The second target panics, refuses and connects; the others connect. -/
def reluctant : Simulation.Field :=
  ((Simulation.Field.empty.setSteady "u1" .connects true).setScripted "u2"
    ["panic", "refuse", "connect"] false).setSteady "u3" .connects false

/-- The first call is left by a panic; the second one builds and the third one
waits for it; in between the second target is replaced. -/
def crowd : List (Turn Simulation.Field Simulation.SimulatedFactory
    Simulation.SimulatedConnection) :=
  [.arrive 0, .arrive 1, .enter 0 .inOrder, .enter 1 .inOrder, .proceed 0, .proceed 0, .arrive 2,
    .proceed 0, .enter 1 .inOrder, .enter 2 .inOrder, .proceed 1, .proceed 1, .proceed 2,
    .proceed 1, .proceed 1, .proceed 1,
    .meanwhile fun world => { world with backend := world.backend.setSteady "u2" .connects true },
    .enter 2 .inOrder, .proceed 2]

/-- The second and the third call have answered the one instance, and whatever
calls follow, nothing is asked of a target any more. -/
theorem crowd_answered :
    let contest := (regions true).afterTurns Simulation.provider (.initial reluctant) crowd
    (contest.calls 0).answer? = none ∧ (contest.calls 1).answer? = some 0 ∧
      (contest.calls 2).answer? = some 0 ∧ ∀ calls : List Nat,
        ((regions true).afterTurns Simulation.provider contest
          (calls.map .proceed)).session.world.journal = contest.session.world.journal := by
  intro contest
  have evaluated : (contest.calls 0).answer? = none ∧ (contest.calls 1).answer? = some 0 ∧
      (contest.calls 2).answer? = some 0 := by decide +kernel
  obtain ⟨left, second, third⟩ := evaluated
  have idle : ∀ (calls : List Nat) (world : Simulation.SimulatedWorld),
      Turn.doings (calls.map .proceed) world = world := by
    intro calls world
    induction calls with
    | nil => rfl
    | cons call rest ih => exact ih
  refine ⟨left, second, third, fun calls => ?_⟩
  obtain ⟨-, settled⟩ := one_instance_for_all (regions true) Simulation.provider reluctant crowd
  obtain ⟨-, unchanged⟩ := settled 1 0 second
  obtain ⟨-, -, -, world⟩ := unchanged (calls.map .proceed)
  rw [idle] at world
  rw [world]

/-! ## A call that nothing interrupts -/

theorem proceed_carryOn (config : Configuration) (provider : Provider σ F C)
    (contest : Contest σ F C) (call : Nat) (scene : Scene σ F C) :
    config.proceed provider (contest.carryOn call scene) call =
      contest.carryOn call (config.afterMove provider scene .advance) := by
  obtain ⟨session, stage⟩ := scene
  cases stage with
  | some stage =>
    have running : (contest.carryOn call ⟨session, some stage⟩).calls call = .building stage :=
      Function.update_self ..
    rw [proceed_of_building running]
    simp only [afterMove, carryOn, Function.update_idem]
  | none =>
    cases result : session.outcome <;>
      simp only [proceed, carryOn, result, Function.update_self, afterMove]

theorem afterTurns_proceeding (config : Configuration) (provider : Provider σ F C)
    (contest : Contest σ F C) (call : Nat) (scene : Scene σ F C) (count : Nat) :
    config.afterTurns provider (contest.carryOn call scene)
        (List.replicate count (.proceed call)) =
      contest.carryOn call (config.afterMoves provider scene (steps count)) := by
  induction count generalizing scene with
  | zero => rfl
  | succ count ih =>
    have first : config.afterTurns provider (contest.carryOn call scene)
        (List.replicate (count + 1) (.proceed call)) =
          config.afterTurns provider (config.proceed provider (contest.carryOn call scene) call)
            (List.replicate count (.proceed call)) := rfl
    rw [first, proceed_carryOn, ih]
    rfl

/-- **A call alone** does what `connectionFactory` does: it has an instance of its
outcome, or a panic left it. -/
theorem afterTurns_alone (config : Configuration) (provider : Provider σ F C)
    (schedule : Schedule) {call : Nat} (free : contest.holder = none)
    (waits : contest.calls call = .waiting) (empty : contest.memory = none)
    (unknown : contest.session.outcome = none) :
    config.afterTurns provider contest
        (.enter call schedule ::
          List.replicate (config.registry.slices.length + 2) (.proceed call)) =
      contest.carryOn call ⟨(config.connectionFactory provider schedule contest.session).2, none⟩ := by
  have entered : config.afterTurn provider contest (.enter call schedule) = { contest with
      holder := some call
      calls := Function.update contest.calls call (.entered schedule) } := by
    simp only [afterTurn, free, waits]
  have inside : (config.afterTurn provider contest (.enter call schedule)).calls call =
      .entered schedule := by
    rw [entered]
    exact Function.update_self ..
  have stillEmpty : (config.afterTurn provider contest (.enter call schedule)).memory = none := by
    rw [entered]
    exact empty
  have turns : config.afterTurns provider contest (.enter call schedule ::
      List.replicate (config.registry.slices.length + 2) (.proceed call)) =
        config.afterTurns provider (config.proceed provider
          (config.afterTurn provider contest (.enter call schedule)) call)
            (List.replicate (config.registry.slices.length + 1) (.proceed call)) := rfl
  have scene := config.afterMoves_uninterrupted provider schedule contest.session
  have begins : config.afterMoves provider ⟨contest.session, none⟩
      (.enter schedule :: steps (config.registry.slices.length + 1)) =
        config.afterMoves provider (config.begin provider schedule contest.session)
          (steps (config.registry.slices.length + 1)) := by
    rw [afterMoves, List.foldl_cons, afterMove, unknown]
    rfl
  rw [begins] at scene
  rw [turns, proceed_of_empty inside stillEmpty, entered, afterTurns_proceeding, scene]
  cases result : (config.connectionFactory provider schedule contest.session).2.outcome <;>
    simp only [carryOn, result, Function.update_idem]

end Configuration

end SliceFleet
