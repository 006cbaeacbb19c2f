/-
SliceFleet.Proofs.Snapshots — a composite of steady targets is a snapshot of them.

A steady target is copied when its factory is made, and what is set later does not change
the copy. Only copies that connect become members, so every member of a composite is the
copy of a target that connected when its slice was verified (`copies_of_connected`), and it
goes on to connect. `composite_is_snapshot`: whatever is done with the configuration and its
targets, as long as these are steady, the composite stays the same, and opening it, or one of
its members, yields one connection per member.
-/
import SliceFleet.Proofs.ConsistentReports
import SliceFleet.Proofs.KeptBackends

namespace SliceFleet.Simulation

/-! ## Steady targets -/

/-- The targets of the slices are steady, as far as they are known. -/
def AllSteady (slices : List Slice) (field : Field) : Prop :=
  ∀ slice ∈ slices, (field.targets.get? slice.target).all (·.conduct.isSteady) = true

/-- No call changes how the targets are set. -/
theorem keeps_targets (targets : KeyMap Target) :
    provider.Keeps fun field => field.targets = targets where
  makeFactory config field same := by
    rw [← same]
    simp only [provider, makeFactory]
    split
    · rfl
    · rfl
    · split <;> rfl
  decorate config factory field same := by
    obtain ⟨capable, decorated⟩ := decorate_eq config factory field
    rw [← same]
    exact congrArg (fun step => step.2.targets) decorated
  connect factory field same := by
    rw [← same]
    simp only [provider, connect]
    split <;> rfl
  close handle field same := same

theorem keeps_allSteady (slices : List Slice) : provider.Keeps (AllSteady slices) :=
  Provider.keeps_of_view Field.targets keeps_targets fun targets =>
    ∀ slice ∈ slices, (targets.get? slice.target).all (·.conduct.isSteady) = true

/-- Setting a target steadily keeps all steady. -/
theorem allSteady_setSteady {slices : List Slice} {field : Field} (steady : AllSteady slices field)
    (target : String) (behavior : Behavior) (capable : Bool) :
    AllSteady slices (field.setSteady target behavior capable) := by
  intro slice member
  rw [Field.setSteady, KeyMap.get?_insert]
  split
  · rfl
  · exact steady slice member

/-! ## Copies -/

/-- The member for a slice whose target connected, with the capability that was recorded. -/
def copyOf (part : Slice × Bool) : Member SimulatedFactory :=
  .mk part.1.name part.2 (.leaf ⟨part.1.target, .steady .connects, part.2⟩)

/-- The members of the composite are copies of targets of the slices. -/
structure Copies (slices : List Slice) (composite : Composite SimulatedFactory)
    (taken : List (Slice × Bool)) : Prop where
  own : ∀ part ∈ taken, part.1 ∈ slices
  members : composite.members = taken.map copyOf

/-- A factory that a connection is obtained from is the copy of a target that connects. -/
theorem eq_of_obtains {slice : Slice} {world : SimulatedWorld} {factory : SimulatedFactory}
    (steady : (world.backend.targets.get? slice.target).all (·.conduct.isSteady) = true)
    (obtains : Obtains provider slice world factory) :
    factory = ⟨slice.target, .steady .connects, factory.capable⟩ := by
  obtain ⟨raw, made, handle, makes, rfl, connects⟩ := obtains
  obtain ⟨behavior, stated, copied⟩ := makeFactory_of_steady steady
  have same := copied.symm.trans makes
  cases same
  obtain ⟨capable, decorated⟩ := decorate_eq slice.config
    ⟨slice.config.target, .steady behavior, stated⟩ world.backend
  rw [show provider.decorate slice.config ⟨slice.config.target, .steady behavior, stated⟩
    world.backend = _ from decorated] at connects ⊢
  cases behavior with
  | connects => rfl
  | refuses => cases connects
  | answersNothing => cases connects

/-- What the probes of steady targets compose are copies. -/
theorem copies_of_connected {config : Configuration} {schedule : Schedule}
    {session : Session Field SimulatedFactory SimulatedConnection}
    (steady : AllSteady config.registry.slices session.world.backend)
    (fresh : session.outcome = none) {composite : Composite SimulatedFactory}
    (stored : (config.connectionFactory provider schedule session).2.outcome =
      some (.ok composite)) :
    ∃ taken, Copies config.registry.slices composite taken := by
  obtain ⟨verified, done, composed, -⟩ := Configuration.verified_of_stored fresh stored
  obtain ⟨-, rfl, -⟩ := Verifier.passes_of_done done
  have members := (composes_of_compose composed).members
  rw [membersOf_eq_reachedOf] at members
  have own : ∀ one ∈ reachedOf ((config.verifier schedule).probes provider
      config.registry.slices session.world), one.1 ∈ config.registry.slices ∧
        one.2 = ⟨one.1.target, .steady .connects, one.2.capable⟩ := by
    intro one isReached
    obtain ⟨member, before, reached, obtains⟩ := obtained_of_mem_reachedOf isReached
    have still := (keeps_allSteady config.registry.slices).reached reached steady
    exact ⟨member, eq_of_obtains (still one.1 member) obtains⟩
  generalize reachedOf ((config.verifier schedule).probes provider config.registry.slices
    session.world) = reached at members own
  refine ⟨reached.map fun one => (one.1, one.2.capable), fun part taken => ?_, ?_⟩
  · obtain ⟨one, isReached, rfl⟩ := List.mem_map.1 taken
    exact (own one isReached).1
  · rw [members, List.map_map]
    refine List.map_congr_left fun one isReached => ?_
    rw [Function.comp_apply, copyOf, ← (own one isReached).2]
    rfl

/-! ## Opening copies -/

/-- A copy that connects yields a connection to its target, every time. -/
theorem attempt_of_connects {factory : SimulatedFactory}
    (connects : factory.conduct = .steady .connects) (world : SimulatedWorld) :
    ∃ link next, provider.attempt factory world = (.done (some link), next) ∧
      link.handle.target = factory.target ∧ openedMeter next = openedMeter world + 1 ∧
      closedMeter next = closedMeter world := by
  have answers : provider.connect factory world.backend =
      (.done (some ⟨factory.target, true, false⟩), world.backend) := by
    simp only [provider, connect, connects, answerSteadily]
  refine ⟨⟨world.opened, ⟨factory.target, true, false⟩⟩, world.after world.backend
    (.attempted factory (.done (some ⟨factory.target, true, false⟩))), ?_, rfl, ?_, ?_⟩
  · rw [Provider.attempt, answers]
    rfl
  · simp [openedMeter, World.after, opensSteadily, connects, Conduct.isSteady]
  · simp [closedMeter, World.after, closesSteadily]

/-- Copies that connect yield a connection each. -/
theorem openEach_of_connects {leaves : List (Leaf SimulatedFactory)}
    (connect : ∀ leaf ∈ leaves, leaf.factory.conduct = .steady .connects)
    (world : SimulatedWorld) :
    ∃ links between, openEach provider leaves world = (⟨links, none⟩, between) ∧
      links.map (·.handle.target) = leaves.map (·.factory.target) ∧
      openedMeter between = openedMeter world + leaves.length ∧
      closedMeter between = closedMeter world := by
  induction leaves generalizing world with
  | nil => exact ⟨[], world, rfl, rfl, rfl, rfl⟩
  | cons leaf rest ih =>
    obtain ⟨first, others⟩ := List.forall_mem_cons.1 connect
    obtain ⟨link, next, yields, target, opened, closed⟩ := attempt_of_connects first world
    obtain ⟨links, between, opens, targets, openedLater, closedLater⟩ := ih others next
    refine ⟨link :: links, between, ?_, ?_, ?_, closedLater.trans closed⟩
    · rw [openEach_cons_of_yields yields, opens]
    · rw [List.map_cons, List.map_cons, target, targets]
    · rw [openedLater, opened, List.length_cons]
      omega

/-! ## Configurations in use -/

/-- What may be done with a configuration of steady targets. -/
inductive Use where
  | set (target : String) (behavior : Behavior) (capable : Bool)
  | decorate (target : String) (capable : Bool)
  | connect (schedule : Schedule)
  /-- A connection to all members of the composite. -/
  | openAll (schedule : Schedule)
  /-- A connection to the member of that name, if there is one. -/
  | openMember (slice : String) (schedule : Schedule)
  | close (number : Nat)
  | drop (number : Nat)

/-- The session of a configuration and the connections that are held meanwhile. -/
structure Holder where
  session : Session Field SimulatedFactory SimulatedConnection
  handles : Handles SimulatedConnection

namespace Holder

def start (field : Field) : Holder := ⟨.initial field, .none⟩

/-- Goes on in another world, with these connections. -/
def goOn (holder : Holder) (handles : Handles SimulatedConnection) (world : SimulatedWorld) :
    Holder :=
  ⟨{ holder.session with world }, handles⟩

/-- Changes how the targets are set. -/
def change (holder : Holder) (change : Field → Field) : Holder :=
  holder.goOn holder.handles
    { holder.session.world with backend := change holder.session.world.backend }

/-- Asks for the composite. -/
def connect (holder : Holder) (config : Configuration) (schedule : Schedule) :
    Outcome SliceFault (Composite SimulatedFactory) × Holder :=
  let (answer, session) := config.connectionFactory provider schedule holder.session
  (answer, { holder with session })

/-- Opens a connection under the next number. -/
def openWith (holder : Holder) (factory : Factory SimulatedFactory) :
    Outcome BackendFault (Option Nat) × Holder :=
  let (answer, handles, world) := holder.handles.openWith provider factory holder.session.world
  (answer, holder.goOn handles world)

/-- Opens what is chosen of the composite, which is built on demand. -/
def openOf (holder : Holder) (config : Configuration) (schedule : Schedule)
    (choose : Composite SimulatedFactory → Option (Factory SimulatedFactory)) : Holder :=
  match holder.connect config schedule with
  | (.done composite, holder) =>
    match choose composite with
    | some factory => (holder.openWith factory).2
    | none => holder
  | (_, holder) => holder

/-- What is held after a use. -/
def after (config : Configuration) (holder : Holder) : Use → Holder
  | .set target behavior capable => holder.change (·.setSteady target behavior capable)
  | .decorate target capable => holder.change (·.setDecoration target capable)
  | .connect schedule => (holder.connect config schedule).2
  | .openAll schedule => holder.openOf config schedule fun composite => some composite.toFactory
  | .openMember slice schedule => holder.openOf config schedule (·.factory? slice)
  | .close number =>
    let (_, handles, world) := holder.handles.close provider number holder.session.world
    holder.goOn handles world
  | .drop number =>
    let (_, handles, world) := holder.handles.drop provider number holder.session.world
    holder.goOn handles world

/-- What is held after several uses. -/
def afterAll (config : Configuration) (holder : Holder) (uses : List Use) : Holder :=
  uses.foldl (after config) holder

/-- Opening this factory yields a connection under a new number, with one link to each of
these targets; that many connections are opened, and none is closed. -/
structure Opens (holder : Holder) (factory : Factory SimulatedFactory) (targets : List String) :
    Prop where
  answer : ∃ number connection, (holder.openWith factory).1 = .done (some number) ∧
    (holder.openWith factory).2.handles.get? number = some connection ∧
    connection.links.map (·.handle.target) = targets
  opened : openedMeter (holder.openWith factory).2.session.world =
    openedMeter holder.session.world + targets.length
  closed : closedMeter (holder.openWith factory).2.session.world =
    closedMeter holder.session.world

/-- All targets are steady, and the members of a composite that is known are copies. -/
structure Sound (config : Configuration) (holder : Holder) : Prop where
  steady : AllSteady config.registry.slices holder.session.world.backend
  copied : ∀ composite, holder.session.outcome = some (.ok composite) →
    ∃ taken, Copies config.registry.slices composite taken

variable {config : Configuration} {holder : Holder}

theorem sound_start {field : Field} (steady : AllSteady config.registry.slices field) :
    (start field).Sound config :=
  ⟨steady, nofun⟩

theorem Sound.goOn (sound : holder.Sound config) (handles : Handles SimulatedConnection)
    {world : SimulatedWorld} (steady : AllSteady config.registry.slices world.backend) :
    (holder.goOn handles world).Sound config :=
  ⟨steady, sound.copied⟩

theorem Sound.connect (sound : holder.Sound config) (schedule : Schedule) :
    (holder.connect config schedule).2.Sound config := by
  refine ⟨(keeps_allSteady _).connectionFactory config schedule sound.steady, ?_⟩
  intro composite stored
  cases before : holder.session.outcome with
  | none => exact copies_of_connected sound.steady before stored
  | some outcome =>
    refine sound.copied composite (before.trans ?_)
    simp only [Holder.connect, Configuration.connectionFactory_of_known before] at stored
    exact before.symm.trans stored

theorem Sound.openWith (sound : holder.Sound config) (factory : Factory SimulatedFactory) :
    (holder.openWith factory).2.Sound config :=
  sound.goOn _ ((keeps_allSteady _).openWith holder.handles factory sound.steady)

theorem Sound.openOf (sound : holder.Sound config) (schedule : Schedule)
    (choose : Composite SimulatedFactory → Option (Factory SimulatedFactory)) :
    (holder.openOf config schedule choose).Sound config := by
  have connected := sound.connect schedule
  rw [Holder.openOf]
  rcases connects : holder.connect config schedule with ⟨composite | fault | text, later⟩ <;>
    rw [connects] at connected
  · cases chosen : choose composite with
    | none => simpa only [chosen] using connected
    | some factory => simpa only [chosen] using connected.openWith factory
  · exact connected
  · exact connected

/-- A use keeps the copies that were taken. -/
theorem Sound.after (sound : holder.Sound config) (use : Use) :
    (holder.after config use).Sound config := by
  cases use with
  | set target behavior capable =>
    exact sound.goOn _ (allSteady_setSteady sound.steady target behavior capable)
  | decorate target capable => exact sound.goOn _ sound.steady
  | connect schedule => exact sound.connect schedule
  | openAll schedule => exact sound.openOf schedule fun composite => some composite.toFactory
  | openMember slice schedule => exact sound.openOf schedule _
  | close number => exact sound.goOn _ ((keeps_allSteady _).closeHandle _ number sound.steady)
  | drop number => exact sound.goOn _ ((keeps_allSteady _).dropHandle _ number sound.steady)

theorem Sound.afterAll (sound : holder.Sound config) (uses : List Use) :
    (holder.afterAll config uses).Sound config := by
  induction uses generalizing holder with
  | nil => exact sound
  | cons use rest ih => exact ih (sound.after use)

/-! ## What is known stays -/

variable {outcome : Except SliceFault (Composite SimulatedFactory)}

theorem connect_of_known (known : holder.session.outcome = some outcome) (schedule : Schedule) :
    holder.connect config schedule = (.ofExcept outcome, holder) := by
  simp only [connect, Configuration.connectionFactory_of_known known]

theorem known_openOf (known : holder.session.outcome = some outcome) (schedule : Schedule)
    (choose : Composite SimulatedFactory → Option (Factory SimulatedFactory)) :
    (holder.openOf config schedule choose).session.outcome = some outcome := by
  rw [openOf, connect_of_known known]
  cases outcome with
  | error fault => exact known
  | ok composite => cases chosen : choose composite <;> simpa only [Outcome.ofExcept, chosen]

/-- No use changes an outcome that is known. -/
theorem known_after (known : holder.session.outcome = some outcome) (use : Use) :
    (holder.after config use).session.outcome = some outcome := by
  cases use with
  | set _ _ _ | decorate _ _ | close _ | drop _ => exact known
  | connect schedule =>
    rw [after, connect_of_known known]
    exact known
  | openAll schedule => exact known_openOf known schedule _
  | openMember slice schedule => exact known_openOf known schedule _

theorem known_afterAll (config : Configuration) (known : holder.session.outcome = some outcome)
    (uses : List Use) :
    (holder.afterAll config uses).session.outcome = some outcome := by
  induction uses generalizing holder with
  | nil => exact known
  | cons use rest ih => exact ih (known_after known use)

/-! ## Opening a snapshot -/

/-- A factory whose leaves are copies that connect opens a connection to each of them. -/
theorem opens_of_connects (holder : Holder) {factory : Factory SimulatedFactory}
    (connect : ∀ leaf ∈ factory.leaves "", leaf.factory.conduct = .steady .connects) :
    holder.Opens factory ((factory.leaves "").map (·.factory.target)) := by
  obtain ⟨links, between, opens, targets, opened, closed⟩ :=
    openEach_of_connects connect holder.session.world
  obtain ⟨connection, connects, rfl⟩ := factory.connect_of_whole opens
  have answers : holder.openWith factory = (.done (some holder.handles.slots.length),
      holder.goOn (holder.handles.store connection).2 between) := by
    simp only [openWith, Handles.openWith, connects]
    rfl
  refine { answer := ?_, opened := ?_, closed := ?_ }
  · refine ⟨_, connection, by rw [answers], ?_, targets⟩
    rw [answers]
    simp [goOn, Handles.store, Handles.get?]
  · rw [answers, List.length_map]
    exact opened
  · rw [answers]
    exact closed

theorem leavesOf_copies (taken : List (Slice × Bool)) :
    Factory.leavesOf (taken.map copyOf) =
      taken.map fun part => ⟨part.1.name, part.1.target, .steady .connects, part.2⟩ := by
  induction taken with
  | nil => rfl
  | cons part rest ih =>
    rw [List.map_cons, List.map_cons, ← ih]
    rfl

variable {slices : List Slice} {composite : Composite SimulatedFactory}
  {taken : List (Slice × Bool)}

/-- All copies are opened, in their order. -/
theorem opens_copies (copies : Copies slices composite taken) (holder : Holder) :
    holder.Opens composite.toFactory (taken.map (·.1.target)) := by
  have leaves : composite.toFactory.leaves "" =
      taken.map fun part => ⟨part.1.name, part.1.target, .steady .connects, part.2⟩ := by
    rw [Composite.toFactory, Factory.leaves, copies.members, leavesOf_copies]
  have opens : holder.Opens composite.toFactory
      ((composite.toFactory.leaves "").map (·.factory.target)) := by
    refine opens_of_connects holder fun leaf member => ?_
    rw [leaves] at member
    obtain ⟨part, -, rfl⟩ := List.mem_map.1 member
    rfl
  rw [leaves, List.map_map] at opens
  exact opens

/-- The member of a name is one of the copies, and opened on its own. -/
theorem opens_copy (copies : Copies slices composite taken) (holder : Holder) {slice : String}
    (among : slice ∈ composite.slices) :
    ∃ part ∈ taken, part.1.name = slice ∧ composite.factory? slice = some (copyOf part).factory ∧
      holder.Opens (copyOf part).factory [part.1.target] := by
  cases found : composite.members.find? fun member => member.slice == slice with
  | none =>
    obtain ⟨member, inMembers, named⟩ := List.mem_map.1 among
    have other := List.find?_eq_none.1 found member inMembers
    simp [named] at other
  | some member =>
    have inMembers := List.mem_of_find?_eq_some found
    rw [copies.members] at inMembers
    obtain ⟨part, isTaken, rfl⟩ := List.mem_map.1 inMembers
    have named : (copyOf part).slice = slice := by simpa using List.find?_some found
    have connects : ∀ leaf ∈ (copyOf part).factory.leaves "",
        leaf.factory.conduct = .steady .connects := by
      intro leaf alone
      rw [List.mem_singleton.1 alone]
    refine ⟨part, isTaken, named, ?_, opens_of_connects holder connects⟩
    rw [Composite.factory?, found]
    rfl

/-- **A composite is a snapshot**: once a configuration of steady targets answered with it,
its members are copies of targets that connected. Whatever is done later, also with the
targets, every further call answers the same composite and asks nothing of the backends;
opening it opens one connection per member, and opening a member opens one. -/
theorem composite_is_snapshot (config : Configuration) {field : Field}
    (steady : AllSteady config.registry.slices field) (earlier : List Use) (schedule : Schedule)
    (answered : (((start field).afterAll config earlier).connect config schedule).1 =
      .done composite) :
    ∃ taken, Copies config.registry.slices composite taken ∧ ∀ later : List Use,
      let now := (((start field).afterAll config earlier).connect config schedule).2.afterAll
        config later
      (∀ again, now.connect config again = (.done composite, now)) ∧
      now.Opens composite.toFactory (taken.map (·.1.target)) ∧
      ∀ slice ∈ composite.slices, ∃ part ∈ taken, part.1.name = slice ∧
        composite.factory? slice = some (copyOf part).factory ∧
        now.Opens (copyOf part).factory [part.1.target] := by
  have sound := ((sound_start steady).afterAll earlier).connect schedule
  have stored : (((start field).afterAll config earlier).connect config
      schedule).2.session.outcome = some (.ok composite) := Configuration.stored_of_done answered
  obtain ⟨taken, copies⟩ := sound.copied composite stored
  refine ⟨taken, copies, fun later => ?_⟩
  have known := known_afterAll config stored later
  exact ⟨fun again => connect_of_known known again, opens_copies copies _,
    fun slice among => opens_copy copies _ among⟩

/-- Two of the three regions connect when they are verified; a target for the third is set
before that, but it refuses. -/
def partlyReached : Field :=
  (Field.empty.setSteady "u1" .connects true).setSteady "u2" .connects false

def beforehand : List Use :=
  [.close 0, .set "u3" .refuses true, .openMember "west" .reversed]

/-- Behind the snapshot the targets change sides. -/
def meanwhile : List Use :=
  [.openAll .inOrder, .set "u1" .refuses false, .set "u2" .answersNothing true,
    .set "u3" .connects true, .drop 0, .openMember "north" .inOrder, .connect .reversed]

/-- The composite goes on with the first two regions. -/
theorem regions_snapshot :
    let config := Configuration.regions true
    ∃ composite taken, (((start partlyReached).afterAll config beforehand).connect config
        .inOrder).1 = .done composite ∧
      composite.slices = ["east", "north"] ∧ Copies config.registry.slices composite taken ∧
      let now := (((start partlyReached).afterAll config beforehand).connect config
        .inOrder).2.afterAll config meanwhile
      openedMeter now.session.world = 5 ∧ now.connect config .inOrder = (.done composite, now) ∧
      now.Opens composite.toFactory (taken.map (·.1.target)) := by
  intro config
  have steady : AllSteady config.registry.slices partlyReached := by
    show ∀ slice ∈ config.registry.slices, _
    decide +kernel
  have evaluated : (((start partlyReached).afterAll config beforehand).connect config
      .inOrder).1.map Composite.slices = .done ["east", "north"] := by decide +kernel
  have meter : openedMeter ((((start partlyReached).afterAll config beforehand).connect config
      .inOrder).2.afterAll config meanwhile).session.world = 5 := by decide +kernel
  cases answered : (((start partlyReached).afterAll config beforehand).connect config
      .inOrder).1 with
  | done composite =>
    rw [answered] at evaluated
    obtain ⟨taken, copies, later⟩ :=
      composite_is_snapshot config steady beforehand .inOrder answered
    obtain ⟨same, opens, -⟩ := later meanwhile
    exact ⟨composite, taken, rfl, Outcome.done.inj evaluated, copies, meter, same .inOrder, opens⟩
  | failed fault =>
    rw [answered] at evaluated
    cases evaluated
  | panicked text =>
    rw [answered] at evaluated
    cases evaluated

end Holder

end SliceFleet.Simulation
