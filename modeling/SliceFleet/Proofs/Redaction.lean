/-
SliceFleet.Proofs.Redaction — runs that differ in passwords only.

The redaction of a configuration is the configuration without its password.
Its target, and what is written of it without secrets, are those of the
configuration. A provider that never reads a password (`Provider.Blind`)
answers a redaction as it answers the configuration: it mirrors itself
(`Provider.Blind.mirrors`), and so does every pass through a list of slices.

Two configurations with the same redactions are then composed to the same
outcome (`Configuration.connectionFactory_alike`) and reported on in the same
words (`Report.collect_alike`). Threads must run in the same order for
this; a schedule looks at whole slices, so what is asked is that the two
schedules arrange the same numbers (`Schedule.RunAlike`), and there always is
such a second schedule (`Schedule.exists_runAlike`).
-/
import SliceFleet.Proofs.Building
import SliceFleet.Proofs.Mirrors
import SliceFleet.Proofs.TwoBuilds
import SliceFleet.Report

namespace SliceFleet

open Verifier

variable {σ F C : Type}

/-! ## Redactions -/

/-- The configuration without its password. -/
def BackendConfig.redacted (config : BackendConfig) : BackendConfig :=
  { config with password := none }

theorem BackendConfig.target_redacted (config : BackendConfig) :
    config.redacted.target = config.target := rfl

theorem BackendConfig.toProperties_redacted (config : BackendConfig) :
    config.redacted.toProperties false = config.toProperties false := rfl

def Slice.redacted (slice : Slice) : Slice :=
  { slice with config := slice.config.redacted }

@[simp] theorem Slice.target_redacted (slice : Slice) : slice.redacted.target = slice.target :=
  slice.config.target_redacted

def Event.redacted : Event F C → Event F C
  | .requested config => .requested config.redacted
  | .attempted factory answer => .attempted factory answer
  | .closed link fault => .closed link fault

namespace World

def redacted (world : World σ F C) : World σ F C :=
  { world with journal := world.journal.map Event.redacted }

@[simp] theorem backend_redacted (world : World σ F C) : world.redacted.backend = world.backend :=
  rfl

@[simp] theorem opened_redacted (world : World σ F C) : world.redacted.opened = world.opened := by
  have same : (Event.isOpening ∘ Event.redacted : Event F C → Bool) = Event.isOpening := by
    funext event
    cases event <;> rfl
  simp [opened, redacted, List.countP_map, same]

@[simp] theorem redacted_after (world : World σ F C) (backend : σ) (event : Event F C) :
    (world.after backend event).redacted = world.redacted.after backend event.redacted := by
  simp [after, redacted]

end World

def Session.redacted (session : Session σ F C) : Session σ F C :=
  { session with world := session.world.redacted }

@[simp] theorem Session.board_redacted (session : Session σ F C) :
    session.redacted.board = session.board := rfl

def Verified.redacted (verified : Verified F) : Verified F :=
  { verified with slice := verified.slice.redacted }

/-! ## Providers that never read a password -/

/-- The provider answers a redaction as it answers the configuration. -/
structure Provider.Blind (provider : Provider σ F C) : Prop where
  makeFactory : ∀ config, provider.makeFactory config.redacted = provider.makeFactory config
  decorate : ∀ config, provider.decorate config.redacted = provider.decorate config

namespace Provider

variable {provider : Provider σ F C}

theorem request_redacted (blind : provider.Blind) (config : BackendConfig) (world : World σ F C) :
    provider.request config.redacted world.redacted =
      Prod.map id World.redacted (provider.request config world) := by
  simp [request, blind.makeFactory, Event.redacted]

theorem dress_redacted (blind : provider.Blind) (config : BackendConfig) (factory : F)
    (world : World σ F C) :
    provider.dress config.redacted factory world.redacted =
      Prod.map id World.redacted (provider.dress config factory world) := by
  simp [dress, blind.decorate, World.redacted]

theorem attempt_redacted (provider : Provider σ F C) (factory : F) (world : World σ F C) :
    provider.attempt factory world.redacted =
      Prod.map id World.redacted (provider.attempt factory world) := by
  simp [attempt, Event.redacted]

theorem release_redacted (provider : Provider σ F C) (link : Link C) (world : World σ F C) :
    provider.release link world.redacted =
      Prod.map id World.redacted (provider.release link world) := by
  simp [release, Event.redacted]

end Provider

/-- **Redaction is a mirror** for a provider that never reads a password. -/
theorem Provider.Blind.mirrors {provider : Provider σ F C} (blind : provider.Blind) :
    Mirrors provider provider Slice.redacted World.redacted where
  place _ := rfl
  name _ := rfl
  target := Slice.target_redacted
  capable := rfl
  request slice world := Provider.request_redacted blind slice.config world
  dress slice factory world := Provider.dress_redacted blind slice.config factory world
  attempt := provider.attempt_redacted
  release link world := congrArg Prod.snd (provider.release_redacted link world)

/-! ## Verifying -/

namespace Verifier

variable {provider : Provider σ F C}

/-- What a verification ends with, without passwords. -/
def redactedEnd (ends : Outcome SliceFault (List (Verified F)) × Board × World σ F C) :
    Outcome SliceFault (List (Verified F)) × Board × World σ F C :=
  (ends.1.map (List.map Verified.redacted), ends.2.1, ends.2.2.redacted)

theorem verifySequentially_redacted (blind : provider.Blind) (lenient : Bool) (slices : List Slice)
    (board : Board) (world : World σ F C) :
    verifySequentially lenient provider (slices.map Slice.redacted) board world.redacted =
      redactedEnd (verifySequentially lenient provider slices board world) :=
  blind.mirrors.verifySequentially_eq lenient slices board world

theorem settleAll_redacted (blind : provider.Blind) (lenient : Bool)
    (reports : List (Slice × Except BackendFault F)) (board : Board) :
    settleAll lenient provider (reports.map (Prod.map Slice.redacted id)) board =
      Prod.map (List.map Verified.redacted) id (settleAll lenient provider reports board) :=
  blind.mirrors.settleAll_eq lenient reports board

end Verifier

/-! ## Threads in one order -/

/-- Two schedules run the threads of two lists of slices in one order. -/
def Schedule.RunAlike (first second : Schedule) (slices others : List Slice) : Prop :=
  (first.arrange (numbered slices)).map (·.1) = (second.arrange (numbered others)).map (·.1)

namespace Schedule

theorem filterMap_getElem?_range {α : Type} (items : List α) :
    (List.range items.length).filterMap (items[·]?) = items := by
  have looked : (List.range items.length).map (items[·]?) = items.map some := by
    refine List.ext_getElem (by simp) fun number _ _ => ?_
    simp_all
  calc (List.range items.length).filterMap (items[·]?)
    _ = ((List.range items.length).map (items[·]?)).filterMap id := by
      rw [List.filterMap_map]
      rfl
    _ = (items.map some).filterMap id := by rw [looked]
    _ = items := by simp [List.filterMap_map]

/-- Every order of the one run is an order of the other. -/
theorem exists_runAlike (first : Schedule) {slices others : List Slice}
    (same : slices.length = others.length) : ∃ second, RunAlike first second slices others := by
  -- The second schedule runs the same numbers; lists of other lengths it leaves as they are.
  let numbers := (first.arrange (numbered slices)).map (·.1)
  have perm : numbers.Perm (List.range others.length) := by
    rw [← same, ← map_fst_numbered]
    exact (first.perm _).map _
  refine ⟨⟨fun threads =>
    if threads.length = others.length then numbers.filterMap (threads[·]?) else threads, ?_⟩, ?_⟩
  · intro threads
    by_cases many : threads.length = others.length
    · rw [if_pos many]
      rw [← many] at perm
      simpa only [filterMap_getElem?_range] using perm.filterMap (threads[·]?)
    · rw [if_neg many]
  · have many : (numbered others).length = others.length := by simp [numbered]
    have found : ∀ number ∈ numbers,
        ((numbered others)[number]?).map (·.1) = some number := by
      intro number member
      have place : number < others.length := by simpa using perm.mem_iff.1 member
      simp [getElem?_numbered, place]
    calc (first.arrange (numbered slices)).map (·.1)
      _ = numbers.filterMap some := List.filterMap_some.symm
      _ = numbers.filterMap fun number => ((numbered others)[number]?).map (·.1) :=
        List.filterMap_congr fun number member => (found number member).symm
      _ = (numbers.filterMap ((numbered others)[·]?)).map (·.1) := List.map_filterMap.symm
      _ = _ := congrArg (List.map Prod.fst) (if_pos many).symm

/-- A thread is known by its number. -/
theorem threads_redacted {first second : Schedule} {slices others : List Slice}
    (order : RunAlike first second slices others)
    (same : slices.map Slice.redacted = others.map Slice.redacted) :
    (first.arrange (numbered slices)).map (Prod.map id Slice.redacted) =
      (second.arrange (numbered others)).map (Prod.map id Slice.redacted) := by
  -- Beside `some`, a thread is its number and what stands at that number in the list.
  have known : ∀ (schedule : Schedule) (slices : List Slice),
      ((schedule.arrange (numbered slices)).map (Prod.map id Slice.redacted)).map (Prod.map id some) =
        ((schedule.arrange (numbered slices)).map (·.1)).map fun number =>
          (number, (slices.map Slice.redacted)[number]?) := by
    intro schedule slices
    simp only [List.map_map]
    refine List.map_congr_left fun thread member => ?_
    obtain ⟨⟨slice, number⟩, place, rfl⟩ := List.mem_map.1 ((schedule.perm _).mem_iff.1 member)
    simp [List.mk_mem_zipIdx_iff_getElem?.1 place]
  have apart : Function.Injective (Prod.map id some : Nat × Slice → Nat × Option Slice) :=
    fun a b equal => by simpa [Prod.ext_iff] using equal
  refine List.map_injective_iff.2 apart ?_
  rw [known, known, order, same]

end Schedule

/-! ## Two verifications -/

namespace Verifier

variable {provider : Provider σ F C} {slices others : List Slice} {world other : World σ F C}

theorem probeAll_alike (blind : provider.Blind) {first second : Schedule}
    (order : first.RunAlike second slices others)
    (same : slices.map Slice.redacted = others.map Slice.redacted)
    (worlds : world.redacted = other.redacted) :
    Prod.map id World.redacted (probeAll first provider slices world) =
      Prod.map id World.redacted (probeAll second provider others other) := by
  have threads := Schedule.threads_redacted order same
  have reports : Prod.map id World.redacted
        (runThreads provider (first.arrange (numbered slices)) world) =
      Prod.map id World.redacted
        (runThreads provider (second.arrange (numbered others)) other) := by
    rw [← blind.mirrors.runThreads_eq, ← blind.mirrors.runThreads_eq, threads, worlds]
  obtain ⟨findings, after⟩ := Prod.ext_iff.1 reports
  refine Prod.ext ?_ after
  exact congrArg (fun findings => (byNumber findings).map Prod.snd) findings

theorem verifyInParallel_alike (blind : provider.Blind) (lenient : Bool) {first second : Schedule}
    (order : first.RunAlike second slices others)
    (same : slices.map Slice.redacted = others.map Slice.redacted)
    (board : Board) (worlds : world.redacted = other.redacted) :
    redactedEnd (verifyInParallel lenient first provider slices board world) =
      redactedEnd (verifyInParallel lenient second provider others board other) := by
  have probed := probeAll_alike blind order same worlds
  rw [verifyInParallel, verifyInParallel]
  generalize probeAll first provider slices world = run at probed ⊢
  generalize probeAll second provider others other = runToo at probed ⊢
  obtain ⟨findings, after⟩ := run
  obtain ⟨_, afterToo⟩ := runToo
  obtain ⟨rfl, after⟩ := Prod.mk.inj probed
  have settled : Prod.map (List.map Verified.redacted) id
        (settleAll lenient provider (slices.zip findings) board) =
      Prod.map (List.map Verified.redacted) id
        (settleAll lenient provider (others.zip findings) board) := by
    rw [← settleAll_redacted blind, ← settleAll_redacted blind, ← List.zip_map_left,
      ← List.zip_map_left, same]
  dsimp only [id_eq]
  generalize settleAll lenient provider (slices.zip findings) board = settlement at settled ⊢
  generalize settleAll lenient provider (others.zip findings) board = settlementToo at settled ⊢
  obtain ⟨verified, fault, board⟩ := settlement
  obtain ⟨verifiedToo, _, _⟩ := settlementToo
  obtain ⟨inReach, rest⟩ := Prod.mk.inj settled
  cases rest
  cases fault <;> simp [redactedEnd, Outcome.map, inReach, after]

/-- **Two verifications** by one rule, of slices and in worlds that differ in passwords
only, end alike and leave the same board. -/
theorem verify_alike (blind : provider.Blind) (first second : Verifier)
    (rule : first.lenient = second.lenient) (mode : first.mode = second.mode)
    (order : first.mode = .parallel → first.schedule.RunAlike second.schedule slices others)
    (same : slices.map Slice.redacted = others.map Slice.redacted)
    (board : Board) (worlds : world.redacted = other.redacted) :
    redactedEnd (first.verify provider slices board world) =
      redactedEnd (second.verify provider others board other) := by
  rw [verify, verify, ← mode, ← rule]
  cases turns : first.mode with
  | sequential =>
    simp only
    rw [← verifySequentially_redacted blind, ← verifySequentially_redacted blind, same, worlds]
  | parallel => exact verifyInParallel_alike blind first.lenient (order turns) same board worlds

end Verifier

/-! ## Two configurations -/

/-- The configurations differ in their passwords only. -/
def BackendConfig.SameButPassword (first second : BackendConfig) : Prop :=
  first.redacted = second.redacted

namespace BackendConfig.SameButPassword

variable {first second : BackendConfig}

theorem id_eq (same : first.SameButPassword second) : first.id = second.id :=
  (BackendConfig.mk.inj same).2.1

theorem target_eq (same : first.SameButPassword second) : first.target = second.target := by
  rw [← first.target_redacted, ← second.target_redacted, same]

/-- What is written without secrets is the same. -/
theorem toProperties_eq (same : first.SameButPassword second) :
    first.toProperties false = second.toProperties false := by
  rw [← first.toProperties_redacted, ← second.toProperties_redacted, same]

end BackendConfig.SameButPassword

theorem Slice.Like.redacted_eq {slice other : Slice}
    (like : slice.Like BackendConfig.SameButPassword other) : slice.redacted = other.redacted := by
  obtain ⟨place, name, config⟩ := slice
  obtain ⟨placeToo, nameToo, configToo⟩ := other
  obtain ⟨rfl, rfl, config⟩ := like
  rw [Slice.redacted, Slice.redacted, config]

namespace Configuration

variable {provider : Provider σ F C} {config other : Configuration} {first second : Schedule}
  {session sessionToo : Session σ F C}

theorem compose_redacted (verified : List (Verified F)) :
    compose (verified.map Verified.redacted) = compose verified := by
  rw [compose, compose, List.map_map]
  rfl

/-- The threads of both configurations run in one order, if they run on threads. -/
def RunAlike (config other : Configuration) (first second : Schedule) : Prop :=
  config.mode = .parallel → first.RunAlike second config.registry.slices other.registry.slices

/-- **One outcome**: composing the slices of two configurations that differ in passwords
only, in sessions that do, comes to the same. -/
theorem connectionFactory_alike (blind : provider.Blind)
    (like : Like BackendConfig.SameButPassword config other)
    (order : config.RunAlike other first second)
    (sessions : session.redacted = sessionToo.redacted) :
    Prod.map id Session.redacted (config.connectionFactory provider first session) =
      Prod.map id Session.redacted (other.connectionFactory provider second sessionToo) := by
  obtain ⟨world, board, outcome, policy, active⟩ := session
  obtain ⟨worldToo, _, _, _, _⟩ := sessionToo
  obtain ⟨worlds, rfl, rfl, rfl, rfl⟩ := Session.mk.inj sessions
  cases outcome with
  | some known =>
    rw [connectionFactory_of_known rfl, connectionFactory_of_known rfl]
    exact congrArg (Prod.mk _) sessions
  | none =>
    have threads : (config.verifier first).mode = .parallel →
        (config.verifier first).schedule.RunAlike (other.verifier second).schedule
          config.registry.slices other.registry.slices := order
    have slices := map_eq_of_forall₂ like.slices fun _ _ agree => agree.redacted_eq
    have ends : redactedEnd ((config.verifier first).verify provider config.registry.slices board
          world) =
        redactedEnd ((other.verifier second).verify provider other.registry.slices board worldToo) :=
      verify_alike blind (config.verifier first) (other.verifier second) like.lenient like.mode
        threads slices board worlds
    rw [connectionFactory, connectionFactory]
    dsimp only
    generalize (config.verifier first).verify provider _ board world = run at ends ⊢
    generalize (other.verifier second).verify provider _ board worldToo = runToo at ends ⊢
    obtain ⟨answer, board, world⟩ := run
    obtain ⟨answerToo, _, worldToo⟩ := runToo
    obtain ⟨answers, rest⟩ := Prod.mk.inj ends
    obtain ⟨rfl, worlds⟩ := Prod.mk.inj rest
    cases answer with
    | done verified =>
      cases answerToo with
      | done verifiedToo =>
        have composed : compose verified = compose verifiedToo := by
          rw [← compose_redacted, Outcome.done.inj answers, compose_redacted]
        simp [Session.redacted, composed, worlds]
      | failed fault => cases answers
      | panicked text => cases answers
    | failed fault =>
      cases answerToo <;> cases answers
      simp [Session.redacted, worlds]
    | panicked text =>
      cases answerToo <;> cases answers
      simp [Session.redacted, worlds]

end Configuration

/-! ## Two reports -/

namespace Report

variable {provider : Provider σ F C} {config other : Configuration} {first second : Schedule}
  {session sessionToo : Session σ F C}

/-- A report has no passwords in it. -/
theorem ofBoard_alike (sameKeys : config.keys = other.keys)
    (like : config.Like BackendConfig.SameButPassword other) (board : Board)
    (finding : ReportFinding) : ofBoard config board finding = ofBoard other board finding := by
  have row : ∀ slice sliceToo, Slice.Like BackendConfig.SameButPassword slice sliceToo →
      rowOf config board slice = rowOf other board sliceToo := by
    intro slice sliceToo agree
    simp [rowOf, Board.of, Slice.target, agree.place, agree.sameName, agree.config.id_eq,
      agree.config.target_eq, like.master.sameName]
  simp [ofBoard, map_eq_of_forall₂ like.slices row, sameKeys, like.unit, like.lenient, like.mode,
    like.policyName, like.master.sameName]

/-- **One report**: two configurations that differ in passwords only are reported on in
the same words. -/
theorem collect_alike (blind : provider.Blind) (sameKeys : config.keys = other.keys)
    (like : config.Like BackendConfig.SameButPassword other)
    (order : config.RunAlike other first second) (verify : Bool)
    (sessions : session.redacted = sessionToo.redacted) :
    Prod.map id Session.redacted (collect config provider first verify session) =
      Prod.map id Session.redacted (collect other provider second verify sessionToo) := by
  have boards : session.board = sessionToo.board := by simpa using congrArg Session.board sessions
  cases verify with
  | false => simp [collect, sessions, boards, ofBoard_alike sameKeys like]
  | true =>
    have composed := Configuration.connectionFactory_alike blind like order sessions
    rw [collect, collect, if_pos rfl, if_pos rfl]
    generalize config.connectionFactory provider first session = call at composed ⊢
    generalize other.connectionFactory provider second sessionToo = callToo at composed ⊢
    obtain ⟨answer, settled⟩ := call
    obtain ⟨_, settledToo⟩ := callToo
    obtain ⟨rfl, after⟩ := Prod.mk.inj composed
    have boards : settled.board = settledToo.board := by simpa using congrArg Session.board after
    cases answer <;> simp [after, boards, ofBoard_alike sameKeys like]

end Report

end SliceFleet
