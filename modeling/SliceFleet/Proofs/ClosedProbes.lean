/-
SliceFleet.Proofs.ClosedProbes — verification holds no connection.

Whatever a verification finds and however it ends, behind it every connection
that it opened is closed, once: in turn each before the next one is attempted,
and on threads in whatever way their calls mix (`verification_holds_nothing`).
What closing reports is noted in the journal and nowhere else: without these notes
the provider mirrors itself (`Provider.mirrors_hushed`), so other reports change
neither the answer nor the board.
-/
import SliceFleet.Proofs.Building
import SliceFleet.Proofs.ThreadSteps

namespace SliceFleet

open Verifier

variable {σ F C : Type}

/-! ## What closing reports -/

/-- The provider, but with these reports of what went wrong with closing. -/
def Provider.reporting (provider : Provider σ F C) (faults : C → σ → Option BackendFault) :
    Provider σ F C :=
  { provider with
    close := fun handle state => (faults handle state, (provider.close handle state).2) }

/-- The provider, but closing never reports a fault. -/
def Provider.hushed (provider : Provider σ F C) : Provider σ F C :=
  provider.reporting fun _ _ => none

/-- The event without what went wrong with closing. -/
def Event.hushed : Event F C → Event F C
  | .closed link _ => .closed link none
  | event => event

/-- The world without what went wrong with closing. -/
def World.hushed (world : World σ F C) : World σ F C :=
  { world with journal := world.journal.map Event.hushed }

@[simp] theorem World.opened_hushed (world : World σ F C) : world.hushed.opened = world.opened := by
  rw [opened, hushed, List.countP_map, opened]
  congr 1
  funext event
  cases event <;> rfl

@[simp] theorem World.hushed_after (world : World σ F C) (backend : σ) (event : Event F C) :
    (world.after backend event).hushed = world.hushed.after backend event.hushed := by
  simp [World.after, hushed]

/-- **Hushing is a mirror**: closing reports to nobody but the journal. -/
theorem Provider.mirrors_hushed (provider : Provider σ F C) :
    Mirrors provider provider.hushed id World.hushed where
  place _ := rfl
  name _ := rfl
  target _ := rfl
  capable := rfl
  request slice world := by
    simp only [request, World.hushed_after, Prod.map_apply]
    rfl
  dress slice factory world := rfl
  attempt factory world := by
    simp only [attempt, World.hushed_after, World.opened_hushed, Prod.map_apply]
    rfl
  release link world := by
    simp only [release, World.hushed_after]
    rfl

/-- Threads do the same, whatever closing reports. -/
theorem Crew.threads_reporting (provider : Provider σ F C) (faults : C → σ → Option BackendFault)
    (crew : Crew σ F C) (places : List Nat) :
    (crew.turns (provider.reporting faults) places).threads =
      (crew.turns provider places).threads := by
  have hushed := provider.mirrors_hushed.turns_eq crew places
  have hushedToo := (provider.reporting faults).mirrors_hushed.turns_eq crew places
  have same : (provider.reporting faults).hushed = provider.hushed := rfl
  rw [same, hushed] at hushedToo
  exact (congrArg Crew.threads hushedToo).symm

/-- What is found of a slice is known before its connection is closed. -/
theorem probe_fst_of_close (provider : Provider σ F C) (close : C → σ → Option BackendFault × σ)
    (slice : Slice) (world : World σ F C) :
    (probe { provider with close } slice world).1 = (probe provider slice world).1 := by
  have asks : Provider.request { provider with close } = provider.request := rfl
  have dresses : Provider.dress { provider with close } = provider.dress := rfl
  have attempts : Provider.attempt { provider with close } = provider.attempt := rfl
  simp only [probe, asks, dresses, attempts]
  rcases provider.request slice.config world with ⟨raw | fault | text, made⟩
  · rcases attempted : provider.attempt (provider.dress slice.config raw made).1
      (provider.dress slice.config raw made).2 with ⟨(_ | link) | fault | text, after⟩ <;>
      simp only [attempted]
  · rfl
  · rfl

/-! ## Behind a verification -/

namespace Verifier

/-- A verification holds no connection, and does not care how closing goes. -/
structure HoldsNothing (verifier : Verifier) (provider : Provider σ F C) (slices : List Slice)
    (board : Board) (world : World σ F C) : Prop where
  /-- Each probe is over, and its connection closed, when the next one begins. -/
  oneByOne : ∃ probes events,
    (verifier.verify provider slices board world).2.2.journal = world.journal ++ events ∧
      OneByOne world.opened probes events ∧
      (verifier.mode = .sequential → probes <+: probesInTurn provider slices world) ∧
      (verifier.mode = .parallel → (probes.map (·.1)).Perm slices)
  /-- Threads may mix their calls in any way: what is open is held by one of them, behind them
  nothing is open, and what closing reports is nothing to them. -/
  mixed : ∀ places,
    let crew := Crew.start (verifier.schedule.arrange (numbered slices)) world
    let now := crew.turns provider places
    now.Accounts world ∧ (now.Ended → world.Balances now.world) ∧
      ∀ faults, (crew.turns (provider.reporting faults) places).threads = now.threads
  /-- The verification's own run of the threads is one of these mixtures. -/
  unmixed : ∃ places,
    let threads := verifier.schedule.arrange (numbered slices)
    let now := (Crew.start threads world).turns provider places
    now.Ended ∧ (now.reports, now.world) = runThreads provider threads world
  balances : world.Balances (verifier.verify provider slices board world).2.2
  /-- What a probe finds of a slice does not depend on how closing goes. -/
  regardless : ∀ close slice before,
    (probe { provider with close } slice before).1 = (probe provider slice before).1
  /-- Whatever closing reports, the answer and the board are the same. -/
  unmoved : ∀ faults,
    let other := verifier.verify (provider.reporting faults) slices board world
    let this := verifier.verify provider slices board world
    other.1 = this.1 ∧ other.2.1 = this.2.1

theorem oneByOne_verify (verifier : Verifier) (provider : Provider σ F C) (slices : List Slice)
    (board : Board) (world : World σ F C) : ∃ probes events,
    (verifier.verify provider slices board world).2.2.journal = world.journal ++ events ∧
      OneByOne world.opened probes events ∧
      (verifier.mode = .sequential → probes <+: probesInTurn provider slices world) ∧
      (verifier.mode = .parallel → (probes.map (·.1)).Perm slices) := by
  obtain ⟨lenient, mode, schedule⟩ := verifier
  cases mode with
  | sequential =>
    obtain ⟨probes, ahead, events, journal, left⟩ :=
      oneByOne_verifySequentially lenient provider slices board world
    exact ⟨probes, events, journal, left, fun _ => ahead, nofun⟩
  | parallel =>
    obtain ⟨probes, inOrder, events, journal, left⟩ :=
      oneByOne_runThreads provider (schedule.arrange (numbered slices)) world
    have all := (schedule.perm (numbered slices)).map (·.2)
    rw [map_snd_numbered, ← inOrder] at all
    refine ⟨probes, events, ?_, left, nofun, fun _ => all⟩
    have leaves := verifyInParallel_snd lenient schedule provider slices board world
    rw [← journal]
    exact congrArg (fun behind => behind.2.journal) leaves

/-- Two ways of reporting are told apart by the journal only. -/
theorem verify_reporting (verifier : Verifier) (provider : Provider σ F C)
    (faults : C → σ → Option BackendFault) (slices : List Slice) (board : Board)
    (world : World σ F C) :
    let other := verifier.verify (provider.reporting faults) slices board world
    let this := verifier.verify provider slices board world
    other.1 = this.1 ∧ other.2.1 = this.2.1 ∧ other.2.2.hushed = this.2.2.hushed := by
  intro other this
  have hushed := provider.mirrors_hushed.verify_eq verifier slices board world
  have hushedToo := (provider.reporting faults).mirrors_hushed.verify_eq verifier slices board world
  have same : (provider.reporting faults).hushed = provider.hushed := rfl
  rw [same, hushed] at hushedToo
  obtain ⟨answers, rest⟩ := Prod.mk.inj hushedToo
  obtain ⟨boards, worlds⟩ := Prod.mk.inj rest
  exact ⟨answers.symm, boards.symm, worlds.symm⟩

theorem holdsNothing (verifier : Verifier) (provider : Provider σ F C) (slices : List Slice)
    (board : Board) (world : World σ F C) :
    verifier.HoldsNothing provider slices board world where
  oneByOne := verifier.oneByOne_verify provider slices board world
  mixed places := by
    have begun := Crew.accounts_start (verifier.schedule.arrange (numbered slices)) world
    have accounts := Crew.accounts_turns provider begun places
    exact ⟨accounts, Crew.balances_of_ended accounts,
      fun faults => Crew.threads_reporting provider faults _ places⟩
  unmixed := ⟨_, Crew.turns_of_runThreads provider _ world⟩
  balances := by
    obtain ⟨probes, events, journal, left, -⟩ :=
      verifier.oneByOne_verify provider slices board world
    exact left.balances journal
  regardless close := probe_fst_of_close provider close
  unmoved faults := by
    obtain ⟨answers, boards, -⟩ := verifier.verify_reporting provider faults slices board world
    exact ⟨answers, boards⟩

end Verifier

/-- A call for the composite closes what it opens, whether it verifies or remembers. -/
theorem Configuration.balances_connectionFactory (config : Configuration)
    (provider : Provider σ F C) (schedule : Schedule) (session : Session σ F C) :
    session.world.Balances (config.connectionFactory provider schedule session).2.world := by
  have verified := ((config.verifier schedule).holdsNothing provider config.registry.slices
    session.board session.world).balances
  rcases config.connectionFactory_cases provider schedule session with
    ⟨_, -, call⟩ | ⟨-, ⟨_, _, _, ends, call⟩ | ⟨_, _, _, ends, call⟩ | ⟨_, _, _, ends, call⟩⟩
  · rw [call]
    exact .refl session.world
  all_goals
    rw [call]
    rw [ends] at verified
    exact verified

/-- **Verification holds no connection**: however a verification or a call for the composite
ends, each connection that it opened is closed once, and as many are closed as were opened. -/
theorem verification_holds_nothing (provider : Provider σ F C) :
    (∀ (verifier : Verifier) slices board world,
      verifier.HoldsNothing provider slices board world ∧
        ∃ count, (verifier.verify provider slices board world).2.2.opened = world.opened + count ∧
          (verifier.verify provider slices board world).2.2.closed = world.closed + count) ∧
    ∀ (config : Configuration) schedule session,
      let after := (config.connectionFactory provider schedule session).2.world
      session.world.Balances after ∧
        ∃ count, after.opened = session.world.opened + count ∧
          after.closed = session.world.closed + count := by
  constructor
  · intro verifier slices board world
    have holds := verifier.holdsNothing provider slices board world
    exact ⟨holds, holds.balances.count⟩
  · intro config schedule session after
    have balances := config.balances_connectionFactory provider schedule session
    exact ⟨balances, balances.count⟩

namespace Configuration

/-- The first target's connection can not be closed, the second one panics. -/
def jammed : Simulation.Field :=
  (Simulation.Field.empty.setScripted "u1" ["close-fails"] false).setScripted "u2" ["panic"] false

/-- The first region is active nevertheless, and its connection was closed. -/
theorem jammed_holds_nothing :
    let ended := verify ⟨true, .sequential, .inOrder⟩ Simulation.provider
      (regions true).registry.slices .blank (.initial jammed)
    ended.1.returns = false ∧ ended.2.1.of (regions true).registry.first = .active ∧
      Simulation.log ended.2.2 = ["close-fails u1", "close u1", "panic u2"] ∧
      HoldsNothing ⟨true, .sequential, .inOrder⟩ Simulation.provider
        (regions true).registry.slices .blank (.initial jammed) := by
  refine ⟨?_, ?_, ?_, ((verification_holds_nothing Simulation.provider).1 _ _ _ _).1⟩
  · decide +kernel
  · decide +kernel
  · decide +kernel

end Configuration

end SliceFleet
