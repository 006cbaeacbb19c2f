/-
SliceFleet.Proofs.KeptBackends — what no call of a provider changes of its state.

`Provider.Keeps` says of a property of the provider's state that each of the four calls
keeps it. Everything that is done with the provider consists of these calls, so all of it
keeps the property: probing, verifying and composing slices, opening connections and closing
or dropping them. The worlds behind a verification are among those that probes lead to
(`Verifier.reached_verify`), so what probes keep a verification keeps.
-/
import SliceFleet.Proofs.ModesAgree
import SliceFleet.Proofs.OpenHandles
import SliceFleet.Proofs.Building

namespace SliceFleet

variable {σ F C : Type}

/-! ## Worlds behind a verification -/

namespace Verifier

variable {provider : Provider σ F C} {slices : List Slice} {start world : World σ F C}

theorem reached_verifySequentially (lenient : Bool) {part : List Slice}
    (within : ∀ slice ∈ part, slice ∈ slices) (board : Board)
    (reached : ReachedByProbes provider slices start world) :
    ReachedByProbes provider slices start
      (verifySequentially lenient provider part board world).2.2 := by
  induction part generalizing board world with
  | nil => exact reached
  | cons slice rest ih =>
    obtain ⟨member, others⟩ := List.forall_mem_cons.1 within
    have next := reached.probe member
    rcases probed : probe provider slice world with ⟨outcome, after⟩
    rw [probed] at next
    simp only [verifySequentially, probed]
    cases outcome with
    | done factory => exact ih others _ next
    | failed cause =>
      cases lenient with
      | true => exact ih others _ next
      | false => exact next
    | panicked text => exact next

theorem reached_runThreads {threads : List (Nat × Slice)}
    (within : ∀ thread ∈ threads, thread.2 ∈ slices)
    (reached : ReachedByProbes provider slices start world) :
    ReachedByProbes provider slices start (runThreads provider threads world).2 := by
  induction threads generalizing world with
  | nil => exact reached
  | cons thread rest ih =>
    obtain ⟨member, others⟩ := List.forall_mem_cons.1 within
    exact ih others (reached.probe member)

/-- **The world behind a verification** is one that its probes lead to. -/
theorem reached_verify (verifier : Verifier) (board : Board)
    (reached : ReachedByProbes provider slices start world) :
    ReachedByProbes provider slices start
      (verifier.verify provider slices board world).2.2 := by
  obtain ⟨lenient, mode, schedule⟩ := verifier
  cases mode with
  | sequential => exact reached_verifySequentially lenient (fun _ member => member) board reached
  | parallel =>
    have behind := congrArg Prod.snd
      (verifyInParallel_snd lenient schedule provider slices board world)
    rw [show (verify ⟨lenient, .parallel, schedule⟩ provider slices board world).2.2 =
      (probeAll schedule provider slices world).2 from behind]
    exact reached_runThreads (fun _ => slice_mem_of_mem_arrange) reached

end Verifier

/-! ## Properties that are kept -/

/-- No call of the provider ends the property of its state. -/
structure Provider.Keeps (provider : Provider σ F C) (Holds : σ → Prop) : Prop where
  makeFactory : ∀ config state, Holds state → Holds (provider.makeFactory config state).2
  decorate : ∀ config factory state, Holds state →
    Holds (provider.decorate config factory state).2
  connect : ∀ factory state, Holds state → Holds (provider.connect factory state).2
  close : ∀ handle state, Holds state → Holds (provider.close handle state).2

/-- Where no call changes what is seen of the state, what is said of it is kept. -/
theorem Provider.keeps_of_view {α : Type} {provider : Provider σ F C} (view : σ → α)
    (unchanged : ∀ seen, provider.Keeps fun state => view state = seen) (Says : α → Prop) :
    provider.Keeps fun state => Says (view state) where
  makeFactory config state said := by
    rwa [(unchanged (view state)).makeFactory config state rfl]
  decorate config factory state said := by
    rwa [(unchanged (view state)).decorate config factory state rfl]
  connect factory state said := by
    rwa [(unchanged (view state)).connect factory state rfl]
  close handle state said := by
    rwa [(unchanged (view state)).close handle state rfl]

namespace Provider.Keeps

variable {provider : Provider σ F C} {Holds : σ → Prop} (keeps : provider.Keeps Holds)
  {world : World σ F C}

include keeps

theorem attempt (factory : F) (holds : Holds world.backend) :
    Holds (provider.attempt factory world).2.backend :=
  keeps.connect factory _ holds

theorem release (link : Link C) (holds : Holds world.backend) :
    Holds (provider.release link world).2.backend :=
  keeps.close link.handle _ holds

theorem probe (slice : Slice) (holds : Holds world.backend) :
    Holds (SliceFleet.probe provider slice world).2.backend := by
  have requested : Holds (provider.request slice.config world).2.backend :=
    keeps.makeFactory slice.config _ holds
  rcases probe_cases provider slice world with ⟨_, -, goes⟩ | ⟨raw, -, after⟩
  · rw [goes]
    exact requested
  · have dressed : Holds (provider.dress slice.config raw
        (provider.request slice.config world).2).2.backend :=
      keeps.decorate slice.config raw _ requested
    rcases after with ⟨_, -, -, goes⟩ | ⟨link, -, goes⟩
    · rw [goes]
      exact keeps.attempt _ dressed
    · rw [goes]
      exact keeps.release link (keeps.attempt _ dressed)

/-- What holds at the start holds wherever probes lead. -/
theorem reached {slices : List Slice} {start : World σ F C}
    (reached : ReachedByProbes provider slices start world) (holds : Holds start.backend) :
    Holds world.backend := by
  induction reached with
  | start => exact holds
  | @probe world slice _ _ ih => exact keeps.probe slice ih

theorem connectionFactory (config : Configuration) (schedule : Schedule)
    {session : Session σ F C} (holds : Holds session.world.backend) :
    Holds (config.connectionFactory provider schedule session).2.world.backend := by
  have here : ReachedByProbes provider config.registry.slices session.world session.world :=
    .start
  have behind := keeps.reached ((config.verifier schedule).reached_verify session.board here)
    holds
  rcases config.connectionFactory_cases provider schedule session with
    ⟨_, -, call⟩ | ⟨-, ⟨_, _, _, ends, call⟩ | ⟨_, _, _, ends, call⟩ | ⟨_, _, _, ends, call⟩⟩
  · rw [call]
    exact holds
  all_goals
    rw [ends] at behind
    rw [call]
    exact behind

/-! ## Connections -/

theorem releaseEach (links : List (Link C)) (holds : Holds world.backend) :
    Holds (SliceFleet.releaseEach provider links world).2.backend := by
  induction links generalizing world with
  | nil => exact holds
  | cons link rest ih => exact ih (keeps.release link holds)

theorem openEach (leaves : List (Leaf F)) (holds : Holds world.backend) :
    Holds (SliceFleet.openEach provider leaves world).2.backend := by
  induction leaves generalizing world with
  | nil => exact holds
  | cons leaf rest ih =>
    have attempted := keeps.attempt leaf.factory holds
    rcases answer : provider.attempt leaf.factory world with
      ⟨(_ | link) | fault | text, after⟩ <;> rw [answer] at attempted <;>
      simp only [SliceFleet.openEach, answer]
    · exact attempted
    · exact ih attempted
    · exact attempted
    · exact attempted

/-- A call for a connection attempts leaves, and may release the links to some. -/
theorem factoryConnect (factory : Factory F) (holds : Holds world.backend) :
    Holds (factory.connect provider world).2.backend := by
  have attempted := keeps.openEach (factory.leaves "") holds
  rcases opens : SliceFleet.openEach provider (factory.leaves "") world with
    ⟨⟨links, stop⟩, between⟩
  rw [opens] at attempted
  cases stop with
  | none =>
    obtain ⟨connection, connects, -⟩ := factory.connect_of_whole opens
    rw [connects]
    exact attempted
  | some cause =>
    rw [(factory.connect_of_stopped opens).2]
    exact keeps.releaseEach _ attempted

theorem connectionClose (connection : Connection C) (holds : Holds world.backend) :
    Holds (connection.close provider world).2.backend := by
  rw [connection.close_eq]
  exact keeps.releaseEach connection.links holds

theorem connectionDrop (connection : Connection C) (holds : Holds world.backend) :
    Holds (connection.drop provider world).backend := by
  cases connection with
  | leaf link => exact holds
  | distributed parts => exact keeps.connectionClose (.distributed parts) holds

theorem openWith (handles : Handles C) (factory : Factory F) (holds : Holds world.backend) :
    Holds (handles.openWith provider factory world).2.2.backend := by
  have connected := keeps.factoryConnect factory holds
  rcases answer : factory.connect provider world with
    ⟨(_ | connection) | fault | text, after⟩ <;> rw [answer] at connected <;>
    simp only [Handles.openWith, answer] <;> exact connected

theorem closeHandle (handles : Handles C) (number : Nat) (holds : Holds world.backend) :
    Holds (handles.close provider number world).2.2.backend := by
  cases held : handles.get? number with
  | none =>
    rw [Handles.close_of_empty held]
    exact holds
  | some connection =>
    rw [Handles.close_of_held held]
    exact keeps.connectionClose connection holds

theorem dropHandle (handles : Handles C) (number : Nat) (holds : Holds world.backend) :
    Holds (handles.drop provider number world).2.2.backend := by
  cases held : handles.get? number with
  | none =>
    rw [Handles.drop_of_empty held]
    exact holds
  | some connection =>
    rw [Handles.drop_of_held held]
    exact keeps.connectionDrop connection holds

end Provider.Keeps

end SliceFleet
