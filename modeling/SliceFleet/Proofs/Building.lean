/-
SliceFleet.Proofs.Building — what one call for the composite does.

A call that finds an outcome in memory answers it and changes nothing. Any
other call verifies the slices and goes on by how the verification ends: a
panic leaves the call with nothing in memory, a fault or the composed slices
are kept. Later proofs cite these four cases (`connectionFactory_cases`) and
do not open the call.
-/
import SliceFleet.Configuration.Session
import SliceFleet.Proofs.Probing

namespace SliceFleet.Configuration

variable {σ F C : Type} {config : Configuration} {provider : Provider σ F C}
  {schedule : Schedule} {session : Session σ F C}

theorem connectionFactory_of_known {outcome : Except SliceFault (Composite F)}
    (known : session.outcome = some outcome) :
    config.connectionFactory provider schedule session = (.ofExcept outcome, session) := by
  rw [connectionFactory, known]

variable {board : Board} {world : World σ F C}

theorem connectionFactory_of_panicked {text : String} (fresh : session.outcome = none)
    (left : (config.verifier schedule).verify provider config.registry.slices session.board
      session.world = (.panicked text, board, world)) :
    config.connectionFactory provider schedule session =
      (.panicked text, { session with board, world }) := by
  rw [connectionFactory, fresh]
  simp only [left]

theorem connectionFactory_of_failed {fault : SliceFault} (fresh : session.outcome = none)
    (failed : (config.verifier schedule).verify provider config.registry.slices session.board
      session.world = (.failed fault, board, world)) :
    config.connectionFactory provider schedule session =
      (.failed fault, { session with board, world, outcome := some (.error fault) }) := by
  rw [connectionFactory, fresh]
  simp only [failed]

theorem connectionFactory_of_done {verified : List (Verified F)} (fresh : session.outcome = none)
    (done : (config.verifier schedule).verify provider config.registry.slices session.board
      session.world = (.done verified, board, world)) :
    config.connectionFactory provider schedule session =
      (.ofExcept (compose verified),
        { session with board, world, outcome := some (compose verified) }) := by
  rw [connectionFactory, fresh]
  simp only [done]

/-- **How a call goes**: by memory, or by how its verification ends. -/
theorem connectionFactory_cases (config : Configuration) (provider : Provider σ F C)
    (schedule : Schedule) (session : Session σ F C) :
    let call := config.connectionFactory provider schedule session
    let verification := (config.verifier schedule).verify provider config.registry.slices
      session.board session.world
    (∃ known, session.outcome = some known ∧ call = (.ofExcept known, session)) ∨
    session.outcome = none ∧
      ((∃ verified board world, verification = (.done verified, board, world) ∧
          call = (.ofExcept (compose verified),
            { session with board, world, outcome := some (compose verified) })) ∨
        (∃ fault board world, verification = (.failed fault, board, world) ∧
          call = (.failed fault, { session with board, world, outcome := some (.error fault) })) ∨
        ∃ text board world, verification = (.panicked text, board, world) ∧
          call = (.panicked text, { session with board, world })) := by
  intro call verification
  rcases session.outcome.eq_none_or_eq_some with before | ⟨known, before⟩
  · refine .inr ⟨before, ?_⟩
    rcases ends : verification with ⟨verified | fault | text, board, world⟩
    · exact .inl ⟨verified, board, world, rfl, connectionFactory_of_done before ends⟩
    · exact .inr (.inl ⟨fault, board, world, rfl, connectionFactory_of_failed before ends⟩)
    · exact .inr (.inr ⟨text, board, world, rfl, connectionFactory_of_panicked before ends⟩)
  · exact .inl ⟨known, before, connectionFactory_of_known before⟩

/-- A call that answers keeps its answer. -/
theorem stored_of_done {composite : Composite F}
    (answered : (config.connectionFactory provider schedule session).1 = .done composite) :
    (config.connectionFactory provider schedule session).2.outcome = some (.ok composite) := by
  rcases config.connectionFactory_cases provider schedule session with
    ⟨known, before, call⟩ | ⟨-, ⟨verified, _, _, -, call⟩ | ⟨_, _, _, -, call⟩ | ⟨_, _, _, -, call⟩⟩
  · rw [call] at answered ⊢
    rw [before, Outcome.ofExcept_eq_done_iff.1 answered]
  · rw [call] at answered ⊢
    rw [Outcome.ofExcept_eq_done_iff.1 answered]
  · rw [call] at answered
    cases answered
  · rw [call] at answered
    cases answered

/-- A composite that was stored is that of a verification which came to an end. -/
theorem verified_of_stored {composite : Composite F} (fresh : session.outcome = none)
    (stored : (config.connectionFactory provider schedule session).2.outcome =
      some (.ok composite)) :
    ∃ verified,
      (config.verifier schedule).verify provider config.registry.slices session.board
        session.world = (.done verified,
          (config.connectionFactory provider schedule session).2.board,
          (config.connectionFactory provider schedule session).2.world) ∧
      compose verified = .ok composite ∧
      (config.connectionFactory provider schedule session).1 = .done composite := by
  rcases config.connectionFactory_cases provider schedule session with
    ⟨known, before, -⟩ |
    ⟨-, ⟨verified, _, _, ends, call⟩ | ⟨_, _, _, -, call⟩ | ⟨_, _, _, -, call⟩⟩
  · exact absurd (before.symm.trans fresh) (Option.some_ne_none known)
  · rw [call] at stored ⊢
    have composed := Option.some.inj stored
    refine ⟨verified, ends, composed, ?_⟩
    rw [composed]
    rfl
  · rw [call] at stored
    cases stored
  · rw [call] at stored
    exact absurd (stored.symm.trans fresh) (Option.some_ne_none _)

/-- A call that returns leaves an outcome. -/
theorem known_of_returns
    (returned : (config.connectionFactory provider schedule session).1.returns = true) :
    ∃ outcome, (config.connectionFactory provider schedule session).2.outcome = some outcome := by
  rcases config.connectionFactory_cases provider schedule session with
    ⟨known, before, call⟩ |
    ⟨-, ⟨verified, _, _, -, call⟩ | ⟨fault, _, _, -, call⟩ | ⟨_, _, _, -, call⟩⟩
  · rw [call]
    exact ⟨known, before⟩
  · rw [call]
    exact ⟨compose verified, rfl⟩
  · rw [call]
    exact ⟨.error fault, rfl⟩
  · rw [call] at returned
    cases returned

/-- A call without an outcome was left by a panic of its verification. -/
theorem panicked_of_unknown
    (unknown : (config.connectionFactory provider schedule session).2.outcome = none) :
    ∃ text, (config.verifier schedule).verify provider config.registry.slices session.board
      session.world = (.panicked text,
        (config.connectionFactory provider schedule session).2.board,
        (config.connectionFactory provider schedule session).2.world) := by
  rcases config.connectionFactory_cases provider schedule session with
    ⟨known, before, call⟩ |
    ⟨-, ⟨_, _, _, -, call⟩ | ⟨_, _, _, -, call⟩ | ⟨text, _, _, ends, call⟩⟩
  · rw [call] at unknown
    exact absurd (before.symm.trans unknown) (Option.some_ne_none known)
  · rw [call] at unknown
    cases unknown
  · rw [call] at unknown
    cases unknown
  · rw [call]
    exact ⟨text, ends⟩

end SliceFleet.Configuration
