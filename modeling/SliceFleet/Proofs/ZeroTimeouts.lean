/-
SliceFleet.Proofs.ZeroTimeouts — when SQLite databases make a run panic.

How the making of a factory ends is read off the configuration (`FactoryMade`):
it is refused without a known location or with an illegible bound of the pool,
and otherwise a pool is built, which panics if the timeout is zero. A zero is a
legible timeout, so such a configuration is accepted. The bound of the pool is
raised to one on the way and never panics (`poolPanic?_raised`).

A panic leaves a verification in turn, lenient or not; in parallel it stays
within its thread. So a lenient run over SQLite databases returns exactly if
it probes in parallel or has no such slice (`BuildsPools.lenient_run_returns_iff`),
and then it leaves out every slice without a factory. How databases are opened is
no matter for this, as long as no attempt panics (`BuildsPools`).
-/
import SliceFleet.Sqlite
import SliceFleet.Proofs.Acceptance
import SliceFleet.Proofs.LenientRuns

namespace SliceFleet

open Text

/-! ## Making a factory -/

namespace Sqlite

variable {config : BackendConfig}

/-- The location is known: the URL has the scheme, or the driver is named. -/
def Located (config : BackendConfig) : Prop :=
  ∃ url, config.url = some url ∧ (beginsWith scheme url = true ∨ namesDriver config = true)

/-- The bound of the pool, if one is set, is a numeral of 32 bits. -/
def Bounded (config : BackendConfig) : Prop :=
  ∀ text, config.options.get? "max_connections" = some text →
    ∃ size, IsNumeral text size ∧ size < 2 ^ 32

/-- A pool is built for the configuration, with a timeout of zero. -/
def Stalls (config : BackendConfig) : Prop :=
  Located config ∧ Bounded config ∧ config.timeout = 0

theorem location_of_located (located : Located config) :
    ∃ place, location config = .ok place := by
  obtain ⟨url, stated, known⟩ := located
  rw [location, stated]
  dsimp only
  cases cut : afterLead? scheme url with
  | some place => exact ⟨place, rfl⟩
  | none =>
    have named : namesDriver config = true := by simpa [beginsWith, cut] using known
    exact ⟨url, by simp [named]⟩

theorem location_of_unlocated (unlocated : ¬ Located config) :
    location config = .error (.unsupportedDriver config.target) := by
  rw [location]
  cases stated : config.url with
  | none => rfl
  | some url =>
    dsimp only
    cases cut : afterLead? scheme url with
    | some place => exact absurd ⟨url, stated, .inl (by simp [beginsWith, cut])⟩ unlocated
    | none =>
      have unnamed : ¬ namesDriver config = true := fun named =>
        unlocated ⟨url, stated, .inr named⟩
      simp [unnamed]

theorem poolSize_of_bounded (bounded : Bounded config) : ∃ size, poolSize config = .ok size := by
  rw [poolSize]
  cases stated : config.options.get? "max_connections" with
  | none => exact ⟨defaultPool, rfl⟩
  | some text =>
    obtain ⟨size, numeral, below⟩ := bounded text stated
    have read : numeralBelow poolBound text = .ok size :=
      (numeralBelow_eq_ok_iff (by decide)).2 ⟨numeral, below⟩
    exact ⟨size, by simp only [read]⟩

/-- An illegible bound is reported with its text. -/
theorem poolSize_of_unbounded (unbounded : ¬ Bounded config) :
    ∃ text cause, config.options.get? "max_connections" = some text ∧
      poolSize config =
        .error
          (.internal "sqlite" ("invalid max_connections \"" ++ text ++ "\"") (some cause)) := by
  simp only [Bounded, not_forall] at unbounded
  obtain ⟨text, stated, illegible⟩ := unbounded
  cases read : numeralBelow poolBound text with
  | ok size => exact absurd ⟨size, (numeralBelow_eq_ok_iff (by decide)).1 read⟩ illegible
  | error cause => exact ⟨text, cause, stated, by simp only [poolSize, stated, read]⟩

/-- A bound that was raised to one is never what a pool panics at. -/
theorem poolPanic?_raised (size timeout : Nat) :
    poolPanic? (max size 1) timeout =
      if timeout = 0 then some "connection_timeout must be positive" else none := by
  have positive : max size 1 ≠ 0 := by omega
  rw [poolPanic?, if_neg positive]

/-- How the making of a factory ends, by what the configuration states. -/
structure FactoryMade (config : BackendConfig) : Prop where
  unlocated : ¬ Located config → makeFactory config = .failed (.unsupportedDriver config.target)
  unbounded : Located config → ¬ Bounded config → ∃ text cause,
    config.options.get? "max_connections" = some text ∧
      makeFactory config =
        .failed (.internal "sqlite" ("invalid max_connections \"" ++ text ++ "\"") (some cause))
  panics : Stalls config → makeFactory config = .panicked "connection_timeout must be positive"
  made : Located config → Bounded config → config.timeout ≠ 0 → ∃ factory,
    makeFactory config = .done factory ∧ factory.target = config.target ∧ 0 < factory.maxSize

theorem factoryMade (config : BackendConfig) : FactoryMade config where
  unlocated unlocated := by simp only [makeFactory, location_of_unlocated unlocated]
  unbounded located unbounded := by
    obtain ⟨place, known⟩ := location_of_located located
    obtain ⟨text, cause, stated, illegible⟩ := poolSize_of_unbounded unbounded
    exact ⟨text, cause, stated, by simp only [makeFactory, known, illegible]⟩
  panics := by
    rintro ⟨located, bounded, zero⟩
    obtain ⟨place, known⟩ := location_of_located located
    obtain ⟨size, read⟩ := poolSize_of_bounded bounded
    simp only [makeFactory, known, read, poolPanic?_raised, if_pos zero]
  made located bounded positive := by
    obtain ⟨place, known⟩ := location_of_located located
    obtain ⟨size, read⟩ := poolSize_of_bounded bounded
    refine ⟨⟨config.target, place, mayCreate config, max size 1⟩, ?_, rfl, ?_⟩
    · simp only [makeFactory, known, read, poolPanic?_raised, if_neg positive]
    · exact Nat.lt_of_lt_of_le Nat.one_pos (Nat.le_max_right size 1)

/-- Making a factory panics exactly for a pool with a timeout of zero. -/
theorem returns_makeFactory_iff : (makeFactory config).returns = true ↔ ¬ Stalls config := by
  have ends := factoryMade config
  by_cases located : Located config
  · by_cases bounded : Bounded config
    · by_cases zero : config.timeout = 0
      · have stalls : Stalls config := ⟨located, bounded, zero⟩
        simp [ends.panics stalls, stalls, Outcome.returns]
      · obtain ⟨factory, made, -⟩ := ends.made located bounded zero
        simp [made, Outcome.returns, Stalls, zero]
    · obtain ⟨text, cause, -, refused⟩ := ends.unbounded located bounded
      simp [refused, Outcome.returns, Stalls, bounded]
  · simp [ends.unlocated located, Outcome.returns, Stalls, located]

/-! ## Probing a database -/

section Probes

variable {σ C : Type} {provider : Provider σ SqliteFactory C} {slice : Slice}
  {world : World σ SqliteFactory C}

/-- A provider that makes its factories like this and whose connections never panic; what
else it does, and what its state is, is left open. -/
structure BuildsPools (provider : Provider σ SqliteFactory C) : Prop where
  makes : ∀ config backend, (provider.makeFactory config backend).1 = makeFactory config
  connects : ∀ factory backend, (provider.connect factory backend).1.returns = true

/-- A probe is left by the panics of making the factory alone. -/
theorem BuildsPools.probe_panics_iff (pools : BuildsPools provider) {text : String} :
    (probe provider slice world).1 = .panicked text ↔
      makeFactory slice.config = .panicked text := by
  rw [probe_eq_panicked_iff, Panics, pools.makes]
  refine or_iff_left ?_
  rintro ⟨raw, made, -, left⟩
  have returned := pools.connects (provider.decorate slice.config raw made).1
    (provider.decorate slice.config raw made).2
  rw [left] at returned
  cases returned

/-- So it returns just if the factory can be made or is refused. -/
theorem BuildsPools.returns_probe (pools : BuildsPools provider) (slice : Slice)
    (world : World σ SqliteFactory C) :
    (probe provider slice world).1.returns = (makeFactory slice.config).returns := by
  have left : (probe provider slice world).1.returns = false ↔
      (makeFactory slice.config).returns = false := by
    simp only [Outcome.returns_eq_false_iff, pools.probe_panics_iff]
  simpa using not_congr left

/-- Without a factory there is no connection. -/
theorem BuildsPools.isDone_probe_of_unmade (pools : BuildsPools provider)
    (unmade : (makeFactory slice.config).isDone = false) (world : World σ SqliteFactory C) :
    (probe provider slice world).1.isDone = false := by
  rw [Bool.eq_false_iff]
  intro reached
  obtain ⟨factory, found⟩ := Outcome.isDone_eq_true_iff.1 reached
  obtain ⟨raw, after, -, made, -⟩ := probe_eq_done_iff.1 found
  rw [← pools.makes slice.config world.backend, made] at unmade
  cases unmade

/-- A probe of a slice that stalls is left by a panic. -/
theorem BuildsPools.exists_panicked_of_stalls (pools : BuildsPools provider)
    (stalls : Stalls slice.config) (world : World σ SqliteFactory C) :
    ∃ text, (probe provider slice world).1 = .panicked text :=
  ⟨_, pools.probe_panics_iff.2 ((factoryMade slice.config).panics stalls)⟩

end Probes

/-- Databases are such backends. -/
theorem provider_buildsPools : BuildsPools provider where
  makes _ _ := rfl
  connects factory host := by
    unfold provider connect
    dsimp only
    split <;> rfl

/-! ## Runs over databases -/

/-- The timeout is a zero just if the properties state one. -/
theorem timeout_eq_zero_iff {keys : Keyspace} {p : Properties}
    (read : BackendConfig.ofProperties keys p = .ok config) :
    config.timeout = 0 ↔
      ∃ text, p.get? (keys.settingKey .timeout) = some text ∧ IsNumeral (trim text) 0 := by
  have states := BackendConfig.statesTimeout_of_ofProperties read
  rw [BackendConfig.StatesTimeout] at states
  cases stated : p.get? (keys.settingKey .timeout) with
  | none =>
    rw [stated] at states
    simp [states, BackendConfig.defaultTimeout]
  | some text =>
    rw [stated] at states
    constructor
    · intro zero
      rw [zero] at states
      exact ⟨text, rfl, states.1⟩
    · rintro ⟨_, same, zero⟩
      cases same
      exact states.1.value_eq zero

section Runs

variable {σ C : Type} {provider : Provider σ SqliteFactory C} {run : Configuration}
  {schedule : Schedule} {session : Session σ SqliteFactory C}

/-- **A run is left by a panic** just if it probes in turn and comes to a slice
that stalls. -/
theorem BuildsPools.run_panics_iff (pools : BuildsPools provider)
    (fresh : session.outcome = none) :
    (run.connectionFactory provider schedule session).1.returns = false ↔
      run.mode = .sequential ∧ ∃ ahead slice behind,
        run.registry.slices = ahead ++ slice :: behind ∧
        (∀ found ∈ probesInTurn provider ahead session.world,
          Verifier.Passes run.lenient found.2) ∧
        Stalls slice.config := by
  rw [Bool.eq_false_iff, ne_eq, Configuration.returns_connectionFactory_iff fresh]
  constructor
  · intro left
    rcases (run.verifier schedule).verify_cases provider run.registry.slices session.board
      session.world with
      ⟨_, -, ends⟩ | ⟨-, _, _, ends⟩ | ⟨ahead, slice, text, behind, _, split, passes, turns, -⟩
    · exact absurd (by rw [ends]; rfl) left
    · exact absurd (by rw [ends]; rfl) left
    · -- A panic leaves only a verification in turn, at the probe that raised it.
      have sequential : run.mode = .sequential := turns
      simp only [Verifier.probes, Configuration.verifier, sequential] at split
      obtain ⟨order, front, found⟩ := probesInTurn_split split
      refine ⟨sequential, _, slice, _, order, by rw [front]; exact passes, ?_⟩
      rw [← not_not (a := Stalls slice.config), ← returns_makeFactory_iff,
        ← pools.returns_probe slice (probeThrough provider (ahead.map (·.1)) session.world),
        ← found]
      exact Bool.false_ne_true
  · rintro ⟨sequential, ahead, slice, behind, order, passes, stalls⟩ returned
    obtain ⟨text, left⟩ := pools.exists_panicked_of_stalls stalls
      (probeThrough provider ahead session.world)
    have split : probesInTurn provider run.registry.slices session.world =
        probesInTurn provider ahead session.world ++ (slice, .panicked text) ::
          probesInTurn provider behind
            (probe provider slice (probeThrough provider ahead session.world)).2 := by
      rw [order, probesInTurn_append, probesInTurn, left]
    rw [verify_in_turn schedule sequential,
      Verifier.verifySequentially_of_panicked session.board split passes] at returned
    cases returned

/-- A lenient run comes to every slice, unless a panic leaves it before. -/
theorem BuildsPools.lenient_run_returns_iff (pools : BuildsPools provider)
    (lenient : run.lenient = true) (fresh : session.outcome = none) :
    (run.connectionFactory provider schedule session).1.returns = true ↔
      run.mode = .parallel ∨ ∀ slice ∈ run.registry.slices, ¬ Stalls slice.config := by
  rw [Configuration.returns_connectionFactory_iff fresh, Verifier.returns_iff_of_lenient lenient]
  cases mode : run.mode with
  | parallel =>
    simp only [Verifier.probes, Configuration.verifier, mode]
    exact iff_of_true (fun found member => Verifier.returns_of_mem_probesOf member) (.inl trivial)
  | sequential =>
    simp only [Verifier.probes, Configuration.verifier, mode]
    refine Iff.trans ?_ (or_iff_right ProbeMode.noConfusion).symm
    constructor
    · intro all slice member
      rw [← map_fst_probesInTurn provider run.registry.slices session.world] at member
      obtain ⟨⟨own, outcome⟩, inProbes, rfl⟩ := List.mem_map.1 member
      obtain ⟨_, _, -, found⟩ := mem_probesInTurn_iff.1 inProbes
      rw [← returns_makeFactory_iff, ← pools.returns_probe, found]
      exact all _ inProbes
    · rintro none ⟨slice, outcome⟩ inProbes
      obtain ⟨_, _, -, rfl⟩ := mem_probesInTurn_iff.1 inProbes
      rw [pools.returns_probe, returns_makeFactory_iff]
      exact none slice (slice_mem_of_mem_probesInTurn inProbes)

end Runs

/-- **When SQLite databases make a run panic.** Whatever configuration is read, making
its factory is refused or gives the factory, unless it stalls over a timeout that
reads as zero. A run is left by a panic just if it probes in turn and comes to a slice
that stalls; so a lenient run returns if none stalls or it probes in parallel, and
then every slice without a factory is left out. Of the backends it matters only how
factories are made of configurations, and that connecting does not panic. -/
theorem runs_return_unless_stalled (keys : Keyspace) (policies : PolicyBook) (p : Properties) :
    (∀ own, BackendConfig.ofProperties keys p = .ok own → FactoryMade own ∧
      ((makeFactory own).returns = true ↔ ¬ Stalls own) ∧
      (own.timeout = 0 ↔
        ∃ text, p.get? (keys.settingKey .timeout) = some text ∧ IsNumeral (trim text) 0)) ∧
    BuildsPools Sqlite.provider ∧
    ∀ {σ C : Type} (provider : Provider σ SqliteFactory C), BuildsPools provider →
      ∀ run, Configuration.build keys policies p = .ok run →
      ∀ (schedule : Schedule) (session : Session σ SqliteFactory C),
        session.outcome = none →
        let call := run.connectionFactory provider schedule session
        (call.1.returns = false ↔ run.mode = .sequential ∧ ∃ ahead slice behind,
          run.registry.slices = ahead ++ slice :: behind ∧
          (∀ found ∈ probesInTurn provider ahead session.world,
            Verifier.Passes run.lenient found.2) ∧
          Stalls slice.config) ∧
        (run.lenient = true →
          (call.1.returns = true ↔
            run.mode = .parallel ∨ ∀ slice ∈ run.registry.slices, ¬ Stalls slice.config) ∧
          (call.1.returns = true → ∀ slice ∈ run.registry.slices,
            session.board.of slice = .uninitialized →
            (makeFactory slice.config).isDone = false →
            call.2.board.of slice = .inactive ∧
              ∀ composite, call.1 = .done composite → slice.name ∉ composite.slices)) := by
  refine ⟨?_, provider_buildsPools, ?_⟩
  · intro own read
    exact ⟨factoryMade own, returns_makeFactory_iff, timeout_eq_zero_iff read⟩
  · intro σ C provider pools run built schedule session fresh call
    refine ⟨pools.run_panics_iff fresh, fun lenient =>
      ⟨pools.lenient_run_returns_iff lenient fresh, ?_⟩⟩
    intro returned slice member unverified unmade
    exact Configuration.left_out_of_lenient (Configuration.nodup_names_of_build built) lenient
      fresh returned member unverified fun before => pools.isDone_probe_of_unmade unmade before

/-- Three slices, left out where they must be: one with a database in memory, one of
another driver, and one with an illegible bound. -/
def tended : Properties := .ofList [
  ("helios.slice.Names", "east,north,west"),
  ("helios.slice.Lenient", "true"),
  ("helios.ConnectionURL", "sqlite::memory:"),
  ("helios.slice.north.ConnectionURL", "pg:north"),
  ("helios.slice.west.ConnectionProperties", "max_connections=many")]

theorem tended_returns :
    (∃ own, BackendConfig.ofProperties default tended = .ok own ∧
      (makeFactory own).returns = true) ∧
    ∃ run, Configuration.build default .standard tended = .ok run ∧ run.lenient = true ∧
      (run.connectionFactory provider .inOrder (.initial default)).1.returns = true ∧
      ∀ slice ∈ run.registry.slices, slice.name ≠ "east" →
        (run.connectionFactory provider .inOrder (.initial default)).2.board.of slice =
          .inactive := by
  have timed :
      (BackendConfig.ofProperties default tended).toOption.any (·.timeout != 0) = true := by
    decide +kernel
  have evaluated : (Configuration.build default .standard tended).toOption.any (fun run =>
      run.lenient && run.registry.slices.all fun slice =>
        (makeFactory slice.config).returns &&
          (slice.name == "east" || !(makeFactory slice.config).isDone)) = true := by decide +kernel
  obtain ⟨own, read, positive⟩ := exists_of_any_toOption timed
  obtain ⟨run, built, passed⟩ := exists_of_any_toOption evaluated
  simp only [Bool.and_eq_true, List.all_eq_true, Bool.or_eq_true, Bool.not_eq_true', beq_iff_eq]
    at passed
  obtain ⟨lenient, made⟩ := passed
  obtain ⟨makes, pools, whole⟩ := runs_return_unless_stalled default .standard tended
  obtain ⟨-, leniently⟩ := whole provider pools run built .inOrder (.initial default) rfl
  obtain ⟨returns, leaves⟩ := leniently lenient
  have returned : (run.connectionFactory provider .inOrder (.initial default)).1.returns = true :=
    returns.2 (.inr fun slice member => returns_makeFactory_iff.1 (made slice member).1)
  have moving : ¬ Stalls own := fun stalls => bne_iff_ne.1 positive stalls.2.2
  refine ⟨⟨own, read, (makes own read).2.1.2 moving⟩, run, built, lenient, returned, ?_⟩
  intro slice member other
  have unmade := (made slice member).2.resolve_left other
  exact (leaves returned slice member rfl unmade).1

/-- Two databases in memory, the first of them with a timeout of zero. -/
def hurried : Properties := .ofList [
  ("helios.slice.Names", "east,west"),
  ("helios.slice.Lenient", "true"),
  ("helios.ConnectionURL", "sqlite::memory:"),
  ("helios.slice.east.ConnectTimeout", "0")]

/-- The configuration is accepted and lenient, and the panic over its first slice leaves
the run. -/
theorem hurried_panics :
    (∃ own, BackendConfig.ofProperties default (Keyspace.partition default hurried "east") =
        .ok own ∧ makeFactory own = .panicked "connection_timeout must be positive") ∧
    ∃ run, Configuration.build default .standard hurried = .ok run ∧ run.lenient = true ∧
      (run.connectionFactory provider .inOrder (.initial default)).1.returns = false := by
  have own : (BackendConfig.ofProperties default
      (Keyspace.partition default hurried "east")).toOption.any (fun own =>
        makeFactory own == .panicked "connection_timeout must be positive") = true := by
    decide +kernel
  have whole : (Configuration.build default .standard hurried).toOption.any (fun run =>
      run.lenient && !(run.connectionFactory provider .inOrder (.initial default)).1.returns) =
        true := by decide +kernel
  obtain ⟨config, read, stalls⟩ := exists_of_any_toOption own
  obtain ⟨run, built, left⟩ := exists_of_any_toOption whole
  rw [Bool.and_eq_true, Bool.not_eq_true'] at left
  exact ⟨⟨config, read, eq_of_beq stalls⟩, run, built, left.1, left.2⟩

end Sqlite

end SliceFleet
