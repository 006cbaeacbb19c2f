/-
SliceFleet.Proofs.Probing — what one probe does, and what several do in turn.

A probe finds a factory exactly when a connection is obtained from the
decorated factory of the slice (`probe_eq_done_iff`). It asks for one
factory, the slice's (`requests_probe`), and for nothing of other slices.

`probesInTurn` lists, for slices probed one after the other, what is found of
each in the world that the probes before it leave; `probeThrough` is the
world behind them all. No board takes part: what is recorded of the findings
is the matter of the verifier.
-/
import Mathlib.Data.List.Basic
import SliceFleet.Verification

namespace SliceFleet

/-! ## How a probe ends -/

namespace Outcome

variable {ε α : Type}

/-- Whether there is an answer. -/
def isDone : Outcome ε α → Bool
  | .done _ => true
  | _ => false

/-- The answer, if there is one. -/
def answer? : Outcome ε α → Option α
  | .done answer => some answer
  | _ => none

/-- Whether the call was not left by a panic. -/
def returns : Outcome ε α → Bool
  | .panicked _ => false
  | _ => true

theorem returns_eq_false_iff {outcome : Outcome ε α} :
    outcome.returns = false ↔ ∃ text, outcome = .panicked text := by
  cases outcome <;> simp [returns]

theorem isDone_eq_true_iff {outcome : Outcome ε α} :
    outcome.isDone = true ↔ ∃ answer, outcome = .done answer := by
  cases outcome <;> simp [isDone]

theorem ofExcept_eq_done_iff {result : Except ε α} {answer : α} :
    ofExcept result = .done answer ↔ result = .ok answer := by
  cases result <;> simp [ofExcept]

/-- A call that returns without an answer reports a fault. -/
theorem exists_fault {outcome : Outcome ε α} (returned : outcome.returns = true)
    (without : outcome.isDone = false) : ∃ fault, outcome = .failed fault := by
  cases outcome with
  | done answer => cases without
  | failed fault => exact ⟨fault, rfl⟩
  | panicked text => cases returned

end Outcome

variable {σ F C : Type}

/-- A connection is obtained with the next number. -/
theorem Provider.attempt_yields_iff {provider : Provider σ F C} {factory : F}
    {world : World σ F C} {link : Link C} :
    (provider.attempt factory world).1 = .done (some link) ↔
      ∃ handle, (provider.connect factory world.backend).1 = .done (some handle) ∧
        link = ⟨world.opened, handle⟩ := by
  rw [Provider.attempt]
  rcases provider.connect factory world.backend with ⟨(_ | handle) | fault | text, backend⟩ <;>
    simp [Outcome.map, eq_comm]

/-- **How a probe goes**: no factory is made, or it yields no connection, or it
yields one, which is released. -/
theorem probe_cases (provider : Provider σ F C) (slice : Slice) (world : World σ F C) :
    (∃ outcome, outcome.isDone = false ∧
      probe provider slice world = (outcome, (provider.request slice.config world).2)) ∨
    ∃ raw, (provider.request slice.config world).1 = .done raw ∧
      let dressed := provider.dress slice.config raw (provider.request slice.config world).2
      (∃ outcome, outcome.isDone = false ∧
        (∀ link, (provider.attempt dressed.1 dressed.2).1 ≠ .done (some link)) ∧
        probe provider slice world = (outcome, (provider.attempt dressed.1 dressed.2).2)) ∨
      ∃ link, (provider.attempt dressed.1 dressed.2).1 = .done (some link) ∧
        probe provider slice world = (.done dressed.1,
          (provider.release link (provider.attempt dressed.1 dressed.2).2).2) := by
  unfold probe
  rcases provider.request slice.config world with ⟨raw | fault | text, made⟩
  · refine .inr ⟨raw, rfl, ?_⟩
    dsimp only
    rcases provider.dress slice.config raw made with ⟨factory, dressed⟩
    dsimp only
    rcases provider.attempt factory dressed with ⟨(_ | link) | fault | text, after⟩
    · exact .inl ⟨_, rfl, by simp, rfl⟩
    · exact .inr ⟨link, rfl, rfl⟩
    · exact .inl ⟨_, rfl, by simp, rfl⟩
    · exact .inl ⟨_, rfl, by simp, rfl⟩
  · exact .inl ⟨_, rfl, rfl⟩
  · exact .inl ⟨_, rfl, rfl⟩

/-- In this world a connection to the slice is obtained, from this factory: it
is what the provider makes for the slice's configuration and decorates. -/
def Obtains (provider : Provider σ F C) (slice : Slice) (world : World σ F C) (factory : F) :
    Prop :=
  ∃ raw made handle,
    provider.makeFactory slice.config world.backend = (.done raw, made) ∧
      (provider.decorate slice.config raw made).1 = factory ∧
      (provider.connect factory (provider.decorate slice.config raw made).2).1 =
        .done (some handle)

/-- **A probe finds a factory exactly when a connection is obtained from it.** -/
theorem probe_eq_done_iff {provider : Provider σ F C} {slice : Slice} {world : World σ F C}
    {factory : F} :
    (probe provider slice world).1 = .done factory ↔ Obtains provider slice world factory := by
  constructor
  · intro found
    rcases requested : provider.makeFactory slice.config world.backend with ⟨made, state⟩
    cases made with
    | failed fault => simp [probe, Provider.request, requested] at found
    | panicked text => simp [probe, Provider.request, requested] at found
    | done raw =>
      rcases connected : provider.connect (provider.decorate slice.config raw state).1
        (provider.decorate slice.config raw state).2 with ⟨answer, after⟩
      simp only [probe, Provider.request, Provider.dress, Provider.attempt, requested,
        World.after, connected] at found
      rcases answer with (_ | handle) | fault | text
      · cases found
      · have decorated : (provider.decorate slice.config raw state).1 = factory := by
          simpa [Outcome.map] using found
        refine ⟨raw, state, handle, requested, decorated, ?_⟩
        rw [← decorated, connected]
      · cases found
      · cases found
  · rintro ⟨raw, state, handle, requested, rfl, connected⟩
    simp [probe, Provider.request, Provider.dress, Provider.attempt, requested, World.after,
      connected, Outcome.map]

/-- In this world no connection to the slice is obtained, for this cause: its
factory can not be made, or connecting fails, or it answers without a connection. -/
def Refuses (provider : Provider σ F C) (slice : Slice) (world : World σ F C)
    (cause : BackendFault) : Prop :=
  (provider.makeFactory slice.config world.backend).1 = .failed cause ∨
    ∃ raw made answer,
      provider.makeFactory slice.config world.backend = (.done raw, made) ∧
        (provider.connect (provider.decorate slice.config raw made).1
          (provider.decorate slice.config raw made).2).1 = answer ∧
        (answer = .failed cause ∨ answer = .done none ∧ cause = .noConnection slice.target)

/-- A probe reports a cause exactly when no connection is obtained for it. -/
theorem probe_eq_failed_iff {provider : Provider σ F C} {slice : Slice} {world : World σ F C}
    {cause : BackendFault} :
    (probe provider slice world).1 = .failed cause ↔ Refuses provider slice world cause := by
  rcases requested : provider.makeFactory slice.config world.backend with ⟨made, state⟩
  cases made with
  | failed fault => simp [Refuses, probe, Provider.request, requested]
  | panicked text => simp [Refuses, probe, Provider.request, requested]
  | done raw =>
    rcases connected : provider.connect (provider.decorate slice.config raw state).1
      (provider.decorate slice.config raw state).2 with ⟨answer, after⟩
    simp only [Refuses, probe, Provider.request, Provider.dress, Provider.attempt, requested,
      World.after, connected]
    rcases answer with (_ | handle) | fault | text <;>
      simp [Outcome.map, connected, eq_comm]

/-- In this world a panic leaves the making of the slice's factory, or the attempt that
is made of it. -/
def Panics (provider : Provider σ F C) (slice : Slice) (world : World σ F C) (text : String) :
    Prop :=
  (provider.makeFactory slice.config world.backend).1 = .panicked text ∨
    ∃ raw made, provider.makeFactory slice.config world.backend = (.done raw, made) ∧
      (provider.connect (provider.decorate slice.config raw made).1
        (provider.decorate slice.config raw made).2).1 = .panicked text

/-- A probe is left by no other panic. -/
theorem probe_eq_panicked_iff {provider : Provider σ F C} {slice : Slice} {world : World σ F C}
    {text : String} :
    (probe provider slice world).1 = .panicked text ↔ Panics provider slice world text := by
  rcases requested : provider.makeFactory slice.config world.backend with ⟨made, state⟩
  cases made with
  | failed fault => simp [Panics, probe, Provider.request, requested]
  | panicked text => simp [Panics, probe, Provider.request, requested]
  | done raw =>
    rcases connected : provider.connect (provider.decorate slice.config raw state).1
      (provider.decorate slice.config raw state).2 with ⟨answer, after⟩
    simp only [Panics, probe, Provider.request, Provider.dress, Provider.attempt, requested,
      World.after, connected]
    rcases answer with (_ | handle) | fault | text <;> simp [Outcome.map, connected]

/-- The configurations that factories were asked for, oldest first. -/
def World.requests (world : World σ F C) : List BackendConfig :=
  world.journal.filterMap fun
    | .requested config => some config
    | _ => none

/-- A probe asks for one factory, that of the slice. -/
theorem requests_probe (provider : Provider σ F C) (slice : Slice) (world : World σ F C) :
    (probe provider slice world).2.requests = world.requests ++ [slice.config] := by
  rcases probe_cases provider slice world with
    ⟨outcome, -, goes⟩ | ⟨raw, -, ⟨outcome, -, -, goes⟩ | ⟨link, -, goes⟩⟩ <;>
  simp [goes, World.requests, Provider.journal_request, Provider.journal_dress,
    Provider.journal_attempt, Provider.journal_release]

/-! ## Probing one slice after the other -/

/-- The world after the slices were probed one after the other. -/
def probeThrough (provider : Provider σ F C) (slices : List Slice) (world : World σ F C) :
    World σ F C :=
  slices.foldl (fun world slice => (probe provider slice world).2) world

/-- Every slice with what a probe finds of it after those before it were probed. -/
def probesInTurn (provider : Provider σ F C) :
    List Slice → World σ F C → List (Slice × Outcome BackendFault F)
  | [], _ => []
  | slice :: rest, world =>
    (slice, (probe provider slice world).1) ::
      probesInTurn provider rest (probe provider slice world).2

theorem probeThrough_append (provider : Provider σ F C) (ahead behind : List Slice)
    (world : World σ F C) :
    probeThrough provider (ahead ++ behind) world =
      probeThrough provider behind (probeThrough provider ahead world) :=
  List.foldl_append

theorem probesInTurn_append (provider : Provider σ F C) (ahead behind : List Slice)
    (world : World σ F C) :
    probesInTurn provider (ahead ++ behind) world =
      probesInTurn provider ahead world ++
        probesInTurn provider behind (probeThrough provider ahead world) := by
  induction ahead generalizing world with
  | nil => rfl
  | cons slice rest ih =>
    simp only [List.cons_append, probesInTurn, ih]
    rfl

/-- Every slice is probed, in the order of the slices. -/
@[simp] theorem map_fst_probesInTurn (provider : Provider σ F C) (slices : List Slice)
    (world : World σ F C) : (probesInTurn provider slices world).map (·.1) = slices := by
  induction slices generalizing world with
  | nil => rfl
  | cons slice rest ih => simp [probesInTurn, ih]

theorem slice_mem_of_mem_probesInTurn {provider : Provider σ F C} {slices : List Slice}
    {world : World σ F C} {found : Slice × Outcome BackendFault F}
    (member : found ∈ probesInTurn provider slices world) : found.1 ∈ slices := by
  rw [← map_fst_probesInTurn provider slices world]
  exact List.mem_map_of_mem member

/-- What is found of a slice is found in the world behind the slices before it. -/
theorem probesInTurn_split {provider : Provider σ F C} {slices : List Slice}
    {world : World σ F C} {ahead behind : List (Slice × Outcome BackendFault F)}
    {found : Slice × Outcome BackendFault F}
    (split : probesInTurn provider slices world = ahead ++ found :: behind) :
    slices = ahead.map (·.1) ++ found.1 :: behind.map (·.1) ∧
      probesInTurn provider (ahead.map (·.1)) world = ahead ∧
      found.2 = (probe provider found.1 (probeThrough provider (ahead.map (·.1)) world)).1 := by
  have names : slices = ahead.map (·.1) ++ found.1 :: behind.map (·.1) := by
    rw [← map_fst_probesInTurn provider slices world, split]
    simp
  rw [names, probesInTurn_append] at split
  have sizes : (probesInTurn provider (ahead.map (·.1)) world).length = ahead.length := by
    rw [← List.length_map (·.1), map_fst_probesInTurn, List.length_map]
  obtain ⟨front, back⟩ := List.append_inj split sizes
  refine ⟨names, front, ?_⟩
  rw [probesInTurn] at back
  exact (congrArg Prod.snd (List.cons.inj back).1).symm

/-- **What each probe finds**: what probing the slice finds after those before it
were probed. -/
theorem mem_probesInTurn_iff {provider : Provider σ F C} {slices : List Slice}
    {world : World σ F C} {slice : Slice} {outcome : Outcome BackendFault F} :
    (slice, outcome) ∈ probesInTurn provider slices world ↔
      ∃ ahead behind, slices = ahead ++ slice :: behind ∧
        (probe provider slice (probeThrough provider ahead world)).1 = outcome := by
  constructor
  · intro member
    obtain ⟨ahead, behind, split⟩ := List.append_of_mem member
    obtain ⟨order, -, found⟩ := probesInTurn_split split
    exact ⟨_, _, order, found.symm⟩
  · rintro ⟨ahead, behind, rfl, rfl⟩
    rw [probesInTurn_append]
    exact List.mem_append_right _ List.mem_cons_self

/-- Each slice that is probed gets one request, and no other slice gets any. -/
theorem requests_probeThrough (provider : Provider σ F C) (slices : List Slice)
    (world : World σ F C) :
    (probeThrough provider slices world).requests = world.requests ++ slices.map (·.config) := by
  induction slices generalizing world with
  | nil => simp [probeThrough]
  | cons slice rest ih =>
    calc (probeThrough provider (slice :: rest) world).requests
      _ = (probe provider slice world).2.requests ++ rest.map (·.config) := ih _
      _ = world.requests ++ (slice :: rest).map (·.config) := by
        rw [requests_probe, List.append_assoc]
        rfl

end SliceFleet
