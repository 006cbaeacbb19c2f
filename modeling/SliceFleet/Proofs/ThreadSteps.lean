/-
SliceFleet.Proofs.ThreadSteps — threads that take turns.

A thread probes its slice by a few calls to the provider, and threads that run
at once may have theirs in any mixture. Here a thread makes one call a turn
(`ThreadState.step`), and a crew of threads takes any turns at all (`Crew.turns`).
Four turns in a row are a probe (`four_steps`), so threads that run one
after the other are one of these mixtures (`turns_of_runThreads`).

At any time the links that are open are those held by threads between
their attempt and their closing (`accounts_turns`); behind a crew whose threads
have all ended nothing is left open.
-/
import Mathlib.Data.List.Perm.Basic
import SliceFleet.Proofs.Mirrors
import SliceFleet.Proofs.ProbeLedger

namespace SliceFleet

open Verifier

variable {σ F C : Type}

/-! ## One thread -/

/-- How far a thread has come with its probe. -/
inductive ThreadState (F C : Type) where
  | begun
  | made (raw : F)
  | dressed (factory : F)
  /-- A connection is open. -/
  | holding (factory : F) (link : Link C)
  | ended (outcome : Outcome BackendFault F)

namespace ThreadState

/-- The next call of the probe. -/
def step (provider : Provider σ F C) (slice : Slice) (world : World σ F C) :
    ThreadState F C → ThreadState F C × World σ F C
  | .begun =>
    match provider.request slice.config world with
    | (.done raw, world) => (.made raw, world)
    | (.failed fault, world) => (.ended (.failed fault), world)
    | (.panicked text, world) => (.ended (.panicked text), world)
  | .made raw =>
    let (factory, world) := provider.dress slice.config raw world
    (.dressed factory, world)
  | .dressed factory =>
    match provider.attempt factory world with
    | (.done (some link), world) => (.holding factory link, world)
    | (.done none, world) => (.ended (.failed (.noConnection slice.target)), world)
    | (.failed fault, world) => (.ended (.failed fault), world)
    | (.panicked text, world) => (.ended (.panicked text), world)
  | .holding factory link => (.ended (.done factory), (provider.release link world).2)
  | .ended outcome => (.ended outcome, world)

/-- The link that the thread has to close yet. -/
def held : ThreadState F C → List (Link C)
  | .holding _ link => [link]
  | _ => []

/-- **Four calls in a row are a probe**, or fewer if it ends before. -/
theorem four_steps (provider : Provider σ F C) (slice : Slice) (world : World σ F C) :
    (fun now : ThreadState F C × World σ F C => now.1.step provider slice now.2)^[4]
      (.begun, world) =
        (.ended (probe provider slice world).1, (probe provider slice world).2) := by
  simp only [Function.iterate_succ, Function.iterate_zero, Function.comp, id, step, probe]
  rcases provider.request slice.config world with ⟨raw | fault | text, made⟩
  · rcases attempted : provider.attempt (provider.dress slice.config raw made).1
      (provider.dress slice.config raw made).2 with ⟨(_ | link) | fault | text, after⟩ <;>
      simp only [attempted]
  · rfl
  · rfl

/-- **What a call does**: it may open the link that the thread holds then, or close the
one that the thread has held. -/
theorem step_events (provider : Provider σ F C) (slice : Slice) (world : World σ F C)
    (state : ThreadState F C) :
    ∃ events, (state.step provider slice world).2.journal = world.journal ++ events ∧
      closedBy events ++ (state.step provider slice world).1.held =
        state.held ++ openedBy world.opened events := by
  cases state with
  | begun =>
    have journal := provider.journal_request slice.config world
    unfold step
    generalize provider.request slice.config world = asked at journal ⊢
    obtain ⟨raw | fault | text, after⟩ := asked <;> exact ⟨_, journal, rfl⟩
  | made raw => exact ⟨[], (List.append_nil _).symm, rfl⟩
  | dressed factory =>
    rcases answered : provider.connect factory world.backend with ⟨answer, backend⟩
    refine ⟨[.attempted factory answer], ?_⟩
    rw [step, Provider.attempt, answered]
    obtain (_ | handle) | fault | text := answer <;> exact ⟨rfl, rfl⟩
  | holding factory link => exact ⟨_, provider.journal_release link world, rfl⟩
  | ended outcome => exact ⟨[], (List.append_nil _).symm, rfl⟩

end ThreadState

/-! ## Several threads -/

/-- A thread of a parallel verification, with its number and its slice. -/
structure Thread (F C : Type) where
  number : Nat
  slice : Slice
  state : ThreadState F C

/-- What a thread reports under its number, once it has ended. -/
def Thread.report? (thread : Thread F C) : Option (Nat × Except BackendFault F) :=
  match thread.state with
  | .ended outcome => some (thread.number, findingOf outcome)
  | _ => none

/-- Threads that run at once. -/
structure Crew (σ F C : Type) where
  threads : List (Thread F C)
  world : World σ F C

namespace Crew

/-- All threads are begun, and none has called the provider. -/
def start (threads : List (Nat × Slice)) (world : World σ F C) : Crew σ F C :=
  ⟨threads.map fun thread => ⟨thread.1, thread.2, .begun⟩, world⟩

/-- The thread at that place makes its next call. -/
def turn (provider : Provider σ F C) (crew : Crew σ F C) (place : Nat) : Crew σ F C :=
  match crew.threads[place]? with
  | none => crew
  | some thread =>
    let (state, world) := thread.state.step provider thread.slice crew.world
    ⟨crew.threads.set place { thread with state }, world⟩

/-- Threads make their next calls, those at these places in turn. -/
def turns (provider : Provider σ F C) (crew : Crew σ F C) (places : List Nat) : Crew σ F C :=
  places.foldl (turn provider) crew

/-- The links that threads have to close yet. -/
def held (crew : Crew σ F C) : List (Link C) :=
  crew.threads.flatMap fun thread => thread.state.held

/-- No thread has a call left to make. -/
def Ended (crew : Crew σ F C) : Prop :=
  ∀ thread ∈ crew.threads, ∃ outcome, thread.state = .ended outcome

/-- What the threads report that have ended. -/
def reports (crew : Crew σ F C) : List (Nat × Except BackendFault F) :=
  crew.threads.filterMap Thread.report?

/-- The links that were opened since then are closed, or held by a thread. -/
def Accounts (before : World σ F C) (crew : Crew σ F C) : Prop :=
  ∃ links back, (back ++ crew.held).Perm links ∧
    crew.world.openedLinks = before.openedLinks ++ links ∧
    crew.world.closedLinks = before.closedLinks ++ back

theorem held_start (threads : List (Nat × Slice)) (world : World σ F C) :
    (start threads world).held = [] := by
  refine List.flatMap_eq_nil_iff.2 fun thread member => ?_
  obtain ⟨numbered, -, rfl⟩ := List.mem_map.1 member
  rfl

theorem accounts_start (threads : List (Nat × Slice)) (world : World σ F C) :
    (start threads world).Accounts world := by
  refine ⟨[], [], ?_, (List.append_nil _).symm, (List.append_nil _).symm⟩
  rw [held_start]
  exact .nil

/-- A turn changes the links that one thread holds. -/
theorem held_set {threads : List (Thread F C)} {place : Nat} {thread : Thread F C}
    (found : threads[place]? = some thread) :
    ∃ others : List (Link C),
      (threads.flatMap fun thread => thread.state.held).Perm (thread.state.held ++ others) ∧
      ∀ now : Thread F C, ((threads.set place now).flatMap fun thread => thread.state.held).Perm
        (now.state.held ++ others) := by
  obtain ⟨inside, rfl⟩ := List.getElem?_eq_some_iff.1 found
  refine ⟨(threads.eraseIdx place).flatMap fun thread => thread.state.held, ?_, fun now => ?_⟩
  · exact ((List.getElem_cons_eraseIdx_perm inside).symm.flatMap_right _)
  · exact (List.set_perm_cons_eraseIdx inside now).flatMap_right _

/-- **One turn** keeps account of the links. -/
theorem accounts_turn (provider : Provider σ F C) {before : World σ F C} {crew : Crew σ F C}
    (accounts : crew.Accounts before) (place : Nat) :
    (crew.turn provider place).Accounts before := by
  unfold turn
  split
  · exact accounts
  · rename_i thread found
    obtain ⟨events, journal, moved⟩ := thread.state.step_events provider thread.slice crew.world
    generalize thread.state.step provider thread.slice crew.world = next at journal moved ⊢
    obtain ⟨links, back, perm, opened, closed⟩ := accounts
    obtain ⟨others, all, allNow⟩ := held_set found
    have openedLater := openedLinks_of_journal journal
    have closedLater := closedLinks_of_journal journal
    rw [opened, List.append_assoc] at openedLater
    rw [closed, List.append_assoc] at closedLater
    refine ⟨_, _, ?_, openedLater, closedLater⟩
    calc List.Perm _ ((back ++ closedBy events) ++ (next.1.held ++ others)) :=
        (allNow _).append_left _
      _ = back ++ ((closedBy events ++ next.1.held) ++ others) := by
        simp only [List.append_assoc]
      _ = back ++ (thread.state.held ++ (openedBy crew.world.opened events ++ others)) := by
        rw [moved, List.append_assoc]
      List.Perm _ (back ++ (thread.state.held ++ (others ++ openedBy crew.world.opened events))) :=
        .append_left _ (.append_left _ List.perm_append_comm)
      _ = (back ++ (thread.state.held ++ others)) ++ openedBy crew.world.opened events := by
        simp only [List.append_assoc]
      List.Perm _ ((back ++ crew.held) ++ openedBy crew.world.opened events) :=
        (all.symm.append_left _).append_right _
      List.Perm _ (links ++ openedBy crew.world.opened events) := perm.append_right _

/-- **Any turns** keep account of the links. -/
theorem accounts_turns (provider : Provider σ F C) {before : World σ F C} {crew : Crew σ F C}
    (accounts : crew.Accounts before) (places : List Nat) :
    (crew.turns provider places).Accounts before := by
  induction places generalizing crew with
  | nil => exact accounts
  | cons place rest ih => exact ih (accounts_turn provider accounts place)

/-- Threads that have ended hold nothing. -/
theorem balances_of_ended {before : World σ F C} {crew : Crew σ F C}
    (accounts : crew.Accounts before) (ended : crew.Ended) : before.Balances crew.world := by
  have nothing : crew.held = [] := by
    refine List.flatMap_eq_nil_iff.2 fun thread member => ?_
    obtain ⟨outcome, past⟩ := ended thread member
    rw [past]
    rfl
  obtain ⟨links, back, perm, opened, closed⟩ := accounts
  rw [nothing, List.append_nil] at perm
  exact ⟨links, back, perm, opened, closed⟩

/-! ### One thread after the other -/

theorem turns_append (provider : Provider σ F C) (crew : Crew σ F C) (earlier later : List Nat) :
    crew.turns provider (earlier ++ later) =
      (crew.turns provider earlier).turns provider later :=
  List.foldl_append

/-- Turns of one thread in a row change its state and the world. -/
theorem turns_replicate (provider : Provider σ F C) (ahead behind : List (Thread F C))
    (thread : Thread F C) (count : Nat) (world : World σ F C) :
    turns provider ⟨ahead ++ thread :: behind, world⟩ (List.replicate count ahead.length) =
      let now := (fun now : ThreadState F C × World σ F C =>
        now.1.step provider thread.slice now.2)^[count] (thread.state, world)
      ⟨ahead ++ { thread with state := now.1 } :: behind, now.2⟩ := by
  induction count generalizing thread world with
  | zero => rfl
  | succ count ih =>
    have stepped : turn provider ⟨ahead ++ thread :: behind, world⟩ ahead.length =
        ⟨ahead ++ { thread with state := (thread.state.step provider thread.slice world).1 } ::
          behind, (thread.state.step provider thread.slice world).2⟩ := by
      simp [turn]
    rw [List.replicate_succ, turns, List.foldl_cons, stepped]
    exact ih _ _

/-- Four turns for each of the threads that come next, in order. -/
def inOrder (first count : Nat) : List Nat :=
  (List.range' first count).flatMap (List.replicate 4)

theorem turns_inOrder (provider : Provider σ F C) (threads : List (Nat × Slice))
    (ahead : List (Thread F C)) (world : World σ F C) :
    ∃ ended : List (Thread F C),
      turns provider ⟨ahead ++ (start threads world).threads, world⟩
          (inOrder ahead.length threads.length) =
        ⟨ahead ++ ended, (runThreads provider threads world).2⟩ ∧
      (∀ thread ∈ ended, ∃ outcome, thread.state = .ended outcome) ∧
      ended.filterMap Thread.report? = (runThreads provider threads world).1 := by
  induction threads generalizing ahead world with
  | nil => exact ⟨[], rfl, List.forall_mem_nil _, rfl⟩
  | cons thread rest ih =>
    rcases probed : probe provider thread.2 world with ⟨outcome, after⟩
    let past : Thread F C := ⟨thread.1, thread.2, .ended outcome⟩
    obtain ⟨ended, goes, all, reports⟩ := ih (ahead ++ [past]) after
    refine ⟨past :: ended, ?_, List.forall_mem_cons.2 ⟨⟨outcome, rfl⟩, all⟩, ?_⟩
    · have behind : (runThreads provider (thread :: rest) world).2 =
          (runThreads provider rest after).2 := by
        simp only [runThreads, probed]
      have first : turns provider ⟨ahead ++ (start (thread :: rest) world).threads, world⟩
          (List.replicate 4 ahead.length) =
            ⟨(ahead ++ [past]) ++ (start rest after).threads, after⟩ := by
        have four := turns_replicate provider ahead (start rest world).threads
          ⟨thread.1, thread.2, .begun⟩ 4 world
        rw [ThreadState.four_steps, probed] at four
        rw [List.append_assoc]
        exact four
      calc turns provider ⟨ahead ++ (start (thread :: rest) world).threads, world⟩
            (inOrder ahead.length (rest.length + 1))
        _ = turns provider ⟨(ahead ++ [past]) ++ (start rest after).threads, after⟩
              (inOrder (ahead ++ [past]).length rest.length) := by
          rw [← first, ← turns_append, inOrder, List.range'_succ, List.flatMap_cons,
            List.length_append]
          rfl
        _ = ⟨(ahead ++ [past]) ++ ended, (runThreads provider rest after).2⟩ := goes
        _ = ⟨ahead ++ past :: ended, (runThreads provider (thread :: rest) world).2⟩ := by
          rw [behind, List.append_assoc]
          rfl
    · simp [runThreads, probed, reports, past, Thread.report?]

/-- **Threads that run one after the other** are a crew: they take the turns in order. -/
theorem turns_of_runThreads (provider : Provider σ F C) (threads : List (Nat × Slice))
    (world : World σ F C) :
    let crew := (start threads world).turns provider (inOrder 0 threads.length)
    crew.Ended ∧ (crew.reports, crew.world) = runThreads provider threads world := by
  obtain ⟨ended, goes, all, reports⟩ := turns_inOrder provider threads [] world
  intro crew
  have same : crew = ⟨ended, (runThreads provider threads world).2⟩ := goes
  rw [same]
  exact ⟨all, Prod.ext reports rfl⟩

end Crew

/-! ## Mirrored threads -/

section Mirrored

variable {provider other : Provider σ F C} {mirror : World σ F C → World σ F C}

/-- One call is mirrored. -/
theorem Mirrors.step_eq (mirrors : Mirrors provider other id mirror) (slice : Slice)
    (world : World σ F C) (state : ThreadState F C) :
    state.step other slice (mirror world) =
      Prod.map id mirror (state.step provider slice world) := by
  cases state with
  | begun =>
    have asked := mirrors.request slice world
    rw [id_eq] at asked
    simp only [ThreadState.step, asked]
    rcases provider.request slice.config world with ⟨raw | fault | text, after⟩ <;> rfl
  | made raw =>
    have dressed := mirrors.dress slice raw world
    rw [id_eq] at dressed
    simp only [ThreadState.step, dressed]
    rfl
  | dressed factory =>
    simp only [ThreadState.step, mirrors.attempt]
    rcases provider.attempt factory world with ⟨(_ | link) | fault | text, after⟩ <;> rfl
  | holding factory link =>
    simp only [ThreadState.step, mirrors.release]
    rfl
  | ended outcome => rfl

/-- The same threads in the mirrored world. -/
def Crew.mirrored (mirror : World σ F C → World σ F C) (crew : Crew σ F C) : Crew σ F C :=
  { crew with world := mirror crew.world }

theorem Mirrors.turn_eq (mirrors : Mirrors provider other id mirror) (crew : Crew σ F C)
    (place : Nat) :
    (crew.mirrored mirror).turn other place = (crew.turn provider place).mirrored mirror := by
  unfold Crew.turn Crew.mirrored
  dsimp only
  cases crew.threads[place]? with
  | none => rfl
  | some thread =>
    simp only [mirrors.step_eq]
    rfl

/-- **Any turns are mirrored**: the threads come equally far. -/
theorem Mirrors.turns_eq (mirrors : Mirrors provider other id mirror) (crew : Crew σ F C)
    (places : List Nat) :
    (crew.mirrored mirror).turns other places = (crew.turns provider places).mirrored mirror := by
  induction places generalizing crew with
  | nil => rfl
  | cons place rest ih =>
    have first := mirrors.turn_eq crew place
    calc (crew.mirrored mirror).turns other (place :: rest)
      _ = ((crew.mirrored mirror).turn other place).turns other rest := rfl
      _ = ((crew.turn provider place).turns provider rest).mirrored mirror := by rw [first, ih]

end Mirrored

end SliceFleet
