/-
SliceFleet.Proofs.ProbeLedger — what probes leave in the journal.

A probe leaves one of three things in the journal (`ProbeEvents`): a request for
a factory; a request and an attempt without a connection; or a request, an
attempt and the closing of the very connection that was opened. Probes that run
one after the other leave these events end to end (`OneByOne`), so each
connection is closed before the next one is attempted, and what was opened is
what was closed (`OneByOne.closed_eq`).
-/
import SliceFleet.Proofs.CompositeMembers
import SliceFleet.Proofs.LinkLedger

namespace SliceFleet

open Verifier

variable {σ F C : Type}

/-! ## The links of several events -/

/-- The links that the events open, if the next link has the number. -/
def openedBy (number : Nat) (events : List (Event F C)) : List (Link C) :=
  (events.filterMap Event.openedHandle?).mapIdx fun place handle => ⟨number + place, handle⟩

def closedBy (events : List (Event F C)) : List (Link C) :=
  events.filterMap Event.closedLink?

theorem openedBy_append (number : Nat) (events later : List (Event F C)) :
    openedBy number (events ++ later) =
      openedBy number events ++ openedBy (number + events.countP Event.isOpening) later := by
  unfold openedBy
  rw [List.filterMap_append, List.mapIdx_append, Event.length_openedHandles]
  congr 2
  funext place handle
  rw [Nat.add_assoc, Nat.add_comm place]

section Journals

variable {before after : World σ F C} {events : List (Event F C)}
  (journal : after.journal = before.journal ++ events)

include journal

theorem opened_of_journal : after.opened = before.opened + events.countP Event.isOpening := by
  simp only [World.opened, journal, List.countP_append]

theorem openedLinks_of_journal :
    after.openedLinks = before.openedLinks ++ openedBy before.opened events := by
  have numbered : ∀ world : World σ F C, world.openedLinks = openedBy 0 world.journal := by
    intro world
    simp [World.openedLinks, openedBy]
  rw [numbered, numbered, journal, openedBy_append, Nat.zero_add]
  rfl

theorem closedLinks_of_journal : after.closedLinks = before.closedLinks ++ closedBy events := by
  simp only [World.closedLinks, closedBy, journal, List.filterMap_append]

end Journals

/-! ## One probe -/

/-- What a probe with this outcome may leave in the journal, if the next link has the number. -/
inductive ProbeEvents (config : BackendConfig) (number : Nat) :
    Outcome BackendFault F → List (Event F C) → Prop
  /-- No factory was made. -/
  | requested {outcome : Outcome BackendFault F} (without : outcome.isDone = false) :
      ProbeEvents config number outcome [.requested config]
  /-- No connection was obtained. -/
  | attempted {factory : F} {answer : Outcome BackendFault (Option C)}
      {outcome : Outcome BackendFault F} (without : outcome.isDone = false)
      (unanswered : ∀ handle, answer ≠ .done (some handle)) :
      ProbeEvents config number outcome [.requested config, .attempted factory answer]
  /-- A connection was obtained, and closed whatever went wrong with that. -/
  | closed (factory : F) (handle : C) (fault : Option BackendFault) :
      ProbeEvents config number (.done factory)
        [.requested config, .attempted factory (.done (some handle)),
          .closed ⟨number, handle⟩ fault]

/-- **What a probe leaves in the journal.** -/
theorem probe_events (provider : Provider σ F C) (slice : Slice) (world : World σ F C) :
    ∃ events, (probe provider slice world).2.journal = world.journal ++ events ∧
      ProbeEvents slice.config world.opened (probe provider slice world).1 events := by
  rcases probe_cases provider slice world with
    ⟨outcome, without, goes⟩ | ⟨raw, -, ⟨outcome, without, unanswered, goes⟩ | ⟨link, yields, goes⟩⟩
  · rw [goes]
    exact ⟨_, provider.journal_request slice.config world, .requested without⟩
  all_goals
    generalize dressing : provider.dress slice.config raw _ = dressed at *
    have asked : dressed.2.journal = world.journal ++ [.requested slice.config] := by
      rw [← dressing]
      rfl
    have attempted := provider.journal_attempt dressed.1 dressed.2
    rw [asked, List.append_assoc] at attempted
  · rw [goes]
    refine ⟨_, attempted, .attempted without fun handle connects => ?_⟩
    exact unanswered _ (Provider.attempt_yields_iff.2 ⟨handle, connects, rfl⟩)
  · obtain ⟨handle, connects, rfl⟩ := Provider.attempt_yields_iff.1 yields
    have number : dressed.2.opened = world.opened := opened_of_journal asked
    rw [connects] at attempted
    have released := provider.journal_release ⟨world.opened, handle⟩
      (provider.attempt dressed.1 dressed.2).2
    rw [attempted, List.append_assoc] at released
    rw [goes, number]
    exact ⟨_, released, .closed _ handle _⟩

/-- A probe closes what it opens. -/
theorem ProbeEvents.closed_eq {config : BackendConfig} {number : Nat}
    {outcome : Outcome BackendFault F} {events : List (Event F C)}
    (left : ProbeEvents config number outcome events) :
    closedBy events = openedBy number events := by
  cases left with
  | requested without => rfl
  | @attempted factory answer _ without unanswered =>
    have unopened : Event.openedHandle? (.attempted factory answer) = none := by
      rcases answer with (_ | handle) | fault | text
      · rfl
      · exact absurd rfl (unanswered handle)
      · rfl
      · rfl
    rw [openedBy, List.filterMap_cons_none rfl, List.filterMap_cons_none unopened]
    rfl
  | closed factory handle fault => rfl

/-! ## Several probes -/

/-- From the one world to the other every link that was opened was closed, once. -/
def World.Balances (before after : World σ F C) : Prop :=
  ∃ links back, back.Perm links ∧ after.openedLinks = before.openedLinks ++ links ∧
    after.closedLinks = before.closedLinks ++ back

theorem World.Balances.refl (world : World σ F C) : world.Balances world :=
  ⟨[], [], .nil, (List.append_nil _).symm, (List.append_nil _).symm⟩

/-- As many links were closed as were opened. -/
theorem World.Balances.count {before after : World σ F C} (balances : before.Balances after) :
    ∃ count, after.opened = before.opened + count ∧ after.closed = before.closed + count := by
  obtain ⟨links, back, perm, opened, closed⟩ := balances
  refine ⟨links.length, ?_, ?_⟩
  · rw [← length_openedLinks, ← length_openedLinks, opened, List.length_append]
  · rw [← length_closedLinks, ← length_closedLinks, closed, List.length_append, perm.length_eq]

/-- The events that these probes leave in the journal if each begins when the one before it
is over, and the next link has the number. -/
inductive OneByOne : Nat → List (Slice × Outcome BackendFault F) → List (Event F C) → Prop
  | nil (number : Nat) : OneByOne number [] []
  | cons {number : Nat} {slice : Slice} {outcome : Outcome BackendFault F}
      {events later : List (Event F C)} {rest : List (Slice × Outcome BackendFault F)}
      (first : ProbeEvents slice.config number outcome events)
      (others : OneByOne (number + events.countP Event.isOpening) rest later) :
      OneByOne number ((slice, outcome) :: rest) (events ++ later)

/-- **Probes one by one close what they open**, each connection once and in that order. -/
theorem OneByOne.closed_eq {number : Nat} {probes : List (Slice × Outcome BackendFault F)}
    {events : List (Event F C)} (left : OneByOne number probes events) :
    closedBy events = openedBy number events := by
  induction left with
  | nil number => rfl
  | cons first others ih =>
    rw [openedBy_append, ← first.closed_eq, ← ih]
    exact List.filterMap_append

/-- Behind probes one by one nothing is open that was not before. -/
theorem OneByOne.balances {before after : World σ F C}
    {probes : List (Slice × Outcome BackendFault F)} {events : List (Event F C)}
    (left : OneByOne before.opened probes events)
    (journal : after.journal = before.journal ++ events) : before.Balances after := by
  refine ⟨openedBy before.opened events, closedBy events, ?_, openedLinks_of_journal journal,
    closedLinks_of_journal journal⟩
  rw [left.closed_eq]

section Runs

variable {provider : Provider σ F C} {slice : Slice} {world after : World σ F C}
  {outcome : Outcome BackendFault F} {rest : List (Slice × Outcome BackendFault F)}

/-- A probe comes before probes that are left to do. -/
theorem oneByOne_cons {last : World σ F C} (probed : probe provider slice world = (outcome, after))
    (others : ∃ later, last.journal = after.journal ++ later ∧ OneByOne after.opened rest later) :
    ∃ events, last.journal = world.journal ++ events ∧
      OneByOne world.opened ((slice, outcome) :: rest) events := by
  obtain ⟨events, journal, first⟩ := probe_events provider slice world
  rw [probed] at journal first
  obtain ⟨later, more, behind⟩ := others
  rw [opened_of_journal journal] at behind
  refine ⟨events ++ later, ?_, .cons first behind⟩
  rw [more, journal, List.append_assoc]

/-- No probe is left to do. -/
theorem oneByOne_nil (world : World σ F C) :
    ∃ events, world.journal = world.journal ++ events ∧
      OneByOne world.opened ([] : List (Slice × Outcome BackendFault F)) events :=
  ⟨[], (List.append_nil _).symm, .nil _⟩

end Runs

namespace Verifier

/-- **In turn** slices are probed up to the one that ends the verification, each when the
probe before it is over. -/
theorem oneByOne_verifySequentially (lenient : Bool) (provider : Provider σ F C)
    (slices : List Slice) (board : Board) (world : World σ F C) :
    ∃ probes, probes <+: probesInTurn provider slices world ∧
      ∃ events, (verifySequentially lenient provider slices board world).2.2.journal =
          world.journal ++ events ∧ OneByOne world.opened probes events := by
  induction slices generalizing board world with
  | nil => exact ⟨[], List.prefix_rfl, oneByOne_nil world⟩
  | cons slice rest ih =>
    rcases probed : probe provider slice world with ⟨outcome, after⟩
    have single : [(slice, outcome)] <+: probesInTurn provider (slice :: rest) world := by
      rw [probesInTurn, probed]
      exact List.prefix_append [_] _
    have whole : ∀ probes, probes <+: probesInTurn provider rest after →
        (slice, outcome) :: probes <+: probesInTurn provider (slice :: rest) world := by
      intro probes ahead
      rw [probesInTurn, probed]
      exact (List.prefix_cons_inj _).2 ahead
    simp only [verifySequentially, probed]
    cases outcome with
    | done factory =>
      obtain ⟨probes, ahead, others⟩ := ih (board.settle slice true) after
      exact ⟨_, whole probes ahead, oneByOne_cons probed others⟩
    | failed cause =>
      cases lenient with
      | true =>
        obtain ⟨probes, ahead, others⟩ := ih (board.settle slice false) after
        exact ⟨_, whole probes ahead, oneByOne_cons probed others⟩
      | false => exact ⟨_, single, oneByOne_cons probed (oneByOne_nil after)⟩
    | panicked text => exact ⟨_, single, oneByOne_cons probed (oneByOne_nil after)⟩

/-- Threads that run one after the other probe like a verification in turn. -/
theorem oneByOne_runThreads (provider : Provider σ F C) (threads : List (Nat × Slice))
    (world : World σ F C) :
    ∃ probes : List (Slice × Outcome BackendFault F), probes.map (·.1) = threads.map (·.2) ∧
      ∃ events, (runThreads provider threads world).2.journal = world.journal ++ events ∧
        OneByOne world.opened probes events := by
  induction threads generalizing world with
  | nil => exact ⟨[], rfl, oneByOne_nil world⟩
  | cons thread rest ih =>
    rcases probed : probe provider thread.2 world with ⟨outcome, after⟩
    obtain ⟨probes, slices, others⟩ := ih after
    simp only [runThreads, probed]
    exact ⟨(thread.2, outcome) :: probes, by simp [slices], oneByOne_cons probed others⟩

end Verifier

end SliceFleet
