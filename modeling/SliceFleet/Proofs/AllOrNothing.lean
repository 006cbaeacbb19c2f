/-
SliceFleet.Proofs.AllOrNothing — a composite is opened as a whole, or not at all.

A call for a connection has two ways to end, and the journal tells them apart.
Either every leaf was attempted in order and yielded a link, and the connection
has these links (`OpenedAll`). Or a leaf yielded none: then no leaf behind it
was attempted, the links of those ahead of it were closed once each, whatever
went wrong with the closings, and the call reports that leaf's answer
(`ClosedAgain`). This holds however deeply composites are members of others
(`connect_all_or_nothing`).
-/
import SliceFleet.Simulation
import SliceFleet.Proofs.LinkLedger

namespace SliceFleet

variable {σ F C : Type}

/-- The leaves under the members of a composite, in order, depth first. -/
def Composite.leaves (composite : Composite F) : List (Leaf F) :=
  Factory.leavesOf composite.members

/-- What a composite reports if a leaf with this slice's name gives an answer
without a connection. -/
inductive Reports (slice : String) :
    Outcome BackendFault (Option C) → Outcome BackendFault (Option (Connection C)) → Prop where
  | nothing : Reports slice (.done none) (.failed (.noConnection slice))
  | fault (fault : BackendFault) : Reports slice (.failed fault) (.failed fault)
  | panic (text : String) : Reports slice (.panicked text) (.panicked text)

theorem reports_of_stopOf {slice : String} {answer : Outcome BackendFault (Option C)}
    {cause : BackendFault ⊕ String} (stops : stopOf slice answer = some cause) :
    Reports slice answer (haltedBy cause) := by
  match answer with
  | .done (some _) => cases stops
  | .done none =>
    cases stops
    exact .nothing
  | .failed fault =>
    cases stops
    exact .fault fault
  | .panicked text =>
    cases stops
    exact .panic text

/-- Every leaf was attempted and yielded a link, and nothing was closed. -/
structure OpenedAll (composite : Composite F) (start after : World σ F C)
    (connection : Connection C) : Prop where
  each : connection.links.length = composite.leaves.length
  journal : after.journal =
    start.journal ++ List.zipWith opening composite.leaves connection.links
  opened : after.openedLinks = start.openedLinks ++ connection.links
  closed : after.closedLinks = start.closedLinks

/-- Where a call was stopped: at `leaf`, by its answer, when the leaves ahead of it
had yielded `links`. -/
structure Halt (F C : Type) where
  ahead : List (Leaf F)
  leaf : Leaf F
  behind : List (Leaf F)
  answer : Outcome BackendFault (Option C)
  links : List (Link C)

/-- The links of the leaves ahead were closed once each: those of an inner composite
that was stopped first, then those of the composites around it. -/
structure ClosedAgain (composite : Composite F) (start after : World σ F C)
    (halt : Halt F C) : Prop where
  split : composite.leaves = halt.ahead ++ halt.leaf :: halt.behind
  each : halt.links.length = halt.ahead.length
  /-- First the attempts, then the closings, each with what went wrong with it. -/
  journal : ∃ faults, faults.length = halt.links.length ∧
    after.journal = start.journal ++ List.zipWith opening halt.ahead halt.links ++
      [.attempted halt.leaf.factory halt.answer] ++
      List.zipWith Event.closed (composite.toFactory.closingOrder halt.links) faults
  opened : after.openedLinks = start.openedLinks ++ halt.links
  closed : after.closedLinks =
    start.closedLinks ++ composite.toFactory.closingOrder halt.links
  once : (composite.toFactory.closingOrder halt.links).Perm halt.links

namespace Composite

/-- **If every leaf yields**, the call yields a connection to all of them. -/
theorem connect_of_all {composite : Composite F} {provider : Provider σ F C}
    {start after : World σ F C} {links : List (Link C)}
    (whole : openEach provider composite.leaves start = (⟨links, none⟩, after)) :
    ∃ connection, composite.connect provider start = (.done (some connection), after) ∧
      OpenedAll composite start after connection := by
  have attempts : openEach provider (composite.toFactory.leaves "") start =
      (⟨links, none⟩, after) := whole
  obtain ⟨connection, connects, rfl⟩ := composite.toFactory.connect_of_whole attempts
  obtain ⟨opened, closed⟩ := openEach_ledger whole
  exact ⟨connection, connects, length_of_whole whole, journal_of_whole whole, opened, closed⟩

/-- **If a leaf yields none**, the call reports that and has closed what it opened. -/
theorem connect_of_halt {composite : Composite F} {provider : Provider σ F C}
    {start between : World σ F C} {links : List (Link C)} {cause : BackendFault ⊕ String}
    (stopped : openEach provider composite.leaves start = (⟨links, some cause⟩, between)) :
    ∃ halt after, composite.connect provider start = (haltedBy cause, after) ∧
      Reports halt.leaf.slice halt.answer (haltedBy cause) ∧
      ClosedAgain composite start after halt := by
  obtain ⟨ahead, leaf, behind, answer, split, each, stops, attempts⟩ := journal_of_stopped stopped
  obtain ⟨opened, closed⟩ := openEach_ledger stopped
  have connects := Factory.connect_composite_of_stopped stopped
  have once := composite.toFactory.closingOrder_perm links
  refine ⟨⟨ahead, leaf, behind, answer, links⟩, _, connects, reports_of_stopOf stops,
    split, each, ?_, ?_, ?_, once⟩
  · refine ⟨(releaseEach provider (composite.toFactory.closingOrder links) between).1, ?_, ?_⟩
    · rw [length_faults_releaseEach, once.length_eq]
    · rw [← attempts]
      exact journal_releaseEach provider (composite.toFactory.closingOrder links) between
  · rw [openedLinks_releaseEach, opened]
  · rw [closedLinks_releaseEach, closed]
    rfl

/-- **All or nothing**: a composite has a link to each of its leaves, or it has closed
the links to those ahead of the first that yields none. -/
theorem connect_all_or_nothing (composite : Composite F) (provider : Provider σ F C)
    (start : World σ F C) :
    (∃ connection after, composite.connect provider start = (.done (some connection), after) ∧
      OpenedAll composite start after connection) ∨
    ∃ halt answer after, composite.connect provider start = (answer, after) ∧
      Reports halt.leaf.slice halt.answer answer ∧ ClosedAgain composite start after halt := by
  rcases attempts : openEach provider composite.leaves start with ⟨⟨links, stop⟩, between⟩
  cases stop with
  | none =>
    obtain ⟨connection, connects, openedAll⟩ := connect_of_all attempts
    exact .inl ⟨connection, between, connects, openedAll⟩
  | some cause =>
    obtain ⟨halt, after, connects, reports, closedAgain⟩ := connect_of_halt attempts
    exact .inr ⟨halt, haltedBy cause, after, connects, reports, closedAgain⟩

/-! Three scripted targets, two of them under a composite of their own. The link to
`east` can not be closed well, and only the first attempt at `west` yields a link. -/

open Simulation

def scripted (number : Nat) (target : String) (actions : List Action) : Factory SimulatedFactory :=
  .leaf ⟨target, .scripted ⟨number, .available, actions⟩, true⟩

def offices : Composite SimulatedFactory where
  members := [.mk "north" true (scripted 0 "u1" [.connect]),
    .mk "south" true (.composite [.mk "east" true (scripted 1 "u2" [.closeFails]),
      .mk "west" true (scripted 2 "u3" [.connect, .nothing])])]
  nonempty := by simp

/-- The second call is stopped at `west`; `east` is closed before `north`. -/
example :
    let second := offices.connect provider (.initial ⟨∅, ∅, [1, 1, 1]⟩)
    stopOf "" second.1 = some (.inl (.noConnection "west")) ∧
      log second.2 = ["connect u1", "close-fails u2", "none u3", "close u2", "close u1"] := by
  decide +kernel

end Composite

end SliceFleet
