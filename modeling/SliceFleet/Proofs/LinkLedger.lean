/-
SliceFleet.Proofs.LinkLedger — which links a journal says were opened and closed.

The journal gives two lists of links, oldest first: those that were opened
(`openedLinks`), numbered in that order, and those that were closed
(`closedLinks`), each as often as it was. Attempting leaves adds to the first
list only and releasing links to the second only. So the lists tell what a call
leaves behind (`Factory.connect_ledger`): nothing was closed if it yields a
connection, and all that it opened was closed once if it does not.
-/
import Mathlib.Data.List.Range
import SliceFleet.Proofs.LeafByLeaf

namespace SliceFleet

variable {σ F C : Type}

/-! ## The two lists -/

/-- The provider's connection, if the event is the opening of one. -/
def Event.openedHandle? : Event F C → Option C
  | .attempted _ (.done (some handle)) => some handle
  | _ => none

def Event.closedLink? : Event F C → Option (Link C)
  | .closed link _ => some link
  | _ => none

/-- There is one handle an opening. -/
theorem Event.length_openedHandles (events : List (Event F C)) :
    (events.filterMap openedHandle?).length = events.countP isOpening := by
  rw [List.length_filterMap_eq_countP]
  congr 1
  funext event
  cases event with
  | requested => rfl
  | closed => rfl
  | attempted factory answer =>
    cases answer with
    | done handle => cases handle <;> rfl
    | failed => rfl
    | panicked => rfl

namespace World

/-- The links that were opened, by number. -/
def openedLinks (world : World σ F C) : List (Link C) :=
  (world.journal.filterMap Event.openedHandle?).mapIdx Link.mk

/-- The links that were closed, in the order of the closings. -/
def closedLinks (world : World σ F C) : List (Link C) :=
  world.journal.filterMap Event.closedLink?

theorem length_openedLinks (world : World σ F C) : world.openedLinks.length = world.opened := by
  rw [openedLinks, List.length_mapIdx, Event.length_openedHandles, opened]

theorem length_closedLinks (world : World σ F C) : world.closedLinks.length = world.closed := by
  rw [closedLinks, List.length_filterMap_eq_countP, closed]
  congr 1
  funext event
  cases event <;> rfl

/-- No number is given out twice. -/
theorem serials_openedLinks (world : World σ F C) :
    world.openedLinks.map Link.serial = List.range world.opened := by
  rw [← length_openedLinks]
  exact List.ext_getElem (by simp) (by simp [openedLinks])

variable (world : World σ F C) (backend : σ)

theorem openedLinks_after_opening (factory : F) (handle : C) :
    (world.after backend (.attempted factory (.done (some handle)))).openedLinks =
      world.openedLinks ++ [⟨world.opened, handle⟩] := by
  rw [← length_openedLinks]
  simp [openedLinks, after, Event.openedHandle?]

theorem openedLinks_after {event : Event F C} (other : event.openedHandle? = none) :
    (world.after backend event).openedLinks = world.openedLinks := by
  simp [openedLinks, after, other]

theorem closedLinks_after_closing (link : Link C) (fault : Option BackendFault) :
    (world.after backend (.closed link fault)).closedLinks = world.closedLinks ++ [link] := by
  simp [closedLinks, after, Event.closedLink?]

theorem closedLinks_after {event : Event F C} (other : event.closedLink? = none) :
    (world.after backend event).closedLinks = world.closedLinks := by
  simp [closedLinks, after, other]

end World

/-! ## Releasing -/

section Releasing

variable (provider : Provider σ F C)

theorem openedLinks_releaseEach (links : List (Link C)) (world : World σ F C) :
    (releaseEach provider links world).2.openedLinks = world.openedLinks := by
  induction links generalizing world with
  | nil => rfl
  | cons link rest ih =>
    simp only [releaseEach, ih, Provider.release]
    exact world.openedLinks_after _ rfl

theorem closedLinks_releaseEach (links : List (Link C)) (world : World σ F C) :
    (releaseEach provider links world).2.closedLinks = world.closedLinks ++ links := by
  induction links generalizing world with
  | nil => simp [releaseEach]
  | cons link rest ih => simp [releaseEach, ih, Provider.release, World.closedLinks_after_closing]

theorem length_faults_releaseEach (links : List (Link C)) (world : World σ F C) :
    (releaseEach provider links world).1.length = links.length := by
  induction links generalizing world with
  | nil => rfl
  | cons link rest ih => simp [releaseEach, ih]

/-- One closing per link, with what went wrong with it. -/
theorem journal_releaseEach (links : List (Link C)) (world : World σ F C) :
    (releaseEach provider links world).2.journal =
      world.journal ++ List.zipWith Event.closed links (releaseEach provider links world).1 := by
  induction links generalizing world with
  | nil => simp [releaseEach]
  | cons link rest ih => simp [releaseEach, ih, Provider.release, World.after]

end Releasing

/-! ## Attempting -/

/-- The opening of a leaf's link. -/
def opening (leaf : Leaf F) (link : Link C) : Event F C :=
  .attempted leaf.factory (.done (some link.handle))

variable {provider : Provider σ F C} {leaf : Leaf F} {leaves : List (Leaf F)}
  {world next between : World σ F C} {link : Link C} {links : List (Link C)}
  {cause : BackendFault ⊕ String}

/-- **A leaf that yields** has opened the next link. -/
theorem attempt_of_yields
    (yields : provider.attempt leaf.factory world = (.done (some link), next)) :
    next.journal = world.journal ++ [opening leaf link] ∧
      next.openedLinks = world.openedLinks ++ [link] ∧ next.closedLinks = world.closedLinks := by
  rw [Provider.attempt] at yields
  rcases asked : provider.connect leaf.factory world.backend with ⟨answer, backend⟩
  rw [asked] at yields
  rcases answer with (_ | handle) | fault | text
  · cases yields
  · cases yields
    exact ⟨rfl, world.openedLinks_after_opening backend leaf.factory handle,
      world.closedLinks_after backend rfl⟩
  · cases yields
  · cases yields

/-- **A leaf that stops the opening** has opened nothing. -/
theorem attempt_of_stops
    (stops : stopOf leaf.slice (provider.attempt leaf.factory world).1 = some cause) :
    ∃ answer : Outcome BackendFault (Option C), stopOf leaf.slice answer = some cause ∧
      (provider.attempt leaf.factory world).2.journal =
        world.journal ++ [.attempted leaf.factory answer] ∧
      (provider.attempt leaf.factory world).2.openedLinks = world.openedLinks ∧
      (provider.attempt leaf.factory world).2.closedLinks = world.closedLinks := by
  rw [Provider.attempt] at stops ⊢
  rcases asked : provider.connect leaf.factory world.backend with ⟨answer, backend⟩
  rw [asked] at stops
  have cause := (stopOf_map (Link.mk world.opened) leaf.slice answer).symm.trans stops
  refine ⟨answer, cause, rfl, ?_, world.closedLinks_after backend rfl⟩
  refine world.openedLinks_after backend ?_
  rcases answer with (_ | handle) | fault | text
  · rfl
  · cases cause
  · rfl
  · rfl

/-- **Attempting leaves** opens the links, and closes none. -/
theorem openEach_ledger {stop : Option (BackendFault ⊕ String)}
    (opening : openEach provider leaves world = (⟨links, stop⟩, between)) :
    between.openedLinks = world.openedLinks ++ links ∧
      between.closedLinks = world.closedLinks := by
  induction leaves generalizing world links with
  | nil =>
    cases opening
    simp
  | cons leaf rest ih =>
    rcases openEach_cons_cases opening with
      ⟨link, next, behind, yields, later, rfl⟩ | ⟨cause, stops, rfl, rfl, rfl⟩
    · obtain ⟨-, opened, closed⟩ := attempt_of_yields yields
      obtain ⟨openedLater, closedLater⟩ := ih later
      simp [openedLater, opened, closedLater, closed]
    · obtain ⟨answer, -, -, opened, closed⟩ := attempt_of_stops stops
      simp [opened, closed]

/-- **Every leaf was attempted** if all of them yield, and nothing else was done. -/
theorem journal_of_whole (opened : openEach provider leaves world = (⟨links, none⟩, between)) :
    between.journal = world.journal ++ List.zipWith opening leaves links := by
  induction leaves generalizing world links with
  | nil =>
    cases opened
    simp
  | cons leaf rest ih =>
    rcases openEach_cons_cases opened with
      ⟨link, next, behind, yields, later, rfl⟩ | ⟨_, _, stopped, _⟩
    · simp [ih later, (attempt_of_yields yields).1]
    · cases stopped

/-- **No leaf behind the one that stopped the opening** was attempted; those ahead of
it have yielded. -/
theorem journal_of_stopped
    (stopped : openEach provider leaves world = (⟨links, some cause⟩, between)) :
    ∃ ahead leaf behind, ∃ answer : Outcome BackendFault (Option C),
      leaves = ahead ++ leaf :: behind ∧ links.length = ahead.length ∧
      stopOf leaf.slice answer = some cause ∧
      between.journal = world.journal ++ List.zipWith opening ahead links ++
        [.attempted leaf.factory answer] := by
  induction leaves generalizing world links with
  | nil => cases stopped
  | cons first rest ih =>
    rcases openEach_cons_cases stopped with
      ⟨link, next, others, yields, later, rfl⟩ | ⟨own, stops, same, rfl, rfl⟩
    · obtain ⟨ahead, leaf, behind, answer, rfl, each, stops, journal⟩ := ih later
      refine ⟨first :: ahead, leaf, behind, answer, rfl, congrArg Nat.succ each, stops, ?_⟩
      simp [journal, (attempt_of_yields yields).1]
    · cases same
      obtain ⟨answer, stops, journal, -⟩ := attempt_of_stops stops
      exact ⟨[], first, rest, answer, rfl, rfl, stops, by simp [journal]⟩

/-! ## A whole call -/

/-- **What a call leaves behind**: all that it opened is in its connection, or was
closed once. -/
theorem Factory.connect_ledger (factory : Factory F) (provider : Provider σ F C)
    (world : World σ F C) :
    (∃ connection after, factory.connect provider world = (.done (some connection), after) ∧
      after.openedLinks = world.openedLinks ++ connection.links ∧
      after.closedLinks = world.closedLinks) ∨
    ((∀ connection, (factory.connect provider world).1 ≠ .done (some connection)) ∧
      ∃ links back, back.Perm links ∧
        (factory.connect provider world).2.openedLinks = world.openedLinks ++ links ∧
        (factory.connect provider world).2.closedLinks = world.closedLinks ++ back) := by
  rcases attempts : openEach provider (factory.leaves "") world with ⟨⟨links, stop⟩, between⟩
  obtain ⟨opened, closed⟩ := openEach_ledger attempts
  cases stop with
  | none =>
    obtain ⟨connection, connects, rfl⟩ := factory.connect_of_whole attempts
    exact .inl ⟨connection, between, connects, opened, closed⟩
  | some cause =>
    obtain ⟨reports, leaves⟩ := factory.connect_of_stopped attempts
    refine .inr ⟨fun connection yields => ?_, links, factory.closingOrder links,
      factory.closingOrder_perm links, ?_, ?_⟩
    · rw [yields] at reports
      cases reports
    · rw [leaves, openedLinks_releaseEach, opened]
    · rw [leaves, closedLinks_releaseEach, closed]

end SliceFleet
