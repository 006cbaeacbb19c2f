/-
SliceFleet.Proofs.OpenHandles — every link is closed at most once, and none is lost.

A client of a composite opens connections under handles, to all members or to
one, closes handles and drops them, in any order and as often as it likes, while
the backends change. Each link that was opened since the start is then in one
place (`Accounted`): it was closed, or is under a handle, or was the link of a
plain connection that the client dropped without closing it. Every step moves
links between these places and loses none. So no link is closed twice, and the
numbers add up (`Composite.links_accounted_for`).

A distributed connection is closed by taking its parts out and closing each. What
is dropped afterwards has no parts left (`Connection.closeAndDrop_eq`); one that is
dropped without a close has its parts closed all the same, and only a plain
connection is left open (`dropped_of_held`). Either way its handle is used up for
good (`usedUp_of_held`).
-/
import Mathlib.Data.List.Perm.Basic
import Mathlib.Data.List.Nodup
import SliceFleet.Handles
import SliceFleet.Proofs.AllOrNothing

namespace SliceFleet

variable {σ F C : Type}

/-! ## Closing, and dropping what is left -/

mutual

/-- Closes a connection, and drops what is left of it. -/
def Connection.closeAndDrop (provider : Provider σ F C) :
    Connection C → World σ F C → Option BackendFault × World σ F C
  | .leaf link, world => provider.release link world
  | .distributed parts, world =>
    let (fault, left, world) := Connection.takeOut provider parts world
    (fault, Connection.drop provider (.distributed left) world)

/-- Takes the parts out one after the other and closes each; answers the first
fault, and which parts are left. -/
def Connection.takeOut (provider : Provider σ F C) :
    List (Connection C) → World σ F C →
      Option BackendFault × List (Connection C) × World σ F C
  | [], world => (none, [], world)
  | part :: rest, world =>
    let (fault, world) := part.closeAndDrop provider world
    let (later, left, world) := Connection.takeOut provider rest world
    (fault.or later, left, world)

end

mutual

/-- **The drop that follows a close** finds no parts, so it does nothing. -/
theorem Connection.closeAndDrop_eq (provider : Provider σ F C) :
    ∀ (connection : Connection C) (world : World σ F C),
      connection.closeAndDrop provider world = connection.close provider world
  | .leaf _, _ => rfl
  | .distributed parts, world => by
    rw [Connection.closeAndDrop, Connection.takeOut_eq provider parts world, Connection.close]
    rfl

theorem Connection.takeOut_eq (provider : Provider σ F C) :
    ∀ (parts : List (Connection C)) (world : World σ F C),
      Connection.takeOut provider parts world =
        let (fault, after) := Connection.closeAll provider parts world
        (fault, [], after)
  | [], _ => rfl
  | part :: rest, world => by
    rw [Connection.takeOut, Connection.closeAndDrop_eq provider part world]
    simp only [Connection.takeOut_eq provider rest, Connection.closeAll]

end

/-- Closing takes each link once, whatever kind of connection it is. -/
theorem Connection.close_ledger (connection : Connection C) (provider : Provider σ F C)
    (world : World σ F C) :
    (connection.close provider world).2.openedLinks = world.openedLinks ∧
      (connection.close provider world).2.closedLinks = world.closedLinks ++ connection.links := by
  rw [Connection.close_eq]
  exact ⟨openedLinks_releaseEach provider connection.links world,
    closedLinks_releaseEach provider connection.links world⟩

/-- The link of a connection that is not distributed. -/
def Connection.plainLinks : Connection C → List (Link C)
  | .leaf link => [link]
  | .distributed _ => []

/-- Dropping closes each link once, or leaves the one link of a plain connection open. -/
theorem Connection.drop_ledger (connection : Connection C) (provider : Provider σ F C)
    (world : World σ F C) :
    ∃ back, connection.links = back ++ connection.plainLinks ∧
      (connection.drop provider world).openedLinks = world.openedLinks ∧
      (connection.drop provider world).closedLinks = world.closedLinks ++ back := by
  cases connection with
  | leaf link => exact ⟨[], rfl, rfl, (List.append_nil _).symm⟩
  | distributed parts =>
    have closes := (Connection.distributed parts).close_ledger provider world
    exact ⟨(Connection.distributed parts).links, (List.append_nil _).symm, closes⟩

/-! ## Handles -/

namespace Handles

variable {handles : Handles C} {number : Nat} {connection : Connection C}

/-- The links of the connections that are open, by handle. -/
def links (handles : Handles C) : List (Link C) :=
  handles.slots.flatMap fun slot => slot.elim [] Connection.links

theorem links_store (handles : Handles C) (connection : Connection C) :
    (handles.store connection).2.links = handles.links ++ connection.links := by
  simp [links, store]

/-- The links of a handle that is used up are gone, and no others. -/
theorem links_useUp (held : handles.get? number = some connection) :
    handles.links.Perm (connection.links ++ (handles.useUp number).links) := by
  obtain ⟨slots⟩ := handles
  induction slots generalizing number with
  | nil => simp [get?] at held
  | cons slot rest ih =>
    cases number with
    | zero =>
      simp only [get?, List.getElem?_cons_zero, Option.join_some] at held
      simp [links, useUp, held]
    | succ number =>
      have later : (Handles.mk rest).get? number = some connection := held
      have moved := (ih later).append_left (slot.elim [] Connection.links)
      simp only [links, useUp, List.set_cons_succ, List.flatMap_cons] at moved ⊢
      exact moved.trans (List.perm_append_comm_assoc _ _ _)

/-- The number was given out, and holds nothing any more. -/
structure Spent (handles : Handles C) (number : Nat) : Prop where
  given : number < handles.slots.length
  empty : handles.get? number = Option.none

theorem spent_of_held (held : handles.get? number = some connection) :
    (handles.useUp number).Spent number := by
  have given : number < handles.slots.length := by
    refine Nat.lt_of_not_le fun beyond => ?_
    rw [get?, List.getElem?_eq_none beyond] at held
    cases held
  refine ⟨by simpa [useUp] using given, ?_⟩
  simp [get?, useUp, given]

theorem Spent.store (spent : handles.Spent number) (connection : Connection C) :
    (handles.store connection).2.Spent number := by
  obtain ⟨given, empty⟩ := spent
  refine ⟨by simp only [Handles.store, List.length_append]; omega, ?_⟩
  rwa [get?, Handles.store, List.getElem?_append_left given]

theorem Spent.useUp (spent : handles.Spent number) (other : Nat) :
    (handles.useUp other).Spent number := by
  obtain ⟨given, empty⟩ := spent
  refine ⟨by simpa [Handles.useUp] using given, ?_⟩
  simp only [get?, Handles.useUp, List.getElem?_set] at empty ⊢
  split
  · rw [if_pos (by omega)]
    rfl
  · exact empty

variable {provider : Provider σ F C} {factory : Factory F} {world : World σ F C}

theorem openWith_of_yields {after : World σ F C}
    (yields : factory.connect provider world = (.done (some connection), after)) :
    (handles.openWith provider factory world).2 = ((handles.store connection).2, after) := by
  rw [openWith, yields]

theorem openWith_of_none
    (none : ∀ connection, (factory.connect provider world).1 ≠ .done (some connection)) :
    (handles.openWith provider factory world).2 =
      (handles, (factory.connect provider world).2) := by
  rw [openWith]
  rcases connects : factory.connect provider world with ⟨answer, after⟩
  rw [connects] at none
  match answer with
  | .done (some connection) => exact absurd rfl (none connection)
  | .done .none => rfl
  | .failed fault => rfl
  | .panicked text => rfl

theorem close_of_held (held : handles.get? number = some connection) :
    handles.close provider number world = (some (connection.close provider world).1,
      handles.useUp number, (connection.close provider world).2) := by
  rw [close, held]

theorem close_of_empty (empty : handles.get? number = Option.none) :
    handles.close provider number world = (.none, handles, world) := by
  rw [close, empty]

theorem drop_of_held (held : handles.get? number = some connection) :
    handles.drop provider number world =
      (true, handles.useUp number, connection.drop provider world) := by
  rw [drop, held]

theorem drop_of_empty (empty : handles.get? number = Option.none) :
    handles.drop provider number world = (false, handles, world) := by
  rw [drop, empty]

end Handles

/-! ## Clients -/

/-- What a client of a composite may do. -/
inductive Handling (σ : Type) where
  /-- A connection to all members, under the next number. -/
  | openAll
  /-- A connection to the first member of that name, if there is one. -/
  | openMember (slice : String)
  | close (number : Nat)
  | drop (number : Nat)
  /-- The backends change by other doings. -/
  | meanwhile (change : σ → σ)

structure Client (σ F C : Type) where
  world : World σ F C
  handles : Handles C
  /-- The links of the plain connections that were dropped without being closed. -/
  dropped : List (Link C)

namespace Client

def initial (start : World σ F C) : Client σ F C := ⟨start, .none, []⟩

/-- Opens a connection under a handle of its own. -/
def openWith (client : Client σ F C) (provider : Provider σ F C) (factory : Factory F) :
    Client σ F C :=
  let (_, handles, world) := client.handles.openWith provider factory client.world
  { client with handles, world }

def close (client : Client σ F C) (provider : Provider σ F C) (number : Nat) : Client σ F C :=
  let (_, handles, world) := client.handles.close provider number client.world
  { client with handles, world }

def drop (client : Client σ F C) (provider : Provider σ F C) (number : Nat) : Client σ F C :=
  let (_, handles, world) := client.handles.drop provider number client.world
  let lost := (client.handles.get? number).elim [] Connection.plainLinks
  { handles, world, dropped := client.dropped ++ lost }

theorem drop_of_held {client : Client σ F C} {number : Nat} {connection : Connection C}
    (held : client.handles.get? number = some connection) (provider : Provider σ F C) :
    client.drop provider number = ⟨connection.drop provider client.world,
      client.handles.useUp number, client.dropped ++ connection.plainLinks⟩ := by
  simp [drop, Handles.drop_of_held held, held]

end Client

namespace Composite

/-- The client behind a step. -/
def handle (composite : Composite F) (provider : Provider σ F C) (client : Client σ F C) :
    Handling σ → Client σ F C
  | .openAll => client.openWith provider composite.toFactory
  | .openMember slice =>
    match composite.factory? slice with
    | some factory => client.openWith provider factory
    | none => client
  | .close number => client.close provider number
  | .drop number => client.drop provider number
  | .meanwhile change =>
    { client with world := { client.world with backend := change client.world.backend } }

/-- The client behind several steps. -/
def handleAll (composite : Composite F) (provider : Provider σ F C) (client : Client σ F C)
    (steps : List (Handling σ)) : Client σ F C :=
  steps.foldl (composite.handle provider) client

end Composite

/-! ## Where the links are -/

namespace Client

open scoped List

variable {provider : Provider σ F C} {start : World σ F C} {client : Client σ F C}
  {openings closings : List (Link C)} {number : Nat} {connection : Connection C}

/-- Of the links that were opened since the start, each was closed, or is under a
handle, or was dropped. -/
structure Accounted (start : World σ F C) (client : Client σ F C)
    (openings closings : List (Link C)) : Prop where
  opened : client.world.openedLinks = start.openedLinks ++ openings
  closed : client.world.closedLinks = start.closedLinks ++ closings
  places : openings.Perm (closings ++ client.handles.links ++ client.dropped)

theorem accounted_initial (start : World σ F C) : Accounted start (.initial start) [] [] :=
  ⟨(List.append_nil _).symm, (List.append_nil _).symm, .refl _⟩

/-- **Opening** brings its links under a handle, or has closed them itself. -/
theorem Accounted.openWith (accounted : Accounted start client openings closings)
    (provider : Provider σ F C) (factory : Factory F) :
    ∃ openings closings, Accounted start (client.openWith provider factory) openings closings := by
  obtain ⟨opened, closed, places⟩ := accounted
  rcases factory.connect_ledger provider client.world with
    ⟨connection, after, yields, openedNow, closedNow⟩ |
    ⟨none, links, back, same, openedNow, closedNow⟩
  · simp only [Client.openWith, Handles.openWith_of_yields yields]
    refine ⟨openings ++ connection.links, closings, ?_, ?_, ?_⟩
    · rw [openedNow, opened, List.append_assoc]
    · rw [closedNow, closed]
    · have moved : (client.dropped ++ connection.links).Perm
          (connection.links ++ client.dropped) := List.perm_append_comm
      rw [Handles.links_store]
      refine (places.append_right _).trans ?_
      simpa only [List.append_assoc] using moved.append_left (closings ++ client.handles.links)
  · simp only [Client.openWith, Handles.openWith_of_none none]
    refine ⟨openings ++ links, closings ++ back, ?_, ?_, ?_⟩
    · rw [openedNow, opened, List.append_assoc]
    · rw [closedNow, closed, List.append_assoc]
    · have moved : (client.handles.links ++ client.dropped ++ back).Perm
          (back ++ (client.handles.links ++ client.dropped)) := List.perm_append_comm
      refine (places.append same.symm).trans ?_
      simpa only [List.append_assoc] using moved.append_left closings

/-- **Using a handle up** closes links of its connection, and drops the others. -/
theorem Accounted.useUp (accounted : Accounted start client openings closings)
    (held : client.handles.get? number = some connection) {after : World σ F C}
    {back lost : List (Link C)} (split : connection.links = back ++ lost)
    (opened : after.openedLinks = client.world.openedLinks)
    (closed : after.closedLinks = client.world.closedLinks ++ back) :
    Accounted start ⟨after, client.handles.useUp number, client.dropped ++ lost⟩ openings
      (closings ++ back) := by
  refine ⟨opened.trans accounted.opened, ?_, ?_⟩
  · rw [closed, accounted.closed, List.append_assoc]
  · have used := Handles.links_useUp held
    rw [split] at used
    have moved : (lost ++ ((client.handles.useUp number).links ++ client.dropped)).Perm
        ((client.handles.useUp number).links ++ client.dropped ++ lost) := List.perm_append_comm
    calc openings
      _ ~ closings ++ client.handles.links ++ client.dropped := accounted.places
      _ ~ closings ++ (back ++ lost ++ (client.handles.useUp number).links) ++ client.dropped :=
        (used.append_left closings).append_right client.dropped
      _ ~ closings ++ back ++ (client.handles.useUp number).links ++ (client.dropped ++ lost) := by
        simpa only [List.append_assoc] using moved.append_left (closings ++ back)

theorem Accounted.close (accounted : Accounted start client openings closings)
    (provider : Provider σ F C) (number : Nat) :
    ∃ openings closings, Accounted start (client.close provider number) openings closings := by
  cases held : client.handles.get? number with
  | none =>
    rw [Client.close, Handles.close_of_empty held]
    exact ⟨openings, closings, accounted⟩
  | some connection =>
    obtain ⟨opened, closed⟩ := connection.close_ledger provider client.world
    have used := accounted.useUp held (List.append_nil connection.links).symm opened closed
    rw [List.append_nil] at used
    rw [Client.close, Handles.close_of_held held]
    exact ⟨openings, closings ++ connection.links, used⟩

theorem Accounted.drop (accounted : Accounted start client openings closings)
    (provider : Provider σ F C) (number : Nat) :
    ∃ openings closings, Accounted start (client.drop provider number) openings closings := by
  cases held : client.handles.get? number with
  | none =>
    have kept : client.drop provider number = client := by
      simp [Client.drop, Handles.drop_of_empty held, held]
    rw [kept]
    exact ⟨openings, closings, accounted⟩
  | some connection =>
    obtain ⟨back, split, opened, closed⟩ := connection.drop_ledger provider client.world
    have used := accounted.useUp held split opened closed
    rw [Client.drop_of_held held]
    exact ⟨openings, closings ++ back, used⟩

/-- **Every step** keeps account of the links. -/
theorem Accounted.handle (accounted : Accounted start client openings closings)
    (composite : Composite F) (provider : Provider σ F C) (step : Handling σ) :
    ∃ openings closings,
      Accounted start (composite.handle provider client step) openings closings := by
  cases step with
  | openAll => exact accounted.openWith provider composite.toFactory
  | openMember slice =>
    rw [Composite.handle]
    cases composite.factory? slice with
    | some factory => exact accounted.openWith provider factory
    | none => exact ⟨openings, closings, accounted⟩
  | close number => exact accounted.close provider number
  | drop number => exact accounted.drop provider number
  | meanwhile change => exact ⟨openings, closings, accounted.opened, accounted.closed,
      accounted.places⟩

theorem Accounted.handleAll (accounted : Accounted start client openings closings)
    (composite : Composite F) (provider : Provider σ F C) (steps : List (Handling σ)) :
    ∃ openings closings,
      Accounted start (composite.handleAll provider client steps) openings closings := by
  induction steps generalizing client openings closings with
  | nil => exact ⟨openings, closings, accounted⟩
  | cons step rest ih =>
    obtain ⟨_, _, next⟩ := accounted.handle composite provider step
    exact ih next

/-- What is accounted for was closed at most once. -/
theorem Accounted.once (accounted : Accounted start client openings closings) :
    (closings.map Link.serial).Nodup := by
  have numbered : (client.world.openedLinks.map Link.serial).Nodup := by
    rw [World.serials_openedLinks]
    exact List.nodup_range
  rw [accounted.opened, List.map_append] at numbered
  have distinct := (accounted.places.map Link.serial).nodup_iff.1 numbered.of_append_right
  rw [List.append_assoc, List.map_append] at distinct
  exact distinct.of_append_left

/-! A number that is used up. -/

theorem spent_handle (composite : Composite F) (provider : Provider σ F C)
    (spent : client.handles.Spent number) (step : Handling σ) :
    (composite.handle provider client step).handles.Spent number := by
  have opens : ∀ factory, (client.openWith provider factory).handles.Spent number := by
    intro factory
    rcases factory.connect_ledger provider client.world with ⟨connection, _, yields, -⟩ | ⟨none, -⟩
    · simpa only [Client.openWith, Handles.openWith_of_yields yields] using spent.store connection
    · simpa only [Client.openWith, Handles.openWith_of_none none] using spent
  cases step with
  | openAll => exact opens composite.toFactory
  | openMember slice =>
    rw [Composite.handle]
    cases composite.factory? slice with
    | some factory => exact opens factory
    | none => exact spent
  | close other =>
    rw [Composite.handle, Client.close]
    cases held : client.handles.get? other with
    | none => simpa only [Handles.close_of_empty held] using spent
    | some connection => simpa only [Handles.close_of_held held] using spent.useUp other
  | drop other =>
    rw [Composite.handle, Client.drop]
    cases held : client.handles.get? other with
    | none => simpa only [Handles.drop_of_empty held] using spent
    | some connection => simpa only [Handles.drop_of_held held] using spent.useUp other
  | meanwhile change => exact spent

theorem spent_handleAll (composite : Composite F) (provider : Provider σ F C)
    (spent : client.handles.Spent number) (steps : List (Handling σ)) :
    (composite.handleAll provider client steps).handles.Spent number := by
  induction steps generalizing client with
  | nil => exact spent
  | cons step rest ih => exact ih (spent_handle composite provider spent step)

end Client

/-! ## Closing and dropping one handle -/

/-- To close or to drop the handle does nothing, now and at any time. -/
def UsedUp (composite : Composite F) (provider : Provider σ F C) (client : Client σ F C)
    (number : Nat) : Prop :=
  ∀ steps,
    let later := composite.handleAll provider client steps
    later.handles.close provider number later.world = (none, later.handles, later.world) ∧
      later.handles.drop provider number later.world = (false, later.handles, later.world)

theorem usedUp_of_spent (composite : Composite F) (provider : Provider σ F C)
    {client : Client σ F C} {number : Nat} (spent : client.handles.Spent number) :
    UsedUp composite provider client number := by
  intro steps
  have later := Client.spent_handleAll composite provider spent steps
  exact ⟨Handles.close_of_empty later.empty, Handles.drop_of_empty later.empty⟩

/-- A handle that is closed or dropped is used up. -/
theorem usedUp_of_held (composite : Composite F) (provider : Provider σ F C)
    {client : Client σ F C} {number : Nat} {connection : Connection C}
    (held : client.handles.get? number = some connection) :
    UsedUp composite provider (client.close provider number) number ∧
      UsedUp composite provider (client.drop provider number) number := by
  have spent := Handles.spent_of_held held
  constructor
  · refine usedUp_of_spent composite provider ?_
    rwa [Client.close, Handles.close_of_held held]
  · refine usedUp_of_spent composite provider ?_
    rwa [Client.drop_of_held held]

/-- A handle's connection with these links was closed: the answer, and the world after it. -/
structure ClosedWhole (composite : Composite F) (provider : Provider σ F C)
    (client : Client σ F C) (number : Nat) (parts : List (Connection C))
    (faults : List (Option BackendFault)) (after : World σ F C) : Prop where
  /-- Each link was closed once, in order, and went well or not. -/
  each : faults.length = (Connection.linksOf parts).length
  journal : after.journal =
    client.world.journal ++ List.zipWith Event.closed (Connection.linksOf parts) faults
  answer : client.handles.close provider number client.world =
    (some (firstFault faults), client.handles.useUp number, after)
  /-- The drop that follows adds nothing. -/
  dropped : (Connection.distributed parts).closeAndDrop provider client.world =
    (firstFault faults, after)
  /-- Nor does another close or drop of the handle, at any time. -/
  spent : UsedUp composite provider (client.close provider number) number

theorem closedWhole (composite : Composite F) (provider : Provider σ F C)
    {client : Client σ F C} {number : Nat} {parts : List (Connection C)}
    (held : client.handles.get? number = some (.distributed parts)) :
    ∃ faults after, ClosedWhole composite provider client number parts faults after := by
  have closes := (Connection.distributed parts).close_eq provider client.world
  refine ⟨(releaseEach provider (Connection.linksOf parts) client.world).1,
    (releaseEach provider (Connection.linksOf parts) client.world).2, ?_, ?_, ?_, ?_, ?_⟩
  · exact length_faults_releaseEach provider (Connection.linksOf parts) client.world
  · exact journal_releaseEach provider (Connection.linksOf parts) client.world
  · rw [Handles.close_of_held held, closes]
    rfl
  · rw [Connection.closeAndDrop_eq, closes]
    rfl
  · exact (usedUp_of_held composite provider held).1

/-- The handle of this connection was dropped. -/
inductive Dropped (provider : Provider σ F C) (client : Client σ F C) (number : Nat) :
    Connection C → Prop where
  /-- A plain connection is left open. -/
  | plain (link : Link C)
      (leaves : client.drop provider number =
        ⟨client.world, client.handles.useUp number, client.dropped ++ [link]⟩) :
      Dropped provider client number (.leaf link)
  /-- Of a distributed one each link is closed once, in order, and goes well or not. -/
  | whole {parts : List (Connection C)} {faults : List (Option BackendFault)}
      {after : World σ F C} (each : faults.length = (Connection.linksOf parts).length)
      (journal : after.journal =
        client.world.journal ++ List.zipWith Event.closed (Connection.linksOf parts) faults)
      (leaves : client.drop provider number =
        ⟨after, client.handles.useUp number, client.dropped⟩) :
      Dropped provider client number (.distributed parts)

theorem dropped_of_held (provider : Provider σ F C) {client : Client σ F C} {number : Nat}
    {connection : Connection C} (held : client.handles.get? number = some connection) :
    Dropped provider client number connection := by
  have drops := Client.drop_of_held held provider
  cases connection with
  | leaf link => exact .plain link drops
  | distributed parts =>
    rw [Connection.drop, Connection.closeAll_eq, Connection.plainLinks, List.append_nil] at drops
    exact .whole (length_faults_releaseEach provider (Connection.linksOf parts) client.world)
      (journal_releaseEach provider (Connection.linksOf parts) client.world) drops

namespace Composite

/-- **No link is closed twice, and none is lost**, whatever a client does with its
handles; closing a composite's connection closes all its links, once, and so does
dropping it. A handle that is closed or dropped is used up. -/
theorem links_accounted_for (composite : Composite F) (provider : Provider σ F C)
    (start : World σ F C) (steps : List (Handling σ)) :
    let client := composite.handleAll provider (.initial start) steps
    (∃ openings closings, Client.Accounted start client openings closings ∧
      (closings.map Link.serial).Nodup ∧
      client.world.opened = start.opened + openings.length ∧
      client.world.closed = start.closed + closings.length ∧
      openings.length =
        closings.length + client.handles.links.length + client.dropped.length) ∧
    (∀ number parts, client.handles.get? number = some (.distributed parts) →
      ∃ faults after, ClosedWhole composite provider client number parts faults after) ∧
    ∀ number connection, client.handles.get? number = some connection →
      Dropped provider client number connection ∧
        UsedUp composite provider (client.close provider number) number ∧
        UsedUp composite provider (client.drop provider number) number := by
  intro client
  refine ⟨?_, fun number parts held => closedWhole composite provider held,
    fun number connection held =>
      ⟨dropped_of_held provider held, usedUp_of_held composite provider held⟩⟩
  obtain ⟨openings, closings, accounted⟩ :=
    (Client.accounted_initial start).handleAll composite provider steps
  refine ⟨openings, closings, accounted, accounted.once, ?_, ?_, ?_⟩
  · simp only [← World.length_openedLinks, accounted.opened, client, List.length_append]
  · simp only [← World.length_closedLinks, accounted.closed, client, List.length_append]
  · simpa only [List.length_append] using accounted.places.length_eq

open Simulation

/-- A plain handle was dropped, and one of the parts of the other can not be closed well. -/
def busy : Client Field SimulatedFactory SimulatedConnection :=
  offices.handleAll provider (.initial (.initial ⟨∅, ∅, [0, 0, 0]⟩))
    [.openMember "north", .drop 0, .openAll]

def busyParts : List (Connection SimulatedConnection) :=
  [.leaf ⟨1, ⟨"u1", false, false⟩⟩, .distributed [.leaf ⟨2, ⟨"u2", false, true⟩⟩,
    .leaf ⟨3, ⟨"u3", false, false⟩⟩]]

theorem busy_closed_whole :
    busy.handles.get? 1 = some (.distributed busyParts) ∧
      (∃ faults after, ClosedWhole offices provider busy 1 busyParts faults after) ∧
      Dropped provider busy 1 (.distributed busyParts) ∧
      UsedUp offices provider (busy.drop provider 1) 1 := by
  have held : busy.handles.get? 1 = some (.distributed busyParts) := rfl
  obtain ⟨-, closes, drops⟩ := links_accounted_for offices provider (.initial ⟨∅, ∅, [0, 0, 0]⟩)
    [.openMember "north", .drop 0, .openAll]
  exact ⟨held, closes 1 busyParts held, (drops 1 _ held).1, (drops 1 _ held).2.2⟩

end Composite

end SliceFleet
