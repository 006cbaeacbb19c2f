/-
SliceFleet.Proofs.RoundRobin — records that go around the slices.

The ticket counter of the round-robin policy counts the calls with candidates, modulo
2⁶⁴ (`distributeAll_after`), and a call picks by the remainder of its ticket. While the
candidates stay the same the picks therefore go around them, up to where the counter
starts again. If it starts again between two calls of one round, the round goes on as
before just if the number of candidates divides 2⁶⁴; otherwise two of its calls pick one
slice (`tickets_meet`). So a round is fair exactly under one of these two conditions:
`round_robin_goes_around`.
-/
import Mathlib.Algebra.Group.Nat.Defs
import Mathlib.Data.List.Count
import Mathlib.Data.List.Perm.Subperm
import Mathlib.Data.List.Rotate
import Mathlib.Data.Option.Basic
import SliceFleet.Configuration.Session
import SliceFleet.Proofs.DistinctNames

namespace SliceFleet

namespace Policy

variable {policy : Policy} {candidates : List String} {taken : Nat}

/-! ## Calls one after the other -/

/-- What calls for these candidates, each with the name of the master, choose one after
the other, and the policy that they leave. -/
def distributeAll : Policy → List (List String × String) → List (Option String) × Policy
  | policy, [] => ([], policy)
  | policy, call :: rest =>
    let (choice, policy) := policy.distribute call.1 call.2
    let (choices, policy) := policy.distributeAll rest
    (choice :: choices, policy)

theorem distributeAll_cons (policy : Policy) (call : List String × String)
    (rest : List (List String × String)) : policy.distributeAll (call :: rest) =
      ((policy.distribute call.1 call.2).1 ::
        ((policy.distribute call.1 call.2).2.distributeAll rest).1,
        ((policy.distribute call.1 call.2).2.distributeAll rest).2) := rfl

theorem distributeAll_append (policy : Policy) (calls more : List (List String × String)) :
    policy.distributeAll (calls ++ more) =
      ((policy.distributeAll calls).1 ++ ((policy.distributeAll calls).2.distributeAll more).1,
        ((policy.distributeAll calls).2.distributeAll more).2) := by
  induction calls generalizing policy with
  | nil => rfl
  | cons call rest ih => simp [distributeAll_cons, ih]

/-- Each call makes one choice. -/
theorem length_distributeAll (policy : Policy) (calls : List (List String × String)) :
    (policy.distributeAll calls).1.length = calls.length := by
  induction calls generalizing policy with
  | nil => rfl
  | cons call rest ih => simp [distributeAll_cons, ih]

/-! ## Tickets -/

/-- How many of the calls have candidates, and so take a ticket. -/
def ticketsTaken (calls : List (List String × String)) : Nat :=
  calls.countP fun call => !call.1.isEmpty

/-- The round-robin policy from which this many tickets have been taken. -/
def afterTickets (taken : Nat) : Policy :=
  .roundRobin (UInt64.ofNat taken)

/-- What the next ticket picks from these candidates after so many have been taken. -/
def pickAfter (taken : Nat) (candidates : List String) : Option String :=
  candidates[taken % 2 ^ 64 % candidates.length]?

@[simp] theorem ticketsTaken_nil : ticketsTaken [] = 0 := rfl

theorem ticketsTaken_append (calls more : List (List String × String)) :
    ticketsTaken (calls ++ more) = ticketsTaken calls + ticketsTaken more :=
  List.countP_append

theorem ticketsTaken_cons_of_empty {call : List String × String} (empty : call.1 = [])
    (rest : List (List String × String)) : ticketsTaken (call :: rest) = ticketsTaken rest := by
  simp [ticketsTaken, empty]

theorem ticketsTaken_cons_of_nonempty {call : List String × String} (nonempty : call.1 ≠ [])
    (rest : List (List String × String)) :
    ticketsTaken (call :: rest) = ticketsTaken rest + 1 := by
  simp [ticketsTaken, nonempty]

theorem afterTickets_eq_iff {first second : Nat} :
    afterTickets first = afterTickets second ↔ first % 2 ^ 64 = second % 2 ^ 64 := by
  unfold afterTickets
  rw [Policy.roundRobin.injEq, ← UInt64.toNat_inj]
  simp

theorem ticketsTaken_replicate {call : List String × String} (nonempty : call.1 ≠ []) (n : Nat) :
    ticketsTaken (List.replicate n call) = n := by
  unfold ticketsTaken
  rw [List.countP_replicate, if_pos (by simpa using nonempty)]

/-- A call without candidates takes no ticket. -/
theorem distribute_of_empty (taken : Nat) (masterName : String) :
    (afterTickets taken).distribute [] masterName = (none, afterTickets taken) := rfl

theorem distribute_of_nonempty (nonempty : candidates ≠ []) (taken : Nat) (masterName : String) :
    (afterTickets taken).distribute candidates masterName =
      (pickAfter taken candidates, afterTickets (taken + 1)) := by
  have ticket : (UInt64.ofNat taken).toNat = taken % 2 ^ 64 := UInt64.toNat_ofNat'
  have next : UInt64.ofNat taken + 1 = UInt64.ofNat (taken + 1) := by
    rw [UInt64.ofNat_add]
    rfl
  unfold afterTickets distribute pickAfter
  dsimp only
  rw [if_neg (by simpa using nonempty), ticket, next]

/-- **The counter counts the calls with candidates**, and only those. -/
theorem distributeAll_after (taken : Nat) (calls : List (List String × String)) :
    ((afterTickets taken).distributeAll calls).2 = afterTickets (taken + ticketsTaken calls) := by
  induction calls generalizing taken with
  | nil => rfl
  | cons call rest ih =>
    obtain ⟨candidates, masterName⟩ := call
    rw [distributeAll_cons]
    by_cases empty : candidates = []
    · subst empty
      rw [ticketsTaken_cons_of_empty rfl, distribute_of_empty]
      exact ih taken
    · rw [ticketsTaken_cons_of_nonempty empty, distribute_of_nonempty empty]
      show ((afterTickets (taken + 1)).distributeAll rest).2 = _
      rw [ih, Nat.add_assoc, Nat.add_comm 1]

/-- Some candidate is picked if there is one. -/
theorem exists_pickAfter (nonempty : candidates ≠ []) (taken : Nat) :
    ∃ slice, pickAfter taken candidates = some slice := by
  have room : taken % 2 ^ 64 % candidates.length < candidates.length :=
    Nat.mod_lt _ (List.length_pos_iff.2 nonempty)
  exact ⟨_, List.getElem?_eq_getElem room⟩

/-- Each ticket that the calls take is taken by one of them. -/
theorem exists_call_of_ticket {calls : List (List String × String)} {ticket : Nat}
    (within : ticket < ticketsTaken calls) : ∃ first call second,
      calls = first ++ call :: second ∧ ticketsTaken first = ticket ∧ call.1 ≠ [] := by
  induction calls generalizing ticket with
  | nil => exact absurd within (Nat.not_lt_zero ticket)
  | cons call rest ih =>
    by_cases empty : call.1 = []
    · rw [ticketsTaken_cons_of_empty empty] at within
      obtain ⟨first, found, second, rfl, before, nonempty⟩ := ih within
      refine ⟨call :: first, found, second, rfl, ?_, nonempty⟩
      rw [ticketsTaken_cons_of_empty empty, before]
    · cases ticket with
      | zero => exact ⟨[], call, rest, rfl, rfl, empty⟩
      | succ ticket =>
        rw [ticketsTaken_cons_of_nonempty empty] at within
        obtain ⟨first, found, second, rfl, before, nonempty⟩ := ih (Nat.lt_of_succ_lt_succ within)
        refine ⟨call :: first, found, second, rfl, ?_, nonempty⟩
        rw [ticketsTaken_cons_of_nonempty empty, before]

/-! ## Where the counter starts again -/

/-- In these calls the counter goes from its greatest value to zero, and a further call
takes a ticket. -/
def StartsAgainWithin (policy : Policy) (calls : List (List String × String)) : Prop :=
  ∃ first call second, calls = first ++ call :: second ∧
    (policy.distributeAll first).2 = .roundRobin (UInt64.ofNat (2 ^ 64 - 1)) ∧
    (policy.distributeAll (first ++ [call])).2 = .roundRobin 0 ∧ 0 < ticketsTaken second

theorem startsAgainWithin_iff (taken : Nat) (calls : List (List String × String)) :
    (afterTickets taken).StartsAgainWithin calls ↔
      2 ^ 64 < taken % 2 ^ 64 + ticketsTaken calls := by
  constructor
  · rintro ⟨first, call, second, rfl, greatest, zero, more⟩
    rw [distributeAll_after] at greatest zero
    have last := afterTickets_eq_iff.1 greatest
    have nonempty : call.1 ≠ [] := by
      intro empty
      rw [ticketsTaken_append, ticketsTaken_cons_of_empty empty] at zero
      have same := afterTickets_eq_iff.1 (zero : _ = afterTickets 0)
      simp only [ticketsTaken_nil, Nat.add_zero] at same
      omega
    rw [ticketsTaken_append, ticketsTaken_cons_of_nonempty nonempty]
    omega
  · intro beyond
    have within : 2 ^ 64 - 1 - taken % 2 ^ 64 < ticketsTaken calls := by omega
    obtain ⟨first, call, second, rfl, before, nonempty⟩ := exists_call_of_ticket within
    rw [ticketsTaken_append, ticketsTaken_cons_of_nonempty nonempty, before] at beyond
    refine ⟨first, call, second, rfl, ?_, ?_, by omega⟩
    · rw [distributeAll_after, before]
      exact afterTickets_eq_iff.2 (by omega)
    · rw [distributeAll_after, ticketsTaken_append, ticketsTaken_cons_of_nonempty nonempty, before,
        ticketsTaken_nil]
      show _ = afterTickets 0
      exact afterTickets_eq_iff.2 (by omega)

/-! ## One round -/

/-- All calls with candidates have these. -/
def Steady (candidates : List String) (calls : List (List String × String)) : Prop :=
  ∀ call ∈ calls, call.1 ≠ [] → call.1 = candidates

instance (candidates : List String) (calls : List (List String × String)) :
    Decidable (Steady candidates calls) :=
  inferInstanceAs (Decidable (∀ _ ∈ _, _))

/-- What the next tickets, so many of them, pick from these candidates. -/
def picksAfter (taken : Nat) (candidates : List String) (tickets : Nat) : List (Option String) :=
  (List.range tickets).map fun ticket => pickAfter (taken + ticket) candidates

/-- The calls with candidates choose what their tickets pick; the others choose nothing. -/
theorem filter_distributeAll {calls : List (List String × String)}
    (steady : Steady candidates calls) (taken : Nat) :
    ((afterTickets taken).distributeAll calls).1.filter Option.isSome =
      picksAfter taken candidates (ticketsTaken calls) := by
  induction calls generalizing taken with
  | nil => rfl
  | cons call rest ih =>
    obtain ⟨own, masterName⟩ := call
    have later : Steady candidates rest := fun other member =>
      steady other (List.mem_cons_of_mem _ member)
    rw [distributeAll_cons]
    by_cases empty : own = []
    · subst empty
      rw [ticketsTaken_cons_of_empty rfl, distribute_of_empty]
      exact ih later taken
    · obtain rfl : own = candidates := steady _ List.mem_cons_self empty
      obtain ⟨slice, picked⟩ := exists_pickAfter empty taken
      have shifted : picksAfter taken own (ticketsTaken rest + 1) =
          some slice :: picksAfter (taken + 1) own (ticketsTaken rest) := by
        unfold picksAfter
        rw [List.range_succ_eq_map, List.map_cons, Nat.add_zero, picked, List.map_map]
        simp [Function.comp_def, Nat.add_assoc, Nat.add_comm 1]
      rw [ticketsTaken_cons_of_nonempty empty, distribute_of_nonempty empty, picked, shifted,
        ← ih later (taken + 1)]
      rfl

theorem count_distributeAll {calls : List (List String × String)}
    (steady : Steady candidates calls) (taken : Nat) (slice : String) :
    ((afterTickets taken).distributeAll calls).1.count (some slice) =
      (picksAfter taken candidates (ticketsTaken calls)).count (some slice) := by
  rw [← filter_distributeAll steady, List.count_filter rfl]

/-- Tickets whose remainders follow each other go once around the candidates. -/
theorem picksAfter_eq_rotate {start : Nat} (following : ∀ ticket < candidates.length,
      (taken + ticket) % 2 ^ 64 % candidates.length = (start + ticket) % candidates.length) :
    picksAfter taken candidates candidates.length = (candidates.rotate start).map some := by
  refine List.ext_getElem (by simp [picksAfter]) fun ticket inPicks inRotated => ?_
  have within : ticket < candidates.length := by simpa [picksAfter] using inPicks
  have room : (ticket + start) % candidates.length < candidates.length :=
    Nat.mod_lt _ (Nat.zero_lt_of_lt within)
  have picked : pickAfter (taken + ticket) candidates =
      some candidates[(ticket + start) % candidates.length] := by
    unfold pickAfter
    rw [following ticket within, Nat.add_comm start, List.getElem?_eq_getElem room]
  simp only [picksAfter, List.getElem_map, List.getElem_range, List.getElem_rotate]
  exact picked

/-- The remainders follow each other through a round, whether the counter starts again at a
multiple of the number of candidates or not at all. -/
theorem exists_following {n : Nat}
    (fair : n ∣ 2 ^ 64 ∨ taken % 2 ^ 64 + n ≤ 2 ^ 64) :
    ∃ start, ∀ ticket < n, (taken + ticket) % 2 ^ 64 % n = (start + ticket) % n := by
  rcases fair with divides | straight
  · exact ⟨taken, fun ticket _ => Nat.mod_mod_of_dvd _ divides⟩
  · refine ⟨taken % 2 ^ 64, fun ticket within => ?_⟩
    have low : (taken + ticket) % 2 ^ 64 = taken % 2 ^ 64 + ticket := by omega
    rw [low]

/-- **Two calls of a round pick one slice** if the counter starts again between them and the
number of candidates does not divide the number of tickets. -/
theorem tickets_meet {n all : Nat} (stray : ¬ n ∣ all) (beyond : all < taken % all + n) :
    ∃ first second, first < second ∧ second < n ∧
      (taken + first) % all % n = (taken + second) % all % n := by
  have positive : 0 < all := Nat.pos_of_ne_zero fun zero => stray (zero ▸ Nat.dvd_zero n)
  have split : n * (all / n) + all % n = all := Nat.div_add_mod all n
  have remains : 0 < all % n := Nat.pos_of_ne_zero fun zero => stray (Nat.dvd_of_mod_eq_zero zero)
  have start : taken % all < all := Nat.mod_lt taken positive
  have wide : 0 < n := by omega
  have short : all % n < n := Nat.mod_lt all wide
  -- The tickets before the counter starts again; of them, the one as many as the remainder
  -- before the first new ticket, or the very first, has a double that many calls later.
  generalize ahead : all - taken % all = left
  refine ⟨left - all % n, left - all % n + all % n, by omega, by omega, ?_⟩
  have before : (taken + (left - all % n)) % all = taken % all + (left - all % n) := by
    rw [← Nat.mod_add_mod, Nat.mod_eq_of_lt (by omega)]
  have behind : (taken + (left - all % n + all % n)) % all =
      taken % all + (left - all % n) + all % n - all := by
    rw [← Nat.mod_add_mod, Nat.mod_eq_sub_mod (by omega), Nat.mod_eq_of_lt (by omega)]
    omega
  have apart : taken % all + (left - all % n) =
      taken % all + (left - all % n) + all % n - all + n * (all / n) := by omega
  rw [before, behind]
  conv => lhs; rw [apart]
  exact Nat.add_mul_mod_self_left _ _ _

theorem distinct_of_each_once (distinct : candidates.Nodup) {picks : List (Option String)}
    (each : ∀ slice ∈ candidates, picks.count (some slice) = 1)
    (long : picks.length = candidates.length) : picks.Nodup := by
  have named : (candidates.map some).Nodup := distinct.map (Option.some_injective String)
  have within : candidates.map some ⊆ picks := by
    intro pick member
    obtain ⟨slice, isCandidate, rfl⟩ := List.mem_map.1 member
    refine List.count_pos_iff.1 ?_
    rw [each slice isCandidate]
    exact Nat.one_pos
  have same : (candidates.map some).Perm picks :=
    (named.subperm within).perm_of_length_le (by simp [long])
  exact same.nodup_iff.1 named

/-- **A round is fair** if the counter does not start again in it, or starts again at a multiple
of the number of candidates; and only then. -/
theorem each_once_iff (distinct : candidates.Nodup) (taken : Nat) :
    (∀ slice ∈ candidates,
      (picksAfter taken candidates candidates.length).count (some slice) = 1) ↔
      candidates.length ∣ 2 ^ 64 ∨ taken % 2 ^ 64 + candidates.length ≤ 2 ^ 64 := by
  constructor
  · intro each
    by_contra unfair
    rw [not_or, Nat.not_le] at unfair
    obtain ⟨first, second, earlier, within, same⟩ := tickets_meet unfair.1 unfair.2
    have apart := distinct_of_each_once distinct each (by simp [picksAfter])
    have inRange : ∀ ticket, ticket < candidates.length →
        ticket ∈ List.range candidates.length := fun ticket => List.mem_range.2
    have equal := List.inj_on_of_nodup_map apart (inRange first (earlier.trans within))
      (inRange second within) (by unfold pickAfter; rw [same])
    exact absurd equal (Nat.ne_of_lt earlier)
  · intro fair slice member
    obtain ⟨start, following⟩ := exists_following fair
    rw [picksAfter_eq_rotate following,
      List.count_map_of_injective _ _ (Option.some_injective String),
      (List.rotate_perm candidates start).count_eq]
    exact List.count_eq_one_of_mem distinct member

end Policy

/-! ## Through a configuration -/

namespace Configuration

variable {σ F C : Type}

/-- Calls for candidates, one after the other, through a configuration. -/
def distributeAll (config : Configuration) :
    List (List String × String) → Session σ F C → List (Except SliceFault (Option String))
  | [], _ => []
  | call :: rest, session =>
    let (choice, session) := config.distribute call.1 call.2 session
    choice :: config.distributeAll rest session

theorem distributionPolicy_of_created {config : Configuration} {session : Session σ F C}
    {policy : Policy} (unmade : session.policy = none)
    (created : config.policies.create config.policyName = .ok policy) :
    (config.distributionPolicy session).1 = .ok policy := by
  unfold distributionPolicy
  rw [unmade]
  dsimp only
  rw [created]

/-- A session keeps the policy that its first call made, and what that policy remembers. -/
theorem distribute_of_policy {config : Configuration} {session : Session σ F C} {policy : Policy}
    (made : (config.distributionPolicy session).1 = .ok policy) (call : List String × String) :
    (config.distribute call.1 call.2 session).1 = .ok (policy.distribute call.1 call.2).1 ∧
      (config.distributionPolicy (config.distribute call.1 call.2 session).2).1 =
        .ok (policy.distribute call.1 call.2).2 := by
  unfold distribute
  split
  · rename_i failed
    rw [failed] at made
    cases made
  · rename_i found
    rw [found] at made
    cases made
    exact ⟨rfl, rfl⟩

/-- The calls of one session are calls on one policy. -/
theorem distributeAll_of_policy {config : Configuration} {session : Session σ F C}
    {policy : Policy} (made : (config.distributionPolicy session).1 = .ok policy)
    (calls : List (List String × String)) :
    config.distributeAll calls session = (policy.distributeAll calls).1.map .ok := by
  induction calls generalizing session policy with
  | nil => rfl
  | cons call rest ih =>
    obtain ⟨chosen, kept⟩ := distribute_of_policy made call
    have later := ih kept
    rw [Policy.distributeAll_cons, List.map_cons, ← chosen, ← later]
    rfl

end Configuration

namespace Policy

/-- **The round-robin policy goes around the slices.** Among any calls on it, also those of one
session, a call without candidates chooses nothing and leaves the policy as it is, and a call
with candidates picks by the number of calls with candidates before it, modulo 2⁶⁴ and then
modulo their number. So of as many calls as there are candidates, all with these, each candidate
is picked once if and only if their number divides 2⁶⁴ or the counter does not start again
between two of these calls. -/
theorem round_robin_goes_around :
    (∀ (before after : List (List String × String)) (candidates : List String)
      (masterName : String),
      let policy := ((Policy.roundRobin 0).distributeAll before).2
      let choices := ((Policy.roundRobin 0).distributeAll
        (before ++ (candidates, masterName) :: after)).1
      (candidates = [] → choices[before.length]? = some none ∧
        (policy.distribute candidates masterName).2 = policy) ∧
      (candidates ≠ [] → ∃ slice,
        candidates[ticketsTaken before % 2 ^ 64 % candidates.length]? = some slice ∧
        choices[before.length]? = some (some slice))) ∧
    (∀ (before window : List (List String × String)) (candidates : List String),
      candidates.Nodup → Steady candidates window → ticketsTaken window = candidates.length →
      let policy := ((Policy.roundRobin 0).distributeAll before).2
      ((∀ slice ∈ candidates, (policy.distributeAll window).1.count (some slice) = 1) ↔
        candidates.length ∣ 2 ^ 64 ∨ ¬ policy.StartsAgainWithin window)) ∧
    (∀ {σ F C : Type} (config : Configuration) (session : Session σ F C)
      (calls : List (List String × String)), session.policy = none →
      config.policies.create config.policyName = .ok (.roundRobin 0) →
        config.distributeAll calls session =
          ((Policy.roundRobin 0).distributeAll calls).1.map .ok) := by
  have reached : ∀ before, ((Policy.roundRobin 0).distributeAll before).2 =
      afterTickets (ticketsTaken before) := by
    intro before
    have counted := distributeAll_after 0 before
    rw [Nat.zero_add] at counted
    exact counted
  refine ⟨?_, ?_, fun config session calls unmade created =>
    Configuration.distributeAll_of_policy
      (Configuration.distributionPolicy_of_created unmade created) calls⟩
  · intro before after candidates masterName
    have choice : ((Policy.roundRobin 0).distributeAll
        (before ++ (candidates, masterName) :: after)).1[before.length]? =
          some ((afterTickets (ticketsTaken before)).distribute candidates masterName).1 := by
      rw [distributeAll_append, reached, distributeAll_cons,
        List.getElem?_append_right (Nat.le_of_eq (length_distributeAll _ before)),
        length_distributeAll, Nat.sub_self]
      rfl
    dsimp only
    rw [reached, choice]
    constructor
    · rintro rfl
      exact ⟨rfl, rfl⟩
    · intro nonempty
      obtain ⟨slice, picked⟩ := exists_pickAfter nonempty (ticketsTaken before)
      exact ⟨slice, picked, by rw [distribute_of_nonempty nonempty, picked]⟩
  · intro before window candidates distinct steady round
    dsimp only
    rw [reached, startsAgainWithin_iff, round, Nat.not_lt, ← each_once_iff distinct]
    exact forall₂_congr fun slice _ => by rw [count_distributeAll steady, round]

/-- The standard book makes a policy from which no ticket has been taken. -/
theorem create_roundRobin :
    PolicyBook.standard.create PolicyBook.roundRobinName = .ok (.roundRobin 0) := by
  have entered : PolicyBook.standard.get? PolicyBook.roundRobinName = some (.roundRobin 0) := by
    unfold PolicyBook.standard
    rw [KeyMap.get?_ofList]
    rfl
  unfold PolicyBook.create
  rw [entered]

/-- So many calls for these candidates. -/
def callsFor (candidates : List String) (calls : Nat) : List (List String × String) :=
  List.replicate calls (candidates, "east")

/-- The three regions with a policy that goes around them. -/
def goingAround : Configuration :=
  { Configuration.regions true with
    policies := .standard
    policyName := PolicyBook.roundRobinName }

/-- Where the counter starts again three slices get their records unevenly and two do not; a
session goes around from the first slice, and a call without candidates does not count. -/
theorem last_ticket_round :
    let policy := ((Policy.roundRobin 0).distributeAll (callsFor ["east"] (2 ^ 64 - 1))).2
    ¬ (∀ slice ∈ ["east", "north", "west"],
      (policy.distributeAll (callsFor ["east", "north", "west"] 3)).1.count (some slice) = 1) ∧
    (∀ slice ∈ ["east", "west"],
      (policy.distributeAll (callsFor ["east", "west"] 2)).1.count (some slice) = 1) ∧
    goingAround.distributeAll [(["east", "west"], "east"), ([], "east"), (["east", "west"], "east")]
      (Session.initial () : Session Unit Unit Unit) =
        [.ok (some "east"), .ok none, .ok (some "west")] := by
  obtain ⟨-, rounds, sessions⟩ := round_robin_goes_around
  have reached : ((Policy.roundRobin 0).distributeAll (callsFor ["east"] (2 ^ 64 - 1))).2 =
      afterTickets (2 ^ 64 - 1) := by
    have counted := distributeAll_after 0 (callsFor ["east"] (2 ^ 64 - 1))
    unfold callsFor at counted
    rw [ticketsTaken_replicate (List.cons_ne_nil _ _), Nat.zero_add] at counted
    exact counted
  refine ⟨?_, ?_, ?_⟩
  · refine (rounds _ (callsFor ["east", "north", "west"] 3) _ (by decide) (by decide)
      (by decide)).not.2 ?_
    rw [reached, startsAgainWithin_iff]
    decide
  · refine (rounds _ (callsFor ["east", "west"] 2) _ (by decide) (by decide) (by decide)).2
      (.inl ?_)
    decide
  · exact (sessions goingAround (Session.initial ()) _ rfl create_roundRobin).trans rfl

end Policy

end SliceFleet
