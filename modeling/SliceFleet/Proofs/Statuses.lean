/-
SliceFleet.Proofs.Statuses — the board after several slices were settled.

A verification settles slices one after the other. `Board.settleEach` is the
board behind a whole list of findings; the first finding about a place
decides (`of_settleEach`), and later ones, like findings about places that
were settled before, leave no trace. So boards only grow: `Board.Extends` is
kept by every settlement, and with it the list of the active slices only
gets longer (`activeNames_sublist`).

The places of a registry count up, so a place says which slice is meant
(`Registry.eq_of_place_eq`).
-/
import Mathlib.Data.List.Nodup
import SliceFleet.Registry

namespace SliceFleet

/-! ## Several findings -/

namespace Board

/-- Settles slices one after the other, each by whether it was found reachable. -/
def settleEach (board : Board) (findings : List (Slice × Bool)) : Board :=
  findings.foldl (fun board finding => board.settle finding.1 finding.2) board

@[simp] theorem settleEach_nil (board : Board) : board.settleEach [] = board := rfl

@[simp] theorem settleEach_cons (board : Board) (finding : Slice × Bool)
    (rest : List (Slice × Bool)) :
    board.settleEach (finding :: rest) = (board.settle finding.1 finding.2).settleEach rest := rfl

theorem settleEach_append (board : Board) (ahead behind : List (Slice × Bool)) :
    board.settleEach (ahead ++ behind) = (board.settleEach ahead).settleEach behind :=
  List.foldl_append

/-- Settling a slice says nothing of other places. -/
theorem status_settle_of_place_ne {board : Board} {slice : Slice} {place : Nat}
    (reachable : Bool) (other : slice.place ≠ place) :
    (board.settle slice reachable).status place = board.status place := by
  rw [status_settle, if_neg]
  rintro ⟨same, -⟩
  exact other same.symm

/-- A place that was settled before stays as it is, whatever is found later. -/
theorem status_settleEach_of_settled {board : Board} {place : Nat}
    (findings : List (Slice × Bool)) (settled : board.status place ≠ .uninitialized) :
    (board.settleEach findings).status place = board.status place := by
  induction findings generalizing board with
  | nil => rfl
  | cons finding rest ih =>
    have kept := status_settle_of_ne finding.1 finding.2 settled
    rw [settleEach_cons, ih (by rw [kept]; exact settled), kept]

/-- A place that no finding is about stays as it is. -/
theorem status_settleEach_of_absent {board : Board} {place : Nat}
    {findings : List (Slice × Bool)} (absent : ∀ finding ∈ findings, finding.1.place ≠ place) :
    (board.settleEach findings).status place = board.status place := by
  induction findings generalizing board with
  | nil => rfl
  | cons finding rest ih =>
    have untouched : (board.settle finding.1 finding.2).status place = board.status place :=
      status_settle_of_place_ne finding.2 (absent finding List.mem_cons_self)
    rw [settleEach_cons, ih fun later member => absent later (List.mem_cons_of_mem _ member),
      untouched]

/-- Slices found in reach make no place inactive. -/
theorem status_settleEach_ne_inactive {board : Board} {place : Nat}
    {findings : List (Slice × Bool)} (reached : ∀ finding ∈ findings, finding.2 = true)
    (start : board.status place ≠ .inactive) :
    (board.settleEach findings).status place ≠ .inactive := by
  induction findings generalizing board with
  | nil => exact start
  | cons finding rest ih =>
    obtain ⟨first, others⟩ := List.forall_mem_cons.1 reached
    refine ih others ?_
    rw [status_settle, first]
    split
    · exact Status.noConfusion
    · exact start

/-- **What is found decides**: a slice not settled before gets the status that
all findings about its place agree on. -/
theorem of_settleEach {board : Board} {slice : Slice} {reachable : Bool}
    {findings : List (Slice × Bool)} (fresh : board.of slice = .uninitialized)
    (member : (slice, reachable) ∈ findings)
    (agree : ∀ finding ∈ findings, finding.1.place = slice.place → finding.2 = reachable) :
    (board.settleEach findings).of slice = .ofReachable reachable := by
  induction findings generalizing board with
  | nil => cases member
  | cons finding rest ih =>
    have agreeRest : ∀ later ∈ rest, later.1.place = slice.place → later.2 = reachable :=
      fun later inRest => agree later (List.mem_cons_of_mem _ inRest)
    by_cases same : finding.1.place = slice.place
    · -- The first finding about the place settles it; the rest can not change that.
      have found : finding.2 = reachable := agree finding List.mem_cons_self same
      have settled : (board.settle finding.1 finding.2).status slice.place =
          .ofReachable reachable := by
        rw [status_settle, if_pos ⟨same.symm, fresh⟩, found]
      rw [settleEach_cons, of, status_settleEach_of_settled rest, settled]
      rw [settled]
      cases reachable <;> simp [Status.ofReachable]
    · have stillFresh : (board.settle finding.1 finding.2).of slice = .uninitialized := by
        rw [of, status_settle_of_place_ne finding.2 same]
        exact fresh
      have inRest : (slice, reachable) ∈ rest := by
        rcases List.mem_cons.1 member with rfl | inRest
        · exact absurd rfl same
        · exact inRest
      rw [settleEach_cons]
      exact ih stillFresh inRest agreeRest

/-- **The first finding about a slice settles it**, whatever is found of it later. -/
theorem of_settleEach_of_first {board : Board} {slice : Slice} {reachable : Bool}
    {ahead : List (Slice × Bool)} (behind : List (Slice × Bool))
    (fresh : board.of slice = .uninitialized)
    (absent : ∀ finding ∈ ahead, finding.1.place ≠ slice.place) :
    (board.settleEach (ahead ++ (slice, reachable) :: behind)).of slice =
      .ofReachable reachable := by
  have stillFresh : (board.settleEach ahead).of slice = .uninitialized := by
    rw [of, status_settleEach_of_absent absent]
    exact fresh
  have settled : ((board.settleEach ahead).settle slice reachable).status slice.place =
      .ofReachable reachable := by
    rw [status_settle, if_pos ⟨rfl, stillFresh⟩]
  rw [settleEach_append, settleEach_cons, of, status_settleEach_of_settled behind, settled]
  rw [settled]
  cases reachable <;> simp [Status.ofReachable]

/-! ## Boards only grow -/

/-- Every place that is settled on `board` has the same status on `later`. -/
def Extends (board later : Board) : Prop :=
  ∀ place, board.status place ≠ .uninitialized → later.status place = board.status place

theorem Extends.refl (board : Board) : board.Extends board := fun _ _ => rfl

theorem Extends.trans {first second third : Board} (one : first.Extends second)
    (two : second.Extends third) : first.Extends third := by
  intro place settled
  have same := one place settled
  rw [two place (by rw [same]; exact settled), same]

theorem extends_settle (board : Board) (slice : Slice) (reachable : Bool) :
    board.Extends (board.settle slice reachable) :=
  fun _ settled => status_settle_of_ne slice reachable settled

end Board

/-! ## The slices of a registry -/

namespace Registry

/-- The names of the active slices, in order. -/
def activeNames (registry : Registry) (board : Board) : List String :=
  (registry.withStatus board [.active]).map (·.name)

theorem activeNames_eq (registry : Registry) (board : Board) :
    registry.activeNames board =
      (registry.slices.filter fun slice => board.isActive slice).map (·.name) := by
  rw [activeNames, withStatus]
  congr 1
  refine List.filter_congr fun slice _ => ?_
  cases h : board.of slice <;> simp [Board.isActive, h]

/-- Who is active stays active, so the list of active names only gets longer. -/
theorem activeNames_sublist (registry : Registry) {board later : Board}
    (grows : board.Extends later) :
    (registry.activeNames board).Sublist (registry.activeNames later) := by
  rw [activeNames_eq, activeNames_eq]
  refine List.Sublist.map _ (List.monotone_filter_right _ fun slice active => ?_)
  have wasActive : board.of slice = .active := by simpa [Board.isActive] using active
  have settled : board.status slice.place ≠ .uninitialized := by
    rw [show board.status slice.place = .active from wasActive]
    exact Status.noConfusion
  have same : later.of slice = board.of slice := grows slice.place settled
  simp [Board.isActive, same, wasActive]

theorem nodup_places (registry : Registry) : (registry.slices.map (·.place)).Nodup := by
  rw [slices, map_place_placedFrom]
  exact List.nodup_range' 1

/-- A place says which slice of the registry is meant. -/
theorem eq_of_place_eq {registry : Registry} {a b : Slice} (first : a ∈ registry.slices)
    (second : b ∈ registry.slices) (same : a.place = b.place) : a = b :=
  List.inj_on_of_nodup_map registry.nodup_places first second same

end Registry

end SliceFleet
