/-
SliceFleet.Proofs.Requirements — what building asks of a namespace, in order.

Building succeeds exactly if all requirements are met, and otherwise reports
the first one that is not (`Configuration.build_ends_by_requirements`). A
fallible step is described by the requirements that it checks (`Checks`), and
steps that follow each other check theirs one after the other (`Checks.bind`);
so the requirements of the whole are put together as the building is.
-/
import SliceFleet.Configuration.Session
import SliceFleet.Proofs.DiscoveredNames
import SliceFleet.Proofs.Numerals

namespace SliceFleet

open Text

/-! ## Requirements and steps that check them -/

/-- Something that a step asks, with the fault that is reported where it is not met. -/
structure Requirement where
  met : Prop
  fault : SliceFault

namespace Requirement

variable {α β : Type} {requirements others : List Requirement} {requirement : Requirement}
  {fault : SliceFault}

def AllMet (requirements : List Requirement) : Prop :=
  ∀ requirement ∈ requirements, requirement.met

/-- This is the fault of the first requirement that is not met. -/
inductive FirstUnmet : List Requirement → SliceFault → Prop where
  | here {requirement : Requirement} {rest : List Requirement} (unmet : ¬ requirement.met) :
      FirstUnmet (requirement :: rest) requirement.fault
  | later {requirement : Requirement} {rest : List Requirement} {fault : SliceFault}
      (met : requirement.met) (unmet : FirstUnmet rest fault) :
      FirstUnmet (requirement :: rest) fault

theorem allMet_append : AllMet (requirements ++ others) ↔ AllMet requirements ∧ AllMet others :=
  List.forall_mem_append

theorem FirstUnmet.exists_unmet (first : FirstUnmet requirements fault) :
    ∃ requirement ∈ requirements, ¬ requirement.met ∧ requirement.fault = fault := by
  induction first with
  | here unmet => exact ⟨_, List.mem_cons_self, unmet, rfl⟩
  | later _ _ ih =>
    obtain ⟨requirement, member, unmet, same⟩ := ih
    exact ⟨requirement, List.mem_cons_of_mem _ member, unmet, same⟩

theorem firstUnmet_append_iff : FirstUnmet (requirements ++ others) fault ↔
    FirstUnmet requirements fault ∨ AllMet requirements ∧ FirstUnmet others fault := by
  induction requirements with
  | nil =>
    constructor
    · exact fun first => .inr ⟨fun _ member => (List.not_mem_nil member).elim, first⟩
    · rintro (none | ⟨-, first⟩)
      · cases none
      · exact first
  | cons requirement rest ih =>
    constructor
    · intro first
      cases first with
      | here unmet => exact .inl (.here unmet)
      | later met following =>
        rcases ih.1 following with early | ⟨all, late⟩
        · exact .inl (.later met early)
        · exact .inr ⟨List.forall_mem_cons.2 ⟨met, all⟩, late⟩
    · rintro (first | ⟨all, late⟩)
      · cases first with
        | here unmet => exact .here unmet
        | later met early => exact .later met (ih.2 (.inl early))
      · obtain ⟨met, following⟩ := List.forall_mem_cons.1 all
        exact .later met (ih.2 (.inr ⟨following, late⟩))

theorem allMet_or_firstUnmet (requirements : List Requirement) :
    AllMet requirements ∨ ∃ fault, FirstUnmet requirements fault := by
  induction requirements with
  | nil => exact .inl fun _ member => (List.not_mem_nil member).elim
  | cons requirement rest ih =>
    by_cases met : requirement.met
    · rcases ih with all | ⟨fault, first⟩
      · exact .inl (List.forall_mem_cons.2 ⟨met, all⟩)
      · exact .inr ⟨fault, .later met first⟩
    · exact .inr ⟨requirement.fault, .here met⟩

/-- The step succeeds if all requirements are met, and otherwise reports the first
that is not. -/
structure Checks (requirements : List Requirement) (step : Except SliceFault α) : Prop where
  succeeds : AllMet requirements → ∃ value, step = .ok value
  reports : ∀ fault, FirstUnmet requirements fault → step = .error fault

namespace Checks

variable {step : Except SliceFault α}

theorem allMet_of_ok (checks : Checks requirements step) {value : α} (done : step = .ok value) :
    AllMet requirements := by
  rcases allMet_or_firstUnmet requirements with all | ⟨fault, first⟩
  · exact all
  · rw [checks.reports fault first] at done
    cases done

theorem succeeds_iff (checks : Checks requirements step) :
    (∃ value, step = .ok value) ↔ AllMet requirements :=
  ⟨fun ⟨_, done⟩ => checks.allMet_of_ok done, checks.succeeds⟩

theorem reports_iff (checks : Checks requirements step) :
    step = .error fault ↔ FirstUnmet requirements fault := by
  refine ⟨fun failed => ?_, checks.reports fault⟩
  rcases allMet_or_firstUnmet requirements with all | ⟨first, unmet⟩
  · obtain ⟨value, done⟩ := checks.succeeds all
    rw [failed] at done
    cases done
  · rw [checks.reports first unmet] at failed
    cases failed
    exact unmet

/-- A step that always succeeds asks nothing. -/
theorem ok (value : α) : Checks [] (.ok value : Except SliceFault α) where
  succeeds _ := ⟨value, rfl⟩
  reports _ first := by cases first

/-- Steps check their requirements one after the other. -/
theorem bind {next : α → Except SliceFault β} (checks : Checks requirements step)
    (following : ∀ value, step = .ok value → Checks others (next value)) :
    Checks (requirements ++ others) (step >>= next) where
  succeeds all := by
    obtain ⟨early, late⟩ := allMet_append.1 all
    obtain ⟨value, done⟩ := checks.succeeds early
    obtain ⟨result, finished⟩ := (following value done).succeeds late
    exact ⟨result, by rw [done]; exact finished⟩
  reports fault first := by
    rcases firstUnmet_append_iff.1 first with early | ⟨all, late⟩
    · rw [checks.reports fault early]
      rfl
    · obtain ⟨value, done⟩ := checks.succeeds all
      rw [done]
      exact (following value done).reports fault late

/-- A step that is followed by one that can not fail. -/
theorem andThen {next : α → Except SliceFault β} (checks : Checks requirements step)
    (total : ∀ value, ∃ result, next value = .ok result) :
    Checks requirements (step >>= next) := by
  rw [← List.append_nil requirements]
  refine checks.bind fun value _ => ?_
  obtain ⟨result, done⟩ := total value
  rw [done]
  exact .ok result

theorem mapM {each : α → Requirement} {read : α → Except SliceFault β}
    (checks : ∀ item, Checks [each item] (read item)) (items : List α) :
    Checks (items.map each) (items.mapM read) := by
  induction items with
  | nil => exact .ok []
  | cons item rest ih =>
    rw [List.mapM_cons, List.map_cons, ← List.singleton_append]
    exact (checks item).bind fun _ _ => ih.andThen fun _ => ⟨_, rfl⟩

end Checks

/-! ## Values that must be readable -/

/-- What stands under `key`, if anything, must be readable; a fault names the key
`reported`. -/
def readable (whole : Properties) (key reported : String) (expected : Expected)
    (Readable : String → Prop) : Requirement where
  met := ∀ text, whole.get? key = some text → Readable text
  fault := .invalidValue reported ((whole.get? key).getD "") expected

variable {whole : Properties} {key reported : String} {expected : Expected}
  {Readable : String → Prop}

/-- A requirement that is not met has an unreadable value, which its fault reports. -/
theorem exists_of_unreadable (unmet : ¬ (readable whole key reported expected Readable).met) :
    ∃ text, whole.get? key = some text ∧ ¬ Readable text ∧
      (readable whole key reported expected Readable).fault =
        .invalidValue reported text expected := by
  simp only [readable, not_forall] at unmet
  obtain ⟨text, stated, unreadable⟩ := unmet
  exact ⟨text, stated, unreadable, by simp [readable, stated]⟩

theorem Checks.of_readable {step : Except SliceFault α}
    (sound : (∀ text, whole.get? key = some text → Readable text) → ∃ value, step = .ok value)
    (bad : ∀ text, whole.get? key = some text → ¬ Readable text →
      step = .error (.invalidValue reported text expected)) :
    Checks [readable whole key reported expected Readable] step where
  succeeds all := sound (all _ List.mem_cons_self)
  reports fault first := by
    cases first with
    | here unmet =>
      obtain ⟨text, stated, unreadable, same⟩ := exists_of_unreadable unmet
      rw [same, bad text stated unreadable]
    | later _ none => cases none

end Requirement

end SliceFleet
