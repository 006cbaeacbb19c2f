/-
SliceFleet.Proofs.KeyGrammar — how keys under one root are told apart.

What follows the slice lead is cut at its first dot, so a name without a dot
can be read off the keys of its slice: two slices never share a key
(`sliceKey_eq_sliceKey_iff`), and neither a control nor a setting of the
defaults is a key of a slice. Classifying is the inverse of building, up to
what the grammar refuses: a property that is empty or broken by a line feed
is malformed (`classify_sliceKey`, `classify_eq_data_iff`).
-/
import SliceFleet.BackendConfig
import SliceFleet.Proofs.Partitioning

namespace SliceFleet

open Text

/-! ## Names without a dot -/

/-- A name that can be told from the property behind it. -/
def DotFree (name : String) : Prop :=
  '.' ∉ name.toList

instance (name : String) : Decidable (DotFree name) :=
  inferInstanceAs (Decidable (¬ _))

theorem hasDot_eq_false_iff {name : String} : hasChar '.' name = false ↔ DotFree name := by
  rw [DotFree, ← hasChar_iff, Bool.not_eq_true]

theorem dotFree_word (control : Control) : DotFree control.word := by
  cases control <;> decide +kernel

theorem cutAtDot_eq_none_iff {rest : String} :
    cutString? (· == '.') rest = none ↔ DotFree rest := by
  rw [cutString?_eq_none_iff]
  constructor
  · intro clear held
    simpa using clear '.' held
  · intro dotFree c member
    exact beq_eq_false_iff_ne.2 fun same => dotFree (same ▸ member)

theorem cutAtDot_eq_some_iff {rest slice property : String} :
    cutString? (· == '.') rest = some (slice, property) ↔
      DotFree slice ∧ rest = slice ++ "." ++ property := by
  rw [cutString?_eq_some_iff, ← String.toList_inj]
  constructor
  · rintro ⟨c, dot, clear, split⟩
    obtain rfl := beq_iff_eq.1 dot
    exact ⟨fun held => by simpa using clear '.' held, by simp [split]⟩
  · rintro ⟨dotFree, split⟩
    refine ⟨'.', rfl, fun b member => ?_, by simp [split]⟩
    exact beq_eq_false_iff_ne.2 fun same => dotFree (same ▸ member)

namespace Keyspace

variable {keys : Keyspace}

/-! ## Keys that never coincide -/

theorem sliceKey_eq (keys : Keyspace) (slice property : String) :
    keys.sliceKey slice property = keys.sliceLead ++ (slice ++ "." ++ property) := by
  simp [sliceKey, ownLead, String.append_assoc]

/-- Two slices share no key, even if one name begins with the other. -/
theorem sliceKey_eq_sliceKey_iff {a b x y : String} (aDotFree : DotFree a) (bDotFree : DotFree b) :
    keys.sliceKey a x = keys.sliceKey b y ↔ a = b ∧ x = y := by
  constructor
  · intro same
    rw [sliceKey_eq, sliceKey_eq, String.append_right_inj] at same
    have cutA : cutString? (· == '.') (a ++ "." ++ x) = some (a, x) :=
      cutAtDot_eq_some_iff.2 ⟨aDotFree, rfl⟩
    have cutB : cutString? (· == '.') (b ++ "." ++ y) = some (b, y) :=
      cutAtDot_eq_some_iff.2 ⟨bDotFree, rfl⟩
    rw [same, cutB] at cutA
    exact Prod.mk.inj (Option.some.inj cutA.symm)
  · rintro ⟨rfl, rfl⟩
    rfl

theorem controlKey_ne_sliceKey {control : String} (dotFree : DotFree control)
    (slice property : String) : keys.controlKey control ≠ keys.sliceKey slice property := by
  intro same
  rw [controlKey, sliceKey_eq, String.append_right_inj] at same
  exact dotFree (by simp [same])

/-- The key of a setting of the defaults is not under the slice lead. -/
theorem beginsWith_sliceLead_settingKey (keys : Keyspace) (setting : Setting) :
    beginsWith keys.sliceLead (keys.settingKey setting) = false := by
  have apart : ∀ rest, setting.word ≠ "slice." ++ rest :=
    afterLead?_eq_none_iff.1 (by cases setting <;> decide +kernel)
  rw [← Bool.not_eq_true, beginsWith_iff]
  rintro ⟨rest, same⟩
  rw [settingKey, globalKey, sliceLead, String.append_assoc, String.append_right_inj] at same
  exact apart rest same

theorem settingKey_inj {a b : Setting} : keys.settingKey a = keys.settingKey b ↔ a = b := by
  have words : a.word = b.word ↔ a = b := by cases a <;> cases b <;> decide
  rw [settingKey, settingKey, globalKey_inj, words]

/-- The key is that of some setting. -/
theorem isSetting_iff {key : String} :
    keys.isSetting key = true ↔ ∃ setting, key = keys.settingKey setting := by
  simp only [isSetting, List.any_eq_true, beq_iff_eq]
  constructor
  · rintro ⟨setting, -, same⟩
    exact ⟨setting, same.symm⟩
  · rintro ⟨setting, same⟩
    exact ⟨setting, Setting.mem_all setting, same.symm⟩

/-! ## Classifying what was built -/

theorem classify_sliceLead_append (keys : Keyspace) (rest : String) :
    keys.classify (keys.sliceLead ++ rest) = classifyRest rest := by
  rw [classify, afterLead?_append]

theorem classify_controlKey (keys : Keyspace) {control : String} (dotFree : DotFree control) :
    keys.classify (keys.controlKey control) =
      if control = "" then .malformed else .control control := by
  rw [controlKey, classify_sliceLead_append, classifyRest, cutAtDot_eq_none_iff.2 dotFree]
  simp

theorem classify_sliceKey (keys : Keyspace) {slice : String} (dotFree : DotFree slice)
    (property : String) :
    keys.classify (keys.sliceKey slice property) =
      if slice = "" ∨ property = "" ∨ '\n' ∈ property.toList then .malformed
      else .data slice property := by
  rw [sliceKey_eq, classify_sliceLead_append, classifyRest, cutAtDot_eq_some_iff.2 ⟨dotFree, rfl⟩]
  simp [hasChar_iff, or_assoc]

/-- A key under the slice lead is a control's, or a slice's with a first dot. -/
theorem controlKey_or_sliceKey {key : String} (lead : beginsWith keys.sliceLead key = true) :
    (∃ control, DotFree control ∧ key = keys.controlKey control) ∨
      ∃ slice property, DotFree slice ∧ key = keys.sliceKey slice property := by
  obtain ⟨rest, rfl⟩ := beginsWith_iff.1 lead
  cases cut : cutString? (· == '.') rest with
  | none => exact .inl ⟨rest, cutAtDot_eq_none_iff.1 cut, rfl⟩
  | some sides =>
    obtain ⟨dotFree, split⟩ := cutAtDot_eq_some_iff.1 cut
    exact .inr ⟨sides.1, sides.2, dotFree, by rw [sliceKey_eq, split]⟩

/-- What a key means is decided by what follows the root, and not by the root. -/
theorem classify_globalKey (keys others : Keyspace) (property : String) :
    keys.classify (keys.globalKey property) = others.classify (others.globalKey property) := by
  simp only [classify, sliceLead, globalKey, afterLead?_append_append, afterLead?_append]

theorem classify_of_foreign {key : String} (foreign : beginsWith keys.globalLead key = false) :
    keys.classify key = .foreign := by
  have outside : beginsWith keys.sliceLead key = false := beginsWith_append_eq_false foreign _
  rw [classify, afterLead?_eq_none_of_not_beginsWith outside,
    afterLead?_eq_none_of_not_beginsWith foreign]

/-- **A key is data** just if it is that of a property of a slice, both named, the
name without a dot and the property on one line. -/
theorem classify_eq_data_iff {key slice property : String} :
    keys.classify key = .data slice property ↔
      key = keys.sliceKey slice property ∧ DotFree slice ∧
        ¬ (slice = "" ∨ property = "" ∨ '\n' ∈ property.toList) := by
  constructor
  · intro data
    cases lead : beginsWith keys.sliceLead key with
    | true =>
      rcases controlKey_or_sliceKey lead with
        ⟨control, dotFree, rfl⟩ | ⟨slice', property', dotFree, rfl⟩
      · rw [classify_controlKey keys dotFree] at data
        split at data <;> cases data
      · rw [classify_sliceKey keys dotFree] at data
        split at data
        · cases data
        · cases data
          exact ⟨rfl, dotFree, ‹_›⟩
    | false =>
      rw [classify, afterLead?_eq_none_of_not_beginsWith lead] at data
      dsimp only at data
      split at data <;> cases data
  · rintro ⟨rfl, dotFree, sound⟩
    rw [classify_sliceKey keys dotFree, if_neg sound]

end Keyspace

end SliceFleet
