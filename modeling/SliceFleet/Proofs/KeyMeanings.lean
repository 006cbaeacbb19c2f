/-
SliceFleet.Proofs.KeyMeanings — what a key means, and the key that has a meaning.

The grammar gives each class of keys by how its keys are written (`Means`): a control
or a property of a slice behind the slice lead, anything else behind it, a default
behind the root's lead, and the rest. A name without a dot can be told from what
follows it, so a key is written in one way only. Classifying finds just that way
(`classify_iff_means`); hence it undoes building, and the key can be built again
from its class (`keyOf?_classify`).
-/
import SliceFleet.Proofs.KeyGrammar

namespace SliceFleet.Keyspace

open Text

variable {keys : Keyspace} {key : String} {meaning : KeyClass}

/-! ## The grammar -/

/-- `<root>.slice.<name>`, the name a non-empty run of characters other than the dot. -/
def IsControlKey (keys : Keyspace) (key name : String) : Prop :=
  key = keys.controlKey name ∧ name ≠ "" ∧ DotFree name

/-- `<root>.slice.<slice>.<property>`, the slice a non-empty run of characters other than
the dot, the property a non-empty run of characters other than the line feed. -/
def IsSliceKey (keys : Keyspace) (key slice property : String) : Prop :=
  key = keys.sliceKey slice property ∧ slice ≠ "" ∧ DotFree slice ∧
    property ≠ "" ∧ '\n' ∉ property.toList

/-- The key begins with the slice lead. -/
def ConcernsSlices (keys : Keyspace) (key : String) : Prop :=
  ∃ rest, key = keys.sliceLead ++ rest

/-- How the keys of a class are written. -/
def Means (keys : Keyspace) (key : String) : KeyClass → Prop
  | .control name => keys.IsControlKey key name
  | .data slice property => keys.IsSliceKey key slice property
  | .malformed => keys.ConcernsSlices key ∧ (∀ name, ¬ keys.IsControlKey key name) ∧
      ∀ slice property, ¬ keys.IsSliceKey key slice property
  | .global property => key = keys.globalKey property ∧ ¬ keys.ConcernsSlices key
  | .foreign => ¬ ∃ rest, key = keys.globalLead ++ rest

/-- The key that is written for a class that says how. -/
def keyOf? (keys : Keyspace) : KeyClass → Option String
  | .control name => some (keys.controlKey name)
  | .data slice property => some (keys.sliceKey slice property)
  | .global property => some (keys.globalKey property)
  | .malformed | .foreign => none

/-! ## Classifying what is written -/

theorem classify_of_isControlKey {name : String} (written : keys.IsControlKey key name) :
    keys.classify key = .control name := by
  obtain ⟨rfl, named, dotFree⟩ := written
  rw [classify_controlKey keys dotFree, if_neg named]

theorem classify_eq_data_iff_isSliceKey {slice property : String} :
    keys.classify key = .data slice property ↔ keys.IsSliceKey key slice property := by
  rw [classify_eq_data_iff]
  unfold IsSliceKey
  simp only [not_or]
  constructor
  · rintro ⟨same, dotFree, named, stated, unbroken⟩
    exact ⟨same, named, dotFree, stated, unbroken⟩
  · rintro ⟨same, named, dotFree, stated, unbroken⟩
    exact ⟨same, dotFree, named, stated, unbroken⟩

/-- Behind the slice lead, what is no control and no property of a slice is malformed. -/
theorem classify_of_concernsSlices (lead : keys.ConcernsSlices key) :
    (∃ name, keys.IsControlKey key name) ∨
      (∃ slice property, keys.IsSliceKey key slice property) ∨
      keys.classify key = .malformed := by
  rcases controlKey_or_sliceKey (beginsWith_iff.2 lead) with
    ⟨name, dotFree, rfl⟩ | ⟨slice, property, dotFree, rfl⟩
  · by_cases named : name = ""
    · rw [classify_controlKey keys dotFree, if_pos named]
      exact .inr (.inr rfl)
    · exact .inl ⟨name, rfl, named, dotFree⟩
  · rw [classify_sliceKey keys dotFree]
    split
    · exact .inr (.inr rfl)
    · rename_i sound
      simp only [not_or] at sound
      exact .inr (.inl ⟨slice, property, rfl, sound.1, dotFree, sound.2⟩)

theorem classify_globalKey_of_not_concernsSlices {property : String}
    (outside : ¬ keys.ConcernsSlices (keys.globalKey property)) :
    keys.classify (keys.globalKey property) = .global property := by
  have apart : beginsWith keys.sliceLead (keys.globalKey property) = false := by
    rw [← Bool.not_eq_true, beginsWith_iff]
    exact outside
  have cut : afterLead? keys.globalLead (keys.globalKey property) = some property :=
    afterLead?_append ..
  rw [classify, afterLead?_eq_none_of_not_beginsWith apart]
  simp only [cut]

/-- What is written for a class is classified so. -/
theorem classify_of_means (means : keys.Means key meaning) : keys.classify key = meaning := by
  cases meaning with
  | control name => exact classify_of_isControlKey means
  | data slice property => exact classify_eq_data_iff_isSliceKey.2 means
  | malformed =>
    obtain ⟨lead, noControl, noProperty⟩ := means
    rcases classify_of_concernsSlices lead with
      ⟨name, written⟩ | ⟨slice, property, written⟩ | malformed
    · exact absurd written (noControl name)
    · exact absurd written (noProperty slice property)
    · exact malformed
  | global property =>
    obtain ⟨rfl, outside⟩ := means
    exact classify_globalKey_of_not_concernsSlices outside
  | foreign =>
    refine classify_of_foreign ?_
    rw [← Bool.not_eq_true, beginsWith_iff]
    exact means

/-! ## Every key is written in one way -/

/-- Every key has a meaning. -/
theorem exists_means (keys : Keyspace) (key : String) : ∃ meaning, keys.Means key meaning := by
  by_cases lead : keys.ConcernsSlices key
  · by_cases control : ∃ name, keys.IsControlKey key name
    · obtain ⟨name, written⟩ := control
      exact ⟨.control name, written⟩
    · by_cases data : ∃ slice property, keys.IsSliceKey key slice property
      · obtain ⟨slice, property, written⟩ := data
        exact ⟨.data slice property, written⟩
      · exact ⟨.malformed, lead, fun name written => control ⟨name, written⟩,
          fun slice property written => data ⟨slice, property, written⟩⟩
  · by_cases below : ∃ property, key = keys.globalLead ++ property
    · obtain ⟨property, same⟩ := below
      exact ⟨.global property, same, lead⟩
    · exact ⟨.foreign, below⟩

/-- **Classifying finds the class as which a key is written**, and no other. -/
theorem classify_iff_means : keys.classify key = meaning ↔ keys.Means key meaning := by
  constructor
  · rintro rfl
    obtain ⟨meaning, means⟩ := exists_means keys key
    rw [classify_of_means means]
    exact means
  · exact classify_of_means

/-- A key can be built again from its class, unless the class does not say how. -/
theorem keyOf?_of_means (means : keys.Means key meaning) (formed : meaning ≠ .malformed)
    (own : meaning ≠ .foreign) : keys.keyOf? meaning = some key := by
  cases meaning with
  | control name => rw [keyOf?, means.1]
  | data slice property => rw [keyOf?, means.1]
  | malformed => exact absurd rfl formed
  | global property => rw [keyOf?, means.1]
  | foreign => exact absurd rfl own

/-- **Classifying inverts building**, on exactly the keys of the grammar: a key is given a
class if it is written so, every key is written in one way, parts included, and the parts
give the key back. -/
theorem classify_inverts_building (keys : Keyspace) (key : String) :
    (∀ meaning, keys.classify key = meaning ↔ keys.Means key meaning) ∧
    (∃! meaning, keys.Means key meaning) ∧
    (keys.classify key ≠ .malformed → keys.classify key ≠ .foreign →
      keys.keyOf? (keys.classify key) = some key) := by
  have means : keys.Means key (keys.classify key) := classify_iff_means.1 rfl
  refine ⟨fun meaning => classify_iff_means, ⟨keys.classify key, means, ?_⟩, keyOf?_of_means means⟩
  intro other written
  exact (classify_of_means written).symm

/-- A name may have a line feed, a property not, and a second dot belongs to the property. -/
example : ["r.slice.a\nb", "r.slice.a\nb.c", "r.slice.a.b\nc", "r.slice.a.b..c", "r.slice..c",
      "r.slice.a.", "r.slice.", "r.slice"].map (classify ⟨"r"⟩) =
    [.control "a\nb", .data "a\nb" "c", .malformed, .data "a" "b..c", .malformed, .malformed,
      .malformed, .global "slice"] := by
  decide +kernel

end SliceFleet.Keyspace
