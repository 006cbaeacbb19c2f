/-
SliceFleet.Proofs.OptionItems — which options connection properties can hold.

Connection properties are items between commas. What an item holds is given here without
the reader (`Holds`): a key and a value on either side of its first equals sign, with any
blanks around them, or nothing, if it has no such sign or only blanks in front of it. The
reader follows it (`holds_iff`), so the options that a text holds are trimmed, without commas
and, in the key, without an equals sign, and every map of such options is read from its
items in any order, whatever holds nothing stands between them:
`options_come_from_items`.
-/
import Mathlib.Data.List.Basic
import SliceFleet.BackendConfig.Options
import SliceFleet.Proofs.PropertyLines

namespace SliceFleet.BackendConfig

open Text

variable {item key value : String} {held : Option (String × String)}

/-! ## What an item can hold -/

/-- An option that an item can hold. -/
structure IsOption (key value : String) : Prop where
  named : key ≠ ""
  keyTrimmed : trim key = key
  keyNoComma : ',' ∉ key.toList
  keyNoEquals : '=' ∉ key.toList
  valueTrimmed : trim value = value
  valueNoComma : ',' ∉ value.toList

theorem isOption_iff : IsOption key value ↔
    (key ≠ "" ∧ trim key = key ∧ ',' ∉ key.toList ∧ '=' ∉ key.toList) ∧
      trim value = value ∧ ',' ∉ value.toList := by
  constructor
  · intro sound
    exact ⟨⟨sound.named, sound.keyTrimmed, sound.keyNoComma, sound.keyNoEquals⟩,
      sound.valueTrimmed, sound.valueNoComma⟩
  · rintro ⟨⟨named, keyTrimmed, keyNoComma, keyNoEquals⟩, valueTrimmed, valueNoComma⟩
    exact ⟨named, keyTrimmed, keyNoComma, keyNoEquals, valueTrimmed, valueNoComma⟩

instance (key value : String) : Decidable (IsOption key value) :=
  decidable_of_iff _ isOption_iff.symm

/-- What an item between commas holds. -/
inductive Holds (item : String) : Option (String × String) → Prop where
  /-- A key and a value, with blanks around either. -/
  | option {key value : String} {before inFront behind after : List Char}
      (sound : IsOption key value)
      (blankKey : before.all isBlank = true ∧ inFront.all isBlank = true)
      (blankValue : behind.all isBlank = true ∧ after.all isBlank = true)
      (split : item.toList =
        before ++ key.toList ++ inFront ++ '=' :: (behind ++ value.toList ++ after)) :
      Holds item (some (key, value))
  | unequal (noComma : ',' ∉ item.toList) (noEquals : '=' ∉ item.toList) : Holds item none
  | unnamed {blanks after : List Char} (noComma : ',' ∉ item.toList)
      (blank : blanks.all isBlank = true) (split : item.toList = blanks ++ '=' :: after) :
      Holds item none

/-! ## The reader -/

theorem optionOfItem?_of_unequal (noEquals : '=' ∉ item.toList) : optionOfItem? item = none := by
  have uncut : cutString? (· == '=') item = none := by
    refine cutString?_eq_none_iff.2 fun c member => ?_
    rw [beq_eq_false_iff_ne]
    rintro rfl
    exact noEquals member
  unfold optionOfItem?
  rw [uncut]

/-- An item is cut at its first equals sign, and both sides are trimmed. -/
theorem optionOfItem?_of_split {front back : List Char} (clear : '=' ∉ front)
    (split : item.toList = front ++ '=' :: back) : optionOfItem? item =
      if trimChars front = [] then none
      else some (String.ofList (trimChars front), String.ofList (trimChars back)) := by
  have cut : cutString? (· == '=') item = some (String.ofList front, String.ofList back) := by
    refine cutString?_eq_some_iff.2 ⟨'=', by decide, fun c member => ?_, by simpa using split⟩
    rw [String.toList_ofList] at member
    rw [beq_eq_false_iff_ne]
    rintro rfl
    exact clear member
  unfold optionOfItem?
  rw [cut]
  simp [trim]

/-- Two sides of an item, once they are trimmed, are an option. -/
theorem isOption_of_sides {front back : List Char} (named : trimChars front ≠ [])
    (clear : '=' ∉ front) (frontComma : ',' ∉ front) (backComma : ',' ∉ back) :
    IsOption (String.ofList (trimChars front)) (String.ofList (trimChars back)) := by
  constructor
  case named => simpa using named
  case keyTrimmed => simp [trim]
  case keyNoComma => simpa using not_mem_trimChars frontComma
  case keyNoEquals => simpa using not_mem_trimChars clear
  case valueTrimmed => simp [trim]
  case valueNoComma => simpa using not_mem_trimChars backComma

/-- What an item holds is read from it. -/
theorem Holds.read (holds : Holds item held) :
    ',' ∉ item.toList ∧ optionOfItem? item = held := by
  cases holds with
  | unequal noComma noEquals => exact ⟨noComma, optionOfItem?_of_unequal noEquals⟩
  | unnamed noComma blank split =>
    refine ⟨noComma, ?_⟩
    rw [optionOfItem?_of_split (not_mem_of_blank blank (by decide)) split,
      if_pos (trimChars_eq_nil_iff.2 blank)]
  | @option key value before inFront behind after sound blankKey blankValue split =>
    have keyKept : trimChars (before ++ key.toList ++ inFront) = key.toList := by
      rw [trimChars_between_blanks blankKey.1 blankKey.2]
      exact trimChars_eq_self (trim_eq_self_iff.1 sound.keyTrimmed)
    have valueKept : trimChars (behind ++ value.toList ++ after) = value.toList := by
      rw [trimChars_between_blanks blankValue.1 blankValue.2]
      exact trimChars_eq_self (trim_eq_self_iff.1 sound.valueTrimmed)
    have clear : '=' ∉ before ++ key.toList ++ inFront := by
      simp [not_mem_of_blank blankKey.1 (show isBlank '=' = false by decide),
        not_mem_of_blank blankKey.2 (show isBlank '=' = false by decide), sound.keyNoEquals]
    have named : trimChars (before ++ key.toList ++ inFront) ≠ [] := by
      rw [keyKept]
      simpa using sound.named
    constructor
    · rw [split]
      have blank : isBlank ',' = false := by decide
      simp [not_mem_of_blank blankKey.1 blank, not_mem_of_blank blankKey.2 blank,
        not_mem_of_blank blankValue.1 blank, not_mem_of_blank blankValue.2 blank,
        sound.keyNoComma, sound.valueNoComma]
    · rw [optionOfItem?_of_split clear split, if_neg named, keyKept, valueKept]
      simp

/-- Each item without a comma holds what is read from it. -/
theorem holds_optionOfItem? (noComma : ',' ∉ item.toList) : Holds item (optionOfItem? item) := by
  cases cut : cutAt? (· == '=') item.toList with
  | none =>
    have noEquals : '=' ∉ item.toList := fun member => by
      simpa using cutAt?_eq_none_iff.1 cut '=' member
    rw [optionOfItem?_of_unequal noEquals]
    exact .unequal noComma noEquals
  | some sides =>
    obtain ⟨front, back⟩ := sides
    obtain ⟨c, equals, clearEach, split⟩ := cutAt?_eq_some_iff.1 cut
    obtain rfl := beq_iff_eq.1 equals
    have clear : '=' ∉ front := fun member => by simpa using clearEach '=' member
    rw [optionOfItem?_of_split clear split]
    split
    · rename_i blank
      exact .unnamed noComma (trimChars_eq_nil_iff.1 blank) split
    · rename_i named
      rw [split] at noComma
      simp only [List.mem_append, List.mem_cons, not_or] at noComma
      obtain ⟨before, inFront, frontSplit, beforeBlank, inFrontBlank⟩ := trimChars_append front
      obtain ⟨behind, after, backSplit, behindBlank, afterBlank⟩ := trimChars_append back
      refine .option (isOption_of_sides named clear noComma.1 noComma.2.2)
        ⟨beforeBlank, inFrontBlank⟩ ⟨behindBlank, afterBlank⟩ ?_
      rw [String.toList_ofList, String.toList_ofList, ← frontSplit, ← backSplit]
      exact split

/-- **The reader follows what items hold.** -/
theorem holds_iff : Holds item held ↔ ',' ∉ item.toList ∧ optionOfItem? item = held := by
  constructor
  · exact Holds.read
  · rintro ⟨noComma, rfl⟩
    exact holds_optionOfItem? noComma

theorem isOption_of_read (noComma : ',' ∉ item.toList)
    (read : optionOfItem? item = some (key, value)) : IsOption key value := by
  have holds := holds_optionOfItem? noComma
  rw [read] at holds
  cases holds with
  | option sound _ _ _ => exact sound

/-! ## Lists of items -/

/-- Every entry is an option that an item can hold. -/
def HasOptions (options : KeyMap String) : Prop :=
  ∀ entry ∈ options.entries, IsOption entry.1 entry.2

instance (options : KeyMap String) : Decidable (HasOptions options) :=
  inferInstanceAs (Decidable (∀ _ ∈ _, _))

/-- The last item with a key gives its value. -/
theorem get?_optionsOfText_eq_some_iff {text : String} :
    (optionsOfText text).get? key = some value ↔
      LastDefines optionOfItem? (pieces ',' text) key value := by
  unfold optionsOfText
  rw [KeyMap.get?_ofList, find?_reverse_filterMap_eq_some_iff]

/-- The last item that holds something under a key, put without the reader. -/
theorem lastDefines_iff_holds {items : List String} (noCommas : ∀ item ∈ items, ',' ∉ item.toList) :
    LastDefines optionOfItem? items key value ↔
      ∃ before item after, items = before ++ item :: after ∧ Holds item (some (key, value)) ∧
        ∀ later ∈ after, ∀ other, ¬ Holds later (some (key, other)) := by
  unfold LastDefines Silent
  refine exists_congr fun before => exists_congr fun item => exists_congr fun after =>
    and_congr_right ?_
  rintro rfl
  have own : ',' ∉ item.toList := noCommas item (by simp)
  have others : ∀ later ∈ after, ',' ∉ later.toList := fun later member =>
    noCommas later (by simp [member])
  refine and_congr ?_ (forall₂_congr fun later member => forall_congr' fun other => not_congr ?_)
  · rw [holds_iff]
    simp [own]
  · rw [holds_iff]
    simp [others later member]

theorem hasOptions_optionsOfText (text : String) : HasOptions (optionsOfText text) := by
  rintro ⟨key, value⟩ member
  obtain ⟨before, item, after, split, read, -⟩ :=
    get?_optionsOfText_eq_some_iff.1 (KeyMap.get?_eq_some_iff.2 member)
  have isPiece : item ∈ pieces ',' text := by
    rw [split]
    exact List.mem_append_right before List.mem_cons_self
  exact isOption_of_read (not_mem_of_mem_pieces isPiece) read

/-- Items come back when they are joined by commas; no items are read as one that is empty. -/
theorem filterMap_pieces_intercalate {items : List String}
    (noCommas : ∀ item ∈ items, ',' ∉ item.toList) :
    (pieces ',' (String.intercalate "," items)).filterMap optionOfItem? =
      items.filterMap optionOfItem? := by
  by_cases empty : items = []
  · subst empty
    rfl
  · have cut : pieces ',' (String.intercalate "," items) = items :=
      pieces_intercalate noCommas empty
    rw [cut]

/-- Items that hold the entries of a map, in any order, give it back. -/
theorem optionsOfText_intercalate {options : KeyMap String}
    {items : List (String × Option (String × String))}
    (holds : ∀ item ∈ items, Holds item.1 item.2)
    (same : (items.filterMap (·.2)).Perm options.entries) :
    optionsOfText (String.intercalate "," (items.map (·.1))) = options := by
  have noCommas : ∀ text ∈ items.map (·.1), ',' ∉ text.toList := by
    intro text member
    obtain ⟨item, isItem, rfl⟩ := List.mem_map.1 member
    exact (holds item isItem).read.1
  have read : (items.map (·.1)).filterMap optionOfItem? = items.filterMap (·.2) := by
    rw [List.filterMap_map]
    exact List.filterMap_congr fun item member => (holds item member).read.2
  unfold optionsOfText
  rw [filterMap_pieces_intercalate noCommas, read]
  exact KeyMap.ofList_eq_of_perm_entries same

/-- **Options come from items.** Connection properties that join items which hold the entries of
a map, in any order and with any blanks and any items that hold nothing between them, have that
map as their options. All options are of the kind that an item can hold, and of several items
with one key the last gives the value. -/
theorem options_come_from_items (config : BackendConfig) :
    (∀ (options : KeyMap String) (items : List (String × Option (String × String))),
      (∀ item ∈ items, Holds item.1 item.2) →
      (items.filterMap (·.2)).Perm options.entries →
      config.properties = some (String.intercalate "," (items.map (·.1))) →
        config.options = options) ∧
    HasOptions config.options ∧
    (∀ key value, config.options.get? key = some value ↔
      ∃ before item after, pieces ',' (config.properties.getD "") = before ++ item :: after ∧
        Holds item (some (key, value)) ∧
        ∀ later ∈ after, ∀ other, ¬ Holds later (some (key, other))) := by
  refine ⟨fun options items holds same stated => ?_, hasOptions_optionsOfText _, ?_⟩
  · unfold BackendConfig.options
    rw [stated]
    exact optionsOfText_intercalate holds same
  · intro key value
    rw [← lastDefines_iff_holds fun item member => not_mem_of_mem_pieces member]
    exact get?_optionsOfText_eq_some_iff

/-- Options of a database file: blanks around a key, an equals sign in a value, an empty value,
and between them items that hold nothing. -/
def database : BackendConfig where
  root := "fleet"
  id := "backend"
  url := some "sqlite:fleet.db"
  driver := none
  properties := some " create = true,,read only,max_connections\t=5, = x,tag=a=b,note="
  user := none
  password := none
  timeout := defaultTimeout
  extra := ∅

/-- Its items, each with what it holds. -/
def databaseItems : List (String × Option (String × String)) := [
  (" create = true", some ("create", "true")),
  ("", none),
  ("read only", none),
  ("max_connections\t=5", some ("max_connections", "5")),
  (" = x", none),
  ("tag=a=b", some ("tag", "a=b")),
  ("note=", some ("note", ""))]

theorem database_options :
    database.options = .ofList
      [("create", "true"), ("max_connections", "5"), ("note", ""), ("tag", "a=b")] ∧
    ∀ config : BackendConfig, config.options ≠ .ofList [("tag=a", "b")] := by
  constructor
  · have holds : ∀ item ∈ databaseItems, Holds item.1 item.2 := by
      simp only [holds_iff]
      decide +kernel
    exact (options_come_from_items database).1 _ databaseItems holds (by decide +kernel)
      (by decide +kernel)
  · intro config same
    have sound := (options_come_from_items config).2.1
    rw [same] at sound
    exact absurd sound (by decide +kernel)

end SliceFleet.BackendConfig
