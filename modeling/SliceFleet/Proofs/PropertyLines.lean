/-
SliceFleet.Proofs.PropertyLines — what the lines of a property file say.

Each line speaks for itself, so the entries of two texts with a line feed between
them are the entries of both, and reading is a homomorphism: `parse_append`. Of the
lines that define a key the last one counts (`get?_parse_eq_some_iff`). A line with a
separator defines what stands before the first one, and blanks around either side do
not matter (`entryOfLine?_append_cons`).
-/
import Mathlib.Data.List.Induction
import SliceFleet.Properties

namespace SliceFleet

/-! ## The last word on a key -/

section LastDefining

variable {α : Type} {defines : α → Option (String × String)} {items : List α} {key value : String}

/-- No item defines the key. -/
def Silent (defines : α → Option (String × String)) (items : List α) (key : String) : Prop :=
  ∀ item ∈ items, ∀ value, defines item ≠ some (key, value)

/-- The last item that defines the key gives it this value. -/
def LastDefines (defines : α → Option (String × String)) (items : List α)
    (key value : String) : Prop :=
  ∃ before item after, items = before ++ item :: after ∧ defines item = some (key, value) ∧
    Silent defines after key

theorem silent_nil : Silent defines [] key :=
  fun _ member => nomatch member

theorem silent_concat {item : α} : Silent defines (items ++ [item]) key ↔
    Silent defines items key ∧ ∀ value, defines item ≠ some (key, value) := by
  unfold Silent
  simp [or_imp, forall_and]

/-- One more item has the last word, or it is silent and leaves it to the others. -/
theorem lastDefines_concat {item : α} : LastDefines defines (items ++ [item]) key value ↔
    defines item = some (key, value) ∨
      (∀ other, defines item ≠ some (key, other)) ∧ LastDefines defines items key value := by
  constructor
  · rintro ⟨before, found, after, split, said, silent⟩
    cases after using List.reverseRecOn with
    | nil =>
      obtain ⟨-, same⟩ := List.append_inj' split rfl
      cases same
      exact .inl said
    | append_singleton rest last =>
      rw [← List.cons_append, ← List.append_assoc] at split
      obtain ⟨rfl, same⟩ := List.append_inj' split rfl
      cases same
      obtain ⟨earlier, own⟩ := silent_concat.1 silent
      exact .inr ⟨own, before, found, rest, rfl, said, earlier⟩
  · rintro (said | ⟨own, before, found, after, rfl, said, silent⟩)
    · exact ⟨items, item, [], rfl, said, silent_nil⟩
    · refine ⟨before, found, after ++ [item], ?_, said, silent_concat.2 ⟨silent, own⟩⟩
      simp

/-- Looking from the end finds what the last item defines. -/
theorem find?_reverse_filterMap_eq_some_iff :
    KeyMap.find? key (items.filterMap defines).reverse = some value ↔
      LastDefines defines items key value := by
  induction items using List.reverseRecOn with
  | nil =>
    simp [KeyMap.find?, LastDefines]
  | append_singleton rest item ih =>
    rw [lastDefines_concat, ← ih, List.filterMap_append]
    cases said : defines item with
    | none => simp [said]
    | some entry =>
      obtain ⟨k, v⟩ := entry
      by_cases same : k = key
      · simp [said, KeyMap.find?, same]
      · simp [said, KeyMap.find?, same]

theorem find?_reverse_filterMap_eq_none_iff :
    KeyMap.find? key (items.filterMap defines).reverse = none ↔ Silent defines items key := by
  rw [← Option.not_isSome_iff_eq_none, KeyMap.find?_isSome_iff]
  constructor
  · intro absent item member value said
    refine absent (List.mem_map.2 ⟨(key, value), ?_, rfl⟩)
    exact List.mem_reverse.2 (List.mem_filterMap.2 ⟨item, member, said⟩)
  · intro silent held
    obtain ⟨⟨k, v⟩, member, rfl⟩ := List.mem_map.1 held
    obtain ⟨item, inItems, said⟩ := List.mem_filterMap.1 (List.mem_reverse.1 member)
    exact silent item inItems v said

end LastDefining

namespace Properties

open Text

variable {t u : String} {key value : String}

/-! ## Texts one after the other -/

theorem entriesOfText_append (t u : String) :
    entriesOfText (t ++ "\n" ++ u) = entriesOfText t ++ entriesOfText u := by
  have split : (t ++ "\n" ++ u).toList = t.toList ++ '\n' :: u.toList := by simp
  unfold entriesOfText
  rw [split, piecesBetween_append, List.filterMap_append]

/-- **Reading is a homomorphism**: of two texts the second is laid over the first. -/
theorem parse_append (t u : String) : parse (t ++ "\n" ++ u) = (parse t).overlay (parse u) := by
  unfold parse
  rw [entriesOfText_append, KeyMap.ofList_append]

/-- The value of a key is that of the last line that defines it. -/
theorem get?_parse_eq_some_iff : (parse t).get? key = some value ↔
    LastDefines entryOfLine? (piecesBetween '\n' t.toList) key value := by
  unfold parse entriesOfText
  rw [KeyMap.get?_ofList, find?_reverse_filterMap_eq_some_iff]

/-! ## One line -/

theorem isBlank_of_isSeparator {c : Char} (separates : isSeparator c = true) :
    isBlank c = false := by
  simp only [isSeparator, Bool.or_eq_true, beq_iff_eq] at separates
  rcases separates with rfl | rfl <;> decide

theorem beginsComment_eq_false_iff {cs : List Char} :
    beginsComment cs = false ↔ cs.head? ≠ some '#' ∧ cs.head? ≠ some '!' := by
  cases cs with
  | nil => simp [beginsComment]
  | cons c rest =>
    unfold beginsComment
    split <;> simp_all

/-- Only the beginning decides whether a line is a comment. -/
theorem beginsComment_append {cs : List Char} (nonempty : cs ≠ []) (more : List Char) :
    beginsComment (cs ++ more) = beginsComment cs := by
  cases cs with
  | nil => exact absurd rfl nonempty
  | cons c rest =>
    unfold beginsComment
    split <;> simp_all

/-- A line with a separator defines what stands before the first one as what stands behind
it, both trimmed, unless the line is a comment or the key is empty. -/
theorem entryOfLine?_append_cons {c : Char} {before after : List Char}
    (separates : isSeparator c = true) (clear : ∀ b ∈ before, isSeparator b = false)
    (named : trimChars before ≠ []) (plain : beginsComment (trimChars before) = false) :
    entryOfLine? (before ++ c :: after) =
      some (String.ofList (trimChars before), String.ofList (trimChars after)) := by
  obtain ⟨blanks, front, -⟩ := trimEnd_append (before.dropWhile isBlank)
  have line := trimChars_append_cons (isBlank_of_isSeparator separates) before after
  have uncommented : beginsComment (before.dropWhile isBlank ++ c :: trimEnd after) = false := by
    have rest : before.dropWhile isBlank = trimChars before ++ blanks := front
    rw [rest, List.append_assoc, beginsComment_append named]
    exact plain
  have cut : cutAt? isSeparator (before.dropWhile isBlank ++ c :: trimEnd after) =
      some (before.dropWhile isBlank, trimEnd after) := by
    refine cutAt?_eq_some_iff.2 ⟨c, separates, fun b member => ?_, rfl⟩
    exact clear b ((List.dropWhile_sublist isBlank).subset member)
  have sides : keyAndValue (before.dropWhile isBlank ++ c :: trimEnd after) =
      (trimChars before, trimChars after) := by
    unfold keyAndValue
    rw [cut]
    simp only [trimChars_dropWhile, trimChars_trimEnd]
  unfold entryOfLine?
  simp [line, uncommented, sides, named]

end Properties

end SliceFleet
