/-
SliceFleet.Text.Split — taking a text apart at known places.

Three ways to cut: off a known beginning (`afterLead?`), at the first
character of a class (`cutAt?`), at every occurrence of a separator
(`pieces`). Each comes with the equation that puts the text together again,
so a reader of keys or lists can be inverted without looking inside the cut.
-/

namespace SliceFleet.Text

/-! ## Cutting off a known beginning -/

/-- What follows `lead` at the beginning of the characters. -/
def charsAfter? : List Char → List Char → Option (List Char)
  | [], cs => some cs
  | _ :: _, [] => none
  | l :: ls, c :: cs => if l = c then charsAfter? ls cs else none

theorem charsAfter?_eq_some_iff {lead cs rest : List Char} :
    charsAfter? lead cs = some rest ↔ cs = lead ++ rest := by
  induction lead generalizing cs with
  | nil => simp [charsAfter?]
  | cons l ls ih =>
    cases cs with
    | nil => simp [charsAfter?]
    | cons c cs =>
      by_cases h : l = c
      · simp [charsAfter?, h, ih]
      · simp [charsAfter?, h, Ne.symm h]

/-- What follows `lead` in `s`, if `s` begins with it. -/
def afterLead? (lead s : String) : Option String :=
  (charsAfter? lead.toList s.toList).map String.ofList

/-- Cutting off a beginning is undone by writing it in front again. -/
theorem afterLead?_eq_some_iff {lead s rest : String} :
    afterLead? lead s = some rest ↔ s = lead ++ rest := by
  rw [afterLead?, Option.map_eq_some_iff, ← String.toList_inj, String.toList_append]
  constructor
  · rintro ⟨cs, found, rfl⟩
    simpa using charsAfter?_eq_some_iff.1 found
  · intro h
    exact ⟨rest.toList, charsAfter?_eq_some_iff.2 h, by simp⟩

@[simp] theorem afterLead?_append (lead rest : String) :
    afterLead? lead (lead ++ rest) = some rest :=
  afterLead?_eq_some_iff.2 rfl

theorem afterLead?_eq_none_iff {lead s : String} :
    afterLead? lead s = none ↔ ∀ rest, s ≠ lead ++ rest := by
  rw [Option.eq_none_iff_forall_ne_some]
  exact forall_congr' fun rest => not_congr afterLead?_eq_some_iff

def beginsWith (lead s : String) : Bool :=
  (afterLead? lead s).isSome

theorem beginsWith_iff {lead s : String} : beginsWith lead s = true ↔ ∃ rest, s = lead ++ rest := by
  simp [beginsWith, Option.isSome_iff_exists, afterLead?_eq_some_iff]

/-- A common front does not matter. -/
theorem afterLead?_append_append (front lead s : String) :
    afterLead? (front ++ lead) (front ++ s) = afterLead? lead s := by
  refine Option.ext fun rest => ?_
  rw [afterLead?_eq_some_iff, afterLead?_eq_some_iff, String.append_assoc, String.append_right_inj]

theorem beginsWith_append_append (front lead s : String) :
    beginsWith (front ++ lead) (front ++ s) = beginsWith lead s := by
  rw [beginsWith, beginsWith, afterLead?_append_append]

theorem afterLead?_eq_none_of_not_beginsWith {lead s : String} (apart : beginsWith lead s = false) :
    afterLead? lead s = none := by
  simpa [beginsWith] using apart

/-- What does not begin with a text does not begin with a longer one. -/
theorem beginsWith_append_eq_false {lead s : String} (apart : beginsWith lead s = false)
    (more : String) : beginsWith (lead ++ more) s = false := by
  rw [← Bool.not_eq_true, beginsWith_iff]
  rintro ⟨rest, rfl⟩
  have lead : beginsWith lead (lead ++ more ++ rest) = true :=
    beginsWith_iff.2 ⟨more ++ rest, String.append_assoc ..⟩
  rw [lead] at apart
  cases apart

/-! ## Cutting at the first character of a class -/

/-- The characters before and after the first one in the class `p`. -/
def cutAt? (p : Char → Bool) : List Char → Option (List Char × List Char)
  | [] => none
  | c :: cs => if p c then some ([], cs) else (cutAt? p cs).map fun cut => (c :: cut.1, cut.2)

theorem cutAt?_eq_none_iff {p : Char → Bool} {cs : List Char} :
    cutAt? p cs = none ↔ ∀ c ∈ cs, p c = false := by
  induction cs with
  | nil => simp [cutAt?]
  | cons c cs ih => by_cases h : p c <;> simp [cutAt?, h, ih]

theorem cutAt?_eq_some_iff {p : Char → Bool} {cs before after : List Char} :
    cutAt? p cs = some (before, after) ↔
      ∃ c, p c = true ∧ (∀ b ∈ before, p b = false) ∧ cs = before ++ c :: after := by
  induction cs generalizing before with
  | nil => simp [cutAt?]
  | cons c cs ih =>
    by_cases h : p c
    · cases before with
      | nil => grind [cutAt?]
      | cons b bs => grind [cutAt?]
    · cases before with
      | nil => grind [cutAt?, Option.map_eq_some_iff]
      | cons b bs =>
        have later : cutAt? p (c :: cs) = some (b :: bs, after) ↔
            c = b ∧ cutAt? p cs = some (bs, after) := by
          rw [cutAt?, if_neg h]
          cases cutAt? p cs <;> simp [Prod.ext_iff, and_assoc]
        rw [later, ih]
        constructor
        · rintro ⟨rfl, d, hd, hbs, rfl⟩
          exact ⟨d, hd, by simpa [h] using hbs, rfl⟩
        · rintro ⟨d, hd, hbs, split⟩
          obtain ⟨rfl, rfl⟩ := List.cons.inj split
          exact ⟨rfl, d, hd, fun x hx => hbs x (by simp [hx]), rfl⟩

/-- The two sides of the first separator, as strings. -/
def cutString? (p : Char → Bool) (s : String) : Option (String × String) :=
  (cutAt? p s.toList).map fun cut => (String.ofList cut.1, String.ofList cut.2)

theorem cutString?_eq_none_iff {p : Char → Bool} {s : String} :
    cutString? p s = none ↔ ∀ c ∈ s.toList, p c = false := by
  rw [cutString?, Option.map_eq_none_iff, cutAt?_eq_none_iff]

theorem cutString?_eq_some_iff {p : Char → Bool} {s before after : String} :
    cutString? p s = some (before, after) ↔
      ∃ c, p c = true ∧ (∀ b ∈ before.toList, p b = false) ∧
        s.toList = before.toList ++ c :: after.toList := by
  rw [cutString?, Option.map_eq_some_iff]
  constructor
  · rintro ⟨⟨front, back⟩, found, same⟩
    obtain ⟨rfl, rfl⟩ := Prod.mk.inj same
    simpa using cutAt?_eq_some_iff.1 found
  · rintro ⟨c, separates, clear, split⟩
    exact ⟨(before.toList, after.toList), cutAt?_eq_some_iff.2 ⟨c, separates, clear, split⟩,
      by simp⟩

/-! ## Cutting at every separator -/

/-- The pieces between the separators, at least one, possibly empty. -/
def piecesBetween {α : Type} [DecidableEq α] (sep : α) : List α → List (List α)
  | [] => [[]]
  | c :: cs =>
    if c = sep then [] :: piecesBetween sep cs
    else match piecesBetween sep cs with
      | [] => [[c]]
      | piece :: more => (c :: piece) :: more

theorem piecesBetween_ne_nil {α : Type} [DecidableEq α] (sep : α) (cs : List α) :
    piecesBetween sep cs ≠ [] := by
  cases cs with
  | nil => simp [piecesBetween]
  | cons c cs =>
    rw [piecesBetween]
    split
    · simp
    · split <;> simp

/-- A separator ends a piece: the pieces of both sides stand side by side. -/
theorem piecesBetween_append {α : Type} [DecidableEq α] (sep : α) (cs ds : List α) :
    piecesBetween sep (cs ++ sep :: ds) = piecesBetween sep cs ++ piecesBetween sep ds := by
  induction cs with
  | nil => simp [piecesBetween]
  | cons c cs ih =>
    by_cases h : c = sep
    · simp [piecesBetween, h, ih]
    · simp only [List.cons_append, piecesBetween, h, if_false, ih]
      cases found : piecesBetween sep cs with
      | nil => exact absurd found (piecesBetween_ne_nil sep cs)
      | cons piece more => simp

/-- A list without a separator is one piece. -/
theorem piecesBetween_of_not_mem {α : Type} [DecidableEq α] {sep : α} {cs : List α}
    (h : sep ∉ cs) :
    piecesBetween sep cs = [cs] := by
  induction cs with
  | nil => rfl
  | cons c cs ih =>
    have distinct : c ≠ sep := fun same => h (by simp [same])
    simp [piecesBetween, distinct, ih (fun hc => h (by simp [hc]))]

/-- No piece holds a separator. -/
theorem not_mem_of_mem_piecesBetween {α : Type} [DecidableEq α] {sep : α} {cs piece : List α}
    (h : piece ∈ piecesBetween sep cs) : sep ∉ piece := by
  induction cs generalizing piece with
  | nil => simp_all [piecesBetween]
  | cons c cs ih =>
    rw [piecesBetween] at h
    split at h
    · rcases List.mem_cons.1 h with rfl | h
      · simp
      · exact ih h
    · rename_i distinct
      cases found : piecesBetween sep cs with
      | nil => exact absurd found (piecesBetween_ne_nil sep cs)
      | cons first more =>
        rw [found] at h ih
        rcases List.mem_cons.1 h with rfl | h
        · simp [Ne.symm distinct, ih List.mem_cons_self]
        · exact ih (List.mem_cons_of_mem _ h)

/-- Parts without a separator come back when they are joined by it. -/
theorem piecesBetween_intercalate {α : Type} [DecidableEq α] {sep : α} {parts : List (List α)}
    (clear : ∀ part ∈ parts, sep ∉ part) (some : parts ≠ []) :
    piecesBetween sep ([sep].intercalate parts) = parts := by
  induction parts with
  | nil => exact absurd rfl some
  | cons part rest ih =>
    have own : sep ∉ part := clear part List.mem_cons_self
    cases rest with
    | nil => rw [List.intercalate_singleton, piecesBetween_of_not_mem own]
    | cons next more =>
      have later := ih (fun other member => clear other (List.mem_cons_of_mem part member))
        (List.cons_ne_nil next more)
      rw [List.intercalate_cons_cons, List.append_assoc, List.singleton_append,
        piecesBetween_append, later, piecesBetween_of_not_mem own, List.singleton_append]

/-- The pieces of a string between the separators. -/
def pieces (sep : Char) (s : String) : List String :=
  (piecesBetween sep s.toList).map String.ofList

theorem not_mem_of_mem_pieces {sep : Char} {s piece : String} (member : piece ∈ pieces sep s) :
    sep ∉ piece.toList := by
  obtain ⟨cs, isPiece, rfl⟩ := List.mem_map.1 member
  rw [String.toList_ofList]
  exact not_mem_of_mem_piecesBetween isPiece

theorem pieces_intercalate {sep : Char} {parts : List String}
    (clear : ∀ part ∈ parts, sep ∉ part.toList) (some : parts ≠ []) :
    pieces sep (String.intercalate (String.singleton sep) parts) = parts := by
  have clearChars : ∀ cs ∈ parts.map String.toList, sep ∉ cs := by
    intro cs member
    obtain ⟨part, isPart, rfl⟩ := List.mem_map.1 member
    exact clear part isPart
  rw [pieces, String.toList_intercalate, String.toList_singleton,
    piecesBetween_intercalate clearChars (by simpa using some), List.map_map]
  simp [Function.comp_def]

/-! ## Looking for a character, folding case -/

def hasChar (c : Char) (s : String) : Bool :=
  s.toList.contains c

theorem hasChar_iff {c : Char} {s : String} : hasChar c s = true ↔ c ∈ s.toList := by
  simp [hasChar]

/-- Lower-cases the letters A to Z and leaves every other character alone. -/
def foldCase (s : String) : String :=
  String.ofList (s.toList.map Char.toLower)

/-- Whether two texts differ at most in the case of the letters A to Z. -/
def sameFolded (s t : String) : Bool :=
  foldCase s == foldCase t

end SliceFleet.Text
