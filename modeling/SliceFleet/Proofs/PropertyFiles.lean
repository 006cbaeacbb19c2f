/-
SliceFleet.Proofs.PropertyFiles — which maps a property file can hold.

What a line defines is trimmed and stands on one line; its key is named, holds no
separator and begins no comment (`IsLineEntry`). No line defines anything else
(`isLineEntry_of_line`), and each such entry is defined by a line of its own, whatever
blanks follow it (`entryOfLine?_entryLine`). So the maps that are read from some text
are those whose entries are all of this kind, and each comes back from its entries
written line by line: `held_by_file_iff`.
-/
import SliceFleet.Proofs.PropertyLines

namespace SliceFleet.Properties

open Text

variable {p : Properties} {entry : String × String} {key value : String}

/-! ## What a line can define -/

/-- An entry that a line can define. -/
structure IsLineEntry (key value : String) : Prop where
  named : key ≠ ""
  keyTrimmed : trim key = key
  noEquals : '=' ∉ key.toList
  noColon : ':' ∉ key.toList
  keyOnOneLine : '\n' ∉ key.toList
  noHash : key.toList.head? ≠ some '#'
  noBang : key.toList.head? ≠ some '!'
  valueTrimmed : trim value = value
  valueOnOneLine : '\n' ∉ value.toList

theorem isLineEntry_iff : IsLineEntry key value ↔
    (key ≠ "" ∧ trim key = key ∧ '=' ∉ key.toList ∧ ':' ∉ key.toList ∧ '\n' ∉ key.toList ∧
      key.toList.head? ≠ some '#' ∧ key.toList.head? ≠ some '!') ∧
      trim value = value ∧ '\n' ∉ value.toList := by
  constructor
  · intro fits
    exact ⟨⟨fits.named, fits.keyTrimmed, fits.noEquals, fits.noColon, fits.keyOnOneLine,
      fits.noHash, fits.noBang⟩, fits.valueTrimmed, fits.valueOnOneLine⟩
  · rintro ⟨⟨named, keyTrimmed, noEquals, noColon, keyLine, noHash, noBang⟩, valueTrimmed,
      valueLine⟩
    exact ⟨named, keyTrimmed, noEquals, noColon, keyLine, noHash, noBang, valueTrimmed, valueLine⟩

instance (key value : String) : Decidable (IsLineEntry key value) :=
  decidable_of_iff _ isLineEntry_iff.symm

theorem isSeparator_eq_false_iff {c : Char} : isSeparator c = false ↔ c ≠ '=' ∧ c ≠ ':' := by
  simp [isSeparator]

theorem IsLineEntry.clear (fits : IsLineEntry key value) :
    ∀ c ∈ key.toList, isSeparator c = false := by
  intro c member
  refine isSeparator_eq_false_iff.2 ⟨?_, ?_⟩
  · rintro rfl
    exact fits.noEquals member
  · rintro rfl
    exact fits.noColon member

/-- Two sides of a line, once they are trimmed, are an entry. -/
theorem isLineEntry_of_sides {before after : List Char} (named : trimChars before ≠ [])
    (clear : ∀ c ∈ before, isSeparator c = false)
    (plain : beginsComment (trimChars before) = false)
    (front : '\n' ∉ before) (back : '\n' ∉ after) :
    IsLineEntry (String.ofList (trimChars before)) (String.ofList (trimChars after)) := by
  have keptClear : ∀ c ∈ trimChars before, isSeparator c = false := fun c member =>
    clear c ((trimChars_sublist before).subset member)
  obtain ⟨noHash, noBang⟩ := beginsComment_eq_false_iff.1 plain
  constructor
  case named => simpa using named
  case keyTrimmed => simp [trim]
  case noEquals =>
    rw [String.toList_ofList]
    exact fun member => (isSeparator_eq_false_iff.1 (keptClear _ member)).1 rfl
  case noColon =>
    rw [String.toList_ofList]
    exact fun member => (isSeparator_eq_false_iff.1 (keptClear _ member)).2 rfl
  case keyOnOneLine => simpa using not_mem_trimChars front
  case noHash => simpa using noHash
  case noBang => simpa using noBang
  case valueTrimmed => simp [trim]
  case valueOnOneLine => simpa using not_mem_trimChars back

/-- A trimmed line that is cut behind its key is a comment only if the key begins one. -/
theorem beginsComment_of_cut {before after : List Char} {c : Char}
    (trimmed : Trimmed (before ++ c :: after)) (named : trimChars before ≠ []) :
    beginsComment (trimChars before) = beginsComment (before ++ c :: after) := by
  have front : before.dropWhile isBlank = before := by
    refine dropWhile_eq_self fun d first => trimmed.1 d ?_
    rw [List.head?_append, first]
    rfl
  obtain ⟨blanks, split, -⟩ := trimEnd_append before
  have kept : trimChars before = trimEnd before := by
    unfold trimChars
    rw [front]
  rw [kept] at named ⊢
  conv => rhs; rw [split, List.append_assoc]
  exact (beginsComment_append named _).symm

/-- **A line defines only such entries.** -/
theorem isLineEntry_of_line {line : List Char} (single : '\n' ∉ line)
    (said : entryOfLine? line = some (key, value)) : IsLineEntry key value := by
  have trimmed := trimmed_trimChars line
  have kept : '\n' ∉ trimChars line := not_mem_trimChars single
  unfold entryOfLine? keyAndValue at said
  dsimp only at said
  generalize trimChars line = text at trimmed kept said
  split at said
  · cases said
  · rename_i uncommented
    rw [Bool.not_eq_true] at uncommented
    cases cut : cutAt? isSeparator text with
    | none =>
      have clear := cutAt?_eq_none_iff.1 cut
      rw [cut] at said
      dsimp only at said
      split at said
      · cases said
      · rename_i named
        cases said
        rw [List.isEmpty_iff] at named
        refine isLineEntry_of_sides named clear ?_ kept List.not_mem_nil
        rw [trimChars_eq_self trimmed]
        exact uncommented
    | some sides =>
      obtain ⟨before, after⟩ := sides
      obtain ⟨c, -, clear, rfl⟩ := cutAt?_eq_some_iff.1 cut
      rw [cut] at said
      dsimp only at said
      split at said
      · cases said
      · rename_i named
        cases said
        rw [List.isEmpty_iff] at named
        have plain := (beginsComment_of_cut trimmed named).trans uncommented
        simp only [List.mem_append, List.mem_cons, not_or] at kept
        exact isLineEntry_of_sides named clear plain kept.1 kept.2.2

/-! ## Writing entries down -/

/-- The line that defines an entry. -/
def entryLine (entry : String × String) : String :=
  entry.1 ++ "=" ++ entry.2

/-- The two ways in which a line can end. -/
inductive LineEnd where
  | lf
  | crlf
deriving DecidableEq, Repr

/-- The blanks of a line end that come before its line feed. -/
def LineEnd.blanks : LineEnd → List Char
  | .lf => []
  | .crlf => ['\r']

def LineEnd.text (lineEnd : LineEnd) : String :=
  String.ofList lineEnd.blanks ++ "\n"

/-- Lines that define these entries, each ended in its own way. -/
def writtenLines (lines : List ((String × String) × LineEnd)) : String :=
  String.join (lines.map fun line => entryLine line.1 ++ line.2.text)

/-- **An entry of this kind is defined by its line**, whatever blanks follow. -/
theorem entryOfLine?_entryLine (fits : IsLineEntry entry.1 entry.2) {blanks : List Char}
    (blank : blanks.all isBlank = true) :
    entryOfLine? ((entryLine entry).toList ++ blanks) = some entry := by
  obtain ⟨key, value⟩ := entry
  have keyTrimmed : trimChars key.toList = key.toList :=
    trimChars_eq_self (trim_eq_self_iff.1 fits.keyTrimmed)
  have valueTrimmed : trimChars (value.toList ++ blanks) = value.toList := by
    rw [trimChars_append_blanks blank]
    exact trimChars_eq_self (trim_eq_self_iff.1 fits.valueTrimmed)
  have named : trimChars key.toList ≠ [] := by
    rw [keyTrimmed]
    simpa using fits.named
  have plain : beginsComment (trimChars key.toList) = false := by
    rw [keyTrimmed]
    exact beginsComment_eq_false_iff.2 ⟨fits.noHash, fits.noBang⟩
  have line : (entryLine (key, value)).toList ++ blanks =
      key.toList ++ '=' :: (value.toList ++ blanks) := by
    simp [entryLine]
  rw [line, entryOfLine?_append_cons (by decide) fits.clear named plain, keyTrimmed, valueTrimmed]
  simp

theorem entriesOfText_entryLine (fits : IsLineEntry entry.1 entry.2) (lineEnd : LineEnd) :
    entriesOfText (entryLine entry ++ String.ofList lineEnd.blanks) = [entry] := by
  have single : '\n' ∉ (entryLine entry ++ String.ofList lineEnd.blanks).toList := by
    cases lineEnd <;>
      simp [entryLine, LineEnd.blanks, fits.keyOnOneLine, fits.valueOnOneLine]
  have blank : lineEnd.blanks.all isBlank = true := by cases lineEnd <;> decide
  have said := entryOfLine?_entryLine fits blank
  unfold entriesOfText
  rw [piecesBetween_of_not_mem single, String.toList_append, String.toList_ofList,
    List.filterMap_cons_some said, List.filterMap_nil]

/-- Each written line adds its entry. -/
theorem entriesOfText_writtenLines {lines : List ((String × String) × LineEnd)}
    (fits : ∀ line ∈ lines, IsLineEntry line.1.1 line.1.2) (rest : String) :
    entriesOfText (writtenLines lines ++ rest) = lines.map (·.1) ++ entriesOfText rest := by
  induction lines with
  | nil => simp [writtenLines]
  | cons line more ih =>
    obtain ⟨entry, lineEnd⟩ := line
    have own : IsLineEntry entry.1 entry.2 := fits _ List.mem_cons_self
    have text : writtenLines ((entry, lineEnd) :: more) ++ rest =
        (entryLine entry ++ String.ofList lineEnd.blanks) ++ "\n" ++
          (writtenLines more ++ rest) := by
      simp [writtenLines, LineEnd.text, String.append_assoc]
    rw [text, entriesOfText_append, entriesOfText_entryLine own,
      ih fun other member => fits other (List.mem_cons_of_mem _ member)]
    rfl

/-! ## What a file can hold -/

/-- Every entry is one that a line can define. -/
def HasLineEntries (p : Properties) : Prop :=
  ∀ entry ∈ p.entries, IsLineEntry entry.1 entry.2

instance (p : Properties) : Decidable p.HasLineEntries :=
  inferInstanceAs (Decidable (∀ _ ∈ _, _))

theorem hasLineEntries_parse (text : String) : (parse text).HasLineEntries := by
  rintro ⟨key, value⟩ member
  obtain ⟨before, line, after, split, said, -⟩ :=
    get?_parse_eq_some_iff.1 (KeyMap.get?_eq_some_iff.2 member)
  have isPiece : line ∈ piecesBetween '\n' text.toList := by
    rw [split]
    exact List.mem_append_right before List.mem_cons_self
  exact isLineEntry_of_line (not_mem_of_mem_piecesBetween isPiece) said

/-- The entries of such a map give it back in any order; the last line may go without an
end. -/
theorem parse_writtenLines (fits : p.HasLineEntries)
    {lines : List ((String × String) × LineEnd)} {last : Option (String × String)}
    (same : (lines.map (·.1) ++ last.toList).Perm p.entries) :
    parse (writtenLines lines ++ last.elim "" entryLine) = p := by
  have each : ∀ entry ∈ lines.map (·.1) ++ last.toList, IsLineEntry entry.1 entry.2 :=
    fun entry member => fits entry (same.mem_iff.1 member)
  have ended : ∀ line ∈ lines, IsLineEntry line.1.1 line.1.2 := fun line member =>
    each line.1 (List.mem_append_left _ (List.mem_map_of_mem member))
  have unended : entriesOfText (last.elim "" entryLine) = last.toList := by
    cases last with
    | none => rfl
    | some entry =>
      have own : IsLineEntry entry.1 entry.2 := each entry (by simp)
      simpa [LineEnd.blanks] using entriesOfText_entryLine own .lf
  unfold parse
  rw [entriesOfText_writtenLines ended, unended]
  exact KeyMap.ofList_eq_of_perm_entries same

/-- **The maps that a property file can hold** are those whose entries a line can define, and
each such map is read from its entries written one a line, in any order and with either line
end. -/
theorem held_by_file_iff (p : Properties) :
    ((∃ text, parse text = p) ↔ p.HasLineEntries) ∧
    (p.HasLineEntries →
      ∀ (lines : List ((String × String) × LineEnd)) (last : Option (String × String)),
        (lines.map (·.1) ++ last.toList).Perm p.entries →
          parse (writtenLines lines ++ last.elim "" entryLine) = p) := by
  refine ⟨⟨?_, fun fits => ?_⟩, fun fits lines last same => parse_writtenLines fits same⟩
  · rintro ⟨text, rfl⟩
    exact hasLineEntries_parse text
  · have same : ((p.entries.map fun entry => (entry, LineEnd.lf)).map (·.1) ++
        (none : Option (String × String)).toList).Perm p.entries := by
      simp [Function.comp_def]
    exact ⟨_, parse_writtenLines fits same⟩

/-- A separator and a carriage return in a value, an empty value, a blank and a comment mark
inside a key. -/
def intricate : Properties := .ofList [
  ("a", "b=c:\rd"),
  ("empty", ""),
  ("north east!", "# 1")]

/-- Its lines in another order, with both line ends and none. -/
theorem intricate_held_by_file :
    intricate.HasLineEntries ∧
      parse "north east!=# 1\r\nempty=\na=b=c:\rd" = intricate ∧
      ¬ ∃ text, parse text = .ofList [("a:b", "1")] := by
  have fits : intricate.HasLineEntries := by decide +kernel
  have whole := (held_by_file_iff intricate).2 fits
    [(("north east!", "# 1"), .crlf), (("empty", ""), .lf)] (some ("a", "b=c:\rd"))
    (by decide +kernel)
  refine ⟨fits, whole, fun held => ?_⟩
  exact absurd ((held_by_file_iff _).1.1 held) (by decide +kernel)

end SliceFleet.Properties
