/-
SliceFleet.Text.Blank — blank characters and trimming.

A character is blank when it has Unicode's `White_Space` property: 25 code
points, listed in `isBlank` range by range. The zero-width characters
(U+200B, U+FEFF, U+180E) and the separators U+001C to U+001F lack it.

`trim` removes the blanks at both ends of a text and nothing else
(`trimChars_append`). A text is trimmed (`Trimmed`) when neither end is blank;
`trim` yields a trimmed text and leaves a trimmed text as it is.
-/

namespace SliceFleet.Text

def isBlank (c : Char) : Bool :=
  let n := c.toNat
  (9 ≤ n && n ≤ 13) || n == 0x20 || n == 0x85 || n == 0xA0 || n == 0x1680 ||
    (0x2000 ≤ n && n ≤ 0x200A) || n == 0x2028 || n == 0x2029 || n == 0x202F ||
    n == 0x205F || n == 0x3000

/-- What core counts as white space is blank. -/
theorem isBlank_of_isWhitespace {c : Char} (h : c.isWhitespace = true) : isBlank c = true := by
  simp only [Char.isWhitespace, Bool.or_eq_true, decide_eq_true_eq] at h
  rcases h with ((rfl | rfl) | rfl) | rfl <;> decide

/-! ## Trimming a list of characters -/

def trimEnd (cs : List Char) : List Char :=
  (cs.reverse.dropWhile isBlank).reverse

def trimChars (cs : List Char) : List Char :=
  trimEnd (cs.dropWhile isBlank)

/-- Neither the first nor the last character is blank. -/
def Trimmed (cs : List Char) : Prop :=
  (∀ c ∈ cs.head?, isBlank c = false) ∧ (∀ c ∈ cs.getLast?, isBlank c = false)

theorem dropWhile_eq_self {p : Char → Bool} {cs : List Char} (h : ∀ c ∈ cs.head?, p c = false) :
    cs.dropWhile p = cs := by
  cases cs with
  | nil => rfl
  | cons c cs => simp [List.dropWhile, h c (by simp)]

theorem trimEnd_eq_self {cs : List Char} (h : ∀ c ∈ cs.getLast?, isBlank c = false) :
    trimEnd cs = cs := by
  rw [trimEnd, dropWhile_eq_self (by simpa using h), List.reverse_reverse]

/-- A trimmed text has nothing to lose. -/
theorem trimChars_eq_self {cs : List Char} (h : Trimmed cs) : trimChars cs = cs := by
  rw [trimChars, dropWhile_eq_self h.1, trimEnd_eq_self h.2]

theorem head?_dropWhile_false {p : Char → Bool} (cs : List Char) :
    ∀ c ∈ (cs.dropWhile p).head?, p c = false := by
  induction cs with
  | nil => simp
  | cons c cs ih =>
    rw [List.dropWhile_cons]
    split
    · exact ih
    · simp_all

theorem trimEnd_last (cs : List Char) : ∀ c ∈ (trimEnd cs).getLast?, isBlank c = false := by
  rw [trimEnd, List.getLast?_reverse]
  exact head?_dropWhile_false cs.reverse

/-- The end that `trimEnd` drops is blank throughout. -/
theorem trimEnd_append (cs : List Char) :
    ∃ blanks, cs = trimEnd cs ++ blanks ∧ blanks.all isBlank = true := by
  refine ⟨(cs.reverse.takeWhile isBlank).reverse, ?_, ?_⟩
  · rw [trimEnd, ← List.reverse_append, List.takeWhile_append_dropWhile, List.reverse_reverse]
  · rw [List.all_reverse]
    exact List.all_takeWhile

theorem trimEnd_head {cs : List Char} (h : ∀ c ∈ cs.head?, isBlank c = false) :
    ∀ c ∈ (trimEnd cs).head?, isBlank c = false := by
  obtain ⟨blanks, split, _⟩ := trimEnd_append cs
  intro c hc
  refine h c ?_
  rw [split]
  cases found : trimEnd cs with
  | nil => simp [found] at hc
  | cons d ds => simpa [found] using hc

/-- What is left after trimming has no blank at either end. -/
theorem trimmed_trimChars (cs : List Char) : Trimmed (trimChars cs) :=
  ⟨trimEnd_head (head?_dropWhile_false cs), trimEnd_last _⟩

/-- A text is its own trim exactly when neither end is blank. -/
theorem trimChars_eq_self_iff {cs : List Char} : trimChars cs = cs ↔ Trimmed cs :=
  ⟨fun h => h ▸ trimmed_trimChars cs, trimChars_eq_self⟩

instance (cs : List Char) : Decidable (Trimmed cs) :=
  decidable_of_iff (trimChars cs = cs) trimChars_eq_self_iff

@[simp] theorem trimChars_trimChars (cs : List Char) : trimChars (trimChars cs) = trimChars cs :=
  trimChars_eq_self (trimmed_trimChars cs)

@[simp] theorem trimChars_nil : trimChars [] = [] := rfl

/-- Only blanks are lost. -/
theorem trimChars_append (cs : List Char) : ∃ front back, cs = front ++ trimChars cs ++ back ∧
    front.all isBlank = true ∧ back.all isBlank = true := by
  obtain ⟨back, split, blank⟩ := trimEnd_append (cs.dropWhile isBlank)
  refine ⟨cs.takeWhile isBlank, back, ?_, List.all_takeWhile, blank⟩
  rw [List.append_assoc]
  show cs = _ ++ (trimEnd (cs.dropWhile isBlank) ++ back)
  rw [← split, List.takeWhile_append_dropWhile]

/-- Trimming adds nothing. -/
theorem trimChars_sublist (cs : List Char) : (trimChars cs).Sublist cs := by
  obtain ⟨front, back, split, -⟩ := trimChars_append cs
  have inside : (trimChars cs).Sublist (front ++ trimChars cs ++ back) :=
    (List.sublist_append_right front _).trans (List.sublist_append_left _ back)
  rw [← split] at inside
  exact inside

theorem not_mem_trimChars {c : Char} {cs : List Char} (absent : c ∉ cs) : c ∉ trimChars cs :=
  fun member => absent ((trimChars_sublist cs).subset member)

/-! ## Trimming in parts -/

/-- Blanks in front do not matter. -/
theorem trimChars_blanks_append {blanks : List Char} (blank : blanks.all isBlank = true)
    (cs : List Char) : trimChars (blanks ++ cs) = trimChars cs := by
  unfold trimChars
  rw [List.dropWhile_append_of_pos (by simpa using blank)]

theorem trimEnd_append_blanks {blanks : List Char} (blank : blanks.all isBlank = true)
    (cs : List Char) : trimEnd (cs ++ blanks) = trimEnd cs := by
  unfold trimEnd
  rw [List.reverse_append, List.dropWhile_append_of_pos (by simpa using blank)]

/-- Blanks at the end do not matter. -/
theorem trimChars_append_blanks {blanks : List Char} (blank : blanks.all isBlank = true)
    (cs : List Char) : trimChars (cs ++ blanks) = trimChars cs := by
  unfold trimChars
  rw [List.dropWhile_append]
  split
  · rename_i empty
    have gone : blanks.dropWhile isBlank = [] := by
      rw [← List.append_nil blanks, List.dropWhile_append_of_pos (by simpa using blank)]
      rfl
    rw [gone, List.isEmpty_iff.1 empty]
  · exact trimEnd_append_blanks blank _

/-- Blanks on either side do not matter. -/
theorem trimChars_between_blanks {front back : List Char} (frontBlank : front.all isBlank = true)
    (backBlank : back.all isBlank = true) (cs : List Char) :
    trimChars (front ++ cs ++ back) = trimChars cs := by
  rw [trimChars_append_blanks backBlank, trimChars_blanks_append frontBlank]

/-- Blanks alone leave nothing. -/
theorem trimChars_eq_nil_iff {cs : List Char} : trimChars cs = [] ↔ cs.all isBlank = true := by
  constructor
  · intro gone
    obtain ⟨front, back, split, frontBlank, backBlank⟩ := trimChars_append cs
    rw [split, gone, List.append_nil, List.all_append, frontBlank, backBlank]
    rfl
  · intro blank
    rw [← List.append_nil cs, trimChars_blanks_append blank]
    rfl

/-- Only blanks are among blanks. -/
theorem not_mem_of_blank {c : Char} {blanks : List Char} (blank : blanks.all isBlank = true)
    (seen : isBlank c = false) : c ∉ blanks := by
  intro member
  rw [List.all_eq_true.1 blank c member] at seen
  cases seen

/-- A character that is no blank stays. -/
theorem mem_trimChars {c : Char} {cs : List Char} (member : c ∈ cs) (seen : isBlank c = false) :
    c ∈ trimChars cs := by
  obtain ⟨front, back, split, frontBlank, backBlank⟩ := trimChars_append cs
  rw [split] at member
  simp only [List.mem_append] at member
  rcases member with (inFront | inside) | inBack
  · simp [List.all_eq_true.1 frontBlank c inFront] at seen
  · exact inside
  · simp [List.all_eq_true.1 backBlank c inBack] at seen

/-- A character that is no blank is kept, and each side of it is trimmed at its outer end only. -/
theorem trimChars_append_cons {c : Char} (seen : isBlank c = false) (before after : List Char) :
    trimChars (before ++ c :: after) = before.dropWhile isBlank ++ c :: trimEnd after := by
  have front : (before ++ c :: after).dropWhile isBlank =
      before.dropWhile isBlank ++ c :: after := by
    rw [List.dropWhile_append]
    split <;> simp_all
  have back : ∀ cs : List Char, trimEnd (cs ++ c :: after) = cs ++ c :: trimEnd after := by
    intro cs
    unfold trimEnd
    have turned : (cs ++ c :: after).reverse = after.reverse ++ (c :: cs.reverse) := by simp
    rw [turned, List.dropWhile_append]
    split <;> simp_all
  rw [trimChars, front, back]

theorem trimChars_dropWhile (cs : List Char) : trimChars (cs.dropWhile isBlank) = trimChars cs := by
  conv => rhs; rw [← List.takeWhile_append_dropWhile (p := isBlank) (l := cs)]
  rw [trimChars_blanks_append List.all_takeWhile]

theorem trimChars_trimEnd (cs : List Char) : trimChars (trimEnd cs) = trimChars cs := by
  obtain ⟨blanks, split, blank⟩ := trimEnd_append cs
  conv => rhs; rw [split, trimChars_append_blanks blank]

/-! ## Trimming a string -/

def trim (s : String) : String :=
  String.ofList (trimChars s.toList)

@[simp] theorem toList_trim (s : String) : (trim s).toList = trimChars s.toList := by
  simp [trim]

@[simp] theorem trim_trim (s : String) : trim (trim s) = trim s := by
  simp [trim]

theorem trim_eq_self_iff {s : String} : trim s = s ↔ Trimmed s.toList := by
  rw [← String.toList_inj, toList_trim, trimChars_eq_self_iff]

end SliceFleet.Text
