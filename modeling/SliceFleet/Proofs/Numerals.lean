/-
SliceFleet.Proofs.Numerals — which texts are numerals below a bound.

A numeral is an optional plus sign and at least one digit (`IsNumeral`). The
reader stops as soon as the value reaches the bound; since the value only
grows, it gets through exactly when the whole value lies below
(`numeralBelow_eq_ok_iff`). The decimal form of a number is one of its numerals,
with nothing to trim (`isNumeral_repr`, `trim_repr`).
-/
import SliceFleet.Text.Blank
import SliceFleet.Text.Numeral

namespace SliceFleet.Text

/-- A decimal numeral of this value: an optional plus sign, and at least one digit. -/
def IsNumeral (s : String) (value : Nat) : Prop :=
  ∃ digits : List Char, (s.toList = digits ∨ s.toList = '+' :: digits) ∧ digits ≠ [] ∧
    (∀ c ∈ digits, c.isDigit = true) ∧ Nat.ofDigitChars 10 digits 0 = value

/-- More digits do not make a number smaller. -/
theorem le_ofDigitChars (digits : List Char) (start : Nat) :
    start ≤ Nat.ofDigitChars 10 digits start := by
  induction digits generalizing start with
  | nil => simp
  | cons c cs ih =>
    rw [Nat.ofDigitChars_cons]
    calc start ≤ 10 * start + (c.toNat - '0'.toNat) := by omega
      _ ≤ Nat.ofDigitChars 10 cs (10 * start + (c.toNat - '0'.toNat)) := ih _

theorem digitsBelow_eq_ok_iff {bound start value : Nat} {cs : List Char} (below : start < bound) :
    digitsBelow bound start cs = .ok value ↔
      (∀ c ∈ cs, c.isDigit = true) ∧ Nat.ofDigitChars 10 cs start = value ∧ value < bound := by
  induction cs generalizing start with
  | nil =>
    simp only [digitsBelow, Except.ok.injEq, Nat.ofDigitChars_nil]
    constructor
    · rintro rfl
      exact ⟨by simp, rfl, below⟩
    · exact fun whole => whole.2.1
  | cons c cs ih =>
    rw [digitsBelow, digitValue?]
    by_cases digit : c.isDigit = true
    · have next : start * 10 + (c.toNat - '0'.toNat) = 10 * start + (c.toNat - '0'.toNat) := by
        omega
      rw [if_pos digit, Nat.ofDigitChars_cons, ← next]
      dsimp only
      split
      · rw [ih ‹_›]
        simp [digit]
      · have least := le_ofDigitChars cs (start * 10 + (c.toNat - '0'.toNat))
        constructor
        · intro read
          cases read
        · rintro ⟨-, rfl, small⟩
          omega
    · rw [if_neg digit]
      constructor
      · intro read
        cases read
      · exact fun whole => absurd (whole.1 c List.mem_cons_self) digit

theorem isNumeral_of_signed {s : String} {digits : List Char} {value : Nat}
    (signed : s.toList = '+' :: digits) :
    IsNumeral s value ↔ digits ≠ [] ∧ (∀ c ∈ digits, c.isDigit = true) ∧
      Nat.ofDigitChars 10 digits 0 = value := by
  constructor
  · rintro ⟨read, plain | sign, numeral⟩
    · -- The sign is no digit, so it can not be the first one.
      have plus : '+'.isDigit = true := numeral.2.1 '+' (by simp [← plain, signed])
      cases plus
    · rw [signed] at sign
      cases sign
      exact numeral
  · exact fun numeral => ⟨digits, .inr signed, numeral⟩

theorem isNumeral_of_unsigned {s : String} {value : Nat}
    (unsigned : ∀ digits, s.toList ≠ '+' :: digits) :
    IsNumeral s value ↔ s.toList ≠ [] ∧ (∀ c ∈ s.toList, c.isDigit = true) ∧
      Nat.ofDigitChars 10 s.toList 0 = value := by
  constructor
  · rintro ⟨read, rfl | sign, numeral⟩
    · exact numeral
    · exact absurd sign (unsigned read)
  · exact fun numeral => ⟨s.toList, .inl rfl, numeral⟩

/-- **What is read below a bound** are the numerals with a value below it. -/
theorem numeralBelow_eq_ok_iff {bound value : Nat} {s : String} (positive : 0 < bound) :
    numeralBelow bound s = .ok value ↔ IsNumeral s value ∧ value < bound := by
  rw [numeralBelow]
  split
  · rename_i empty
    rw [isNumeral_of_unsigned (by simp [empty]), empty]
    simp
  · rename_i sign
    rw [isNumeral_of_signed sign]
    simp
  · rename_i digits lone signed
    rw [isNumeral_of_signed signed, digitsBelow_eq_ok_iff positive, and_assoc, and_iff_right lone,
      and_assoc]
  · rename_i empty _ unsigned
    rw [isNumeral_of_unsigned unsigned, digitsBelow_eq_ok_iff positive, and_assoc,
      and_iff_right empty, and_assoc]

/-- A numeral has one value. -/
theorem IsNumeral.value_eq {s : String} {a b : Nat} (first : IsNumeral s a)
    (second : IsNumeral s b) : a = b := by
  have one : numeralBelow (max a b + 1) s = .ok a :=
    (numeralBelow_eq_ok_iff (by omega)).2 ⟨first, by omega⟩
  have two : numeralBelow (max a b + 1) s = .ok b :=
    (numeralBelow_eq_ok_iff (by omega)).2 ⟨second, by omega⟩
  exact Except.ok.inj (one.symm.trans two)

/-! ## Decimal forms -/

theorem isBlank_eq_false_of_isDigit {c : Char} (digit : c.isDigit = true) : isBlank c = false := by
  have low : 48 ≤ c.toNat ∧ c.toNat ≤ 57 := by
    simp only [Char.isDigit, Bool.and_eq_true, decide_eq_true_eq] at digit
    exact ⟨UInt32.le_iff_toNat_le.1 digit.1, UInt32.le_iff_toNat_le.1 digit.2⟩
  unfold isBlank
  simp
  omega

theorem isNumeral_repr (n : Nat) : IsNumeral (Nat.repr n) n :=
  ⟨Nat.toDigits 10 n, .inl Nat.toList_repr, Nat.toDigits_ne_nil,
    fun _ member => Nat.isDigit_of_mem_toDigits (by decide) (by decide) member,
    Nat.ofDigitChars_ten_toDigits⟩

theorem trim_repr (n : Nat) : trim (Nat.repr n) = Nat.repr n := by
  rw [trim_eq_self_iff, Nat.toList_repr]
  have digits : ∀ c ∈ Nat.toDigits 10 n, isBlank c = false := by
    intro c member
    exact isBlank_eq_false_of_isDigit (Nat.isDigit_of_mem_toDigits (by decide) (by decide) member)
  exact ⟨fun c first => digits c (List.mem_of_mem_head? first),
    fun c last => digits c (List.mem_of_mem_getLast? last)⟩

end SliceFleet.Text
