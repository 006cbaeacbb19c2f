/-
SliceFleet.Text.Numeral — digits, and decimal numerals of bounded unsigned
numbers.

A numeral is an optional plus sign and at least one digit from 0 to 9, with
leading zeros allowed; its value must lie below a bound. Reading goes from
left to right and stops at the first fault, so of a stray character and an
excess value the one met first is reported.
-/

namespace SliceFleet.Text

/-- Why a text is not a numeral below the bound. -/
inductive NumeralFault where
  | empty
  /-- A character is no digit, or the sign stands alone. -/
  | strayCharacter
  | tooLarge
deriving DecidableEq, Repr

def NumeralFault.message : NumeralFault → String
  | .empty => "cannot parse integer from empty string"
  | .strayCharacter => "invalid digit found in string"
  | .tooLarge => "number too large to fit in target type"

/-- The value of a digit from 0 to 9. -/
def digitValue? (c : Char) : Option Nat :=
  if c.isDigit then some (c.toNat - '0'.toNat) else none

/-- The value of a hexadecimal digit in either case. -/
def hexValue? (c : Char) : Option Nat :=
  if c.isDigit then some (c.toNat - '0'.toNat)
  else if 'a' ≤ c ∧ c ≤ 'f' then some (c.toNat - 'a'.toNat + 10)
  else if 'A' ≤ c ∧ c ≤ 'F' then some (c.toNat - 'A'.toNat + 10)
  else none

/-- Reads the digits that follow a number read so far. -/
def digitsBelow (bound : Nat) : Nat → List Char → Except NumeralFault Nat
  | value, [] => .ok value
  | value, c :: cs =>
    match digitValue? c with
    | none => .error .strayCharacter
    | some digit =>
      if value * 10 + digit < bound then digitsBelow bound (value * 10 + digit) cs
      else .error .tooLarge

/-- Reads a numeral whose value lies below the bound. -/
def numeralBelow (bound : Nat) (s : String) : Except NumeralFault Nat :=
  match s.toList with
  | [] => .error .empty
  | ['+'] => .error .strayCharacter
  | '+' :: digits => digitsBelow bound 0 digits
  | digits => digitsBelow bound 0 digits

theorem digitsBelow_lt {bound value result : Nat} {cs : List Char} (start : value < bound)
    (h : digitsBelow bound value cs = .ok result) : result < bound := by
  induction cs generalizing value with
  | nil =>
    cases h
    exact start
  | cons c cs ih =>
    rw [digitsBelow] at h
    split at h
    · cases h
    · split at h
      · exact ih ‹_› h
      · cases h

/-- What is read lies below the bound. -/
theorem numeralBelow_lt {bound result : Nat} {s : String} (positive : 0 < bound)
    (h : numeralBelow bound s = .ok result) : result < bound := by
  rw [numeralBelow] at h
  split at h
  · cases h
  · cases h
  · exact digitsBelow_lt positive h
  · exact digitsBelow_lt positive h

end SliceFleet.Text
