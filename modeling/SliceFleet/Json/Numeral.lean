/-
SliceFleet.Json.Numeral — reading JSON numbers.

A numeral is written with an optional minus sign, a whole part without
superfluous zeros, and optionally a fraction and an exponent. One without
fraction and exponent is an integer if it fits 64 bits, unsigned, or signed
behind a minus sign; minus zero is no integer. Any other is a binary number:
its digits are read into 64 bits as far as they fit, and that number is
rounded, scaled by a rounded power of ten and rounded again. What scales
beyond the greatest binary number can not be read.
-/
import SliceFleet.Json
import SliceFleet.Text.Numeral

namespace SliceFleet.Json

open Text

/-! ## As it is written -/

/-- The exponent of a numeral as it is written. -/
structure WrittenExponent where
  negative : Bool
  digits : List Nat
deriving DecidableEq, Repr

/-- A numeral as it is written. -/
structure Numeral where
  negative : Bool
  whole : List Nat
  fraction : Option (List Nat)
  exponent : Option WrittenExponent
deriving DecidableEq, Repr

namespace Numeral

/-- The digits at the beginning, at least one, and what follows them. -/
def digitRun? (cs : List Char) : Option (List Nat × List Char) :=
  match (cs.takeWhile Char.isDigit).filterMap digitValue? with
  | [] => none
  | digits => some (digits, cs.dropWhile Char.isDigit)

/-- Whether the digits have no superfluous zero before them. -/
def isWhole (digits : List Nat) : Bool :=
  digits.head? != some 0 || digits.length == 1

/-- Reads a sign, if there is one. -/
def signed (sign : Char) : List Char → Bool × List Char
  | [] => (false, [])
  | c :: cs => if c = sign then (true, cs) else (false, c :: cs)

/-- Reads the fraction, if there is one. -/
def fraction? : List Char → Option (Option (List Nat) × List Char)
  | '.' :: cs => (digitRun? cs).map fun run => (some run.1, run.2)
  | cs => some (none, cs)

/-- Reads the exponent, if there is one. -/
def exponent? : List Char → Option (Option WrittenExponent × List Char)
  | [] => some (none, [])
  | c :: cs =>
    if c = 'e' ∨ c = 'E' then
      let (negative, cs) := signed '-' cs
      let cs := if negative then cs else (signed '+' cs).2
      (digitRun? cs).map fun run => (some ⟨negative, run.1⟩, run.2)
    else some (none, c :: cs)

/-- Reads a numeral that takes up all characters. -/
def ofChars? (cs : List Char) : Option Numeral := do
  let (negative, cs) := signed '-' cs
  let (whole, cs) ← digitRun? cs
  let (fraction, cs) ← fraction? cs
  let (exponent, cs) ← exponent? cs
  if isWhole whole && cs.isEmpty then some { negative, whole, fraction, exponent } else none

end Numeral

/-! ## As a number -/

/-- Reads digits behind a number as far as the result stays below 64 bits,
and gives the digits left over. -/
def absorb : Nat → List Nat → Nat × List Nat
  | value, [] => (value, [])
  | value, digit :: rest =>
    if value * 10 + digit < UInt64.size then absorb (value * 10 + digit) rest
    else (value, digit :: rest)

/-- The greatest power of ten that is a binary number. -/
def greatestPower : Nat := 308

def tenTo (power : Nat) : Float :=
  Float.ofScientific 1 false power

/-- A binary number without sign times a power of ten, if that is finite. It
is divided step by step where the power is too small to be a binary number. -/
def scaled? (value : Float) (power : Int) : Option Float :=
  if value == 0 then some value
  else if 0 ≤ power then
    let product := value * tenTo power.toNat
    if power ≤ greatestPower && product.isFinite then some product else none
  else if -power ≤ greatestPower then some (value / tenTo (-power).toNat)
  else scaled? (value / tenTo greatestPower) (power + greatestPower)
termination_by (-power).toNat
decreasing_by
  simp only [greatestPower] at *
  omega

/-- One more than the greatest exponent that is counted. -/
def powerBound : Nat := 2147483648

def valueOf (digits : List Nat) : Nat :=
  digits.foldl (fun value digit => value * 10 + digit) 0

/-- The number `significand * 10 ^ power` with a further exponent. -/
def withExponent? (significand : Nat) (power : Int) (exponent : Option WrittenExponent) :
    Option Float :=
  match exponent with
  | none => scaled? (Float.ofScientific significand false 0) power
  | some ⟨negative, digits⟩ =>
    let count := valueOf digits
    if powerBound ≤ count then
      if significand = 0 ∨ negative then some 0 else none
    else
      scaled? (Float.ofScientific significand false 0)
        (if negative then power - count else power + count)

namespace Numeral

def magnitude? (numeral : Numeral) : Option Float :=
  let fraction := numeral.fraction.getD []
  let (whole, beyond) := absorb 0 numeral.whole
  let (significand, ignored) := absorb whole fraction
  withExponent? significand (beyond.length + ignored.length - fraction.length) numeral.exponent

/-- The integer, if the numeral is one. -/
def integer? (numeral : Numeral) : Option Int :=
  if numeral.fraction.isSome || numeral.exponent.isSome then none
  else
    let value := valueOf numeral.whole
    if numeral.negative then
      if 0 < value ∧ Int64.minValue.toInt ≤ -value then some (-value) else none
    else if value < UInt64.size then some value else none

/-- The number, if it can be read. -/
def toNumber? (numeral : Numeral) : Option JsonNumber :=
  match numeral.integer? with
  | some value => some (.integer value)
  | none => numeral.magnitude?.map fun value => .float (if numeral.negative then -value else value)

end Numeral

end SliceFleet.Json
