/-
SliceFleet.Json — JSON documents and their two printed forms.

A document keeps the order of its object fields. `compact` prints without
any space; `pretty` puts every item and field on a line of its own, indented
by two spaces a level, and prints an empty array or object on one line.
Strings escape the quote, the backslash and the control characters of ASCII
(by a letter where JSON has one, else by four lower-case hexadecimal digits);
every other character stands as it is. Numbers are integers or binary numbers;
the latter are printed with the fewest digits that read back, and always so
that a point or an exponent tells them from integers.
-/
import SliceFleet.Decimal

namespace SliceFleet

/-- A number: an integer, or a finite binary number of 64 digits. -/
inductive JsonNumber where
  | integer (value : Int)
  | float (value : Float)

/-- A JSON document. -/
inductive Json where
  | null
  | bool (value : Bool)
  | number (value : JsonNumber)
  | string (value : String)
  | array (items : List Json)
  | object (fields : List (String × Json))
deriving Inhabited

namespace Json

/-! ## Numbers -/

def zeros (count : Nat) : List Char :=
  List.replicate count '0'

/-- A decimal without sign: positional as long as the point stands among the
first sixteen digits or at most four zeros before them, otherwise with one
digit before the point and an exponent. -/
def decimalText (decimal : Decimal) : String :=
  let digits := Nat.toDigits 10 decimal.digits
  let point := digits.length + decimal.exponent
  if 0 ≤ decimal.exponent ∧ point ≤ 16 then
    String.ofList (digits ++ zeros decimal.exponent.toNat) ++ ".0"
  else if 0 < point ∧ point ≤ 16 then
    String.ofList (digits.take point.toNat ++ '.' :: digits.drop point.toNat)
  else if -5 < point ∧ point ≤ 0 then
    "0." ++ String.ofList (zeros (-point).toNat ++ digits)
  else
    let fraction := digits.drop 1
    String.ofList (digits.take 1 ++ if fraction.isEmpty then [] else '.' :: fraction) ++ "e" ++
      toString (point - 1)

/-- The first of the stored numbers that carry a minus sign. -/
def signBit : Nat := 9223372036854775808

/-- A finite binary number; zero keeps its sign. -/
def floatText (value : Float) : String :=
  (if signBit ≤ value.toBits.toNat then "-" else "") ++
    if value == 0 then "0.0" else decimalText (Decimal.shortest value)

def numberText : JsonNumber → String
  | .integer value => toString value
  | .float value => floatText value

/-! ## Strings -/

def stringChar (c : Char) : String :=
  match c with
  | '"' => "\\\""
  | '\\' => "\\\\"
  | '\x08' => "\\b"
  | '\x0c' => "\\f"
  | '\n' => "\\n"
  | '\r' => "\\r"
  | '\t' => "\\t"
  | c =>
    if c.toNat < 0x20 then
      let digits := Nat.toDigits 16 c.toNat
      "\\u" ++ String.ofList (List.replicate (4 - digits.length) '0' ++ digits)
    else c.toString

def stringText (s : String) : String :=
  "\"" ++ String.join (s.toList.map stringChar) ++ "\""

/-! ## Compact form -/

mutual

def compact : Json → String
  | .null => "null"
  | .bool value => if value then "true" else "false"
  | .number value => numberText value
  | .string value => stringText value
  | .array items => "[" ++ String.intercalate "," (compactItems items) ++ "]"
  | .object fields => "\x7b" ++ String.intercalate "," (compactFields fields) ++ "\x7d"

def compactItems : List Json → List String
  | [] => []
  | item :: rest => compact item :: compactItems rest

def compactFields : List (String × Json) → List String
  | [] => []
  | (name, value) :: rest => (stringText name ++ ":" ++ compact value) :: compactFields rest

end

/-! ## Pretty form -/

/-- A line break and the indentation of a level. -/
def newline (level : Nat) : String :=
  "\n" ++ String.ofList (List.replicate (2 * level) ' ')

/-- Lines between two brackets, indented one level more than the brackets. -/
def block (opening closing : String) (level : Nat) : List String → String
  | [] => opening ++ closing
  | lines =>
    opening ++ newline (level + 1) ++ String.intercalate ("," ++ newline (level + 1)) lines ++
      newline level ++ closing

mutual

/-- The document as it stands at a level of indentation. -/
def prettyAt (level : Nat) : Json → String
  | .null => "null"
  | .bool value => if value then "true" else "false"
  | .number value => numberText value
  | .string value => stringText value
  | .array items => block "[" "]" level (prettyItems (level + 1) items)
  | .object fields => block "\x7b" "\x7d" level (prettyFields (level + 1) fields)

def prettyItems (level : Nat) : List Json → List String
  | [] => []
  | item :: rest => prettyAt level item :: prettyItems level rest

def prettyFields (level : Nat) : List (String × Json) → List String
  | [] => []
  | (name, value) :: rest =>
    (stringText name ++ ": " ++ prettyAt level value) :: prettyFields level rest

end

/-- The document with every item and field on a line of its own. -/
def pretty (document : Json) : String :=
  prettyAt 0 document

end Json

end SliceFleet
