/-
SliceFleet.Text.Quoted — texts and lists of texts in quotes, as error
messages show them.

A quoted text stands between double quotes. The quote and the backslash are
escaped by a backslash; tab, line feed, carriage return and the null
character have a letter of their own; any other unprintable character is
spelled out by its number in lower-case hexadecimal between braces. A single
quote stands as it is. A list stands in brackets, its items quoted and
separated by a comma and a space.
-/
import SliceFleet.Text.Unprintable

namespace SliceFleet.Text

/-- The character's number in hexadecimal, spelled out. -/
def spelledOut (c : Char) : String :=
  "\\u\x7b" ++ String.ofList (Nat.toDigits 16 c.toNat) ++ "\x7d"

def quoteChar (c : Char) : String :=
  match c with
  | '\x00' => "\\0"
  | '\t' => "\\t"
  | '\r' => "\\r"
  | '\n' => "\\n"
  | '\\' => "\\\\"
  | '"' => "\\\""
  | c => if isUnprintable c then spelledOut c else c.toString

def quote (s : String) : String :=
  "\"" ++ String.join (s.toList.map quoteChar) ++ "\""

/-- The texts in quotes, separated by commas, in brackets. -/
def quoteList (items : List String) : String :=
  "[" ++ String.intercalate ", " (items.map quote) ++ "]"

end SliceFleet.Text
