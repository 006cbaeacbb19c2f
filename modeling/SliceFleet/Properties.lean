/-
SliceFleet.Properties — a flat namespace of properties, and its file syntax.

Properties map dotted keys to values. A property file holds one property a
line: `key=value` or `key: value`, split at the first of the two separators;
a line without one gives its key an empty value. Keys and values are
trimmed. Blank lines, lines that begin with `#` or `!` after trimming, and
lines whose key is empty say nothing. Of several lines with one key the last
wins, because a file is read as the map of its entries.
-/
import SliceFleet.KeyMap
import SliceFleet.Text.Blank
import SliceFleet.Text.Split

namespace SliceFleet

/-- Values under dotted keys, in key order. -/
abbrev Properties := KeyMap String

namespace Properties

open Text

/-! ## File syntax -/

def isSeparator (c : Char) : Bool :=
  c == '=' || c == ':'

def beginsComment : List Char → Bool
  | '#' :: _ => true
  | '!' :: _ => true
  | _ => false

/-- The key and the value of a trimmed line, each trimmed. -/
def keyAndValue (line : List Char) : List Char × List Char :=
  match cutAt? isSeparator line with
  | some (key, value) => (trimChars key, trimChars value)
  | none => (trimChars line, [])

/-- What one line of a property file defines, if anything. -/
def entryOfLine? (line : List Char) : Option (String × String) :=
  let line := trimChars line
  if beginsComment line then none
  else
    let (key, value) := keyAndValue line
    if key.isEmpty then none else some (String.ofList key, String.ofList value)

/-- The entries of a property file, in the order of their lines. -/
def entriesOfText (text : String) : List (String × String) :=
  (piecesBetween '\n' text.toList).filterMap entryOfLine?

def parse (text : String) : Properties :=
  KeyMap.ofList (entriesOfText text)

/-! ## Display -/

/-- The entries as `key=value`, in key order, between braces. -/
def display (p : Properties) : String :=
  "\x7b" ++ String.intercalate ", " (p.entries.map fun entry => entry.1 ++ "=" ++ entry.2) ++ "\x7d"

end Properties

end SliceFleet
