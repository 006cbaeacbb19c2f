/-
SliceFleet.Properties.Json — properties as a JSON document.

Properties are written as one object whose fields are the keys in order.
Reading takes an object whose values are all strings and refuses any other
document, saying which kind of value it met in the place of a map or a
string.
-/
import SliceFleet.Properties
import SliceFleet.Json
import SliceFleet.Text.Quoted

namespace SliceFleet

/-- What a reader of JSON wanted in a place. -/
inductive JsonShape where
  | map
  | string
deriving DecidableEq, Repr

/-- A value of the wrong kind. -/
structure JsonMismatch where
  found : Json
  expected : JsonShape

namespace JsonMismatch

/-- The wording for a kind that was wanted. -/
def shapeText : JsonShape → String
  | .map => "a map"
  | .string => "a string"

/-- Integers and binary numbers are named apart. -/
def numberText : JsonNumber → String
  | .integer value => "integer `" ++ toString value ++ "`"
  | .float value => "floating point `" ++ Json.floatText value ++ "`"

/-- What kind of value was met, with the value if it is short. -/
def foundText : Json → String
  | .null => "null"
  | .bool value => if value then "boolean `true`" else "boolean `false`"
  | .number value => numberText value
  | .string value => "string " ++ Text.quote value
  | .array _ => "sequence"
  | .object _ => "map"

def message (mismatch : JsonMismatch) : String :=
  "invalid type: " ++ foundText mismatch.found ++ ", expected " ++ shapeText mismatch.expected

end JsonMismatch

namespace Properties

def toJson (p : Properties) : Json :=
  .object (p.entries.map fun entry => (entry.1, .string entry.2))

def entriesOfFields : List (String × Json) → Except JsonMismatch (List (String × String))
  | [] => .ok []
  | (key, .string value) :: rest => do
    let entries ← entriesOfFields rest
    return (key, value) :: entries
  | (_, other) :: _ => .error ⟨other, .string⟩

/-- Reads properties, in the order of the keys; of several fields with one
name the last wins. -/
def ofJson : Json → Except JsonMismatch Properties
  | .object fields => do
    let entries ← entriesOfFields (KeyMap.ofList fields).entries
    return KeyMap.ofList entries
  | other => .error ⟨other, .map⟩

end Properties

end SliceFleet
