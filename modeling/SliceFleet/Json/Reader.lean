/-
SliceFleet.Json.Reader — reading JSON documents.

A text is cut into tokens (`tokens?`): marks, strings with their escapes
undone, and words, which are numbers or one of the three constants. A document
is then built token by token (`Building.step`): the reader stands in a place
where a value, a key, a colon or the end of a value is due, inside the arrays
and objects that are still open.
-/
import SliceFleet.Json.Numeral

namespace SliceFleet.Json

open Text

/-! ## Tokens -/

/-- What a document is written with. -/
inductive Token where
  | openArray
  | closeArray
  | openObject
  | closeObject
  | comma
  | colon
  | scalar (value : Json)

def mark? : Char → Option Token
  | '[' => some .openArray
  | ']' => some .closeArray
  | '\x7b' => some .openObject
  | '\x7d' => some .closeObject
  | ',' => some .comma
  | ':' => some .colon
  | _ => none

/-- Whether the character may stand between tokens. -/
def isSpacing (c : Char) : Bool :=
  c == ' ' || c == '\t' || c == '\n' || c == '\r'

def word? (letters : List Char) : Option Json :=
  match String.ofList letters with
  | "null" => some .null
  | "true" => some (.bool true)
  | "false" => some (.bool false)
  | _ => (Numeral.ofChars? letters).bind fun numeral => numeral.toNumber?.map .number

/-! ## Strings -/

/-- The number that four hexadecimal digits spell out. -/
def unit? (a b c d : Char) : Option Nat := do
  let a ← hexValue? a
  let b ← hexValue? b
  let c ← hexValue? c
  let d ← hexValue? d
  return ((a * 16 + b) * 16 + c) * 16 + d

/-- The character that a letter behind a backslash stands for. -/
def escaped? : Char → Option Char
  | '"' => some '"'
  | '\\' => some '\\'
  | '/' => some '/'
  | 'b' => some '\x08'
  | 'f' => some '\x0c'
  | 'n' => some '\n'
  | 'r' => some '\r'
  | 't' => some '\t'
  | _ => none

/-- Whether a number is the first half of a character beyond 16 bits. -/
def isFirstHalf (unit : Nat) : Bool :=
  0xD800 ≤ unit && unit < 0xDC00

/-- Whether a number is the second half of a character beyond 16 bits. -/
def isSecondHalf (unit : Nat) : Bool :=
  0xDC00 ≤ unit && unit < 0xE000

/-- The character that two halves make up. -/
def joined (first second : Nat) : Char :=
  Char.ofNat (0x10000 + (first - 0xD800) * 0x400 + (second - 0xDC00))

/-- Undoes the escapes behind the characters done so far, last first. -/
def unescape (done : List Char) : List Char → Option (List Char)
  | [] => some done.reverse
  | '\\' :: 'u' :: a :: b :: c :: d :: rest =>
    match unit? a b c d with
    | none => none
    | some unit =>
      if isFirstHalf unit then
        match rest with
        | '\\' :: 'u' :: e :: f :: g :: h :: rest =>
          match unit? e f g h with
          | none => none
          | some second =>
            if isSecondHalf second then unescape (joined unit second :: done) rest else none
        | _ => none
      else if isSecondHalf unit then none
      else unescape (Char.ofNat unit :: done) rest
  | ['\\'] => none
  | '\\' :: c :: rest =>
    match escaped? c with
    | some plain => unescape (plain :: done) rest
    | none => none
  | c :: rest => unescape (c :: done) rest

/-! ## Cutting a text into tokens -/

/-- The token that the reader is inside of; characters are kept last first. -/
inductive Inside where
  | nothing
  | word (letters : List Char)
  | string (written : List Char)
  | escape (written : List Char)

/-- How far a text is cut: the tokens so far, last first. -/
structure Cutting where
  tokens : List Token
  inside : Inside

namespace Cutting

def start : Cutting := ⟨[], .nothing⟩

/-- Goes on by a character between tokens. -/
def between (tokens : List Token) (c : Char) : Cutting :=
  if isSpacing c then ⟨tokens, .nothing⟩
  else if c = '"' then ⟨tokens, .string []⟩
  else
    match mark? c with
    | some token => ⟨token :: tokens, .nothing⟩
    | none => ⟨tokens, .word [c]⟩

/-- Whether a word ends before the character. -/
def endsWord (c : Char) : Bool :=
  isSpacing c || c == '"' || (mark? c).isSome

def step (cutting : Cutting) (c : Char) : Option Cutting :=
  match cutting.inside with
  | .nothing => some (between cutting.tokens c)
  | .word letters =>
    if endsWord c then
      (word? letters.reverse).map fun value => between (.scalar value :: cutting.tokens) c
    else some { cutting with inside := .word (c :: letters) }
  | .string written =>
    if c = '"' then
      (unescape [] written.reverse).map fun text =>
        ⟨.scalar (.string (String.ofList text)) :: cutting.tokens, .nothing⟩
    else if c = '\\' then some { cutting with inside := .escape (c :: written) }
    else if c < ' ' then none
    else some { cutting with inside := .string (c :: written) }
  | .escape written => some { cutting with inside := .string (c :: written) }

/-- All tokens in order, if the text may end here. -/
def finish (cutting : Cutting) : Option (List Token) :=
  match cutting.inside with
  | .nothing => some cutting.tokens.reverse
  | .word letters =>
    (word? letters.reverse).map fun value => (.scalar value :: cutting.tokens).reverse
  | _ => none

end Cutting

def tokens? (text : String) : Option (List Token) :=
  (text.toList.foldlM Cutting.step .start).bind Cutting.finish

/-! ## Building a document -/

/-- An array or object that is still open, without the value that is being
read in it; what is finished is kept last first. -/
inductive Frame where
  | array (items : List Json)
  /-- An object, in the field of that name. -/
  | field (fields : List (String × Json)) (name : String)

/-- What is due next. -/
inductive Due where
  | value
  /-- A value, or the end of an array without items. -/
  | firstItem
  /-- A name, or the end of an object without fields. -/
  | firstField
  | name (fields : List (String × Json))
  /-- A colon, behind these fields and a name. -/
  | colon (fields : List (String × Json)) (name : String)
  | after (value : Json)

/-- How far a document is built. -/
structure Building where
  due : Due
  frames : List Frame

namespace Building

def start : Building := ⟨.value, []⟩

def value? (frames : List Frame) : Token → Option Building
  | .scalar value => some ⟨.after value, frames⟩
  | .openArray => some ⟨.firstItem, frames⟩
  | .openObject => some ⟨.firstField, frames⟩
  | _ => none

def name? (fields : List (String × Json)) (frames : List Frame) : Token → Option Building
  | .scalar (.string name) => some ⟨.colon fields name, frames⟩
  | _ => none

def step (building : Building) (token : Token) : Option Building :=
  match building.due, building.frames, token with
  | .value, frames, token => value? frames token
  | .firstItem, frames, .closeArray => some ⟨.after (.array []), frames⟩
  | .firstItem, frames, token => value? (.array [] :: frames) token
  | .firstField, frames, .closeObject => some ⟨.after (.object []), frames⟩
  | .firstField, frames, token => name? [] frames token
  | .name fields, frames, token => name? fields frames token
  | .colon fields name, frames, .colon => some ⟨.value, .field fields name :: frames⟩
  | .after value, .array items :: frames, .comma =>
    some ⟨.value, .array (value :: items) :: frames⟩
  | .after value, .array items :: frames, .closeArray =>
    some ⟨.after (.array (value :: items).reverse), frames⟩
  | .after value, .field fields name :: frames, .comma =>
    some ⟨.name ((name, value) :: fields), frames⟩
  | .after value, .field fields name :: frames, .closeObject =>
    some ⟨.after (.object ((name, value) :: fields).reverse), frames⟩
  | _, _, _ => none

def finish (building : Building) : Option Json :=
  match building.due, building.frames with
  | .after value, [] => some value
  | _, _ => none

end Building

def ofText? (text : String) : Option Json := do
  let tokens ← tokens? text
  let building ← tokens.foldlM Building.step .start
  building.finish

end SliceFleet.Json
