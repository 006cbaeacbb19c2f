/-
SliceFleet.Text.Utf8 — text as bytes, and bytes as text.

Names of files are strings of bytes. Text goes into them as UTF-8 (`bytesOf`),
but any other bytes may stand in them too, so all bytes can be shown as text
(`shown`): where bytes do not make up a character, as many of them as could
have begun one become a single replacement character, and the byte after
them is looked at anew. Bytes of a text show that text (`shown_bytesOf`).
-/

namespace SliceFleet.Text

/-- A string of bytes. -/
abbrev Bytes := List UInt8

def bytesOf (text : String) : Bytes :=
  text.toList.flatMap String.utf8EncodeChar

/-- The character in the place of bytes that are no text. -/
def replacement : Char := '\ufffd'

/-- A character whose first bytes are known. -/
structure Begun where
  number : Nat
  more : Nat
  least : Nat
  greatest : Nat
deriving DecidableEq, Repr

/-- What a byte at the beginning of a character comes to: what can be shown at
once, and the character that it begins. The bounds on the next byte leave out
numbers that have a shorter spelling and numbers that are no characters. -/
def start (byte : Nat) : List Char × Option Begun :=
  if byte < 0x80 then ([Char.ofNat byte], none)
  else if byte < 0xC2 then ([replacement], none)
  else if byte < 0xE0 then ([], some ⟨byte - 0xC0, 0, 0x80, 0xBF⟩)
  else if byte < 0xF0 then
    ([], some ⟨byte - 0xE0, 1, if byte = 0xE0 then 0xA0 else 0x80,
      if byte = 0xED then 0x9F else 0xBF⟩)
  else if byte < 0xF5 then
    ([], some ⟨byte - 0xF0, 2, if byte = 0xF0 then 0x90 else 0x80,
      if byte = 0xF4 then 0x8F else 0xBF⟩)
  else ([replacement], none)

/-- What a byte comes to behind the beginning of a character. -/
def Begun.next (begun : Begun) (byte : Nat) : List Char × Option Begun :=
  if begun.least ≤ byte ∧ byte ≤ begun.greatest then
    let number := begun.number * 64 + (byte - 0x80)
    match begun.more with
    | 0 => ([Char.ofNat number], none)
    | more + 1 => ([], some ⟨number, more, 0x80, 0xBF⟩)
  else
    let (chars, begun) := start byte
    (replacement :: chars, begun)

/-- The characters that bytes show, behind what has begun. -/
def shownFrom : Option Begun → Bytes → List Char
  | none, [] => []
  | some _, [] => [replacement]
  | none, byte :: rest => (start byte.toNat).1 ++ shownFrom (start byte.toNat).2 rest
  | some begun, byte :: rest =>
    (begun.next byte.toNat).1 ++ shownFrom (begun.next byte.toNat).2 rest

def shown (bytes : Bytes) : String :=
  String.ofList (shownFrom none bytes)

/-! ## Text goes through bytes unchanged -/

theorem start_two {byte : Nat} (low : 0xC2 ≤ byte) (high : byte < 0xE0) :
    start byte = ([], some ⟨byte - 0xC0, 0, 0x80, 0xBF⟩) := by
  rw [start, if_neg (by omega), if_neg (by omega), if_pos high]

theorem start_three {byte : Nat} (low : 0xE0 ≤ byte) (high : byte < 0xF0) :
    start byte = ([], some ⟨byte - 0xE0, 1, if byte = 0xE0 then 0xA0 else 0x80,
      if byte = 0xED then 0x9F else 0xBF⟩) := by
  rw [start, if_neg (by omega), if_neg (by omega), if_neg (by omega), if_pos high]

theorem start_four {byte : Nat} (low : 0xF0 ≤ byte) (high : byte < 0xF5) :
    start byte = ([], some ⟨byte - 0xF0, 2, if byte = 0xF0 then 0x90 else 0x80,
      if byte = 0xF4 then 0x8F else 0xBF⟩) := by
  rw [start, if_neg (by omega), if_neg (by omega), if_neg (by omega), if_neg (by omega),
    if_pos high]

theorem next_last {number least greatest byte : Nat} (low : least ≤ byte)
    (high : byte ≤ greatest) :
    (Begun.mk number 0 least greatest).next byte =
      ([Char.ofNat (number * 64 + (byte - 0x80))], none) := by
  simp [Begun.next, low, high]

theorem next_more {number more least greatest byte : Nat} (low : least ≤ byte)
    (high : byte ≤ greatest) :
    (Begun.mk number (more + 1) least greatest).next byte =
      ([], some ⟨number * 64 + (byte - 0x80), more, 0x80, 0xBF⟩) := by
  simp [Begun.next, low, high]

/-- The bytes of a character show it. -/
theorem shownFrom_utf8EncodeChar (c : Char) (rest : Bytes) :
    shownFrom none (String.utf8EncodeChar c ++ rest) = c :: shownFrom none rest := by
  have valid : c.val.toNat < 0xD800 ∨ 0xDFFF < c.val.toNat ∧ c.val.toNat < 0x110000 := c.valid
  have self : Char.ofNat c.val.toNat = c := Char.ofNat_toNat c
  simp only [String.utf8EncodeChar]
  generalize c.val.toNat = v at valid self ⊢
  have tail (n : Nat) : (UInt8.ofNat (n % 64 + 128)).toNat = n % 64 + 128 := by
    rw [UInt8.toNat_ofNat']; omega
  split
  · have first : (UInt8.ofNat v).toNat = v := by rw [UInt8.toNat_ofNat']; omega
    simp [shownFrom, first, start, show v < 128 by omega, self]
  · split
    · have first : (UInt8.ofNat (v / 64 % 32 + 192)).toNat = v / 64 + 192 := by
        rw [UInt8.toNat_ofNat']; omega
      simp only [List.cons_append, List.nil_append, shownFrom, first]
      rw [start_two (by omega) (by omega)]
      simp only [List.nil_append, shownFrom, tail]
      rw [next_last (by omega) (by omega),
        show (v / 64 + 192 - 192) * 64 + (v % 64 + 128 - 128) = v by omega, self]
      rfl
    · split
      · have first : (UInt8.ofNat (v / 4096 % 16 + 224)).toNat = v / 4096 + 224 := by
          rw [UInt8.toNat_ofNat']; omega
        simp only [List.cons_append, List.nil_append, shownFrom, first]
        rw [start_three (by omega) (by omega)]
        simp only [List.nil_append, shownFrom, tail]
        rw [next_more (by split <;> omega) (by split <;> omega)]
        simp only [List.nil_append, shownFrom, tail]
        rw [next_last (by omega) (by omega),
          show ((v / 4096 + 224 - 224) * 64 + (v / 64 % 64 + 128 - 128)) * 64 +
            (v % 64 + 128 - 128) = v by omega, self]
        rfl
      · have first : (UInt8.ofNat (v / 262144 % 8 + 240)).toNat = v / 262144 + 240 := by
          rw [UInt8.toNat_ofNat']; omega
        simp only [List.cons_append, List.nil_append, shownFrom, first]
        rw [start_four (by omega) (by omega)]
        simp only [List.nil_append, shownFrom, tail]
        rw [next_more (by split <;> omega) (by split <;> omega)]
        simp only [List.nil_append, shownFrom, tail]
        rw [next_more (by omega) (by omega)]
        simp only [List.nil_append, shownFrom, tail]
        rw [next_last (by omega) (by omega),
          show (((v / 262144 + 240 - 240) * 64 + (v / 4096 % 64 + 128 - 128)) * 64 +
            (v / 64 % 64 + 128 - 128)) * 64 + (v % 64 + 128 - 128) = v by omega, self]
        rfl

theorem shownFrom_flatMap (cs : List Char) :
    shownFrom none (cs.flatMap String.utf8EncodeChar) = cs := by
  induction cs with
  | nil => rfl
  | cons c cs ih => rw [List.flatMap_cons, shownFrom_utf8EncodeChar, ih]

/-- The bytes of a text show it. -/
theorem shown_bytesOf (text : String) : shown (bytesOf text) = text := by
  rw [shown, bytesOf, shownFrom_flatMap, String.ofList_toList]

end SliceFleet.Text
