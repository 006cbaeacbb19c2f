/-
SliceFleet.Terminal — styled texts, and texts without control sequences.

A terminal reads a text character by character. A control sequence begins
with an escape character; the `Phase` says how far into one the terminal is,
and `Phase.next?` where a character leads. `plain` keeps of a text what is
shown, the blanks included that move the cursor, and drops everything else:
so styles leave no trace, and neither does a sequence that somebody else put
into the text, finished or not.

Two rules concern blanks that stand inside a sequence. They are shown at
once, and what follows is read as text up to the next character that is not
shown; only then the sequence goes on, unless a new one has begun or a
character beyond ASCII has ended it.
-/

namespace SliceFleet.Terminal

/-! ## Styles -/

/-- How a text stands out. -/
inductive Style where
  | bold
  | yellow
  | alarm
deriving DecidableEq, Repr

def Style.opening : Style → String
  | .bold => "\x1b[1m"
  | .yellow => "\x1b[33m"
  | .alarm => "\x1b[1m\x1b[31m"

def styled (style : Style) (text : String) : String :=
  style.opening ++ text ++ "\x1b[0m"

/-! ## Control sequences -/

/-- How far into a control sequence a terminal is. -/
inductive Phase where
  | ground
  | escape
  /-- Behind an intermediate character of a short sequence. -/
  | escapeIntermediate
  /-- At the beginning of a control sequence with parameters. -/
  | controlEntry
  | controlParameters
  | controlIntermediate
  | controlIgnored
  | deviceEntry
  | deviceParameters
  | deviceIntermediate
  /-- In its content, or in one that is not understood. -/
  | deviceContent
  | systemString
  | ignoredString
deriving DecidableEq, Repr

namespace Phase

/-- Whether the code lies between two others, both included. -/
def lies (code low high : Nat) : Bool :=
  low ≤ code && code ≤ high

/-- Where an ASCII character behind an escape character leads. -/
def afterEscape (code : Nat) : Option Phase :=
  if lies code 0x20 0x2f then some .escapeIntermediate
  else if code = 0x5b then some .controlEntry
  else if code = 0x5d then some .systemString
  else if code = 0x50 then some .deviceEntry
  else if code = 0x58 ∨ code = 0x5e ∨ code = 0x5f then some .ignoredString
  else if lies code 0x30 0x7e then some .ground
  else none

/-- Where an ASCII character leads, unless everything stays as it is. Two
characters cancel every sequence, and the escape character begins one. -/
def next? (phase : Phase) (code : Nat) : Option Phase :=
  if code = 0x18 ∨ code = 0x1a then some .ground
  else if code = 0x1b then some .escape
  else
    match phase with
    | .ground => none
    | .escape => afterEscape code
    | .escapeIntermediate => if lies code 0x30 0x7e then some .ground else none
    | .controlEntry =>
      if lies code 0x20 0x2f then some .controlIntermediate
      else if lies code 0x30 0x3f then some .controlParameters
      else if lies code 0x40 0x7e then some .ground
      else none
    | .controlParameters =>
      if lies code 0x20 0x2f then some .controlIntermediate
      else if lies code 0x3c 0x3f then some .controlIgnored
      else if lies code 0x40 0x7e then some .ground
      else none
    | .controlIntermediate =>
      if lies code 0x30 0x3f then some .controlIgnored
      else if lies code 0x40 0x7e then some .ground
      else none
    | .controlIgnored => if lies code 0x40 0x7e then some .ground else none
    | .deviceEntry =>
      if lies code 0x20 0x2f then some .deviceIntermediate
      else if lies code 0x30 0x3f then some .deviceParameters
      else if lies code 0x40 0x7e then some .deviceContent
      else none
    | .deviceParameters =>
      if lies code 0x20 0x2f then some .deviceIntermediate
      else if lies code 0x3c 0x7e then some .deviceContent
      else none
    | .deviceIntermediate => if lies code 0x30 0x7e then some .deviceContent else none
    | .deviceContent => none
    | .systemString => if code = 0x07 then some .ground else none
    | .ignoredString => none

/-- Whether blanks that move the cursor take effect in a phase. -/
def obeysBlanks : Phase → Bool
  | .deviceEntry | .deviceParameters | .deviceIntermediate | .deviceContent => false
  | .systemString | .ignoredString => false
  | _ => true

/-- Whether the code is that of a blank that moves the cursor. -/
def isMove (code : Nat) : Bool :=
  code == 0x09 || code == 0x0a || code == 0x0c || code == 0x0d

def shows (phase : Phase) (code : Nat) : Bool :=
  (phase == .ground && lies code 0x20 0x7e) || (phase.obeysBlanks && isMove code)

/-- The byte that ends a string, which a character can bring along inside. -/
def stringEnd : UInt8 := 0x9c

/-- Where a character beyond ASCII leads in the midst of a sequence: it may
end a string and is without effect otherwise. -/
def behindWide (phase : Phase) (c : Char) : Phase :=
  match phase with
  | .deviceContent | .ignoredString =>
    if (String.utf8EncodeChar c).contains stringEnd then .ground else phase
  | _ => phase

end Phase

/-! ## Plain text -/

/-- How far a text is read. -/
structure Reading where
  shown : List Char
  /-- How far into a control sequence the terminal is. -/
  phase : Phase
  showing : Bool
deriving DecidableEq, Repr

namespace Reading

def start : Reading := ⟨[], .ground, false⟩

/-- Reads an ASCII character as a part of the sequence it stands in. -/
def within (reading : Reading) (c : Char) : Reading :=
  let phase := (reading.phase.next? c.toNat).getD reading.phase
  if reading.phase.shows c.toNat then ⟨c :: reading.shown, phase, true⟩
  else ⟨reading.shown, phase, false⟩

def step (reading : Reading) (c : Char) : Reading :=
  if 0x80 ≤ c.toNat then
    if reading.showing || reading.phase == .ground then ⟨c :: reading.shown, .ground, true⟩
    else { reading with phase := reading.phase.behindWide c }
  else if reading.showing then
    if Phase.ground.shows c.toNat then { reading with shown := c :: reading.shown }
    else
      let phase := (Phase.ground.next? c.toNat).getD reading.phase
      { reading with phase }.within c
  else reading.within c

end Reading

def plain (text : String) : String :=
  String.ofList (text.toList.foldl Reading.step .start).shown.reverse

/-- Whether a character is shown outside of all sequences. -/
def isPlain (c : Char) : Bool :=
  decide (0x80 ≤ c.toNat) || Phase.ground.shows c.toNat

theorem Reading.step_of_isPlain {reading : Reading} {c : Char}
    (ready : reading.showing = true ∨ reading.phase = .ground) (h : isPlain c = true) :
    (reading.step c).shown = c :: reading.shown ∧ (reading.step c).showing = true := by
  rw [isPlain, Bool.or_eq_true, decide_eq_true_eq] at h
  obtain ⟨shown, phase, showing⟩ := reading
  by_cases wide : 0x80 ≤ c.toNat
  · have open' : (showing || phase == .ground) = true := by simpa using ready
    simp [Reading.step, wide, open']
  · have shows := h.resolve_left wide
    cases showing with
    | true => simp [Reading.step, wide, shows]
    | false =>
      obtain rfl : phase = .ground := by simpa using ready
      simp [Reading.step, Reading.within, wide, shows]

theorem Reading.shown_foldl_of_isPlain {reading : Reading} {cs : List Char}
    (ready : reading.showing = true ∨ reading.phase = .ground) (h : ∀ c ∈ cs, isPlain c = true) :
    (cs.foldl Reading.step reading).shown = cs.reverse ++ reading.shown := by
  induction cs generalizing reading with
  | nil => rfl
  | cons c cs ih =>
    obtain ⟨shown, showing⟩ := Reading.step_of_isPlain ready (h c (by simp))
    rw [List.foldl_cons, ih (.inl showing) fun d hd => h d (by simp [hd]), shown]
    simp

/-- A text without control characters is shown as it is. -/
theorem plain_eq_self {text : String} (h : ∀ c ∈ text.toList, isPlain c = true) :
    plain text = text := by
  rw [plain, Reading.shown_foldl_of_isPlain (.inr rfl) h]
  simp [Reading.start]

end SliceFleet.Terminal
