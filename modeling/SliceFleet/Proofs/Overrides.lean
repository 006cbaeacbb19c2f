/-
SliceFleet.Proofs.Overrides — properties that are set behind a file.

Overrides are laid over the file, each in the place of what came before it, so the
last one with a key has the last word on it, and without one the last line of the
file. An override is cut at its first equals sign, a line at its first equals sign
or colon, and a line may be a comment; apart from that they are read alike
(`entryOfLine?_of_assigned`). So overrides that could be lines are as good as
further lines of the file: `overrides_come_last`.
-/
import SliceFleet.CommandLine.Arguments
import SliceFleet.Proofs.Accepted
import SliceFleet.Proofs.PropertyLines

namespace SliceFleet

open Text Properties

/-! ## Assignments and lines -/

/-- What an argument assigns, if it is an assignment. -/
def assigned? (argument : String) : Option (String × String) :=
  (CommandLine.Given.assignment argument).toOption

/-- A key that a line can define: it has no colon and begins no comment. -/
def IsLineKey (key : String) : Prop :=
  ':' ∉ key.toList ∧ key.toList.head? ≠ some '#' ∧ key.toList.head? ≠ some '!'

instance (key : String) : Decidable (IsLineKey key) :=
  inferInstanceAs (Decidable (_ ∧ _))

/-- An assignment is cut at its first equals sign, and both sides are trimmed. -/
theorem exists_of_assigned {argument key value : String}
    (assigned : assigned? argument = some (key, value)) :
    ∃ before after, argument.toList = before ++ '=' :: after ∧ '=' ∉ before ∧
      trimChars before = key.toList ∧ key ≠ "" ∧ trimChars after = value.toList := by
  unfold assigned? CommandLine.Given.assignment at assigned
  split at assigned
  · cases assigned
  · rename_i before after cut
    obtain ⟨c, equals, clear, split⟩ := cutString?_eq_some_iff.1 cut
    obtain rfl := beq_iff_eq.1 equals
    split at assigned
    · cases assigned
    · rename_i named
      cases assigned
      refine ⟨before.toList, after.toList, split, fun held => ?_, ?_, ?_, ?_⟩
      · simpa using clear '=' held
      · rw [toList_trim]
      · simpa using named
      · rw [toList_trim]

/-- **An assignment that could be a line** says the same as a line. -/
theorem entryOfLine?_of_assigned {argument key value : String}
    (assigned : assigned? argument = some (key, value)) (lineKey : IsLineKey key) :
    entryOfLine? argument.toList = some (key, value) := by
  obtain ⟨before, after, split, unequal, front, named, back⟩ := exists_of_assigned assigned
  obtain ⟨uncolon, plain⟩ := lineKey
  have clear : ∀ b ∈ before, isSeparator b = false := by
    intro b member
    unfold isSeparator
    rw [Bool.or_eq_false_iff]
    constructor
    · rw [beq_eq_false_iff_ne]
      rintro rfl
      exact unequal member
    · rw [beq_eq_false_iff_ne]
      rintro rfl
      have kept := mem_trimChars member (by decide)
      rw [front] at kept
      exact uncolon kept
  have nonempty : trimChars before ≠ [] := by
    intro blank
    rw [blank] at front
    exact named (by rw [← String.toList_inj, ← front]; rfl)
  have uncommented : beginsComment (trimChars before) = false := by
    rw [front, beginsComment_eq_false_iff]
    exact plain
  rw [split, entryOfLine?_append_cons (by decide) clear nonempty uncommented, front, back]
  simp

/-! ## Further lines -/

/-- Each of these behind a line feed. -/
def furtherLines (texts : List String) : String :=
  String.join (texts.map ("\n" ++ ·))

/-- Texts of one line each add what they say as lines. -/
theorem entriesOfText_furtherLines {texts : List String}
    (single : ∀ text ∈ texts, '\n' ∉ text.toList) (first : String) :
    entriesOfText (first ++ furtherLines texts) =
      entriesOfText first ++ texts.filterMap fun text => entryOfLine? text.toList := by
  induction texts generalizing first with
  | nil => simp [furtherLines]
  | cons text rest ih =>
    have more : first ++ furtherLines (text :: rest) =
        first ++ "\n" ++ text ++ furtherLines rest := by
      simp [furtherLines, String.append_assoc]
    have own : entriesOfText text = [text].filterMap fun text => entryOfLine? text.toList := by
      unfold entriesOfText
      rw [piecesBetween_of_not_mem (single text List.mem_cons_self)]
      rfl
    rw [more, ih (fun other member => single other (List.mem_cons_of_mem text member)),
      entriesOfText_append, own, List.append_assoc, ← List.filterMap_append, List.singleton_append]

/-! ## Loading -/

namespace CommandLine

variable {line : CommandLine} {files : FileStore} {text : String} {arguments : List String}

/-- The text of the property file, which is empty where no file is named. -/
def ReadsText (line : CommandLine) (files : FileStore) (text : String) : Prop :=
  match line.properties with
  | none => text = ""
  | some path => files.readText path = .ok text

theorem loadProperties_of_readsText (reads : line.ReadsText files text) :
    line.loadProperties files = .ok ((Properties.parse text).insertAll line.overrides) := by
  unfold ReadsText at reads
  unfold loadProperties
  cases named : line.properties with
  | none =>
    rw [named] at reads
    dsimp only at reads
    subst reads
    rfl
  | some path =>
    rw [named] at reads
    dsimp only at reads ⊢
    rw [reads]

/-- The overrides are found again by whatever reads the arguments as they are assigned. -/
theorem filterMap_of_assigned {overrides : List (String × String)}
    {defines : String → Option (String × String)}
    (assigned : arguments.mapM Given.assignment = .ok overrides)
    (alike : ∀ argument, ∀ entry ∈ overrides, assigned? argument = some entry →
      defines argument = some entry) :
    arguments.filterMap defines = overrides := by
  have each := mapM_eq_ok_iff.1 assigned
  clear assigned
  induction each with
  | nil => rfl
  | cons first _ ih =>
    have said := alike _ _ List.mem_cons_self (congrArg Except.toOption first)
    rw [List.filterMap_cons_some said]
    refine congrArg _ (ih fun argument entry member => ?_)
    exact alike argument entry (List.mem_cons_of_mem _ member)

/-- **Overrides come last**, in two ways. Reading is a homomorphism, so further lines are laid
over a file as overrides are. Loading gives each key the value of the last override with that
key, or else of the last line that defines it; and it gives what a file with the overrides as
further lines would, if each is a line of its own, with a key that a line can define. -/
theorem overrides_come_last :
    (∀ t u, Properties.parse (t ++ "\n" ++ u) =
      (Properties.parse t).overlay (Properties.parse u)) ∧
    ∀ (line : CommandLine) (files : FileStore) (text : String) (arguments : List String),
      line.ReadsText files text → arguments.mapM Given.assignment = .ok line.overrides →
        ∃ whole, line.loadProperties files = .ok whole ∧
          (∀ key value, whole.get? key = some value ↔
            LastDefines assigned? arguments key value ∨
              Silent assigned? arguments key ∧
                LastDefines entryOfLine? (piecesBetween '\n' text.toList) key value) ∧
          ((∀ argument ∈ arguments, '\n' ∉ argument.toList) →
            (∀ entry ∈ line.overrides, IsLineKey entry.1) →
              whole = Properties.parse (text ++ furtherLines arguments)) := by
  refine ⟨parse_append, fun line files text arguments reads assigned => ?_⟩
  have overrides : arguments.filterMap assigned? = line.overrides :=
    filterMap_of_assigned assigned fun _ _ _ said => said
  refine ⟨_, loadProperties_of_readsText reads, fun key value => ?_, fun single lineKeys => ?_⟩
  · rw [KeyMap.get?_insertAll, Option.or_eq_some_iff, get?_parse_eq_some_iff, ← overrides,
      find?_reverse_filterMap_eq_some_iff, find?_reverse_filterMap_eq_none_iff]
  · have lines : arguments.filterMap (fun argument => entryOfLine? argument.toList) =
        line.overrides := by
      refine filterMap_of_assigned assigned fun argument entry member said => ?_
      exact entryOfLine?_of_assigned said (lineKeys entry member)
    unfold Properties.parse
    rw [entriesOfText_furtherLines single, lines]
    exact (KeyMap.insertAll_append ..).symm

/-- A file without a line feed at its end. -/
def shortFile : FileStore :=
  FileStore.empty.write "fleet" "a : 1\r\n# b = 8\nb\nc = 2".toUTF8

def repeatedArguments : List String := ["b = 2=3", "a=4", "\tb=5 "]

def repeatedLine : CommandLine :=
  { default with
    properties := some "fleet"
    overrides := [("b", "2=3"), ("a", "4"), ("b", "5")] }

/-- The last of three definitions counts, and the file is read to its end. -/
theorem repeated_come_last :
    repeatedLine.ReadsText shortFile "a : 1\r\n# b = 8\nb\nc = 2" ∧
      repeatedArguments.mapM Given.assignment = .ok repeatedLine.overrides ∧
      ∃ whole, repeatedLine.loadProperties shortFile = .ok whole ∧
        whole = Properties.parse "a : 1\r\n# b = 8\nb\nc = 2\nb = 2=3\na=4\n\tb=5 " ∧
        whole.get? "b" = some "5" := by
  have reads : repeatedLine.ReadsText shortFile "a : 1\r\n# b = 8\nb\nc = 2" := by
    show shortFile.readText "fleet" = .ok _
    decide +kernel
  have assigned : repeatedArguments.mapM Given.assignment = .ok repeatedLine.overrides := by
    decide +kernel
  obtain ⟨whole, loaded, values, lines⟩ := overrides_come_last.2 _ _ _ _ reads assigned
  refine ⟨reads, assigned, whole, loaded, ?_, ?_⟩
  · rw [lines (by decide +kernel) (by decide +kernel)]
    decide +kernel
  · refine (values "b" "5").2 (.inl ⟨["b = 2=3", "a=4"], "\tb=5 ", [], rfl, ?_, ?_⟩)
    · decide +kernel
    · exact silent_nil

end CommandLine

end SliceFleet
