/-
SliceFleet.Proofs.DiscoveredNames — how discovery ends.

A namespace nominates the entries of its list, or else the owners of its
properties (`nominees`). A dot in a listed entry ends discovery with a fault
(`discover_of_dotted`); otherwise it ends with the nominees, of which there
must be one (`discover_of_undotted`).
-/
import SliceFleet.Keyspace.Discovery
import SliceFleet.Proofs.KeyGrammar

namespace SliceFleet.Keyspace

open Text

variable {keys : Keyspace} {whole : Properties} {list : String} {names : List String}

/-- No entry of the list has a dot. -/
def Undotted (list : String) : Prop :=
  ∀ entry ∈ listEntries list, DotFree entry

/-- The names that a namespace brings forward, each at its first place: the entries
of the list where there is one, else the owners of a property. -/
def nominees (keys : Keyspace) (whole : Properties) : List String :=
  match whole.get? (keys.controlKey Control.names.word) with
  | some list => (listEntries list).eraseDups
  | none => keys.scannedNames whole

theorem listedNames_of_undotted (key : String) (undotted : Undotted list) :
    listedNames key list = .ok (listEntries list).eraseDups := by
  have clear : (listEntries list).any (hasChar '.') = false :=
    List.any_eq_false.2 fun entry member => by simp [hasDot_eq_false_iff.2 (undotted entry member)]
  simp only [listedNames, clear]
  rfl

theorem listedNames_of_dotted (key : String) (dotted : ¬ Undotted list) :
    listedNames key list = .error (.invalidValue key list .sliceNames) := by
  have found : (listEntries list).any (hasChar '.') = true := by
    rw [← Bool.not_eq_false]
    intro clear
    refine dotted fun entry member => hasDot_eq_false_iff.1 ?_
    simpa using List.any_eq_false.1 clear entry member
  simp only [listedNames, found, if_true]

theorem discover_of_dotted (listed : whole.get? (keys.controlKey Control.names.word) = some list)
    (dotted : ¬ Undotted list) :
    keys.discover whole =
      .error (.invalidValue (keys.controlKey Control.names.word) list .sliceNames) := by
  simp only [discover, listed, listedNames_of_dotted _ dotted]
  rfl

theorem discover_of_undotted
    (undotted : ∀ list, whole.get? (keys.controlKey Control.names.word) = some list →
      Undotted list) :
    keys.discover whole =
      if (keys.nominees whole).isEmpty then .error keys.noSlices else .ok (keys.nominees whole) := by
  rw [discover, nominees]
  cases listed : whole.get? (keys.controlKey Control.names.word) with
  | none => rfl
  | some list =>
    dsimp only
    rw [listedNames_of_undotted _ (undotted list listed)]
    rfl

/-- What discovery finds are the nominees, and then no listed entry has a dot. -/
theorem nominees_of_discover (found : keys.discover whole = .ok names) :
    keys.nominees whole = names ∧
      ∀ list, whole.get? (keys.controlKey Control.names.word) = some list → Undotted list := by
  have undotted : ∀ list, whole.get? (keys.controlKey Control.names.word) = some list →
      Undotted list := by
    intro list listed
    by_contra dotted
    rw [discover_of_dotted listed dotted] at found
    cases found
  refine ⟨?_, undotted⟩
  rw [discover_of_undotted undotted] at found
  split at found
  · cases found
  · exact Except.ok.inj found

/-- Where the names are listed, those found are entries of the list. -/
theorem entry_of_discover (listed : whole.get? (keys.controlKey Control.names.word) = some list)
    (found : keys.discover whole = .ok names) :
    ∀ name ∈ names, name ∈ listEntries list ∧ DotFree name := by
  obtain ⟨nominated, undotted⟩ := nominees_of_discover found
  rw [nominees, listed] at nominated
  intro name member
  rw [← nominated, List.mem_eraseDups] at member
  exact ⟨member, undotted list listed name member⟩

/-! ## Names that are found -/

theorem owner?_eq_some_iff {key name : String} :
    keys.owner? key = some name ↔ ∃ property, keys.classify key = .data name property := by
  rw [owner?]
  cases keys.classify key <;> simp

/-- A scan finds the owners of the keys. -/
theorem mem_scannedNames_iff {name : String} :
    name ∈ keys.scannedNames whole ↔ ∃ key ∈ whole.keys, keys.owner? key = some name := by
  simp [scannedNames, KeyMap.mem_keys_ofList_iff]

theorem mem_scannedNames_iff_data {name : String} : name ∈ keys.scannedNames whole ↔
    ∃ key ∈ whole.keys, ∃ property, keys.classify key = .data name property := by
  simp only [mem_scannedNames_iff, owner?_eq_some_iff]

/-- No discovered name has a dot, wherever it was found. -/
theorem dotFree_of_discover (found : keys.discover whole = .ok names) :
    ∀ name ∈ names, DotFree name := by
  intro name member
  cases listed : whole.get? (keys.controlKey Control.names.word) with
  | some list => exact (entry_of_discover listed found name member).2
  | none =>
    have scanned := (nominees_of_discover found).1
    rw [nominees, listed] at scanned
    rw [← scanned] at member
    obtain ⟨key, -, property, data⟩ := mem_scannedNames_iff_data.1 member
    exact (classify_eq_data_iff.1 data).2.1

end SliceFleet.Keyspace
