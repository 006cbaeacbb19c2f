/-
SliceFleet.Proofs.PinnedNames — writing a scanned list of names down.

A scan takes the names as they stand in the keys, a list is cut at its commas
and trimmed. What a list can bring forward is therefore `Listable`: a name
without a comma and without a blank at its ends. Names of that kind come back
when they are joined and cut again (`listEntries_intercalate`), and no list
brings forward any others (`listable_of_mem_listEntries`). So a scan can be
pinned exactly if all its names are listable (`discover_pinned_iff`).
-/
import SliceFleet.Proofs.DiscoveredNames
import SliceFleet.Proofs.DistinctNames

namespace SliceFleet.Keyspace

open Text

variable {keys : Keyspace} {whole : Properties} {list name : String} {names : List String}

/-! ## Names that a list can hold -/

/-- A name without a comma and without a blank at either end. -/
def Listable (name : String) : Prop :=
  ',' ∉ name.toList ∧ Trimmed name.toList

instance (name : String) : Decidable (Listable name) :=
  inferInstanceAs (Decidable (_ ∧ _))

theorem mem_listEntries_iff :
    name ∈ listEntries list ↔ name ≠ "" ∧ ∃ piece ∈ pieces ',' list, trim piece = name := by
  simp [listEntries, and_comm]

/-- A list holds only such names, whatever its text. -/
theorem listable_of_mem_listEntries (member : name ∈ listEntries list) : Listable name := by
  obtain ⟨-, piece, isPiece, rfl⟩ := mem_listEntries_iff.1 member
  constructor
  · intro comma
    rw [toList_trim] at comma
    exact not_mem_of_mem_pieces isPiece ((trimChars_sublist _).subset comma)
  · rw [toList_trim]
    exact trimmed_trimChars piece.toList

/-- **Such names come back** when they are joined by commas. -/
theorem listEntries_intercalate (listable : ∀ name ∈ names, Listable name)
    (named : ∀ name ∈ names, name ≠ "") (some : names ≠ []) :
    listEntries (String.intercalate "," names) = names := by
  have cut : pieces ',' (String.intercalate "," names) = names :=
    pieces_intercalate (fun name member => (listable name member).1) some
  have trimmed : names.map trim = names := by
    conv => rhs; rw [← List.map_id names]
    exact List.map_congr_left fun name member => trim_eq_self_iff.2 (listable name member).2
  rw [listEntries, cut, trimmed, List.filter_eq_self]
  intro name member
  simpa using named name member

/-! ## Names that discovery finds -/

theorem ne_nil_of_discover (found : keys.discover whole = .ok names) : names ≠ [] := by
  obtain ⟨nominated, undotted⟩ := nominees_of_discover found
  rw [discover_of_undotted undotted, nominated] at found
  rintro rfl
  cases found

/-- No discovered name is empty, wherever it was found. -/
theorem ne_empty_of_discover (found : keys.discover whole = .ok names) :
    ∀ name ∈ names, name ≠ "" := by
  intro name member
  cases listed : whole.get? (keys.controlKey Control.names.word) with
  | some list => exact (mem_listEntries_iff.1 (entry_of_discover listed found name member).1).1
  | none =>
    have scanned := (nominees_of_discover found).1
    rw [nominees, listed] at scanned
    rw [← scanned] at member
    obtain ⟨key, -, property, data⟩ := mem_scannedNames_iff_data.1 member
    intro empty
    exact (classify_eq_data_iff.1 data).2.2 (.inl empty)

/-- Names that were found once are found in a list of them, if a list can hold them. -/
theorem discover_of_listed (found : keys.discover whole = .ok names)
    (listable : ∀ name ∈ names, Listable name) {pinned : Properties}
    (listed : pinned.get? (keys.controlKey Control.names.word) =
      some (String.intercalate "," names)) :
    keys.discover pinned = .ok names := by
  have entries := listEntries_intercalate listable (ne_empty_of_discover found)
    (ne_nil_of_discover found)
  have undotted : ∀ list, pinned.get? (keys.controlKey Control.names.word) = some list →
      Undotted list := by
    intro list isList
    rw [listed] at isList
    obtain rfl := Option.some.inj isList
    intro entry member
    rw [entries] at member
    exact dotFree_of_discover found entry member
  have nominated : keys.nominees pinned = names := by
    rw [nominees, listed]
    show (listEntries _).eraseDups = names
    rw [entries, eraseDups_of_nodup (nodup_of_discover found)]
  rw [discover_of_undotted undotted, nominated, if_neg]
  simpa using ne_nil_of_discover found

/-- **Pinning a scan**: the names that were found are found again in a list of them just
if none has a comma in it or a blank at one of its ends. -/
theorem discover_pinned_iff (found : keys.discover whole = .ok names) :
    keys.discover (whole.insert (keys.controlKey Control.names.word)
        (String.intercalate "," names)) = .ok names ↔
      ∀ name ∈ names, ',' ∉ name.toList ∧ Trimmed name.toList := by
  have listed : (whole.insert (keys.controlKey Control.names.word)
      (String.intercalate "," names)).get? (keys.controlKey Control.names.word) =
        some (String.intercalate "," names) := KeyMap.get?_insert_self ..
  constructor
  · intro pinned name member
    exact listable_of_mem_listEntries (entry_of_discover listed pinned name member).1
  · intro listable
    exact discover_of_listed found listable listed

/-- A name with a blank inside, and one that begins with a zero-width character, which
is no blank. -/
def spacious : Properties := .ofList [
  ("helios.slice.north east.ConnectionURL", "u1"),
  ("helios.slice.\u200Bwest.ConnectionURL", "u2")]

/-- A name that ends in a no-break space, which is a blank. -/
def spilling : Properties := .ofList [
  ("helios.slice.east.ConnectionURL", "u1"),
  ("helios.slice.west\u00A0.ConnectionURL", "u2")]

theorem discover_spacious :
    discover default spacious = .ok ["north east", "\u200Bwest"] := by decide +kernel

theorem discover_spilling : discover default spilling = .ok ["east", "west\u00A0"] := by
  decide +kernel

/-- Both scans succeed; the names that the first one found can be pinned, those of the second
one can not. -/
theorem spacious_pinned :
    spacious.get? "helios.slice.Names" = none ∧ spilling.get? "helios.slice.Names" = none ∧
      discover default spacious = .ok ["north east", "\u200Bwest"] ∧
      discover default spilling = .ok ["east", "west\u00A0"] ∧
      discover default (spacious.insert "helios.slice.Names" "north east,\u200Bwest") =
        .ok ["north east", "\u200Bwest"] ∧
      discover default (spilling.insert "helios.slice.Names" "east,west\u00A0") ≠
        .ok ["east", "west\u00A0"] := by
  have names : (default : Keyspace).controlKey Control.names.word = "helios.slice.Names" := by
    decide +kernel
  have pinned := discover_pinned_iff discover_spacious
  have refused := discover_pinned_iff discover_spilling
  rw [names] at pinned refused
  exact ⟨by decide +kernel, by decide +kernel, discover_spacious, discover_spilling,
    pinned.2 (by decide +kernel), fun again => absurd (refused.1 again) (by decide +kernel)⟩

end SliceFleet.Keyspace
