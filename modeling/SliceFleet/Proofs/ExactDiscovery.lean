/-
SliceFleet.Proofs.ExactDiscovery — discovery finds these names and no others.

A list of names is read entry by entry, each without the blanks around it. A dot in
any of them is a fault, and so is a list of blanks only; else the names are its
entries, each once and by where it first stands (`byFirstPlace_iff`). Without a list
the names are the slices that some key gives a property to, in ascending order. In
either mode the members and their order leave one list of names
(`KeyMap.eq_of_ordered`), so `discover_exact` says of every answer when it is given.
-/
import SliceFleet.Proofs.PinnedNames

namespace SliceFleet.Keyspace

open Text

variable {keys : Keyspace} {whole : Properties} {list : String} {names entries : List String}

/-! ## The order of first places -/

/-- What there is of entries, apart from the empty one: each once, ordered by where it
stands for the first time. -/
structure ByFirstPlace (entries names : List String) : Prop where
  member : ∀ name, name ∈ names ↔ name ∈ entries ∧ name ≠ ""
  ordered : names.Pairwise fun a b => entries.idxOf a < entries.idxOf b

/-- Keeping first occurrences keeps their order: the entry at the end of a list is
kept only if it is new, and then it stands behind all others. -/
theorem ordered_eraseDups (keep : String → Bool) (entries : List String) :
    (entries.filter keep).eraseDups.Pairwise fun a b => entries.idxOf a < entries.idxOf b := by
  induction entries using List.reverseRecOn with
  | nil => exact List.Pairwise.nil
  | append_singleton rest last ih =>
    have early : ∀ name ∈ (rest.filter keep).eraseDups, name ∈ rest := by
      intro name member
      exact List.mem_of_mem_filter (List.mem_eraseDups.1 member)
    have stays : (rest.filter keep).eraseDups.Pairwise fun a b =>
        (rest ++ [last]).idxOf a < (rest ++ [last]).idxOf b := by
      refine ih.imp_of_mem fun {a b} first second before => ?_
      rw [List.idxOf_append_of_mem (early a first), List.idxOf_append_of_mem (early b second)]
      exact before
    by_cases kept : keep last = true
    · have end_kept : (rest ++ [last]).filter keep = rest.filter keep ++ [last] := by
        simp [kept]
      rw [end_kept]
      by_cases seen : last ∈ rest.filter keep
      · rw [eraseDups_concat_of_mem seen]
        exact stays
      · have new : last ∉ rest := by
          intro member
          exact seen (List.mem_filter.2 ⟨member, kept⟩)
        rw [eraseDups_concat_of_not_mem seen]
        refine List.pairwise_append.2 ⟨stays, List.pairwise_singleton _ _, ?_⟩
        intro name member other single
        rw [List.mem_singleton.1 single, List.idxOf_append_of_mem (early name member),
          List.idxOf_append_of_notMem new]
        have inside := List.idxOf_lt_length_iff.2 (early name member)
        omega
    · have end_dropped : (rest ++ [last]).filter keep = rest.filter keep := by
        simp [kept]
      rw [end_dropped]
      exact stays

/-- One list of names is ordered by first places, and keeping first occurrences finds it. -/
theorem byFirstPlace_iff :
    ByFirstPlace entries names ↔ names = (entries.filter (· != "")).eraseDups := by
  have found : ByFirstPlace entries (entries.filter (· != "")).eraseDups := by
    refine ⟨fun name => ?_, ordered_eraseDups _ entries⟩
    simp
  constructor
  · intro byPlace
    refine KeyMap.eq_of_ordered (fun before after => ?_) byPlace.ordered found.ordered ?_
    · omega
    · intro name
      rw [byPlace.member, found.member]
  · rintro rfl
    exact found

/-! ## Listed names -/

/-- The entries of a comma-separated list, without the blanks around them. -/
def entriesBetween (list : String) : List String :=
  (pieces ',' list).map trim

theorem listEntries_eq (list : String) : listEntries list = (entriesBetween list).filter (· != "") :=
  rfl

/-- The empty entries, which are passed over, have no dot. -/
theorem undotted_iff : Undotted list ↔ ¬ ∃ entry ∈ entriesBetween list, '.' ∈ entry.toList := by
  unfold Undotted DotFree
  rw [listEntries_eq]
  constructor
  · rintro undotted ⟨entry, member, dot⟩
    refine undotted entry (List.mem_filter.2 ⟨member, ?_⟩) dot
    rw [bne_iff_ne]
    rintro rfl
    simp at dot
  · intro clear entry member dot
    exact clear ⟨entry, List.mem_of_mem_filter member, dot⟩

theorem undotted_of_blank (blank : ∀ entry ∈ entriesBetween list, entry = "") : Undotted list := by
  rw [undotted_iff]
  rintro ⟨entry, member, dot⟩
  rw [blank entry member] at dot
  simp at dot

theorem eraseDups_listEntries_eq_nil_iff :
    (listEntries list).eraseDups = [] ↔ ∀ entry ∈ entriesBetween list, entry = "" := by
  rw [listEntries_eq]
  constructor
  · intro nobody entry member
    by_contra named
    have kept : entry ∈ ((entriesBetween list).filter (· != "")).eraseDups := by
      simp [member, named]
    rw [nobody] at kept
    cases kept
  · intro blank
    have nobody : (entriesBetween list).filter (· != "") = [] := by
      simpa using blank
    rw [nobody]
    rfl

/-! ## How discovery ends -/

/-- The candidates are what discovery ends with, or else the fault that there are none. -/
theorem ends_with_candidates {candidates : List String}
    (ends : keys.discover whole =
      if candidates.isEmpty then .error keys.noSlices else .ok candidates) :
    (∀ fault, keys.discover whole = .error fault ↔ candidates = [] ∧ fault = keys.noSlices) ∧
      ∀ names, keys.discover whole = .ok names ↔ candidates ≠ [] ∧ names = candidates := by
  rw [ends]
  cases candidates with
  | nil => simp [eq_comm]
  | cons name rest => simp [eq_comm]

/-- How discovery ends with a list of names: the list is refused for a dot in one of its
entries, or for being blank; otherwise its entries are found, each once and by where it
first stands. -/
structure EndsAsListed (keys : Keyspace) (whole : Properties) (list : String) : Prop where
  fails : ∀ fault, keys.discover whole = .error fault ↔
    (∃ entry ∈ entriesBetween list, '.' ∈ entry.toList) ∧
        fault = .invalidValue (keys.controlKey Control.names.word) list .sliceNames ∨
      (∀ entry ∈ entriesBetween list, entry = "") ∧
        fault = .noSlices (keys.controlKey Control.names.word) keys.sliceLead
  finds : ∀ names, keys.discover whole = .ok names ↔
    (¬ ∃ entry ∈ entriesBetween list, '.' ∈ entry.toList) ∧
      (¬ ∀ entry ∈ entriesBetween list, entry = "") ∧ ByFirstPlace (entriesBetween list) names

/-- How discovery ends without a list: all slices that have a property are found, in
ascending order, if there are any. -/
structure EndsAsScanned (keys : Keyspace) (whole : Properties) : Prop where
  fails : ∀ fault, keys.discover whole = .error fault ↔
    (¬ ∃ key ∈ whole.keys, ∃ slice property, keys.classify key = .data slice property) ∧
      fault = .noSlices (keys.controlKey Control.names.word) keys.sliceLead
  finds : ∀ names, keys.discover whole = .ok names ↔ names ≠ [] ∧ names.Pairwise (· < ·) ∧
    ∀ name, name ∈ names ↔
      ∃ key ∈ whole.keys, ∃ property, keys.classify key = .data name property

theorem endsAsListed (listed : whole.get? (keys.controlKey Control.names.word) = some list) :
    keys.EndsAsListed whole list := by
  by_cases undotted : Undotted list
  · have clear := undotted_iff.1 undotted
    have nominated : keys.nominees whole = (listEntries list).eraseDups := by
      simp [nominees, listed]
    have ends := discover_of_undotted fun other same => by
      rw [listed] at same
      exact Option.some.inj same ▸ undotted
    rw [nominated] at ends
    obtain ⟨fails, finds⟩ := ends_with_candidates ends
    rw [eraseDups_listEntries_eq_nil_iff] at fails
    refine ⟨fun fault => ?_, fun names => ?_⟩
    · simp only [fails, clear, false_and, false_or]
      rfl
    · rw [finds, Ne, eraseDups_listEntries_eq_nil_iff, byFirstPlace_iff, ← listEntries_eq]
      simp [clear]
  · have dotted : ∃ entry ∈ entriesBetween list, '.' ∈ entry.toList := by
      by_contra clear
      exact undotted (undotted_iff.2 clear)
    have named : ¬ ∀ entry ∈ entriesBetween list, entry = "" :=
      fun blank => undotted (undotted_of_blank blank)
    have ends := discover_of_dotted listed undotted
    refine ⟨fun fault => ?_, fun names => ?_⟩
    · rw [ends]
      simp [dotted, named, eq_comm]
    · rw [ends]
      simp [dotted]

theorem endsAsScanned (unlisted : whole.get? (keys.controlKey Control.names.word) = none) :
    keys.EndsAsScanned whole := by
  have nominated : keys.nominees whole = keys.scannedNames whole := by
    simp [nominees, unlisted]
  have ends := discover_of_undotted fun list listed => by
    rw [unlisted] at listed
    cases listed
  rw [nominated] at ends
  obtain ⟨fails, finds⟩ := ends_with_candidates ends
  have ascending : (keys.scannedNames whole).Pairwise (· < ·) := KeyMap.keys_ascending _
  refine ⟨fun fault => ?_, fun names => ?_⟩
  · rw [fails]
    refine and_congr_left fun _ => ?_
    rw [List.eq_nil_iff_forall_not_mem]
    simp only [mem_scannedNames_iff_data]
    constructor
    · rintro nobody ⟨key, member, slice, property, data⟩
      exact nobody slice ⟨key, member, property, data⟩
    · rintro nobody slice ⟨key, member, property, data⟩
      exact nobody ⟨key, member, slice, property, data⟩
  · rw [finds]
    constructor
    · rintro ⟨named, rfl⟩
      exact ⟨named, ascending, fun name => mem_scannedNames_iff_data⟩
    · rintro ⟨named, ordered, members⟩
      have same : names = keys.scannedNames whole := by
        refine KeyMap.eq_of_ordered KeyMap.not_gt_of_lt ordered ascending fun name => ?_
        rw [members, mem_scannedNames_iff_data]
      rw [← same]
      exact ⟨named, rfl⟩

/-- **Discovery is exact**: with a list of names it ends as the list says, whatever the
other keys are, and without one as the keys say. Either way the names that it finds are
not empty, have no dot, and are distinct. -/
theorem discover_exact (keys : Keyspace) (whole : Properties) :
    (∀ list, whole.get? (keys.controlKey Control.names.word) = some list →
      keys.EndsAsListed whole list) ∧
    (whole.get? (keys.controlKey Control.names.word) = none → keys.EndsAsScanned whole) ∧
    ∀ names, keys.discover whole = .ok names →
      (∀ name ∈ names, name ≠ "" ∧ '.' ∉ name.toList) ∧ names.Nodup := by
  refine ⟨fun list => endsAsListed, endsAsScanned, fun names found => ⟨?_, ?_⟩⟩
  · intro name member
    exact ⟨ne_empty_of_discover found name member, dotFree_of_discover found name member⟩
  · exact nodup_of_discover found

/-- A list with blanks, an empty entry and a name twice, beside a slice that it leaves out. -/
def untidy : Properties := .ofList [
  ("helios.slice.Names", " west, east ,west,, north"),
  ("helios.slice.zeta.ConnectionURL", "u")]

/-- The slice that is left out is found as soon as there is no list. -/
theorem untidy_discovered :
    untidy.get? "helios.slice.Names" = some " west, east ,west,, north" ∧
      discover default untidy = .ok ["west", "east", "north"] ∧
      (untidy.erase "helios.slice.Names").get? "helios.slice.Names" = none ∧
      discover default (untidy.erase "helios.slice.Names") = .ok ["zeta"] := by
  have listed : untidy.get? "helios.slice.Names" = some " west, east ,west,, north" := by
    decide +kernel
  have unlisted : (untidy.erase "helios.slice.Names").get? "helios.slice.Names" = none := by
    decide +kernel
  have names : (default : Keyspace).controlKey Control.names.word = "helios.slice.Names" := by
    decide +kernel
  have entries : entriesBetween " west, east ,west,, north" =
      ["west", "east", "west", "", "north"] := by decide +kernel
  have keys : (untidy.erase "helios.slice.Names").keys = ["helios.slice.zeta.ConnectionURL"] := by
    decide +kernel
  have zeta : classify default "helios.slice.zeta.ConnectionURL" = .data "zeta" "ConnectionURL" := by
    decide +kernel
  have asListed := (discover_exact default untidy).1 _ (by rw [names, listed])
  have asScanned := (discover_exact default (untidy.erase "helios.slice.Names")).2.1
    (by rw [names, unlisted])
  refine ⟨listed, (asListed.finds _).2 ⟨?_, ?_, ?_⟩, unlisted, (asScanned.finds _).2 ⟨?_, ?_, ?_⟩⟩
  · rw [entries]
    decide
  · simp [entries]
  · rw [entries]
    refine ⟨fun name => ?_, by decide⟩
    simp only [List.mem_cons, List.not_mem_nil, or_false]
    constructor
    · rintro (rfl | rfl | rfl) <;> simp
    · rintro ⟨rfl | rfl | rfl | rfl | rfl, named⟩ <;> simp_all
  · simp
  · simp
  · intro name
    simp [keys, zeta, eq_comm]

end SliceFleet.Keyspace
