/-
SliceFleet.Proofs.DistinctNames — slices are told apart by their names.

Discovery lists no name twice, whether it reads a list or scans the keys
(`nodup_of_discover`), and a registry has one slice per discovered name, in
their order (`names_of_build`). So the slices of an accepted configuration
have names of their own (`nodup_names_of_build`), and a list of names says
which slices are meant (`filter_eq_of_keys_eq`).
-/
import Mathlib.Data.List.Induction
import Mathlib.Data.List.Nodup
import SliceFleet.Configuration

namespace SliceFleet

/-- Peels the first step off a chain of fallible steps. -/
theorem exists_of_bind_eq_ok {ε α β : Type} {step : Except ε α} {next : α → Except ε β}
    {result : β} (run : step >>= next = .ok result) :
    ∃ value, step = .ok value ∧ next value = .ok result := by
  cases step with
  | error fault => cases run
  | ok value => exact ⟨value, rfl, run⟩

/-- A result that is there is the answer. -/
theorem eq_ok_get_toOption {ε α : Type} (result : Except ε α)
    (there : result.toOption.isSome = true) : result = .ok (result.toOption.get there) := by
  cases result with
  | error fault => cases there
  | ok value => rfl

/-- An answer that passes a test is there. -/
theorem exists_of_any_toOption {ε α : Type} {result : Except ε α} {test : α → Bool}
    (passed : result.toOption.any test = true) :
    ∃ answer, result = .ok answer ∧ test answer = true := by
  cases result with
  | error fault => cases passed
  | ok answer => exact ⟨answer, rfl, passed⟩

/-- Two selections with the same keys are the same, if the keys are distinct. -/
theorem filter_eq_of_keys_eq {α β : Type} {key : α → β} {items : List α}
    (distinct : (items.map key).Nodup) {first second : α → Bool}
    (same : (items.filter first).map key = (items.filter second).map key) :
    ∀ item ∈ items, first item = second item := by
  have transfer : ∀ {first second : α → Bool},
      (items.filter first).map key = (items.filter second).map key →
      ∀ item ∈ items, first item = true → second item = true := by
    intro first second same item member chosen
    have keyed : key item ∈ (items.filter first).map key :=
      List.mem_map_of_mem (List.mem_filter.2 ⟨member, chosen⟩)
    rw [same] at keyed
    obtain ⟨other, inSecond, sameKey⟩ := List.mem_map.1 keyed
    obtain ⟨inItems, chosenToo⟩ := List.mem_filter.1 inSecond
    have equal : other = item := List.inj_on_of_nodup_map distinct inItems member sameKey
    rw [← equal]
    exact chosenToo
  intro item member
  exact Bool.eq_iff_iff.2 ⟨transfer same item member, transfer same.symm item member⟩

/-! ## Discovery -/

/-! A name at the end of a list is kept only if it is not among those before it. -/

theorem eraseDups_concat_of_mem {names : List String} {name : String} (seen : name ∈ names) :
    (names ++ [name]).eraseDups = names.eraseDups := by
  simp [List.eraseDups_append, List.removeAll, seen]

theorem eraseDups_concat_of_not_mem {names : List String} {name : String} (new : name ∉ names) :
    (names ++ [name]).eraseDups = names.eraseDups ++ [name] := by
  simp [List.eraseDups_append, List.removeAll, new, List.eraseDups_cons]

/-- Keeping first occurrences leaves nothing twice. -/
theorem nodup_eraseDups (names : List String) : names.eraseDups.Nodup := by
  induction names using List.reverseRecOn with
  | nil => exact List.nodup_nil
  | append_singleton rest name ih =>
    by_cases seen : name ∈ rest
    · rw [eraseDups_concat_of_mem seen]
      exact ih
    · rw [eraseDups_concat_of_not_mem seen]
      refine List.nodup_append.2 ⟨ih, List.nodup_singleton name, ?_⟩
      rintro other earlier _ single rfl
      rw [List.mem_singleton.1 single] at earlier
      exact seen (List.mem_eraseDups.1 earlier)

theorem eraseDups_of_nodup {names : List String} (distinct : names.Nodup) :
    names.eraseDups = names := by
  induction names with
  | nil => rfl
  | cons name rest ih =>
    obtain ⟨unseen, others⟩ := List.nodup_cons.1 distinct
    have kept : (rest.filter fun other => !other == name) = rest := by
      rw [List.filter_eq_self]
      intro other member
      have apart : other ≠ name := by
        rintro rfl
        exact unseen member
      simp [apart]
    rw [List.eraseDups_cons, kept, ih others]

namespace Keyspace

/-- A list of names gives each name once. -/
theorem nodup_of_listedNames {key list : String} {names : List String}
    (listed : listedNames key list = .ok names) : names.Nodup := by
  rw [listedNames] at listed
  split at listed
  · cases listed
  · cases listed
    exact nodup_eraseDups _

/-- A scan gives each name once: its names ascend. -/
theorem nodup_scannedNames (keys : Keyspace) (whole : Properties) :
    (keys.scannedNames whole).Nodup := by
  rw [scannedNames]
  exact (KeyMap.keys_ascending _).imp fun {first second} before =>
    KeyMap.key_ne_of_lt before

/-- **No name is discovered twice.** -/
theorem nodup_of_discover {keys : Keyspace} {whole : Properties} {names : List String}
    (found : keys.discover whole = .ok names) : names.Nodup := by
  have checked : ∀ candidates : List String,
      (if candidates.isEmpty = true then Except.error keys.noSlices else .ok candidates) =
        .ok names → candidates = names := by
    intro candidates passed
    split at passed
    · cases passed
    · exact Except.ok.inj passed
  rw [discover] at found
  split at found
  · obtain ⟨candidates, listed, passed⟩ := exists_of_bind_eq_ok found
    rw [← checked candidates passed]
    exact nodup_of_listedNames listed
  · rw [← checked _ found]
    exact nodup_scannedNames keys whole

end Keyspace

/-! ## The registry -/

namespace Registry

theorem name_of_configOf {keys : Keyspace} {whole : Properties} {unit name : String}
    {entry : NamedConfig} (made : configOf keys whole unit name = .ok entry) :
    entry.1 = name := by
  obtain ⟨config, -, rest⟩ := exists_of_bind_eq_ok made
  cases rest
  rfl

theorem names_of_mapM_configOf {keys : Keyspace} {whole : Properties} {unit : String}
    {names : List String} {entries : List NamedConfig}
    (made : names.mapM (configOf keys whole unit) = .ok entries) : entries.map (·.1) = names := by
  induction names generalizing entries with
  | nil =>
    cases made
    rfl
  | cons name rest ih =>
    rw [List.mapM_cons] at made
    obtain ⟨entry, first, made⟩ := exists_of_bind_eq_ok made
    obtain ⟨others, following, made⟩ := exists_of_bind_eq_ok made
    cases made
    rw [List.map_cons, name_of_configOf first, ih following]

/-- A registry has one slice per name, in the order of the names. -/
theorem names_of_build {keys : Keyspace} {whole : Properties} {unit : String}
    {names : List String} {registry : Registry}
    (built : build keys whole unit names = .ok registry) : registry.names = names := by
  cases names with
  | nil => cases built
  | cons name rest =>
    obtain ⟨head, first, built⟩ := exists_of_bind_eq_ok built
    obtain ⟨tail, following, built⟩ := exists_of_bind_eq_ok built
    cases built
    rw [names_eq, entries, List.map_cons, name_of_configOf first,
      names_of_mapM_configOf following]

end Registry

/-! ## Accepted configurations -/

namespace Configuration

/-- **The slices of an accepted configuration have names of their own.** -/
theorem nodup_names_of_build {keys : Keyspace} {policies : PolicyBook} {whole : Properties}
    {config : Configuration} (built : build keys policies whole = .ok config) :
    config.registry.names.Nodup := by
  obtain ⟨lenient, -, built⟩ := exists_of_bind_eq_ok built
  obtain ⟨mode, -, built⟩ := exists_of_bind_eq_ok built
  obtain ⟨global, -, built⟩ := exists_of_bind_eq_ok built
  obtain ⟨names, found, built⟩ := exists_of_bind_eq_ok built
  obtain ⟨registry, registered, built⟩ := exists_of_bind_eq_ok built
  cases built
  rw [Registry.names_of_build registered]
  exact Keyspace.nodup_of_discover found

/-- Three regions under targets of their own. -/
def regionProperties (lenient : Bool) : Properties := .ofList [
  ("helios.slice.Names", "east,north,west"),
  ("helios.slice.Lenient", if lenient then "true" else "false"),
  ("helios.slice.east.ConnectionURL", "u1"),
  ("helios.slice.north.ConnectionURL", "u2"),
  ("helios.slice.west.ConnectionURL", "u3")]

theorem regions_accepted (lenient : Bool) :
    (build default .standard (regionProperties lenient)).toOption.isSome = true := by
  cases lenient <;> decide +kernel

/-- The configuration of the three regions. -/
def regions (lenient : Bool) : Configuration :=
  (build default .standard (regionProperties lenient)).toOption.get (regions_accepted lenient)

theorem build_regions (lenient : Bool) :
    build default .standard (regionProperties lenient) = .ok (regions lenient) :=
  eq_ok_get_toOption _ (regions_accepted lenient)

end Configuration

end SliceFleet
