/-
SliceFleet.Proofs.Accepted — what an accepted configuration is made of.

A registry holds what each of its names is configured to, in their order
(`Registry.build_eq_ok_iff`). A configuration that was built has each of its
parts from its own reader (`Configuration.accepted_of_build`), so a statement
about a part need not go through the building.
-/
import Mathlib.Data.List.Forall2
import SliceFleet.Proofs.DistinctNames

namespace SliceFleet

theorem mapM_eq_ok_iff {ε α β : Type} {read : α → Except ε β} {items : List α}
    {results : List β} :
    items.mapM read = .ok results ↔
      List.Forall₂ (fun item result => read item = .ok result) items results := by
  induction items generalizing results with
  | nil =>
    rw [List.mapM_nil, List.forall₂_nil_left_iff]
    exact ⟨fun same => (Except.ok.inj same).symm, fun same => congrArg Except.ok same.symm⟩
  | cons item rest ih =>
    rw [List.mapM_cons, List.forall₂_cons_left_iff]
    constructor
    · intro run
      obtain ⟨result, first, run⟩ := exists_of_bind_eq_ok run
      obtain ⟨others, following, run⟩ := exists_of_bind_eq_ok run
      cases run
      exact ⟨result, others, first, ih.1 following, rfl⟩
    · rintro ⟨result, others, first, following, rfl⟩
      rw [first, ih.2 following]
      rfl

/-- A registry holds what its names are configured to, one after the other. -/
theorem Registry.build_eq_ok_iff {keys : Keyspace} {whole : Properties} {unit : String}
    {names : List String} {registry : Registry} :
    build keys whole unit names = .ok registry ↔
      List.Forall₂ (fun name entry => configOf keys whole unit name = .ok entry)
        names registry.entries := by
  cases names with
  | nil =>
    constructor
    · intro built
      cases built
    · intro made
      cases made
  | cons name rest =>
    rw [entries, List.forall₂_cons]
    constructor
    · intro built
      obtain ⟨head, first, built⟩ := exists_of_bind_eq_ok built
      obtain ⟨tail, following, built⟩ := exists_of_bind_eq_ok built
      cases built
      exact ⟨first, mapM_eq_ok_iff.1 following⟩
    · rintro ⟨first, following⟩
      rw [build, first, mapM_eq_ok_iff.2 following]
      rfl

/-- Every entry of a registry is what its name is configured to. -/
theorem Registry.configOf_of_mem {keys : Keyspace} {whole : Properties} {unit : String}
    {registry : Registry} (built : build keys whole unit registry.names = .ok registry)
    {entry : NamedConfig} (member : entry ∈ registry.entries) :
    configOf keys whole unit entry.1 = .ok entry := by
  have made := build_eq_ok_iff.1 built
  rw [names_eq, List.forall₂_map_left_iff, List.forall₂_same] at made
  exact made entry member

namespace Configuration

/-- Each part of the configuration is what its reader makes of the namespace. -/
structure Accepted (keys : Keyspace) (policies : PolicyBook) (whole : Properties)
    (config : Configuration) : Prop where
  keys_eq : config.keys = keys
  policies_eq : config.policies = policies
  unit : config.unit = unitOf keys whole
  lenient : lenientOf keys whole = .ok config.lenient
  mode : modeOf keys whole = .ok config.mode
  policyName : config.policyName = policyNameOf keys whole
  global : BackendConfig.ofProperties keys (keys.globalProperties whole) = .ok config.global
  discovered : keys.discover whole = .ok config.registry.names
  registered : Registry.build keys whole config.unit config.registry.names = .ok config.registry
  master : config.master = config.registry.electMaster .blank (control? keys whole .master)

theorem accepted_of_build {keys : Keyspace} {policies : PolicyBook} {whole : Properties}
    {config : Configuration} (built : build keys policies whole = .ok config) :
    Accepted keys policies whole config := by
  obtain ⟨lenient, lenientRead, built⟩ := exists_of_bind_eq_ok built
  obtain ⟨mode, modeRead, built⟩ := exists_of_bind_eq_ok built
  obtain ⟨global, globalRead, built⟩ := exists_of_bind_eq_ok built
  obtain ⟨names, found, built⟩ := exists_of_bind_eq_ok built
  obtain ⟨registry, registered, built⟩ := exists_of_bind_eq_ok built
  cases built
  have named : registry.names = names := Registry.names_of_build registered
  exact {
    keys_eq := rfl
    policies_eq := rfl
    unit := rfl
    lenient := lenientRead
    mode := modeRead
    policyName := rfl
    global := globalRead
    discovered := by rw [named, found]
    registered := by rw [named]; exact registered
    master := rfl
  }

/-- A slice is configured by what it sees, and identified by the unit and its name. -/
theorem Accepted.configured {keys : Keyspace} {policies : PolicyBook} {whole : Properties}
    {config : Configuration} (accepted : Accepted keys policies whole config) {slice : Slice}
    (member : slice ∈ config.registry.slices) :
    ∃ own, BackendConfig.ofProperties keys (keys.partition whole slice.name) = .ok own ∧
      slice.config = { own with id := config.unit ++ "." ++ slice.name } := by
  have made := Registry.configOf_of_mem accepted.registered
    (Registry.entry_mem_of_mem_slices member)
  obtain ⟨own, read, identified⟩ := exists_of_bind_eq_ok made
  exact ⟨own, read, (congrArg Prod.snd (Except.ok.inj identified)).symm⟩

end Configuration

end SliceFleet
