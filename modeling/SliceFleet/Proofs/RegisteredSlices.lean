/-
SliceFleet.Proofs.RegisteredSlices — what a registry holds.

The slices of an accepted configuration are told apart by name and by
identity: the names are those that discovery found, a name finds the one slice
that has it (`Registry.get?_eq_some_iff`), and identities are made of the unit
and the name. What each slice is configured to is what its partition says, with
that identity and with the timeout in its decimal form, and nothing else
(`Configuration.registered_slices`).
-/
import SliceFleet.Proofs.Acceptance
import SliceFleet.Proofs.Accepted
import SliceFleet.Proofs.WrittenSettings

namespace SliceFleet

open Text

/-! ## Looking a slice up -/

namespace Registry

variable {registry : Registry} {name : String} {slice : Slice}

/-- A name finds the one slice that has it. -/
theorem get?_eq_some_iff (distinct : registry.names.Nodup) :
    registry.get? name = some slice ↔ slice ∈ registry.slices ∧ slice.name = name := by
  constructor
  · intro found
    have named := List.find?_some found
    exact ⟨List.mem_of_find?_eq_some found, beq_iff_eq.1 named⟩
  · rintro ⟨member, rfl⟩
    cases found : registry.get? slice.name with
    | none =>
      have unnamed := List.find?_eq_none.1 found slice member
      simp at unnamed
    | some other =>
      have inSlices := List.mem_of_find?_eq_some found
      have named := List.find?_some found
      rw [List.inj_on_of_nodup_map distinct inSlices member (beq_iff_eq.1 named)]

theorem get?_isSome_iff : (registry.get? name).isSome = true ↔ name ∈ registry.names := by
  rw [get?, List.find?_isSome, names, List.mem_map]
  simp only [beq_iff_eq]

theorem names_ne_nil (registry : Registry) : registry.names ≠ [] := by
  rw [names_eq, entries]
  exact List.cons_ne_nil _ _

end Registry

/-! ## Timeouts -/

/-- The timeout of a slice, in milliseconds: what is stated for the slice, or else what
is stated for all, or else the default. -/
def Keyspace.EffectiveTimeout (keys : Keyspace) (whole : Properties) (slice : String)
    (millis : Nat) : Prop :=
  match (whole.get? (keys.sliceKey slice Setting.timeout.word)).or
      (whole.get? (keys.settingKey .timeout)) with
  | none => millis = 5000
  | some text => IsNumeral (trim text) millis ∧ millis < 2 ^ 64

theorem Keyspace.effectiveTimeout_iff {keys : Keyspace} {whole : Properties} {slice : String}
    {millis : Nat} : keys.EffectiveTimeout whole slice millis ↔
      BackendConfig.StatesTimeout keys (keys.partition whole slice) millis := by
  rw [BackendConfig.StatesTimeout, get?_partition_settingKey]
  rfl

/-! ## The slices of a configuration -/

namespace Configuration

variable {keys : Keyspace} {policies : PolicyBook} {whole : Properties} {config : Configuration}

theorem id_of_mem (accepted : Accepted keys policies whole config) {slice : Slice}
    (member : slice ∈ config.registry.slices) :
    slice.config.id = config.unit ++ "." ++ slice.name := by
  obtain ⟨own, -, identified⟩ := accepted.configured member
  rw [identified]

/-- No two slices have one identity. -/
theorem nodup_ids (accepted : Accepted keys policies whole config)
    (distinct : config.registry.names.Nodup) :
    (config.registry.slices.map (·.config.id)).Nodup := by
  have ids : config.registry.slices.map (·.config.id) =
      config.registry.names.map (config.unit ++ "." ++ ·) := by
    rw [Registry.names, List.map_map]
    exact List.map_congr_left fun slice member => id_of_mem accepted member
  rw [ids]
  exact distinct.map fun a b same => (String.append_right_inj _).1 same

/-- **No property is lost or invented** on the way to a slice. -/
theorem toProperties_of_mem (accepted : Accepted keys policies whole config) {slice : Slice}
    (member : slice ∈ config.registry.slices) :
    ∃ millis, keys.EffectiveTimeout whole slice.name millis ∧
      slice.config.toProperties true =
        ((keys.partition whole slice.name).insert (keys.settingKey .id)
            (config.unit ++ "." ++ slice.name)).insert (keys.settingKey .timeout)
          (Nat.repr millis) := by
  obtain ⟨own, read, identified⟩ := accepted.configured member
  have named : config.unit ++ "." ++ slice.name ≠ "" := by
    intro empty
    have characters := congrArg String.toList empty
    simp at characters
  refine ⟨own.timeout, ?_, ?_⟩
  · exact Keyspace.effectiveTimeout_iff.2 (BackendConfig.statesTimeout_of_ofProperties read)
  · rw [identified]
    exact BackendConfig.toProperties_of_read read named

/-- **What an accepted configuration registers**: one slice per discovered name, in their
order, found by its name and by no other; identified by the unit and its name, whatever
it states itself; and written as it sees itself, with that identity and the timeout that
holds for it. -/
theorem registered_slices (built : build keys policies whole = .ok config) :
    config.registry.names ≠ [] ∧ config.registry.names.Nodup ∧
    keys.discover whole = .ok config.registry.names ∧
    (∀ name, (config.registry.get? name).isSome = true ↔ name ∈ config.registry.names) ∧
    (∀ name slice, config.registry.get? name = some slice ↔
      slice ∈ config.registry.slices ∧ slice.name = name) ∧
    config.unit = (whole.get? (keys.settingKey .id)).getD "?" ∧
    (config.registry.slices.map (·.config.id)).Nodup ∧
    ∀ slice ∈ config.registry.slices,
      slice.config.id = config.unit ++ "." ++ slice.name ∧
      ∃ millis, keys.EffectiveTimeout whole slice.name millis ∧
        slice.config.toProperties true =
          ((keys.partition whole slice.name).insert (keys.settingKey .id)
              (config.unit ++ "." ++ slice.name)).insert (keys.settingKey .timeout)
            (Nat.repr millis) := by
  have accepted := accepted_of_build built
  have distinct := nodup_names_of_build built
  refine ⟨config.registry.names_ne_nil, distinct, accepted.discovered,
    fun _ => Registry.get?_isSome_iff, fun _ _ => Registry.get?_eq_some_iff distinct,
    accepted.unit, nodup_ids accepted distinct, ?_⟩
  intro slice member
  exact ⟨id_of_mem accepted member, toProperties_of_mem accepted member⟩

/-- A unit, a slice with a timeout and an identity of its own, and one with neither. -/
def enrolled : Properties := .ofList [
  ("helios.Id", "fleet"),
  ("helios.slice.Names", "east,north"),
  ("helios.slice.east.Id", "mine"),
  ("helios.slice.east.ConnectTimeout", " +0250 ")]

theorem enrolled_accepted : (build default .standard enrolled).toOption.isSome = true := by
  decide +kernel

theorem discover_enrolled : Keyspace.discover default enrolled = .ok ["east", "north"] := by
  decide +kernel

theorem enrolled_registered :
    ∃ run, build default .standard enrolled = .ok run ∧ run.registry.names = ["east", "north"] ∧
      run.unit = "fleet" ∧ ∃ slice, run.registry.get? "east" = some slice ∧
        slice.config.id = "fleet.east" ∧
        slice.config.toProperties true =
          ((Keyspace.partition default enrolled "east").insert "helios.Id" "fleet.east").insert
            "helios.ConnectTimeout" "250" := by
  have built := eq_ok_get_toOption _ enrolled_accepted
  obtain ⟨-, -, discovered, found, looked, unit, -, each⟩ := registered_slices built
  have fleet : (enrolled.get? (Keyspace.settingKey default .id)).getD "?" = "fleet" := by
    decide +kernel
  have stated : (enrolled.get? (Keyspace.sliceKey default "east" Setting.timeout.word)).or
      (enrolled.get? (Keyspace.settingKey default .timeout)) = some " +0250 " := by decide +kernel
  have read : numeralBelow 1000 (trim " +0250 ") = .ok 250 := by decide +kernel
  rw [discover_enrolled] at discovered
  rw [fleet] at unit
  have names := (Except.ok.inj discovered).symm
  obtain ⟨slice, east⟩ := Option.isSome_iff_exists.1 ((found "east").2 (by simp [names]))
  obtain ⟨member, named⟩ := (looked "east" slice).1 east
  obtain ⟨id, millis, effective, written⟩ := each slice member
  rw [named, Keyspace.EffectiveTimeout, stated] at effective
  have millis_eq : millis = 250 :=
    effective.1.value_eq ((numeralBelow_eq_ok_iff (by decide)).1 read).1
  rw [unit, named] at id
  rw [unit, named, millis_eq] at written
  exact ⟨_, built, names, unit, slice, east, id, written⟩

end Configuration

end SliceFleet
