/-
SliceFleet.Proofs.WrittenSettings — what a configuration is written to.

Writing lays the settings over the other properties: under the key of a
setting stands its value, if it has one to write (`get?_toProperties_settingKey`),
and everywhere else what is kept verbatim (`get?_toProperties_of_other`). What is
read is kept without the settings, so nothing is lost or invented on the way from
properties to properties but for two entries: the identity, which may have been
set meanwhile, and the timeout, which is written in its decimal form
(`toProperties_of_read`).
-/
import SliceFleet.Proofs.KeyGrammar
import SliceFleet.Proofs.DistinctNames

namespace SliceFleet

namespace BackendConfig

variable {keys : Keyspace} {p : Properties} {config : BackendConfig} {key : String}

/-! ## Writing -/

/-- What is written of a setting, the password only where secrets are wanted. -/
def written? (config : BackendConfig) (secrets : Bool) : Setting → Option String
  | .id => config.id?
  | .url => config.url
  | .driver => config.driver
  | .properties => config.properties
  | .user => config.user
  | .password => if secrets then config.password else none
  | .timeout => some (Nat.repr config.timeout)

/-- Under the key of a setting stands its value, or else what is kept under that key. -/
theorem get?_toProperties_settingKey (config : BackendConfig) (secrets : Bool) (setting : Setting) :
    (config.toProperties secrets).get? (config.keys.settingKey setting) =
      (config.written? secrets setting).or (config.extra.get? (config.keys.settingKey setting)) := by
  cases setting <;>
    simp [toProperties, written?, KeyMap.get?_insert, KeyMap.get?_insertSome,
      Keyspace.settingKey_inj]

theorem get?_toProperties_of_other (secrets : Bool) (other : config.keys.isSetting key = false) :
    (config.toProperties secrets).get? key = config.extra.get? key := by
  have apart : ∀ setting, config.keys.settingKey setting ≠ key := by
    intro setting same
    rw [Keyspace.isSetting_iff.2 ⟨setting, same.symm⟩] at other
    cases other
  simp [toProperties, KeyMap.get?_insert, KeyMap.get?_insertSome, apart]

/-! ## Reading and writing again -/

/-- Every field is read from its own key, but for the timeout, and the rest is kept. -/
structure ReadFrom (keys : Keyspace) (p : Properties) (config : BackendConfig) : Prop where
  root : config.keys = keys
  id : config.id = (p.get? (keys.settingKey .id)).getD ""
  field : ∀ setting, setting ≠ .id → setting ≠ .timeout →
    config.written? true setting = p.get? (keys.settingKey setting)
  extra : config.extra = p.filterKeys fun key => !keys.isSetting key

theorem readFrom_of_ofProperties (read : ofProperties keys p = .ok config) :
    ReadFrom keys p config := by
  obtain ⟨millis, -, rest⟩ := exists_of_bind_eq_ok read
  cases rest
  refine ⟨rfl, rfl, ?_, rfl⟩
  intro setting notId notTimeout
  cases setting with
  | id => exact absurd rfl notId
  | timeout => exact absurd rfl notTimeout
  | url | driver | properties | user | password => rfl

/-- What was read keeps nothing under the key of a setting. -/
theorem ReadFrom.unkept (made : ReadFrom keys p config) (setting : Setting) :
    config.extra.get? (keys.settingKey setting) = none := by
  have known : keys.isSetting (keys.settingKey setting) = true :=
    Keyspace.isSetting_iff.2 ⟨setting, rfl⟩
  simp [made.extra, KeyMap.get?_filterKeys, known]

/-- What was read is written as it was under every key, but for the identity, which
may have been set or may be blank, and the decimal form of the timeout. -/
theorem toProperties_of_read_as (read : ofProperties keys p = .ok config) (id : String) :
    { config with id }.toProperties true =
      ((p.erase (keys.settingKey .id)).insertSome (keys.settingKey .id)
          { config with id }.id?).insert (keys.settingKey .timeout) (Nat.repr config.timeout) := by
  have made := readFrom_of_ofProperties read
  have sameKeys : { config with id }.keys = keys := made.root
  refine KeyMap.ext_get? fun key => ?_
  cases known : keys.isSetting key with
  | true =>
    obtain ⟨setting, rfl⟩ := Keyspace.isSetting_iff.1 known
    have stands := get?_toProperties_settingKey { config with id } true setting
    rw [sameKeys, made.unkept setting, Option.or_none] at stands
    have field := made.field setting
    simp only [stands, KeyMap.get?_insert, KeyMap.get?_insertSome, KeyMap.get?_erase,
      Keyspace.settingKey_inj]
    cases setting with
    | id => simp [written?]
    | timeout => simp [written?]
    | url | driver | properties | user | password =>
      exact field (by decide) (by decide)
  | false =>
    have apart : ∀ setting, keys.settingKey setting ≠ key := by
      intro setting same
      simp [Keyspace.isSetting_iff.2 ⟨setting, same.symm⟩] at known
    rw [get?_toProperties_of_other true (by rw [sameKeys, known]), made.extra]
    simp [KeyMap.get?_insert, KeyMap.get?_insertSome, KeyMap.get?_erase, KeyMap.get?_filterKeys,
      known, apart, (apart .id).symm]

/-- **Nothing is lost or invented**: what was read is written as it was, but for the
identity that was set and the decimal form of the timeout. -/
theorem toProperties_of_read (read : ofProperties keys p = .ok config) {id : String}
    (named : id ≠ "") :
    { config with id }.toProperties true =
      (p.insert (keys.settingKey .id) id).insert (keys.settingKey .timeout)
        (Nat.repr config.timeout) := by
  have set : { config with id }.id? = some id := by
    simp [id?, named]
  rw [toProperties_of_read_as read id, set]
  show ((p.erase _).insert _ id).insert _ _ = _
  rw [KeyMap.insert_erase]

end BackendConfig

end SliceFleet
