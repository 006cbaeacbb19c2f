/-
SliceFleet.Proofs.BackendRoundTrip — configurations and properties, there and back.

A configuration that is written, secrets included, can always be read again: the
only value that could be refused is the timeout, and a number is read from its
decimal form (`exists_read_of_written`). What is read is the same configuration
just if it keeps nothing under the key of a setting, for there a setting stands or
is taken for one (`read_of_written_eq_iff`). In the other direction properties that
are read come back as they were, apart from a blank identity and the spelling of the
timeout (`toProperties_of_read_own`).
-/
import SliceFleet.Proofs.Acceptance
import SliceFleet.Proofs.WrittenSettings

namespace SliceFleet.BackendConfig

open Text

variable {keys : Keyspace} {p : Properties} {config again : BackendConfig}

/-! ## Reading what was written -/

/-- Configurations that agree in every field are equal. -/
theorem eq_of_fields (root : again.root = config.root) (id : again.id = config.id)
    (field : ∀ setting, setting ≠ .id → setting ≠ .timeout →
      again.written? true setting = config.written? true setting)
    (timeout : again.timeout = config.timeout) (extra : again.extra = config.extra) :
    again = config := by
  have url : again.url = config.url := field .url (by decide) (by decide)
  have driver : again.driver = config.driver := field .driver (by decide) (by decide)
  have properties : again.properties = config.properties :=
    field .properties (by decide) (by decide)
  have user : again.user = config.user := field .user (by decide) (by decide)
  have password : again.password = config.password := field .password (by decide) (by decide)
  cases again
  cases config
  simp_all

/-- What is written states the timeout, whatever is kept beside it. -/
theorem statesTimeout_toProperties (small : config.timeout < 2 ^ 64) (secrets : Bool) :
    StatesTimeout config.keys (config.toProperties secrets) config.timeout := by
  have stated : (config.toProperties secrets).get? (config.keys.settingKey .timeout) =
      some (Nat.repr config.timeout) := by
    rw [get?_toProperties_settingKey]
    rfl
  unfold StatesTimeout
  rw [stated]
  show IsNumeral (trim (Nat.repr config.timeout)) config.timeout ∧ _
  rw [trim_repr]
  exact ⟨isNumeral_repr config.timeout, small⟩

/-- What is written can be read, and the timeout is read as it is. -/
theorem exists_read_of_written (small : config.timeout < 2 ^ 64) (secrets : Bool) :
    ∃ again, ofProperties config.keys (config.toProperties secrets) = .ok again ∧
      again.timeout = config.timeout := by
  have timeout := timeoutOf_eq_ok_iff.2 (statesTimeout_toProperties small secrets)
  unfold ofProperties
  rw [timeout]
  exact ⟨_, rfl, rfl⟩

theorem getD_id? (config : BackendConfig) : config.id?.getD "" = config.id := by
  unfold id?
  by_cases blank : config.id = "" <;> simp [blank]

/-- **Reading what was written** gives the configuration back just if it keeps nothing
under the key of a setting. -/
theorem read_of_written_eq_iff
    (read : ofProperties config.keys (config.toProperties true) = .ok again)
    (timeout : again.timeout = config.timeout) :
    again = config ↔
      ∀ setting, config.extra.contains (config.keys.settingKey setting) = false := by
  have made := readFrom_of_ofProperties read
  constructor
  · intro same setting
    have unkept := made.unkept setting
    rw [same] at unkept
    simp [KeyMap.contains, unkept]
  · intro clear
    have unkept : ∀ setting, config.extra.get? (config.keys.settingKey setting) = none := by
      intro setting
      simpa [KeyMap.contains] using clear setting
    have stands : ∀ setting, (config.toProperties true).get? (config.keys.settingKey setting) =
        config.written? true setting := by
      intro setting
      rw [get?_toProperties_settingKey, unkept, Option.or_none]
    refine eq_of_fields (congrArg Keyspace.root made.root) ?_ ?_ timeout ?_
    · rw [made.id, stands]
      exact getD_id? config
    · intro setting notId notTimeout
      rw [made.field setting notId notTimeout, stands]
    · rw [made.extra]
      refine KeyMap.ext_get? fun key => ?_
      rw [KeyMap.get?_filterKeys]
      cases known : config.keys.isSetting key with
      | true =>
        obtain ⟨setting, rfl⟩ := Keyspace.isSetting_iff.1 known
        simp [unkept]
      | false => simp [get?_toProperties_of_other true known]

/-! ## Writing what was read -/

/-- The properties without an identity that is empty. -/
def withoutEmptyId (keys : Keyspace) (p : Properties) : Properties :=
  if p.get? (keys.settingKey .id) = some "" then p.erase (keys.settingKey .id) else p

/-- Setting the identity that was read leaves the properties as they were, and an empty
one is left out. -/
theorem insertSome_id_of_read (made : ReadFrom keys p config) :
    (p.erase (keys.settingKey .id)).insertSome (keys.settingKey .id) config.id? =
      withoutEmptyId keys p := by
  unfold withoutEmptyId id?
  rw [made.id]
  cases stated : p.get? (keys.settingKey .id) with
  | none => simp [KeyMap.insertSome, KeyMap.erase_eq_self stated]
  | some id =>
    by_cases blank : id = ""
    · simp [blank, KeyMap.insertSome]
    · simp [blank, KeyMap.insertSome, KeyMap.insert_eq_self stated]

/-- **Writing what was read** gives the properties back, but for an identity that is
empty and the spelling of the timeout. -/
theorem toProperties_of_read_own (read : ofProperties keys p = .ok config) :
    config.toProperties true = (withoutEmptyId keys p).insert (keys.settingKey .timeout)
      (Nat.repr config.timeout) := by
  rw [← insertSome_id_of_read (readFrom_of_ofProperties read)]
  exact toProperties_of_read_as read config.id

/-- Without secrets the password is left out, and nothing else. -/
theorem toProperties_false
    (unkept : config.extra.get? (config.keys.settingKey .password) = none) :
    config.toProperties false =
      (config.toProperties true).erase (config.keys.settingKey .password) := by
  refine KeyMap.ext_get? fun key => ?_
  rw [KeyMap.get?_erase]
  cases known : config.keys.isSetting key with
  | true =>
    obtain ⟨setting, rfl⟩ := Keyspace.isSetting_iff.1 known
    rw [get?_toProperties_settingKey, get?_toProperties_settingKey]
    simp only [Keyspace.settingKey_inj]
    cases setting with
    | password => simp [written?, unkept]
    | id | url | driver | properties | user | timeout => simp [written?]
  | false =>
    have apart : key ≠ config.keys.settingKey .password := by
      rintro rfl
      simp [Keyspace.isSetting_iff.2 ⟨.password, rfl⟩] at known
    rw [if_neg apart, get?_toProperties_of_other false known, get?_toProperties_of_other true known]

/-! ## There and back -/

/-- **Reading and writing are inverse** as far as they can be. What is written is always
read, and as the same configuration just if it keeps nothing under the key of a setting;
and what was read is written as it was, without an identity that is empty and with the
timeout in its decimal form, and without secrets just the password is missing. -/
theorem reading_inverts_writing :
    (∀ config : BackendConfig, config.timeout < 2 ^ 64 →
      ∃ again, ofProperties config.keys (config.toProperties true) = .ok again ∧
        (again = config ↔
          ∀ setting, config.extra.contains (config.keys.settingKey setting) = false)) ∧
    ∀ (keys : Keyspace) (p : Properties) (config : BackendConfig),
      ofProperties keys p = .ok config →
        StatesTimeout keys p config.timeout ∧
        config.toProperties true = (withoutEmptyId keys p).insert (keys.settingKey .timeout)
          (Nat.repr config.timeout) ∧
        config.toProperties false = ((withoutEmptyId keys p).insert (keys.settingKey .timeout)
          (Nat.repr config.timeout)).erase (keys.settingKey .password) := by
  constructor
  · intro config small
    obtain ⟨again, read, timeout⟩ := exists_read_of_written small true
    exact ⟨again, read, read_of_written_eq_iff read timeout⟩
  · intro keys p config read
    have made := readFrom_of_ofProperties read
    have written := toProperties_of_read_own read
    refine ⟨statesTimeout_of_ofProperties read, written, ?_⟩
    have unkept : config.extra.get? (config.keys.settingKey .password) = none := by
      rw [made.root, made.unkept]
    rw [toProperties_false unkept, written, made.root]

/-- A configuration with a property of its own, and one with the same property under the
key of the user name. -/
def tidy : BackendConfig :=
  { blank default with url := some "u1", timeout := 250, extra := .ofList [("helios.Log", "WARN")] }

def shadowing : BackendConfig :=
  { tidy with extra := .ofList [("helios.ConnectionUserName", "WARN")] }

/-- An empty identity, a timeout with a sign and blanks, and a password. -/
def spelledOut : Properties := .ofList [
  ("helios.Id", ""), ("helios.ConnectTimeout", " +0250 "), ("helios.ConnectionPassword", "secret")]

/-- The first configuration comes back and the second does not; the properties come back
in their shortest form. -/
theorem tidy_comes_back :
    ofProperties tidy.keys (tidy.toProperties true) = .ok tidy ∧
      (∃ again, ofProperties shadowing.keys (shadowing.toProperties true) = .ok again ∧
        again ≠ shadowing) ∧
      ∃ config, ofProperties default spelledOut = .ok config ∧
        (config.toProperties true).entries =
          [("helios.ConnectTimeout", "250"), ("helios.ConnectionPassword", "secret")] ∧
        (config.toProperties false).entries = [("helios.ConnectTimeout", "250")] := by
  obtain ⟨configs, properties⟩ := reading_inverts_writing
  refine ⟨?_, ?_, ?_⟩
  · obtain ⟨again, read, comesBack⟩ := configs tidy (by decide)
    have clear : ∀ setting ∈ Setting.all,
        tidy.extra.contains (tidy.keys.settingKey setting) = false := by decide +kernel
    rw [read, comesBack.2 fun setting => clear setting (Setting.mem_all setting)]
  · obtain ⟨again, read, comesBack⟩ := configs shadowing (by decide)
    have kept : shadowing.extra.contains (shadowing.keys.settingKey .user) = true := by
      decide +kernel
    refine ⟨again, read, fun same => ?_⟩
    rw [comesBack.1 same .user] at kept
    cases kept
  · have accepted : (ofProperties default spelledOut).toOption.isSome = true := by decide +kernel
    have read := eq_ok_get_toOption _ accepted
    obtain ⟨states, full, shown⟩ := properties _ _ _ read
    have stated : spelledOut.get? (Keyspace.settingKey default .timeout) = some " +0250 " := by
      decide +kernel
    have numeral : numeralBelow 1000 (trim " +0250 ") = .ok 250 := by decide +kernel
    rw [StatesTimeout, stated] at states
    rw [states.1.value_eq ((numeralBelow_eq_ok_iff (by decide)).1 numeral).1] at full shown
    refine ⟨_, read, ?_, ?_⟩
    · rw [full]
      decide +kernel
    · rw [shown]
      decide +kernel

end SliceFleet.BackendConfig
