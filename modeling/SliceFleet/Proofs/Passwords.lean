/-
SliceFleet.Proofs.Passwords — passwords never influence what is shown.

Two namespaces with the same keys that differ in passwords only
(`Keyspace.SameButPasswords`) have the same controls and the same discovered
names. A slice's own password is renamed on the way to the slice and arrives
under the key of the default password, which is read into the password and
never kept verbatim; so what a slice sees differs under that one key
(`SameButPasswords.partition`), and what is read from it in the password only
(`BackendConfig.ofProperties_alike`).

With that, both namespaces are refused with one fault or built to
configurations that show the same, and every provider that never reads a
password takes both to the same outcome and the same reports
(`Configuration.passwords_unreported`).
-/
import SliceFleet.Proofs.DiscoveredNames
import SliceFleet.Proofs.Redaction
import SliceFleet.Simulation
import SliceFleet.Sqlite

namespace SliceFleet

open Text

/-! ## Two namespaces -/

namespace Keyspace

/-- The key of the default password, or of the password of a slice. -/
def IsPasswordKey (keys : Keyspace) (key : String) : Prop :=
  key = keys.settingKey .password ∨
    ∃ name, DotFree name ∧ key = keys.sliceKey name Setting.password.word

/-- The namespaces have the same keys and differ only in the values of passwords. -/
structure SameButPasswords (keys : Keyspace) (p q : Properties) : Prop where
  sameKeys : p.keys = q.keys
  others : ∀ key, ¬ keys.IsPasswordKey key → p.get? key = q.get? key

variable {keys : Keyspace} {p q : Properties}

/-- Outside the slice lead there is one password. -/
theorem not_isPasswordKey_of_outside {key : String}
    (outside : beginsWith keys.sliceLead key = false) (other : key ≠ keys.settingKey .password) :
    ¬ keys.IsPasswordKey key := by
  rintro (same | ⟨name, -, rfl⟩)
  · exact other same
  · simp [beginsWith_sliceLead_sliceKey] at outside

theorem not_isPasswordKey_settingKey {setting : Setting} (other : setting ≠ .password) :
    ¬ keys.IsPasswordKey (keys.settingKey setting) :=
  not_isPasswordKey_of_outside (beginsWith_sliceLead_settingKey keys setting)
    fun same => other (settingKey_inj.1 same)

theorem not_isPasswordKey_controlKey (control : Control) :
    ¬ keys.IsPasswordKey (keys.controlKey control.word) := by
  rintro (same | ⟨name, -, same⟩)
  · have outside := beginsWith_sliceLead_settingKey keys .password
    have lead : beginsWith keys.sliceLead (keys.controlKey control.word) = true :=
      beginsWith_iff.2 ⟨control.word, rfl⟩
    simp [← same, lead] at outside
  · exact controlKey_ne_sliceKey (dotFree_word control) name Setting.password.word same

theorem not_isPasswordKey_sliceKey {name property : String} (dotFree : DotFree name)
    (other : property ≠ Setting.password.word) :
    ¬ keys.IsPasswordKey (keys.sliceKey name property) := by
  rintro (same | ⟨owner, ownerDotFree, same⟩)
  · have outside := beginsWith_sliceLead_settingKey keys .password
    simp [← same, beginsWith_sliceLead_sliceKey] at outside
  · exact other ((sliceKey_eq_sliceKey_iff dotFree ownerDotFree).1 same).2

namespace SameButPasswords

theorem symm (same : keys.SameButPasswords p q) : keys.SameButPasswords q p where
  sameKeys := same.sameKeys.symm
  others key other := (same.others key other).symm

theorem globalProperties (same : keys.SameButPasswords p q) {key : String}
    (other : key ≠ keys.settingKey .password) :
    (keys.globalProperties p).get? key = (keys.globalProperties q).get? key := by
  simp only [get?_globalProperties]
  cases outside : beginsWith keys.sliceLead key with
  | true => rfl
  | false => exact same.others key (not_isPasswordKey_of_outside outside other)

/-- What one namespace lets the slice see, the other does, except for the password. -/
theorem partition_of_some (same : keys.SameButPasswords p q) {name key value : String}
    (dotFree : DotFree name) (other : key ≠ keys.settingKey .password)
    (seen : (keys.partition p name).get? key = some value) :
    (keys.partition q name).get? key = some value := by
  rw [get?_partition_eq_some_iff, get?_overrides_eq_some_iff] at seen ⊢
  rcases seen with ⟨property, rfl, stated⟩ | ⟨held, outside, free⟩
  · have apart : property ≠ Setting.password.word := fun word => other (by rw [word]; rfl)
    refine .inl ⟨property, rfl, ?_⟩
    rw [← same.others _ (not_isPasswordKey_sliceKey dotFree apart), stated]
  · refine .inr ⟨?_, outside, fun property default => ?_⟩
    · rw [← same.others key (not_isPasswordKey_of_outside outside other), held]
    · exact (KeyMap.get?_eq_none_iff_of_keys_eq same.sameKeys).1 (free property default)

/-- **What a slice sees** differs in the password only. -/
theorem partition (same : keys.SameButPasswords p q) {name key : String} (dotFree : DotFree name)
    (other : key ≠ keys.settingKey .password) :
    (keys.partition p name).get? key = (keys.partition q name).get? key := by
  refine Option.ext fun value => ⟨fun seen => ?_, fun seen => ?_⟩
  · exact same.partition_of_some dotFree other seen
  · exact same.symm.partition_of_some dotFree other seen

theorem control (same : keys.SameButPasswords p q) (control : Control) :
    Configuration.control? keys p control = Configuration.control? keys q control :=
  same.others _ (not_isPasswordKey_controlKey control)

theorem unit (same : keys.SameButPasswords p q) :
    Configuration.unitOf keys p = Configuration.unitOf keys q := by
  rw [Configuration.unitOf, Configuration.unitOf,
    same.others _ (not_isPasswordKey_settingKey (by decide))]

/-- A scan looks at keys only. -/
theorem scanned (same : keys.SameButPasswords p q) :
    keys.scannedNames p = keys.scannedNames q := by
  rw [scannedNames, scannedNames, same.sameKeys]

end SameButPasswords

end Keyspace

/-! ## Two readings -/

/-- The password is read into its field and nowhere else. -/
theorem BackendConfig.ofProperties_alike {keys : Keyspace} {p q : Properties}
    (same : ∀ key, key ≠ keys.settingKey .password → p.get? key = q.get? key) :
    EndAlike Eq SameButPassword (ofProperties keys p) (ofProperties keys q) := by
  have setting : ∀ setting, setting ≠ .password →
      p.get? (keys.settingKey setting) = q.get? (keys.settingKey setting) :=
    fun _ other => same _ fun equal => other (Keyspace.settingKey_inj.1 equal)
  have timeout : timeoutOf keys p = timeoutOf keys q := by
    rw [timeoutOf, timeoutOf, setting .timeout (by decide)]
  have extra : (p.filterKeys fun key => !keys.isSetting key) =
      q.filterKeys fun key => !keys.isSetting key := by
    refine KeyMap.ext_get? fun key => ?_
    rw [KeyMap.get?_filterKeys, KeyMap.get?_filterKeys]
    by_cases password : key = keys.settingKey .password
    · have known : keys.isSetting key = true := Keyspace.isSetting_iff.2 ⟨.password, password⟩
      simp [known]
    · rw [same key password]
  rw [ofProperties, ofProperties, timeout]
  cases timeoutOf keys q with
  | error fault => exact .failed rfl
  | ok millis =>
    refine .done ?_
    simp only [SameButPassword, redacted, extra, setting .id (by decide),
      setting .url (by decide), setting .driver (by decide), setting .properties (by decide),
      setting .user (by decide)]

namespace Simulation

theorem blind_provider : provider.Blind where
  makeFactory _ := rfl
  decorate _ := rfl

end Simulation

namespace Sqlite

theorem blind_provider : provider.Blind where
  makeFactory _ := rfl
  decorate _ := rfl

end Sqlite

/-! ## What is shown -/

/-- The same is shown of both slices. -/
structure Slice.SameInPublic (first second : Slice) : Prop where
  place : first.place = second.place
  sameName : first.name = second.name
  written : first.config.toProperties false = second.config.toProperties false
  target : first.target = second.target

theorem Slice.Like.sameInPublic {first second : Slice}
    (like : first.Like BackendConfig.SameButPassword second) : first.SameInPublic second :=
  ⟨like.place, like.sameName, like.config.toProperties_eq, like.config.target_eq⟩

namespace Configuration

/-- The same is shown of both configurations. -/
structure SameInPublic (first second : Configuration) : Prop where
  keys : first.keys = second.keys
  unit : first.unit = second.unit
  lenient : first.lenient = second.lenient
  mode : first.mode = second.mode
  policyName : first.policyName = second.policyName
  written : first.global.toProperties false = second.global.toProperties false
  target : first.global.target = second.global.target
  slices : List.Forall₂ Slice.SameInPublic first.registry.slices second.registry.slices
  master : first.master.SameInPublic second.master

theorem Like.sameInPublic {first second : Configuration}
    (like : first.Like BackendConfig.SameButPassword second) (sameKeys : first.keys = second.keys) :
    first.SameInPublic second where
  keys := sameKeys
  unit := like.unit
  lenient := like.lenient
  mode := like.mode
  policyName := like.policyName
  written := like.global.toProperties_eq
  target := like.global.target_eq
  slices := like.slices.imp fun _ _ agree => agree.sameInPublic
  master := like.master.sameInPublic

theorem build_alike {keys : Keyspace} {p q : Properties} (policies : PolicyBook)
    (same : keys.SameButPasswords p q) :
    EndAlike Eq (Like BackendConfig.SameButPassword) (build keys policies p)
      (build keys policies q) := by
  refine build_endAlike same.control (fun _ _ _ => rfl) policies same.unit rfl same.scanned ?_ ?_ ?_
  · exact BackendConfig.ofProperties_alike fun _ other => same.globalProperties other
  · intro names found name member
    have dotFree := Keyspace.dotFree_of_discover found name member
    exact BackendConfig.ofProperties_alike fun _ other => same.partition dotFree other
  · intro first second id alike
    exact congrArg (fun config : BackendConfig => { config with id }) alike

/-- **Passwords never influence what is shown.** Of two namespaces with the same keys
that differ in passwords only, both are refused with one fault, or both are built.
What is then written without secrets, the targets and the master are the same; and
with a provider that never reads a password, in sessions that differ in passwords
only, both are composed to the same outcome, leave such sessions behind, and give the
same reports before and after. Where slices are probed on threads, the two runs are
compared in one order of the threads, and each order of the one is an order of the
other. -/
theorem passwords_unreported {keys : Keyspace} (policies : PolicyBook) {p q : Properties}
    (same : keys.SameButPasswords p q) :
    ((∃ fault, build keys policies p = .error fault ∧ build keys policies q = .error fault) ∨
      ∃ first second, build keys policies p = .ok first ∧ build keys policies q = .ok second ∧
        first.SameInPublic second ∧
        (∀ schedule, ∃ other, first.RunAlike second schedule other) ∧
        ∀ {σ F C : Type} (provider : Provider σ F C) (schedule other : Schedule)
          (session sessionToo : Session σ F C), provider.Blind →
          first.RunAlike second schedule other → session.redacted = sessionToo.redacted →
          let call := first.connectionFactory provider schedule session
          let callToo := second.connectionFactory provider other sessionToo
          call.1 = callToo.1 ∧ call.2.redacted = callToo.2.redacted ∧
            ∀ verify, (Report.collect first provider schedule verify session).1 =
                (Report.collect second provider other verify sessionToo).1 ∧
              (Report.collect first provider schedule verify call.2).1 =
                (Report.collect second provider other verify callToo.2).1) ∧
    Simulation.provider.Blind ∧ Sqlite.provider.Blind := by
  refine ⟨?_, Simulation.blind_provider, Sqlite.blind_provider⟩
  have builds := build_alike policies same
  generalize first_built : build keys policies p = first at builds ⊢
  generalize second_built : build keys policies q = second at builds ⊢
  cases builds with
  | @failed fault other equal =>
    subst equal
    exact .inl ⟨fault, rfl, rfl⟩
  | @done first second like =>
    have sameKeys : first.keys = second.keys := by
      rw [(accepted_of_build first_built).keys_eq, (accepted_of_build second_built).keys_eq]
    refine .inr ⟨first, second, rfl, rfl, like.sameInPublic sameKeys, ?_, ?_⟩
    · intro schedule
      obtain ⟨other, order⟩ := schedule.exists_runAlike like.slices.length_eq
      exact ⟨other, fun _ => order⟩
    · intro σ F C provider schedule other session sessionToo blind order sessions call callToo
      obtain ⟨answers, behind⟩ := Prod.ext_iff.1 (connectionFactory_alike blind like order sessions)
      refine ⟨answers, behind, fun verify => ⟨?_, ?_⟩⟩
      · exact (Prod.ext_iff.1 (Report.collect_alike blind sameKeys like order verify sessions)).1
      · exact (Prod.ext_iff.1 (Report.collect_alike blind sameKeys like order verify behind)).1

/-- A default password, and a slice with one of its own. -/
def guarded : Properties := .ofList [
  ("helios.slice.Names", "east,north"),
  ("helios.slice.Lenient", "true"),
  ("helios.ConnectionPassword", "shared"),
  ("helios.slice.east.ConnectionURL", "u1"),
  ("helios.slice.east.ConnectionPassword", "own")]

/-- Both passwords are changed. -/
def regarded : Properties :=
  (guarded.insert (Keyspace.settingKey default .password) "common").insert
    (Keyspace.sliceKey default "east" Setting.password.word) "other"

theorem guarded_accepted : (build default .standard guarded).toOption.isSome = true := by
  decide +kernel

theorem regarded_sameButPasswords : Keyspace.SameButPasswords default guarded regarded where
  sameKeys := by decide +kernel
  others key other := by
    have shared : Keyspace.settingKey default .password ≠ key :=
      fun same => other (.inl same.symm)
    have own : Keyspace.sliceKey default "east" Setting.password.word ≠ key :=
      fun same => other (.inr ⟨"east", by decide +kernel, same.symm⟩)
    simp [regarded, KeyMap.get?_insert, shared, own]

/-- A field in which the first target connects. -/
def guardedField : Simulation.Field :=
  Simulation.Field.empty.setSteady "u1" .connects true

theorem guarded_unreported :
    guarded ≠ regarded ∧ Keyspace.SameButPasswords default guarded regarded ∧
    Simulation.provider.Blind ∧
    ∃ first second, build default .standard guarded = .ok first ∧
      build default .standard regarded = .ok second ∧ first.SameInPublic second ∧
      ∃ other, first.RunAlike second .inOrder other ∧
        (Report.collect first Simulation.provider .inOrder true (.initial guardedField)).1 =
          (Report.collect second Simulation.provider other true (.initial guardedField)).1 := by
  have same := regarded_sameButPasswords
  obtain ⟨ends, blind, -⟩ := passwords_unreported .standard same
  rcases ends with ⟨fault, refused, -⟩ | ⟨first, second, built, builtToo, shown, orders, runs⟩
  · rw [eq_ok_get_toOption _ guarded_accepted] at refused
    cases refused
  · obtain ⟨other, order⟩ := orders .inOrder
    obtain ⟨-, -, reports⟩ := runs Simulation.provider .inOrder other (.initial guardedField)
      (.initial guardedField) blind order rfl
    exact ⟨by decide +kernel, same, blind, first, second, built, builtToo, shown, other, order,
      (reports true).1⟩

end Configuration

end SliceFleet
