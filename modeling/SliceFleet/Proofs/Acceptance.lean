/-
SliceFleet.Proofs.Acceptance — which namespaces are accepted, and what is said of
the others.

Building asks for a legible flag, probe mode and timeout, for names without a
dot, for at least one name, and then for a legible timeout of each slice, in
this order (`requirements`). It succeeds exactly if all this is given, and
otherwise reports what is missing first (`build_ends_by_requirements`). A
slice's timeout is looked at only after partitioning, but by then the default
is known to be legible, so its own entry decides (`configOf_checks`). Nothing is
asked of a provider before the slices of what was built are to be composed.
-/
import Mathlib.Algebra.Group.Nat.Defs
import SliceFleet.Proofs.Calls
import SliceFleet.Proofs.DistinctNames
import SliceFleet.Proofs.Requirements

namespace SliceFleet

open Text Requirement

variable {keys : Keyspace} {whole : Properties}

/-! ## Legible values -/

def IsFlag (text : String) : Prop :=
  foldCase (trim text) ∈ ["true", "yes", "1", "false", "no", "0"]

def IsProbeMode (text : String) : Prop :=
  foldCase (trim text) ∈ ["sequential", "parallel"]

/-- A numeral of 64 bits, between blanks. -/
def IsTimeout (text : String) : Prop :=
  ∃ millis, IsNumeral (trim text) millis ∧ millis < 2 ^ 64

theorem Configuration.flagOfText?_isSome_iff {text : String} :
    (flagOfText? text).isSome = true ↔ IsFlag text := by
  rw [flagOfText?, IsFlag]
  split <;> simp_all

theorem ProbeMode.ofText?_isSome_iff {text : String} :
    (ofText? text).isSome = true ↔ IsProbeMode text := by
  rw [ofText?, IsProbeMode]
  split <;> simp_all

/-! ## Single steps -/

/-- Reading a control asks that its value is known. -/
theorem Configuration.readControl_checks {α : Type} {control : Control} {absent : α}
    {expected : Expected} {read : String → Option α} {Readable : String → Prop}
    (known : ∀ text, (read text).isSome = true ↔ Readable text) :
    Checks [readable whole (keys.controlKey control.word) (keys.controlKey control.word) expected
      Readable] (readControl keys whole control absent expected read) := by
  refine .of_readable (fun sound => ?_) fun text stated unreadable => ?_
  · rw [readControl, control?]
    cases stated : whole.get? (keys.controlKey control.word) with
    | none => exact ⟨absent, rfl⟩
    | some text =>
      obtain ⟨value, found⟩ := Option.isSome_iff_exists.1 ((known text).2 (sound text stated))
      exact ⟨value, by simp only [found]⟩
  · have unknown : read text = none := by
      rw [← Option.not_isSome_iff_eq_none, known]
      exact unreadable
    rw [readControl, control?, stated]
    dsimp only
    rw [unknown]

namespace BackendConfig

theorem timeoutOf_of_absent (absent : whole.get? (keys.settingKey .timeout) = none) :
    timeoutOf keys whole = .ok defaultTimeout := by
  rw [timeoutOf, absent]

theorem timeoutOf_of_legible {text : String}
    (stated : whole.get? (keys.settingKey .timeout) = some text)
    (legible : IsTimeout text) : ∃ millis, timeoutOf keys whole = .ok millis := by
  obtain ⟨millis, numeral, below⟩ := legible
  have read : numeralBelow timeoutBound (trim text) = .ok millis :=
    (numeralBelow_eq_ok_iff (by decide)).2 ⟨numeral, below⟩
  exact ⟨millis, by simp only [timeoutOf, stated, read]⟩

theorem timeoutOf_of_illegible {text : String}
    (stated : whole.get? (keys.settingKey .timeout) = some text) (illegible : ¬ IsTimeout text) :
    timeoutOf keys whole = .error (.invalidValue (keys.settingKey .timeout) text .timeout) := by
  cases read : numeralBelow timeoutBound (trim text) with
  | ok millis => exact absurd ⟨millis, (numeralBelow_eq_ok_iff (by decide)).1 read⟩ illegible
  | error fault => simp only [timeoutOf, stated, read]

/-- The timeout that these properties state, in milliseconds. -/
def StatesTimeout (keys : Keyspace) (p : Properties) (millis : Nat) : Prop :=
  match p.get? (keys.settingKey .timeout) with
  | none => millis = defaultTimeout
  | some text => IsNumeral (trim text) millis ∧ millis < 2 ^ 64

theorem timeoutOf_eq_ok_iff {millis : Nat} :
    timeoutOf keys whole = .ok millis ↔ StatesTimeout keys whole millis := by
  rw [timeoutOf, StatesTimeout]
  cases stated : whole.get? (keys.settingKey .timeout) with
  | none => exact ⟨fun same => (Except.ok.inj same).symm, fun same => by rw [same]⟩
  | some text =>
    dsimp only
    rw [show (2 : Nat) ^ 64 = timeoutBound by decide, ← numeralBelow_eq_ok_iff (by decide)]
    cases numeralBelow timeoutBound (trim text) <;> simp

/-- A configuration has the timeout that its properties state. -/
theorem statesTimeout_of_ofProperties {config : BackendConfig}
    (read : ofProperties keys whole = .ok config) : StatesTimeout keys whole config.timeout := by
  obtain ⟨millis, timeout, rest⟩ := exists_of_bind_eq_ok read
  cases rest
  exact timeoutOf_eq_ok_iff.1 timeout

/-- Reading a configuration can only fail on the timeout. -/
theorem ofProperties_checks {requirements : List Requirement}
    (checks : Checks requirements (timeoutOf keys whole)) :
    Checks requirements (ofProperties keys whole) :=
  checks.andThen fun _ => ⟨_, rfl⟩

end BackendConfig

/-! ## The defaults and the slices -/

theorem Keyspace.get?_globalProperties_settingKey (keys : Keyspace) (whole : Properties)
    (setting : Setting) :
    (keys.globalProperties whole).get? (keys.settingKey setting) =
      whole.get? (keys.settingKey setting) := by
  rw [get?_globalProperties, beginsWith_sliceLead_settingKey]
  rfl

/-- The timeout that is stated for all slices must be legible. -/
def globalTimeout (keys : Keyspace) (whole : Properties) : Requirement :=
  readable whole (keys.settingKey .timeout) (keys.settingKey .timeout) .timeout IsTimeout

theorem BackendConfig.ofGlobalProperties_checks :
    Checks [globalTimeout keys whole] (ofProperties keys (keys.globalProperties whole)) := by
  refine ofProperties_checks (.of_readable (fun sound => ?_) fun text stated illegible => ?_)
  · cases stated : (keys.globalProperties whole).get? (keys.settingKey .timeout) with
    | none => exact ⟨_, timeoutOf_of_absent stated⟩
    | some text =>
      refine timeoutOf_of_legible stated (sound text ?_)
      rw [← stated, Keyspace.get?_globalProperties_settingKey]
  · refine timeoutOf_of_illegible ?_ illegible
    rw [Keyspace.get?_globalProperties_settingKey, stated]

/-- A slice's setting is its own, or else the default. -/
theorem Keyspace.get?_partition_settingKey (keys : Keyspace) (whole : Properties) (slice : String)
    (setting : Setting) :
    (keys.partition whole slice).get? (keys.settingKey setting) =
      (whole.get? (keys.sliceKey slice setting.word)).or
        (whole.get? (keys.settingKey setting)) := by
  have outside : beginsWith "slice." setting.word = false := by
    rw [← beginsWith_sliceLead_globalKey keys]
    exact beginsWith_sliceLead_settingKey keys setting
  rw [settingKey, get?_partition_globalKey, outside]
  rfl

/-- A slice must have a legible timeout, if it has one of its own. A fault names the
key of the default. -/
def ownTimeout (keys : Keyspace) (whole : Properties) (slice : String) : Requirement :=
  readable whole (keys.sliceKey slice Setting.timeout.word) (keys.settingKey .timeout) .timeout
    IsTimeout

theorem Registry.configOf_checks {unit : String}
    (default : (globalTimeout keys whole).met) (name : String) :
    Checks [ownTimeout keys whole name] (configOf keys whole unit name) := by
  refine .andThen (BackendConfig.ofProperties_checks (.of_readable ?_ ?_)) fun _ => ⟨_, rfl⟩
  · intro sound
    cases stated : (keys.partition whole name).get? (keys.settingKey .timeout) with
    | none => exact ⟨_, BackendConfig.timeoutOf_of_absent stated⟩
    | some text =>
      refine BackendConfig.timeoutOf_of_legible stated ?_
      rw [Keyspace.get?_partition_settingKey, Option.or_eq_some_iff] at stated
      rcases stated with own | ⟨-, inherited⟩
      · exact sound text own
      · exact default text inherited
  · intro text own illegible
    refine BackendConfig.timeoutOf_of_illegible ?_ illegible
    rw [Keyspace.get?_partition_settingKey, own]
    rfl

theorem Registry.build_checks {unit : String} {names : List String}
    (default : (globalTimeout keys whole).met) (named : names ≠ []) :
    Checks (names.map (ownTimeout keys whole)) (build keys whole unit names) := by
  cases names with
  | nil => exact absurd rfl named
  | cons name rest =>
    rw [List.map_cons, ← List.singleton_append]
    refine (configOf_checks default name).bind fun _ _ => ?_
    exact (Checks.mapM (configOf_checks default) rest).andThen fun _ => ⟨_, rfl⟩

/-! ## Discovery -/

/-- Listed names must have no dot. -/
def undottedNames (keys : Keyspace) (whole : Properties) : Requirement :=
  let key := keys.controlKey Control.names.word
  readable whole key key .sliceNames Keyspace.Undotted

/-- There must be a name. -/
def someName (keys : Keyspace) (whole : Properties) : Requirement where
  met := keys.nominees whole ≠ []
  fault := keys.noSlices

theorem Keyspace.discover_checks :
    Checks [undottedNames keys whole, someName keys whole] (keys.discover whole) where
  succeeds all := by
    have undotted : (undottedNames keys whole).met := all _ List.mem_cons_self
    have named : keys.nominees whole ≠ [] := all (someName keys whole) (by simp)
    rw [discover_of_undotted undotted, if_neg (by simpa using named)]
    exact ⟨_, rfl⟩
  reports fault first := by
    cases first with
    | here dotted =>
      obtain ⟨list, listed, bad, same⟩ := exists_of_unreadable dotted
      exact (discover_of_dotted listed bad).trans (congrArg Except.error same.symm)
    | later undotted first =>
      cases first with
      | here unnamed =>
        have none : keys.nominees whole = [] := not_not.1 unnamed
        rw [discover_of_undotted undotted, none]
        rfl
      | later _ none => cases none

/-! ## The whole -/

namespace Configuration

/-- What concerns all slices together, in the order in which building looks at it. -/
def sharedRequirements (keys : Keyspace) (whole : Properties) : List Requirement :=
  let lenient := keys.controlKey Control.lenient.word
  let mode := keys.controlKey Control.probeMode.word
  [readable whole lenient lenient .flag IsFlag,
    readable whole mode mode .probeMode IsProbeMode,
    globalTimeout keys whole,
    undottedNames keys whole,
    someName keys whole]

/-- What building asks of a namespace: what concerns all slices, then the timeout of
each slice, in the order of their discovery. -/
def requirements (keys : Keyspace) (whole : Properties) : List Requirement :=
  sharedRequirements keys whole ++ (keys.nominees whole).map (ownTimeout keys whole)

theorem build_checks (keys : Keyspace) (policies : PolicyBook) (whole : Properties) :
    Checks (requirements keys whole) (build keys policies whole) := by
  have flag : Checks [_] (lenientOf keys whole) :=
    readControl_checks fun _ => flagOfText?_isSome_iff
  have mode : Checks [_] (modeOf keys whole) :=
    readControl_checks fun _ => ProbeMode.ofText?_isSome_iff
  refine flag.bind fun lenient _ => mode.bind fun mode _ => ?_
  refine BackendConfig.ofGlobalProperties_checks.bind fun global globalRead => ?_
  refine Keyspace.discover_checks.bind fun names found => ?_
  have default := BackendConfig.ofGlobalProperties_checks.allMet_of_ok globalRead
  have named : keys.nominees whole ≠ [] :=
    Keyspace.discover_checks.allMet_of_ok found (someName keys whole) (by simp)
  rw [(Keyspace.nominees_of_discover found).1] at named ⊢
  exact (Registry.build_checks (default _ List.mem_cons_self) named).andThen fun _ => ⟨_, rfl⟩

/-- **Which namespaces are accepted.** Building succeeds exactly if every requirement
is met, and otherwise reports the first that is not; the names that it goes
through are the discovered ones. No provider takes part: however what was built is
used, a provider is as it was, and nothing is in the journal, as long as nobody asks
for the composite. -/
theorem build_ends_by_requirements (keys : Keyspace) (policies : PolicyBook) (whole : Properties) :
    ((∃ config, build keys policies whole = .ok config) ↔ AllMet (requirements keys whole)) ∧
    (∀ fault, build keys policies whole = .error fault ↔
      FirstUnmet (requirements keys whole) fault) ∧
    (∀ names, keys.discover whole = .ok names → keys.nominees whole = names) ∧
    ∀ config, build keys policies whole = .ok config →
      ∀ {σ F C : Type} (provider : Provider σ F C) (backend : σ) (calls : List (Call σ F C)),
        (∀ call ∈ calls, call.isQuiet = true) →
          (config.afterCalls provider (.initial backend) calls).world = ⟨backend, []⟩ := by
  have checks := build_checks keys policies whole
  refine ⟨checks.succeeds_iff, fun _ => checks.reports_iff,
    fun _ found => (Keyspace.nominees_of_discover found).1, ?_⟩
  intro config _ σ F C provider backend calls quiet
  exact config.world_afterCalls provider quiet (.initial backend)

end Configuration

end SliceFleet
