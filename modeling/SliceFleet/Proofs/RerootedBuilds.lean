/-
SliceFleet.Proofs.RerootedBuilds — the root is only a lead.

A namespace that is moved under another root is read to the same
configurations, with the new root and with what is kept verbatim moved along
(`BackendConfig.ofProperties_reroot`). So it is built to the same unit,
controls, slices and master, or refused for the same reason, which names the
key under the new root (`Configuration.same_under_roots`).
-/
import SliceFleet.Proofs.Rerooting
import SliceFleet.Proofs.TwoBuilds

namespace SliceFleet

open Text

variable {old new : Keyspace} {p : Properties}

/-! ## Faults -/

/-- The faults are of one kind and name one key, under the one root and the other. -/
inductive SliceFault.Rerooted (old new : Keyspace) : SliceFault → SliceFault → Prop where
  | noSlices : Rerooted old new old.noSlices new.noSlices
  | invalidValue (property value : String) (expected : Expected) :
    Rerooted old new (.invalidValue (old.globalKey property) value expected)
      (.invalidValue (new.globalKey property) value expected)

/-! ## Reading -/

namespace Keyspace

/-- Which keys are settings does not depend on the root. -/
theorem isSetting_globalKey (keys others : Keyspace) (property : String) :
    keys.isSetting (keys.globalKey property) = others.isSetting (others.globalKey property) := by
  have word : ∀ (keys : Keyspace) (setting : Setting),
      (keys.settingKey setting == keys.globalKey property) = (setting.word == property) := by
    intro keys setting
    rw [Bool.eq_iff_iff, beq_iff_eq, beq_iff_eq]
    exact globalKey_inj
  simp only [isSetting, word]

theorem isSetting_of_foreign {keys : Keyspace} {key : String}
    (foreign : beginsWith keys.globalLead key = false) : keys.isSetting key = false := by
  rw [← Bool.not_eq_true, isSetting_iff]
  rintro ⟨setting, same⟩
  exact foreign_iff.1 foreign setting.word same

theorem HasRoom.filterKeys (room : old.HasRoom new p) (keep : String → Bool) :
    old.HasRoom new (p.filterKeys keep) := by
  intro key kept foreign
  refine room key ?_ foreign
  rw [KeyMap.contains, KeyMap.get?_filterKeys] at kept
  split at kept
  · exact kept
  · cases kept

theorem filterKeys_reroot (room : old.HasRoom new p) :
    ((old.reroot new p).filterKeys fun key => !new.isSetting key) =
      old.reroot new (p.filterKeys fun key => !old.isSetting key) := by
  refine ext_get?_of_root new (fun property => ?_) fun key foreign => ?_
  · simp only [KeyMap.get?_filterKeys, get?_reroot_globalKey room,
      get?_reroot_globalKey (room.filterKeys _), isSetting_globalKey new old]
  · rw [KeyMap.get?_filterKeys, isSetting_of_foreign foreign, get?_reroot_of_foreign room foreign,
      get?_reroot_of_foreign (room.filterKeys _) foreign]
    cases outside : beginsWith old.globalLead key with
    | true => rfl
    | false => simp [KeyMap.get?_filterKeys, isSetting_of_foreign outside]

end Keyspace

namespace BackendConfig

/-- The configuration under another root, with what it keeps verbatim moved along. -/
def rerooted (old new : Keyspace) (config : BackendConfig) : BackendConfig :=
  { config with root := new.root, extra := old.reroot new config.extra }

/-- The second configuration is the first one under another root. -/
def MovedTo (old new : Keyspace) (first second : BackendConfig) : Prop :=
  second = first.rerooted old new

theorem MovedTo.target_eq {first second : BackendConfig} (moved : first.MovedTo old new second) :
    first.target = second.target := by
  rw [moved]
  rfl

theorem get?_reroot_settingKey (room : old.HasRoom new p) (setting : Setting) :
    (old.reroot new p).get? (new.settingKey setting) = p.get? (old.settingKey setting) :=
  Keyspace.get?_reroot_globalKey room setting.word

theorem timeoutOf_reroot (room : old.HasRoom new p) :
    EndAlike (SliceFault.Rerooted old new) Eq (timeoutOf old p)
      (timeoutOf new (old.reroot new p)) := by
  rw [timeoutOf, timeoutOf, get?_reroot_settingKey room]
  cases p.get? (old.settingKey .timeout) with
  | none => exact .done rfl
  | some text =>
    dsimp only
    cases numeralBelow timeoutBound (trim text) with
    | ok millis => exact .done rfl
    | error cause => exact .failed (.invalidValue Setting.timeout.word text .timeout)

/-- **A moved namespace is read** to the moved configuration. -/
theorem ofProperties_reroot (room : old.HasRoom new p) :
    EndAlike (SliceFault.Rerooted old new) (MovedTo old new) (ofProperties old p)
      (ofProperties new (old.reroot new p)) := by
  refine (timeoutOf_reroot room).bind fun millis _ _ same => ?_
  subst same
  refine .done ?_
  simp only [MovedTo, rerooted, get?_reroot_settingKey room, Keyspace.filterKeys_reroot room]

end BackendConfig

/-! ## Building -/

namespace Configuration

theorem control?_reroot (room : old.HasRoom new p) (control : Control) :
    control? old p control = control? new (old.reroot new p) control := by
  rw [control?, control?, Keyspace.controlKey_eq_globalKey, Keyspace.controlKey_eq_globalKey,
    Keyspace.get?_reroot_globalKey room]

/-- A control is reported under the key that it has under each root. -/
theorem rerooted_control (old new : Keyspace) (control : Control) (text : String)
    (expected : Expected) :
    SliceFault.Rerooted old new (.invalidValue (old.controlKey control.word) text expected)
      (.invalidValue (new.controlKey control.word) text expected) := by
  rw [Keyspace.controlKey_eq_globalKey, Keyspace.controlKey_eq_globalKey]
  exact .invalidValue _ text expected

theorem build_reroot (policies : PolicyBook) (room : old.HasRoom new p) :
    EndAlike (SliceFault.Rerooted old new) (Like (BackendConfig.MovedTo old new))
      (build old policies p) (build new policies (old.reroot new p)) := by
  refine build_endAlike (control?_reroot room) (rerooted_control old new) policies ?_ .noSlices
    (Keyspace.scannedNames_reroot room).symm ?_ ?_ ?_
  · rw [unitOf, unitOf, BackendConfig.get?_reroot_settingKey room]
  · rw [Keyspace.globalProperties_reroot room]
    exact BackendConfig.ofProperties_reroot room.globalProperties
  · intro names _ name _
    rw [Keyspace.partition_reroot room]
    exact BackendConfig.ofProperties_reroot (room.partition name)
  · intro first second id moved
    rw [moved]
    rfl

/-- The configurations differ in the root only: in what they are read from, and in the
keys of what is kept verbatim. -/
structure SameUnderRoots (old new : Keyspace) (first second : Configuration) : Prop where
  like : Like (BackendConfig.MovedTo old new) first second
  names : first.registry.names = second.registry.names
  ids : first.registry.slices.map (·.config.id) = second.registry.slices.map (·.config.id)
  targets : first.registry.slices.map (·.target) = second.registry.slices.map (·.target)
  globalTarget : first.global.target = second.global.target

theorem Like.sameUnderRoots {first second : Configuration}
    (like : Like (BackendConfig.MovedTo old new) first second) :
    SameUnderRoots old new first second where
  like := like
  names := Registry.names_eq_of_like like.slices
  ids := map_eq_of_forall₂ like.slices fun _ _ agree => by rw [agree.config]; rfl
  targets := map_eq_of_forall₂ like.slices fun _ _ agree => agree.config.target_eq
  globalTarget := like.global.target_eq

/-- **The root is only a lead.** A namespace that is moved under another root, be it any
text, means the same key by key, and so does every other key under the roots; the same
slices are discovered, or none for the same reason; every slice sees its moved
properties; and both namespaces are refused for the same reason or built to the same
configuration, under one root and the other. -/
theorem same_under_roots (policies : PolicyBook) {old new : Keyspace} {p : Properties}
    (room : old.HasRoom new p) :
    (∀ property, new.classify (new.globalKey property) = old.classify (old.globalKey property)) ∧
    (∀ key, p.contains key = true → new.classify (old.rerootKey new key) = old.classify key) ∧
    EndAlike (SliceFault.Rerooted old new) Eq (old.discover p) (new.discover (old.reroot new p)) ∧
    (∀ slice, new.partition (old.reroot new p) slice = old.reroot new (old.partition p slice)) ∧
    EndAlike (SliceFault.Rerooted old new) (SameUnderRoots old new) (build old policies p)
      (build new policies (old.reroot new p)) := by
  refine ⟨Keyspace.classify_globalKey new old, ?_, ?_, Keyspace.partition_reroot room, ?_⟩
  · intro key held
    exact Keyspace.classify_rerootKey (room key held)
  · exact discover_endAlike (control?_reroot room) (rerooted_control old new) .noSlices
      (Keyspace.scannedNames_reroot room).symm
  · exact (build_reroot policies room).imp fun _ _ like => like.sameUnderRoots

/-- Two slices, a default and a key outside the root. -/
def anchored : Properties := .ofList [
  ("helios.Id", "fleet"),
  ("helios.slice.Names", "east,north"),
  ("helios.slice.east.ConnectionURL", "u1"),
  ("helios.slice.east.slice.east.a", "1"),
  ("other.slice.west.a", "2")]

/-- A root under the slice lead of the old one, with characters that patterns use. -/
def nestedRoot : Keyspace := ⟨"helios.slice.east.(a*"⟩

theorem anchored_accepted : (build default .standard anchored).toOption.isSome = true := by
  decide +kernel

theorem anchored_hasRoom : Keyspace.HasRoom default nestedRoot anchored := by
  have each : ∀ key ∈ anchored.keys, beginsWith (Keyspace.globalLead default) key = false →
      beginsWith nestedRoot.globalLead key = false := by decide +kernel
  intro key held
  exact each key (KeyMap.mem_keys_iff.2 held)

theorem anchored_moves :
    Keyspace.HasRoom default nestedRoot anchored ∧
    (anchored.contains "helios.slice.east.ConnectionURL" = true ∧
      nestedRoot.classify (Keyspace.rerootKey default nestedRoot "helios.slice.east.ConnectionURL") =
        Keyspace.classify default "helios.slice.east.ConnectionURL") ∧
    ∃ first second, build default .standard anchored = .ok first ∧
      build nestedRoot .standard (Keyspace.reroot default nestedRoot anchored) = .ok second ∧
      SameUnderRoots default nestedRoot first second := by
  have room := anchored_hasRoom
  have held : anchored.contains "helios.slice.east.ConnectionURL" = true := by decide +kernel
  obtain ⟨-, means, -, -, builds⟩ := same_under_roots .standard room
  have built := eq_ok_get_toOption _ anchored_accepted
  obtain ⟨second, builtToo, same⟩ := builds.exists_of_ok built
  exact ⟨room, ⟨held, means _ held⟩, _, second, built, builtToo, same⟩

end Configuration

end SliceFleet
