/-
SliceFleet.Proofs.Isolation — what the properties of one slice can change.

Two namespaces that differ only in keys of one slice (`SameApartFrom`) give
every other slice the same properties, and agree on the controls, the defaults
and the listed names. What is built from them is then alike, function by
function: the registries place by place, and the configurations in all but the
one slice (`slices_isolated`). A slice that is not listed changes nothing at
all.
-/
import SliceFleet.Proofs.DiscoveredNames
import SliceFleet.Proofs.TwoBuilds

namespace SliceFleet

open Text

/-! ## Two readings of one list -/

theorem mapM_eq_of_agree {ε α β : Type} {first second : α → Except ε β} {items : List α}
    (agree : ∀ item ∈ items, first item = second item) : items.mapM first = items.mapM second := by
  induction items with
  | nil => rfl
  | cons item rest ih =>
    rw [List.mapM_cons, List.mapM_cons, agree item List.mem_cons_self,
      ih fun other member => agree other (List.mem_cons_of_mem _ member)]

theorem forall₂_of_common {α β γ : Type} {R : α → β → Prop} {S : α → γ → Prop} {T : β → γ → Prop}
    {items : List α} {firsts : List β} {seconds : List γ} (first : List.Forall₂ R items firsts)
    (second : List.Forall₂ S items seconds)
    (join : ∀ item ∈ items, ∀ a b, R item a → S item b → T a b) :
    List.Forall₂ T firsts seconds := by
  induction first generalizing seconds with
  | nil =>
    cases second
    exact .nil
  | cons made _ ih =>
    cases second with
    | cons madeToo others =>
      exact .cons (join _ List.mem_cons_self _ _ made madeToo)
        (ih others fun item member => join item (List.mem_cons_of_mem _ member))

/-! ## Two namespaces -/

namespace Keyspace

/-- The namespaces differ at most in keys of the named slice. -/
def SameApartFrom (keys : Keyspace) (name : String) (p q : Properties) : Prop :=
  ∀ key, (∀ property, key ≠ keys.sliceKey name property) → p.get? key = q.get? key

namespace SameApartFrom

variable {keys : Keyspace} {name other list : String} {p q : Properties}

theorem outside (same : keys.SameApartFrom name p q) {key : String}
    (apart : beginsWith keys.sliceLead key = false) : p.get? key = q.get? key := by
  refine same key ?_
  rintro property rfl
  rw [beginsWith_sliceLead_sliceKey] at apart
  cases apart

theorem setting (same : keys.SameApartFrom name p q) (setting : Setting) :
    p.get? (keys.settingKey setting) = q.get? (keys.settingKey setting) :=
  same.outside (beginsWith_sliceLead_settingKey keys setting)

theorem control (same : keys.SameApartFrom name p q) (control : Control) :
    p.get? (keys.controlKey control.word) = q.get? (keys.controlKey control.word) :=
  same _ (controlKey_ne_sliceKey (dotFree_word control) name)

theorem partition (same : keys.SameApartFrom name p q) (dotFree : DotFree name)
    (otherDotFree : DotFree other) (different : other ≠ name) :
    keys.partition p other = keys.partition q other := by
  refine partition_congr (fun key apart => same.outside apart) fun property => same _ ?_
  exact fun mine clash => different ((sliceKey_eq_sliceKey_iff otherDotFree dotFree).1 clash).1

theorem globalProperties (same : keys.SameApartFrom name p q) :
    keys.globalProperties p = keys.globalProperties q := by
  refine KeyMap.ext_get? fun key => ?_
  rw [get?_globalProperties, get?_globalProperties]
  cases apart : beginsWith keys.sliceLead key with
  | true => rfl
  | false => exact same.outside apart

/-- Where the names are listed, the keys of a slice do not matter to discovery. -/
theorem discover (same : keys.SameApartFrom name p q)
    (listed : p.get? (keys.controlKey Control.names.word) = some list) :
    keys.discover p = keys.discover q := by
  have listedToo := (same.control .names).symm.trans listed
  simp only [Keyspace.discover, listed, listedToo]

theorem insert (keys : Keyspace) (name : String) (p : Properties) (property value : String) :
    keys.SameApartFrom name p (p.insert (keys.sliceKey name property) value) :=
  fun _ foreign => by rw [KeyMap.get?_insert, if_neg (Ne.symm (foreign property))]

end SameApartFrom

end Keyspace

/-! ## Two registries -/

/-- The slices have one place and one name, and unless it is the given name, one
configuration. -/
structure Slice.AlikeApartFrom (name : String) (first second : Slice) : Prop where
  place : first.place = second.place
  sameName : first.name = second.name
  config : first.name ≠ name → first.config = second.config

namespace Registry

variable {keys : Keyspace} {name other unit : String} {p q : Properties} {names : List String}
  {first second : Registry}

theorem configOf_eq (same : keys.SameApartFrom name p q) (dotFree : DotFree name)
    (otherDotFree : DotFree other) (different : other ≠ name) :
    configOf keys p unit other = configOf keys q unit other := by
  rw [configOf, configOf, same.partition dotFree otherDotFree different]

/-- A slice that is not among the names does not matter to the registry. -/
theorem build_eq_of_not_mem (same : keys.SameApartFrom name p q) (dotFree : DotFree name)
    (dotFrees : ∀ listed ∈ names, DotFree listed) (absent : name ∉ names) :
    build keys p unit names = build keys q unit names := by
  have each : ∀ listed ∈ names, configOf keys p unit listed = configOf keys q unit listed :=
    fun listed member =>
      configOf_eq same dotFree (dotFrees listed member) fun clash => absent (clash ▸ member)
  cases names with
  | nil => rfl
  | cons head rest =>
    rw [build, build, each head List.mem_cons_self,
      mapM_eq_of_agree fun listed member => each listed (List.mem_cons_of_mem _ member)]

theorem placedFrom_alike {start : Nat} {entries others : List NamedConfig}
    (alike : List.Forall₂ (fun entry other => entry.1 = other.1 ∧
      (entry.1 ≠ name → entry.2 = other.2)) entries others) :
    List.Forall₂ (Slice.AlikeApartFrom name) (placedFrom start entries)
      (placedFrom start others) := by
  induction alike generalizing start with
  | nil => exact .nil
  | cons agree _ ih => exact .cons ⟨rfl, agree.1, agree.2⟩ ih

/-- Two registries of the same names are alike, place by place. -/
theorem slices_alike (same : keys.SameApartFrom name p q) (dotFree : DotFree name)
    (dotFrees : ∀ listed ∈ names, DotFree listed) (builtFirst : build keys p unit names = .ok first)
    (builtSecond : build keys q unit names = .ok second) :
    List.Forall₂ (Slice.AlikeApartFrom name) first.slices second.slices := by
  refine placedFrom_alike (forall₂_of_common (build_eq_ok_iff.1 builtFirst)
    (build_eq_ok_iff.1 builtSecond) fun listed member entry other made madeToo => ?_)
  have named : entry.1 = listed := name_of_configOf made
  refine ⟨named.trans (name_of_configOf madeToo).symm, fun different => ?_⟩
  rw [named] at different
  rw [configOf_eq same dotFree (dotFrees listed member) different, madeToo] at made
  rw [Except.ok.inj made]

end Registry

/-! ## Two configurations -/

namespace Configuration

variable {keys : Keyspace} {policies : PolicyBook} {name list : String} {p q : Properties}
  {first second : Configuration}

/-- The configurations agree in all but what one slice is configured to. -/
structure AlikeApartFrom (name : String) (first second : Configuration) : Prop where
  unit : first.unit = second.unit
  lenient : first.lenient = second.lenient
  mode : first.mode = second.mode
  policyName : first.policyName = second.policyName
  global : first.global = second.global
  names : first.registry.names = second.registry.names
  slices : List.Forall₂ (Slice.AlikeApartFrom name) first.registry.slices second.registry.slices
  master : first.master.AlikeApartFrom name second.master

theorem control?_eq (same : keys.SameApartFrom name p q) (control : Control) :
    control? keys p control = control? keys q control :=
  same.control control

theorem readControl_eq {α : Type} (same : keys.SameApartFrom name p q) (control : Control)
    (absent : α) (expected : Expected) (read : String → Option α) :
    readControl keys p control absent expected read =
      readControl keys q control absent expected read := by
  rw [readControl, readControl, control?_eq same]

theorem unitOf_eq (same : keys.SameApartFrom name p q) : unitOf keys p = unitOf keys q := by
  rw [unitOf, unitOf, same.setting]

theorem policyNameOf_eq (same : keys.SameApartFrom name p q) :
    policyNameOf keys p = policyNameOf keys q := by
  rw [policyNameOf, policyNameOf, control?_eq same]

theorem alikeApartFrom_of_build (dotFree : DotFree name) (same : keys.SameApartFrom name p q)
    (listed : p.get? (keys.controlKey Control.names.word) = some list)
    (builtFirst : build keys policies p = .ok first)
    (builtSecond : build keys policies q = .ok second) : AlikeApartFrom name first second := by
  have one := accepted_of_build builtFirst
  have two := accepted_of_build builtSecond
  have unit : first.unit = second.unit := by rw [one.unit, two.unit, unitOf_eq same]
  have names : first.registry.names = second.registry.names := by
    have found := one.discovered
    rw [same.discover listed, two.discovered] at found
    exact (Except.ok.inj found).symm
  have dotFrees : ∀ listed ∈ first.registry.names, DotFree listed := fun entry member =>
    (Keyspace.entry_of_discover listed one.discovered entry member).2
  have registered := two.registered
  rw [← unit, ← names] at registered
  have slices := Registry.slices_alike same dotFree dotFrees one.registered registered
  exact {
    unit, names, slices
    lenient := by
      have read := one.lenient
      rw [lenientOf, readControl_eq same, ← lenientOf, two.lenient] at read
      exact (Except.ok.inj read).symm
    mode := by
      have read := one.mode
      rw [modeOf, readControl_eq same, ← modeOf, two.mode] at read
      exact (Except.ok.inj read).symm
    policyName := by rw [one.policyName, two.policyName, policyNameOf_eq same]
    global := by
      have read := one.global
      rw [same.globalProperties, two.global] at read
      exact (Except.ok.inj read).symm
    master := by
      rw [one.master, two.master, control?_eq same]
      exact Registry.electMaster_related (fun agree => agree.place) (fun agree => agree.sameName)
        slices _ _
  }

theorem build_eq_of_unlisted (policies : PolicyBook) (dotFree : DotFree name)
    (same : keys.SameApartFrom name p q)
    (listed : p.get? (keys.controlKey Control.names.word) = some list)
    (absent : name ∉ Keyspace.listEntries list) :
    build keys policies p = build keys policies q := by
  simp only [build, lenientOf, modeOf, readControl_eq same, same.globalProperties,
    same.discover listed, unitOf_eq same, control?_eq same, policyNameOf_eq same]
  refine bind_congr fun lenient => bind_congr fun mode => bind_congr fun global => ?_
  cases found : keys.discover q with
  | error fault => rfl
  | ok names =>
    have listedToo := (same.control .names).symm.trans listed
    have entries := Keyspace.entry_of_discover listedToo found
    have registries : Registry.build keys p (unitOf keys q) names =
        Registry.build keys q (unitOf keys q) names :=
      Registry.build_eq_of_not_mem same dotFree (fun entry member => (entries entry member).2)
        fun member => absent (entries name member).1
    show (Registry.build keys p (unitOf keys q) names >>= _) =
      (Registry.build keys q (unitOf keys q) names >>= _)
    rw [registries]

/-- **Slices are isolated from each other.** Whatever the keys of one slice hold,
every other slice sees the same properties; where the slices are listed, two
configurations agree in all but what that slice is configured to; and a slice
that is not listed makes no difference, to a configuration or to a fault. -/
theorem slices_isolated (keys : Keyspace) (policies : PolicyBook) {name : String}
    {p q : Properties} (dotFree : DotFree name) (same : keys.SameApartFrom name p q) :
    (∀ other, DotFree other → other ≠ name → keys.partition p other = keys.partition q other) ∧
    ∀ list, p.get? (keys.controlKey Control.names.word) = some list →
      (∀ first second, build keys policies p = .ok first → build keys policies q = .ok second →
        AlikeApartFrom name first second) ∧
      (name ∉ Keyspace.listEntries list → build keys policies p = build keys policies q) := by
  refine ⟨fun other otherDotFree different => same.partition dotFree otherDotFree different, ?_⟩
  intro list listed
  refine ⟨fun first second builtFirst builtSecond => ?_, fun absent => ?_⟩
  · exact alikeApartFrom_of_build dotFree same listed builtFirst builtSecond
  · exact build_eq_of_unlisted policies dotFree same listed absent

/-- Two slices, the name of one beginning with that of the other. -/
def kin : Properties := .ofList [
  ("helios.slice.Names", "nor,north"),
  ("helios.slice.nor.ConnectionURL", "u1")]

/-- The second slice is given a target. -/
def kinMoved : Properties :=
  kin.insert (Keyspace.sliceKey default "north" "ConnectionURL") "u2"

/-- A slice that is not listed is given a bad timeout. -/
def kinStray : Properties :=
  kin.insert (Keyspace.sliceKey default "no" "ConnectTimeout") "soon"

theorem kin_accepted : (build default .standard kin).toOption.isSome = true := by
  decide +kernel

theorem kinMoved_accepted : (build default .standard kinMoved).toOption.isSome = true := by
  decide +kernel

theorem kin_isolated :
    (DotFree "north" ∧ Keyspace.SameApartFrom default "north" kin kinMoved) ∧
    (DotFree "no" ∧ Keyspace.SameApartFrom default "no" kin kinStray) ∧
    Keyspace.partition default kin "nor" = Keyspace.partition default kinMoved "nor" ∧
    (∃ first second, build default .standard kin = .ok first ∧
      build default .standard kinMoved = .ok second ∧ AlikeApartFrom "north" first second) ∧
    build default .standard kin = build default .standard kinStray := by
  have north : DotFree "north" := by decide +kernel
  have no : DotFree "no" := by decide +kernel
  have northOnly : Keyspace.SameApartFrom default "north" kin kinMoved :=
    .insert default "north" kin "ConnectionURL" "u2"
  have noOnly : Keyspace.SameApartFrom default "no" kin kinStray :=
    .insert default "no" kin "ConnectTimeout" "soon"
  have listed : kin.get? (Keyspace.controlKey default Control.names.word) = some "nor,north" := by
    decide +kernel
  have first := eq_ok_get_toOption _ kin_accepted
  have second := eq_ok_get_toOption _ kinMoved_accepted
  obtain ⟨others, builds⟩ := slices_isolated default .standard north northOnly
  obtain ⟨-, strays⟩ := slices_isolated default .standard no noOnly
  refine ⟨⟨north, northOnly⟩, ⟨no, noOnly⟩, ?_, ?_, ?_⟩
  · exact others "nor" (by decide +kernel) (by decide)
  · exact ⟨_, _, first, second, (builds _ listed).1 _ _ first second⟩
  · exact (strays _ listed).2 (by decide +kernel)

end Configuration

end SliceFleet
