/-
SliceFleet.Proofs.TwoBuilds — two buildings compared step by step.

Two computations end alike (`EndAlike`) if both fail, with related faults, or
both succeed, with related results. A further step keeps this, and so does a
pass through a list. So two namespaces, perhaps under two roots, are built
alike as soon as they agree on the controls and on the owners of properties
and their parts are read alike (`Configuration.build_endAlike`): what holds
between the configurations of single backends then holds place by place.
-/
import SliceFleet.Proofs.Accepted

namespace SliceFleet

theorem map_eq_of_forall₂ {α β γ : Type} {R : α → β → Prop} {f : α → γ} {g : β → γ}
    {firsts : List α} {seconds : List β} (related : List.Forall₂ R firsts seconds)
    (same : ∀ first second, R first second → f first = g second) :
    firsts.map f = seconds.map g := by
  induction related with
  | nil => rfl
  | cons agree _ ih => rw [List.map_cons, List.map_cons, same _ _ agree, ih]

/-! ## Two computations -/

/-- Both fail, with related faults, or both succeed, with related results. -/
inductive EndAlike {ε δ α β : Type} (Faults : ε → δ → Prop) (Results : α → β → Prop) :
    Except ε α → Except δ β → Prop where
  | failed {fault : ε} {other : δ} :
    Faults fault other → EndAlike Faults Results (.error fault) (.error other)
  | done {result : α} {other : β} :
    Results result other → EndAlike Faults Results (.ok result) (.ok other)

namespace EndAlike

variable {ε δ α β γ κ : Type} {Faults : ε → δ → Prop} {Results : α → β → Prop}
  {Later : γ → κ → Prop} {first : Except ε α} {second : Except δ β}

/-- Further steps that end alike behind related results. -/
theorem bind {next : α → Except ε γ} {nextToo : β → Except δ κ}
    (alike : EndAlike Faults Results first second)
    (steps : ∀ result other, first = .ok result → Results result other →
      EndAlike Faults Later (next result) (nextToo other)) :
    EndAlike Faults Later (first >>= next) (second >>= nextToo) := by
  cases alike with
  | failed faults => exact .failed faults
  | done results => exact steps _ _ rfl results

theorem imp {Weaker : α → β → Prop} (alike : EndAlike Faults Results first second)
    (weaken : ∀ result other, Results result other → Weaker result other) :
    EndAlike Faults Weaker first second := by
  cases alike with
  | failed faults => exact .failed faults
  | done results => exact .done (weaken _ _ results)

/-- A success of the first computation is one of the second. -/
theorem exists_of_ok (alike : EndAlike Faults Results first second) {result : α}
    (done : first = .ok result) : ∃ other, second = .ok other ∧ Results result other := by
  cases alike with
  | failed faults => cases done
  | done results =>
    cases done
    exact ⟨_, rfl, results⟩

theorem mapM {read : γ → Except ε α} {readToo : γ → Except δ β} {items : List γ}
    (each : ∀ item ∈ items, EndAlike Faults Results (read item) (readToo item)) :
    EndAlike Faults (List.Forall₂ Results) (items.mapM read) (items.mapM readToo) := by
  induction items with
  | nil => exact .done .nil
  | cons item rest ih =>
    obtain ⟨head, tail⟩ := List.forall_mem_cons.1 each
    rw [List.mapM_cons, List.mapM_cons]
    refine head.bind fun result other _ related => (ih tail).bind fun results others _ relateds => ?_
    exact .done (.cons related relateds)

end EndAlike

/-! ## Two registries -/

/-- The slices have one place and one name, and related configurations. -/
structure Slice.Like (Configs : BackendConfig → BackendConfig → Prop) (first second : Slice) :
    Prop where
  place : first.place = second.place
  sameName : first.name = second.name
  config : Configs first.config second.config

namespace Registry

variable {Configs : BackendConfig → BackendConfig → Prop} {first second : Registry}

/-- The entries have one name and related configurations. -/
def EntryLike (Configs : BackendConfig → BackendConfig → Prop) (entry other : NamedConfig) : Prop :=
  entry.1 = other.1 ∧ Configs entry.2 other.2

theorem placedFrom_like {start : Nat} {entries others : List NamedConfig}
    (like : List.Forall₂ (EntryLike Configs) entries others) :
    List.Forall₂ (Slice.Like Configs) (placedFrom start entries) (placedFrom start others) := by
  induction like generalizing start with
  | nil => exact .nil
  | cons agree _ ih => exact .cons ⟨rfl, agree.1, agree.2⟩ ih

theorem names_eq_of_like (like : List.Forall₂ (Slice.Like Configs) first.slices second.slices) :
    first.names = second.names :=
  map_eq_of_forall₂ like fun _ _ agree => agree.sameName

/-! ## Two elections -/

section Elections

variable {R : Slice → Slice → Prop} (place : ∀ {slice other}, R slice other → slice.place = other.place)
  (sameName : ∀ {slice other}, R slice other → slice.name = other.name)

include sameName in
theorem find_related {slices others : List Slice} (related : List.Forall₂ R slices others)
    {slice other : Slice} (fallback : R slice other) (wanted : String) :
    R ((slices.find? fun slice => slice.name == wanted).getD slice)
      ((others.find? fun slice => slice.name == wanted).getD other) := by
  induction related with
  | nil => exact fallback
  | @cons head head' _ _ agree _ ih =>
    rw [List.find?_cons, List.find?_cons, ← sameName agree]
    cases head.name == wanted with
    | true => exact agree
    | false => exact ih

include place sameName in
/-- An election looks at places and names only. -/
theorem electMaster_related (related : List.Forall₂ R first.slices second.slices) (board : Board)
    (wanted : Option String) :
    R (first.electMaster board wanted) (second.electMaster board wanted) := by
  have heads : R first.first second.first := by
    rw [slices_eq, slices_eq] at related
    exact (List.forall₂_cons.1 related).1
  have actives : List.Forall₂ R (first.withStatus board [.active])
      (second.withStatus board [.active]) := by
    refine List.rel_filter (fun slice other agree => ?_) related
    have status : board.of slice = board.of other := congrArg board.status (place agree)
    show [Status.active].contains (board.of slice) = true ↔
      [Status.active].contains (board.of other) = true
    rw [status]
  cases wanted with
  | none => exact heads
  | some wanted =>
    have together : (first.withStatus board [.active]).isEmpty =
        (second.withStatus board [.active]).isEmpty := by
      rw [Bool.eq_iff_iff, List.isEmpty_iff_length_eq_zero, List.isEmpty_iff_length_eq_zero,
        actives.length_eq]
    rw [electMaster, electMaster, together]
    split
    · exact find_related sameName related heads _
    · exact find_related sameName actives heads _

end Elections

/-! ## Two buildings -/

variable {keys others : Keyspace} {p q : Properties} {Faults : SliceFault → SliceFault → Prop}

theorem build_endAlike {unit : String} {names : List String}
    (none : Faults keys.noSlices others.noSlices)
    (each : ∀ name ∈ names, EndAlike Faults (EntryLike Configs) (configOf keys p unit name)
      (configOf others q unit name)) :
    EndAlike Faults (fun first second => List.Forall₂ (Slice.Like Configs) first.slices second.slices)
      (build keys p unit names) (build others q unit names) := by
  cases names with
  | nil => exact .failed none
  | cons name rest =>
    obtain ⟨head, tail⟩ := List.forall_mem_cons.1 each
    refine head.bind fun entry other _ agree => ?_
    refine (EndAlike.mapM tail).bind fun entries others _ agrees => ?_
    exact .done (placedFrom_like (.cons agree agrees))

end Registry

namespace Configuration

variable {keys others : Keyspace} {p q : Properties} {Faults : SliceFault → SliceFault → Prop}
  {Configs : BackendConfig → BackendConfig → Prop}

/-- The configurations agree on the controls and the names, and are related in what
each backend is configured to. -/
structure Like (Configs : BackendConfig → BackendConfig → Prop) (first second : Configuration) :
    Prop where
  unit : first.unit = second.unit
  lenient : first.lenient = second.lenient
  mode : first.mode = second.mode
  policyName : first.policyName = second.policyName
  policies : first.policies = second.policies
  global : Configs first.global second.global
  slices : List.Forall₂ (Slice.Like Configs) first.registry.slices second.registry.slices
  master : Slice.Like Configs first.master second.master

section

variable (controls : ∀ control, control? keys p control = control? others q control)
  (invalid : ∀ control text expected,
    Faults (.invalidValue (keys.controlKey (Control.word control)) text expected)
      (.invalidValue (others.controlKey (Control.word control)) text expected))

include controls invalid

theorem readControl_endAlike {α : Type} (control : Control) (absent : α) (expected : Expected)
    (read : String → Option α) :
    EndAlike Faults Eq (readControl keys p control absent expected read)
      (readControl others q control absent expected read) := by
  rw [readControl, readControl, ← controls control]
  cases control? keys p control with
  | none => exact .done rfl
  | some text =>
    dsimp only
    cases read text with
    | none => exact .failed (invalid control text expected)
    | some value => exact .done rfl

theorem discover_endAlike (none : Faults keys.noSlices others.noSlices)
    (scanned : keys.scannedNames p = others.scannedNames q) :
    EndAlike Faults Eq (keys.discover p) (others.discover q) := by
  have same := controls .names
  rw [control?, control?] at same
  rw [Keyspace.discover, Keyspace.discover, ← same, ← scanned]
  have checked : ∀ names : List String, EndAlike Faults Eq
      (if names.isEmpty = true then Except.error keys.noSlices else .ok names)
      (if names.isEmpty = true then Except.error others.noSlices else .ok names) := by
    intro names
    split
    · exact .failed none
    · exact .done rfl
  cases p.get? (keys.controlKey Control.names.word) with
  | none => exact checked _
  | some list =>
    simp only [Keyspace.listedNames]
    split
    · exact .failed (invalid .names list .sliceNames)
    · exact checked _

/-- **Two namespaces are built alike** if they agree on the controls, the unit and the
owners of properties, and the defaults and each discovered slice are read alike. -/
theorem build_endAlike (policies : PolicyBook) (units : unitOf keys p = unitOf others q)
    (none : Faults keys.noSlices others.noSlices)
    (scanned : keys.scannedNames p = others.scannedNames q)
    (global : EndAlike Faults Configs (BackendConfig.ofProperties keys (keys.globalProperties p))
      (BackendConfig.ofProperties others (others.globalProperties q)))
    (each : ∀ names, keys.discover p = .ok names → ∀ name ∈ names, EndAlike Faults Configs
      (BackendConfig.ofProperties keys (keys.partition p name))
      (BackendConfig.ofProperties others (others.partition q name)))
    (identified : ∀ first second id, Configs first second →
      Configs { first with id } { second with id }) :
    EndAlike Faults (Like Configs) (build keys policies p) (build others policies q) := by
  have policyNames : policyNameOf keys p = policyNameOf others q := by
    rw [policyNameOf, policyNameOf, controls]
  refine (readControl_endAlike controls invalid ..).bind fun _ _ _ lenient => ?_
  refine (readControl_endAlike controls invalid ..).bind fun _ _ _ mode => ?_
  refine global.bind fun _ _ _ global => ?_
  refine (discover_endAlike controls invalid none scanned).bind fun names _ found sameNames => ?_
  subst sameNames
  have entries : ∀ name ∈ names, EndAlike Faults (Registry.EntryLike Configs)
      (Registry.configOf keys p (unitOf others q) name)
      (Registry.configOf others q (unitOf others q) name) := fun name member =>
    (each names found name member).bind fun own ownToo _ related =>
      .done ⟨rfl, identified own ownToo _ related⟩
  rw [units]
  refine (Registry.build_endAlike none entries).bind fun registry registryToo _ slices => ?_
  have master : Slice.Like Configs (registry.electMaster .blank (control? keys p .master))
      (registryToo.electMaster .blank (control? others q .master)) := by
    rw [controls .master]
    exact Registry.electMaster_related (fun agree => agree.place) (fun agree => agree.sameName)
      slices _ _
  exact .done ⟨rfl, lenient, mode, policyNames, rfl, global, slices, master⟩

end

end Configuration

end SliceFleet
