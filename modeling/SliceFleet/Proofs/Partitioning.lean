/-
SliceFleet.Proofs.Partitioning — a slice's private properties, key by key.

What a slice states (`Keyspace.overrides`) is laid over what concerns all
slices together, and nothing else takes part (`partition_eq_overlay`). The
entries are routed one by one, and renaming could bring two of them under one
key; but a default that a slice overrides is not passed on, and a renamed key
is that of one override only (`route_injective`). So it does not matter in
which order the entries are gone through.
-/
import Mathlib.Data.List.Basic
import SliceFleet.Keyspace.Partition

namespace SliceFleet

namespace Keyspace

open Text

/-! ## Keys -/

theorem globalKey_inj {keys : Keyspace} {a b : String} :
    keys.globalKey a = keys.globalKey b ↔ a = b :=
  String.append_right_inj keys.globalLead

theorem sliceKey_inj {keys : Keyspace} {slice a b : String} :
    keys.sliceKey slice a = keys.sliceKey slice b ↔ a = b :=
  String.append_right_inj (keys.ownLead slice)

/-! Every key of the grammar is the root's lead and a rest that the root has no part in. -/

theorem controlKey_eq_globalKey (keys : Keyspace) (control : String) :
    keys.controlKey control = keys.globalKey ("slice." ++ control) :=
  String.append_assoc ..

theorem sliceKey_eq_globalKey (keys : Keyspace) (slice property : String) :
    keys.sliceKey slice property = keys.globalKey ("slice." ++ slice ++ "." ++ property) := by
  simp [sliceKey, ownLead, sliceLead, globalKey, String.append_assoc]

theorem beginsWith_sliceLead_globalKey (keys : Keyspace) (property : String) :
    beginsWith keys.sliceLead (keys.globalKey property) = beginsWith "slice." property :=
  beginsWith_append_append ..

/-- The keys of a slice are under the slice lead. -/
theorem beginsWith_sliceLead_sliceKey (keys : Keyspace) (slice property : String) :
    beginsWith keys.sliceLead (keys.sliceKey slice property) = true :=
  beginsWith_iff.2 ⟨slice ++ "." ++ property, by simp [sliceKey, ownLead, String.append_assoc]⟩

/-! ## Where an entry goes -/

variable {keys : Keyspace} {whole : Properties} {slice : String}

/-- The whole namespace lets a slice see this key as it is: it is not under the
slice lead, and the slice does not override it. -/
def Inherits (keys : Keyspace) (whole : Properties) (slice key : String) : Prop :=
  beginsWith keys.sliceLead key = false ∧
    ∀ property, key = keys.globalKey property → whole.get? (keys.sliceKey slice property) = none

/-- **Where an entry goes**: an override goes to the key of the default, a key
that the slice inherits stays, and nothing else is passed on. -/
theorem route_eq_some_iff {key value out passed : String} :
    keys.route whole slice (key, value) = some (out, passed) ↔ passed = value ∧
      ((∃ property, key = keys.sliceKey slice property ∧ out = keys.globalKey property) ∨
        out = key ∧ keys.Inherits whole slice key) := by
  have passes : ∀ place : String, (some (place, value) = some (out, passed) ↔
      passed = value ∧ out = place) := by
    intro place
    rw [Option.some.injEq, Prod.mk.injEq]
    exact ⟨fun same => ⟨same.2.symm, same.1.symm⟩, fun same => ⟨same.2.symm, same.1.symm⟩⟩
  rw [route]
  cases own : afterLead? (keys.ownLead slice) key with
  | some property =>
    have renamed : key = keys.sliceKey slice property := afterLead?_eq_some_iff.1 own
    subst renamed
    simp [passes, Inherits, sliceKey_inj, beginsWith_sliceLead_sliceKey]
  | none =>
    have others : ∀ property, key ≠ keys.sliceKey slice property := afterLead?_eq_none_iff.1 own
    cases lead : beginsWith keys.sliceLead key with
    | true => simp [others, Inherits, lead]
    | false =>
      cases known : afterLead? keys.globalLead key with
      | none =>
        have foreign : ∀ property, key ≠ keys.globalKey property := afterLead?_eq_none_iff.1 known
        simp [passes, others, Inherits, lead, foreign]
      | some property =>
        have default : key = keys.globalKey property := afterLead?_eq_some_iff.1 known
        subst default
        cases overridden : whole.get? (keys.sliceKey slice property) <;>
          simp [passes, others, Inherits, lead, globalKey_inj, KeyMap.contains, overridden]

/-- No two entries are routed to one key. -/
theorem route_injective {a b x y : String × String} (first : a ∈ whole.entries)
    (second : b ∈ whole.entries) (toX : keys.route whole slice a = some x)
    (toY : keys.route whole slice b = some y) (same : x.1 = y.1) : a = b := by
  obtain ⟨keyA, valueA⟩ := a
  obtain ⟨keyB, valueB⟩ := b
  have holdsA : whole.get? keyA = some valueA := KeyMap.get?_eq_some_iff.2 first
  have holdsB : whole.get? keyB = some valueB := KeyMap.get?_eq_some_iff.2 second
  have sameKey : keyA = keyB := by
    rcases route_eq_some_iff.1 toX with ⟨-, ⟨p, rfl, ownX⟩ | ⟨stayX, -, freeA⟩⟩
    · rcases route_eq_some_iff.1 toY with ⟨-, ⟨q, rfl, ownY⟩ | ⟨stayY, -, freeB⟩⟩
      · rw [ownX, ownY] at same
        rw [globalKey_inj.1 same]
      · -- A default that is overridden would have been left out.
        rw [freeB p (stayY.symm.trans (same.symm.trans ownX))] at holdsA
        cases holdsA
    · rcases route_eq_some_iff.1 toY with ⟨-, ⟨q, rfl, ownY⟩ | ⟨stayY, -, -⟩⟩
      · rw [freeA q (stayX.symm.trans (same.trans ownY))] at holdsB
        cases holdsB
      · exact stayX.symm.trans (same.trans stayY)
  subst sameKey
  rw [Option.some.inj (holdsA.symm.trans holdsB)]

theorem distinct_routed {entries : List (String × String)} (same : entries.Perm whole.entries) :
    KeyMap.Distinct (entries.filterMap (keys.route whole slice)) := by
  have apart := whole.distinct_entries.perm same.symm
  refine List.pairwise_filterMap.2 (apart.imp_of_mem fun {a b} first second different => ?_)
  intro x toX y toY
  exact fun clash => different (congrArg Prod.fst
    (route_injective (same.mem_iff.1 first) (same.mem_iff.1 second) toX toY clash))

/-! ## What a slice sees -/

/-- The properties that a slice states, under the keys of the defaults. -/
def overrides (keys : Keyspace) (whole : Properties) (slice : String) : Properties :=
  KeyMap.ofList (whole.entries.filterMap fun entry =>
    (afterLead? (keys.ownLead slice) entry.1).map fun property => (keys.globalKey property, entry.2))

theorem get?_overrides_eq_some_iff {key value : String} :
    (keys.overrides whole slice).get? key = some value ↔
      ∃ property, key = keys.globalKey property ∧
        whole.get? (keys.sliceKey slice property) = some value := by
  have distinct : KeyMap.Distinct (whole.entries.filterMap fun entry =>
      (afterLead? (keys.ownLead slice) entry.1).map fun property =>
        (keys.globalKey property, entry.2)) := by
    refine List.pairwise_filterMap.2 (whole.distinct_entries.imp fun {a b} different => ?_)
    intro x toX y toY clash
    obtain ⟨p, ownA, rfl⟩ := Option.map_eq_some_iff.1 toX
    obtain ⟨q, ownB, rfl⟩ := Option.map_eq_some_iff.1 toY
    rw [afterLead?_eq_some_iff.1 ownA, afterLead?_eq_some_iff.1 ownB,
      globalKey_inj.1 clash] at different
    exact different rfl
  rw [overrides, KeyMap.get?_ofList_eq_some_iff distinct, List.mem_filterMap]
  constructor
  · rintro ⟨entry, member, renamed⟩
    obtain ⟨property, own, same⟩ := Option.map_eq_some_iff.1 renamed
    obtain ⟨rfl, rfl⟩ := Prod.mk.inj same
    refine ⟨property, rfl, KeyMap.get?_eq_some_iff.2 ?_⟩
    rw [show keys.sliceKey slice property = entry.1 from (afterLead?_eq_some_iff.1 own).symm]
    exact member
  · rintro ⟨property, rfl, stated⟩
    refine ⟨(keys.sliceKey slice property, value), KeyMap.get?_eq_some_iff.1 stated, ?_⟩
    rw [sliceKey, afterLead?_append]
    rfl

/-- **What a slice sees**: what it states under the key of a default, and what
it inherits. -/
theorem get?_partition_eq_some_iff {key value : String} :
    (keys.partition whole slice).get? key = some value ↔
      (keys.overrides whole slice).get? key = some value ∨
        whole.get? key = some value ∧ keys.Inherits whole slice key := by
  rw [partition, KeyMap.get?_ofList_eq_some_iff (distinct_routed (.refl _)),
    List.mem_filterMap, get?_overrides_eq_some_iff]
  constructor
  · rintro ⟨⟨own, held⟩, member, routed⟩
    obtain ⟨rfl, ⟨property, rfl, rfl⟩ | ⟨rfl, inherits⟩⟩ := route_eq_some_iff.1 routed
    · exact .inl ⟨property, rfl, KeyMap.get?_eq_some_iff.2 member⟩
    · exact .inr ⟨KeyMap.get?_eq_some_iff.2 member, inherits⟩
  · rintro (⟨property, rfl, stated⟩ | ⟨held, inherits⟩)
    · exact ⟨_, KeyMap.get?_eq_some_iff.1 stated,
        route_eq_some_iff.2 ⟨rfl, .inl ⟨property, rfl, rfl⟩⟩⟩
    · exact ⟨_, KeyMap.get?_eq_some_iff.1 held, route_eq_some_iff.2 ⟨rfl, .inr ⟨rfl, inherits⟩⟩⟩

theorem get?_globalProperties (key : String) :
    (keys.globalProperties whole).get? key =
      if beginsWith keys.sliceLead key then none else whole.get? key := by
  rw [globalProperties, KeyMap.get?_filterKeys]
  cases beginsWith keys.sliceLead key <;> rfl

/-- A key that the slice does not override is seen as all slices see it. -/
theorem get?_partition_of_not_overridden {key : String}
    (free : ∀ property, key = keys.globalKey property →
      whole.get? (keys.sliceKey slice property) = none) :
    (keys.partition whole slice).get? key = (keys.globalProperties whole).get? key := by
  have unstated : ∀ value, (keys.overrides whole slice).get? key ≠ some value := by
    intro value stated
    obtain ⟨property, same, found⟩ := get?_overrides_eq_some_iff.1 stated
    rw [free property same] at found
    cases found
  refine Option.ext fun value => ?_
  rw [get?_partition_eq_some_iff, get?_globalProperties]
  cases lead : beginsWith keys.sliceLead key with
  | true => simp [unstated, Inherits, lead]
  | false =>
    have inherits : keys.Inherits whole slice key := ⟨lead, free⟩
    simp [unstated, inherits]

/-- A slice sees under the key of a default what it states, or else what is inherited. -/
theorem get?_partition_globalKey (keys : Keyspace) (whole : Properties) (slice property : String) :
    (keys.partition whole slice).get? (keys.globalKey property) =
      (whole.get? (keys.sliceKey slice property)).or
        (if beginsWith "slice." property then none else whole.get? (keys.globalKey property)) := by
  cases own : whole.get? (keys.sliceKey slice property) with
  | some value =>
    exact get?_partition_eq_some_iff.2 (.inl (get?_overrides_eq_some_iff.2 ⟨property, rfl, own⟩))
  | none =>
    have free : ∀ other, keys.globalKey property = keys.globalKey other →
        whole.get? (keys.sliceKey slice other) = none := by
      intro other same
      rw [← globalKey_inj.1 same, own]
    rw [get?_partition_of_not_overridden free, get?_globalProperties,
      beginsWith_sliceLead_globalKey]
    rfl

/-- A slice sees every key outside the root. -/
theorem get?_partition_of_foreign {key : String} (foreign : beginsWith keys.globalLead key = false) :
    (keys.partition whole slice).get? key = whole.get? key := by
  have free : ∀ property, key = keys.globalKey property →
      whole.get? (keys.sliceKey slice property) = none := by
    rintro property rfl
    have lead : beginsWith keys.globalLead (keys.globalKey property) = true :=
      beginsWith_iff.2 ⟨property, rfl⟩
    rw [lead] at foreign
    cases foreign
  have outside : beginsWith keys.sliceLead key = false := beginsWith_append_eq_false foreign _
  rw [get?_partition_of_not_overridden free, get?_globalProperties, outside]
  rfl

/-- What a slice sees depends on its own keys and on those outside the slice lead. -/
theorem partition_congr {p q : Properties}
    (outside : ∀ key, beginsWith keys.sliceLead key = false → p.get? key = q.get? key)
    (own : ∀ property, p.get? (keys.sliceKey slice property) = q.get? (keys.sliceKey slice property)) :
    keys.partition p slice = keys.partition q slice := by
  have inherits : ∀ key, keys.Inherits p slice key ↔ keys.Inherits q slice key := by
    intro key
    simp only [Inherits, own]
  refine KeyMap.ext_get? fun key => Option.ext fun value => ?_
  rw [get?_partition_eq_some_iff, get?_partition_eq_some_iff, get?_overrides_eq_some_iff,
    get?_overrides_eq_some_iff, inherits]
  simp only [own]
  refine or_congr_right (and_congr_left fun inherited => ?_)
  rw [outside key inherited.1]

/-- **A slice's properties**: those of all slices together, overlaid by its own.
Each key is decided by one entry, so the order of the entries does not matter. -/
theorem partition_eq_overlay (keys : Keyspace) (whole : Properties) (slice : String) :
    keys.partition whole slice =
      (keys.globalProperties whole).overlay (keys.overrides whole slice) ∧
    (∀ property value, whole.get? (keys.sliceKey slice property) = some value →
      (keys.partition whole slice).get? (keys.globalKey property) = some value) ∧
    (∀ key, (∀ property, key = keys.globalKey property →
        whole.get? (keys.sliceKey slice property) = none) →
      (keys.partition whole slice).get? key =
        if beginsWith keys.sliceLead key then none else whole.get? key) ∧
    (∀ a ∈ whole.entries, ∀ b ∈ whole.entries, ∀ x y, keys.route whole slice a = some x →
      keys.route whole slice b = some y → x.1 = y.1 → a = b) ∧
    ∀ entries : List (String × String), entries.Perm whole.entries →
      KeyMap.ofList (entries.filterMap (keys.route whole slice)) = keys.partition whole slice := by
  have stated : ∀ key value, (keys.overrides whole slice).get? key = some value →
      (keys.partition whole slice).get? key = some value :=
    fun key value own => get?_partition_eq_some_iff.2 (.inl own)
  have unstated : ∀ key, (∀ property, key = keys.globalKey property →
        whole.get? (keys.sliceKey slice property) = none) →
      (keys.partition whole slice).get? key = (keys.globalProperties whole).get? key :=
    fun key free => get?_partition_of_not_overridden free
  refine ⟨KeyMap.ext_get? fun key => ?_, ?_, ?_, ?_, ?_⟩
  · rw [KeyMap.get?_overlay]
    cases own : (keys.overrides whole slice).get? key with
    | some value => exact stated key value own
    | none =>
      refine unstated key fun property same => ?_
      refine Option.eq_none_iff_forall_ne_some.2 fun value found => ?_
      rw [get?_overrides_eq_some_iff.2 ⟨property, same, found⟩] at own
      cases own
  · intro property value found
    exact stated _ value (get?_overrides_eq_some_iff.2 ⟨property, rfl, found⟩)
  · intro key free
    rw [unstated key free, get?_globalProperties]
  · intro a first b second x y toX toY same
    exact route_injective first second toX toY same
  · intro entries same
    exact KeyMap.ofList_eq_of_perm (distinct_routed same) (same.filterMap _)

/-- A slice whose override turns into a key that looks like one of its own, and a
default that it overrides. -/
def crossing : Properties :=
  KeyMap.ofList [("helios.a", "1"), ("helios.slice.east.a", "2"),
    ("helios.slice.east.slice.east.a", "3"), ("helios.slice.Names", "east"), ("other", "4")]

theorem partition_crossing :
    (crossing.get? (sliceKey default "east" "slice.east.a") = some "3" ∧
      (partition default crossing "east").get? (globalKey default "slice.east.a") = some "3") ∧
    (∀ property, "other" = globalKey default property →
      crossing.get? (sliceKey default "east" property) = none) ∧
    (partition default crossing "east").get? "other" = some "4" := by
  obtain ⟨-, overridden, inherited, -⟩ := partition_eq_overlay default crossing "east"
  have foreign : ∀ property, "other" ≠ globalKey default property :=
    afterLead?_eq_none_iff.1 (by decide +kernel)
  have free : ∀ property, "other" = globalKey default property →
      crossing.get? (sliceKey default "east" property) = none :=
    fun property same => absurd same (foreign property)
  have stated : crossing.get? (sliceKey default "east" "slice.east.a") = some "3" := by
    decide +kernel
  refine ⟨⟨stated, overridden "slice.east.a" "3" stated⟩, free, ?_⟩
  exact (inherited "other" free).trans (by decide +kernel)

end Keyspace

end SliceFleet
