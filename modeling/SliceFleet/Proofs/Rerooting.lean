/-
SliceFleet.Proofs.Rerooting — a namespace moved under another root.

Moving replaces the lead of the old root by that of the new one, in every key
that has it (`Keyspace.reroot`). It needs room: no key outside the old root may
be under the new one already. Then no two keys are moved to one, so the moved
namespace holds under each new key what the old one held under the old key
(`get?_reroot_globalKey`), and outside the new root it holds what was outside
the old one (`get?_reroot_of_foreign`).

Every key of the grammar is the lead of the root and a rest in which the root
has no part. So a key means the same before and after it is moved
(`classify_rerootKey`), the same slices own properties (`scannedNames_reroot`),
and a slice sees its moved properties (`partition_reroot`). The two roots may
be any texts, also one the beginning of the other.
-/
import SliceFleet.Proofs.DiscoveredNames

namespace SliceFleet.Keyspace

open Text

variable {old new : Keyspace} {p : Properties} {key value slice : String}

/-! ## Moving keys -/

/-- The key under the new root, if it is under the old one. -/
def rerootKey (old new : Keyspace) (key : String) : String :=
  match afterLead? old.globalLead key with
  | some property => new.globalKey property
  | none => key

/-- The namespace with every key under the old root moved under the new one. -/
def reroot (old new : Keyspace) (p : Properties) : Properties :=
  KeyMap.ofList (p.entries.map fun entry => (old.rerootKey new entry.1, entry.2))

/-- No key outside the old root is under the new one. -/
def HasRoom (old new : Keyspace) (p : Properties) : Prop :=
  ∀ key, p.contains key = true → beginsWith old.globalLead key = false →
    beginsWith new.globalLead key = false

theorem beginsWith_globalLead_globalKey (keys : Keyspace) (property : String) :
    beginsWith keys.globalLead (keys.globalKey property) = true :=
  beginsWith_iff.2 ⟨property, rfl⟩

theorem foreign_iff {keys : Keyspace} :
    beginsWith keys.globalLead key = false ↔ ∀ property, key ≠ keys.globalKey property := by
  rw [← Bool.not_eq_true, beginsWith_iff, not_exists]
  rfl

@[simp] theorem rerootKey_globalKey (old new : Keyspace) (property : String) :
    old.rerootKey new (old.globalKey property) = new.globalKey property := by
  simp [rerootKey, globalKey]

theorem rerootKey_of_foreign (foreign : beginsWith old.globalLead key = false) :
    old.rerootKey new key = key := by
  simp [rerootKey, afterLead?_eq_none_of_not_beginsWith foreign]

/-- A key is under the root or outside. -/
theorem exists_globalKey_or_foreign (keys : Keyspace) (key : String) :
    (∃ property, key = keys.globalKey property) ∨ beginsWith keys.globalLead key = false := by
  cases lead : beginsWith keys.globalLead key with
  | true => exact .inl (beginsWith_iff.1 lead)
  | false => exact .inr rfl

/-- With room, no two keys are moved to one. -/
theorem rerootKey_inj (room : old.HasRoom new p) {other : String} (held : p.contains key = true)
    (heldToo : p.contains other = true) (same : old.rerootKey new key = old.rerootKey new other) :
    key = other := by
  rcases old.exists_globalKey_or_foreign key with ⟨x, rfl⟩ | foreign <;>
    rcases old.exists_globalKey_or_foreign other with ⟨y, rfl⟩ | foreignToo
  · simp only [rerootKey_globalKey, globalKey_inj] at same
    rw [same]
  · rw [rerootKey_globalKey, rerootKey_of_foreign foreignToo] at same
    exact absurd same.symm (foreign_iff.1 (room other heldToo foreignToo) x)
  · rw [rerootKey_globalKey, rerootKey_of_foreign foreign] at same
    exact absurd same (foreign_iff.1 (room key held foreign) y)
  · rwa [rerootKey_of_foreign foreign, rerootKey_of_foreign foreignToo] at same

/-! ## What the moved namespace holds -/

theorem get?_reroot_eq_some_iff (room : old.HasRoom new p) :
    (old.reroot new p).get? key = some value ↔
      ∃ origin, old.rerootKey new origin = key ∧ p.get? origin = some value := by
  have distinct : KeyMap.Distinct
      (p.entries.map fun entry => (old.rerootKey new entry.1, entry.2)) := by
    refine List.pairwise_map.2 (p.distinct_entries.imp_of_mem fun {a b} first second different => ?_)
    intro clash
    have held : ∀ entry ∈ p.entries, p.contains entry.1 = true := fun entry member =>
      KeyMap.mem_keys_iff.1 (List.mem_map_of_mem member)
    exact different (rerootKey_inj room (held a first) (held b second) clash)
  rw [reroot, KeyMap.get?_ofList_eq_some_iff distinct, List.mem_map]
  constructor
  · rintro ⟨⟨origin, held⟩, member, same⟩
    obtain ⟨rfl, rfl⟩ := Prod.mk.inj same
    exact ⟨origin, rfl, KeyMap.get?_eq_some_iff.2 member⟩
  · rintro ⟨origin, rfl, held⟩
    exact ⟨(origin, value), KeyMap.get?_eq_some_iff.1 held, rfl⟩

/-- Under the new root stands what stood under the old one. -/
theorem get?_reroot_globalKey (room : old.HasRoom new p) (property : String) :
    (old.reroot new p).get? (new.globalKey property) = p.get? (old.globalKey property) := by
  refine Option.ext fun value => ?_
  rw [get?_reroot_eq_some_iff room]
  constructor
  · rintro ⟨origin, moved, held⟩
    rcases old.exists_globalKey_or_foreign origin with ⟨other, rfl⟩ | foreign
    · rw [rerootKey_globalKey, globalKey_inj] at moved
      rw [← moved, held]
    · rw [rerootKey_of_foreign foreign] at moved
      have outside := room origin (by simp [KeyMap.contains, held]) foreign
      exact absurd moved (foreign_iff.1 outside property)
  · intro held
    exact ⟨_, rerootKey_globalKey old new property, held⟩

/-- Outside the new root stands what stood outside the old one. -/
theorem get?_reroot_of_foreign (room : old.HasRoom new p)
    (foreign : beginsWith new.globalLead key = false) :
    (old.reroot new p).get? key =
      if beginsWith old.globalLead key then none else p.get? key := by
  refine Option.ext fun value => ?_
  rw [get?_reroot_eq_some_iff room]
  constructor
  · rintro ⟨origin, rfl, held⟩
    rcases old.exists_globalKey_or_foreign origin with ⟨other, rfl⟩ | outside
    · rw [rerootKey_globalKey, beginsWith_globalLead_globalKey] at foreign
      cases foreign
    · rw [rerootKey_of_foreign outside, outside]
      exact held
  · intro held
    cases outside : beginsWith old.globalLead key with
    | true => simp [outside] at held
    | false => exact ⟨key, rerootKey_of_foreign outside, by simpa [outside] using held⟩

/-- A namespace is known by what it holds under a root and outside. -/
theorem ext_get?_of_root (keys : Keyspace) {p q : Properties}
    (under : ∀ property, p.get? (keys.globalKey property) = q.get? (keys.globalKey property))
    (outside : ∀ key, beginsWith keys.globalLead key = false → p.get? key = q.get? key) : p = q := by
  refine KeyMap.ext_get? fun key => ?_
  rcases keys.exists_globalKey_or_foreign key with ⟨property, rfl⟩ | foreign
  · exact under property
  · exact outside key foreign

/-! ## Grammar and discovery -/

/-- **A key means the same** before and after it is moved. -/
theorem classify_rerootKey (room : beginsWith old.globalLead key = false →
      beginsWith new.globalLead key = false) :
    new.classify (old.rerootKey new key) = old.classify key := by
  rcases old.exists_globalKey_or_foreign key with ⟨property, rfl⟩ | foreign
  · rw [rerootKey_globalKey]
    exact classify_globalKey new old property
  · rw [rerootKey_of_foreign foreign, classify_of_foreign foreign,
      classify_of_foreign (room foreign)]

theorem mem_keys_reroot_iff : key ∈ (old.reroot new p).keys ↔
    ∃ origin ∈ p.keys, old.rerootKey new origin = key := by
  rw [reroot, KeyMap.mem_keys_ofList_iff, ← List.mem_map, KeyMap.keys, List.map_map, List.map_map]
  rfl

/-- The same slices own properties. -/
theorem scannedNames_reroot (room : old.HasRoom new p) :
    new.scannedNames (old.reroot new p) = old.scannedNames p := by
  have owner : ∀ key ∈ p.keys, new.owner? (old.rerootKey new key) = old.owner? key := by
    intro key held
    rw [owner?, owner?, classify_rerootKey (room key (KeyMap.mem_keys_iff.1 held))]
  refine KeyMap.keys_eq_of_mem_iff fun name => ?_
  show name ∈ new.scannedNames (old.reroot new p) ↔ name ∈ old.scannedNames p
  rw [mem_scannedNames_iff, mem_scannedNames_iff]
  constructor
  · rintro ⟨_, moved, owned⟩
    obtain ⟨origin, held, rfl⟩ := mem_keys_reroot_iff.1 moved
    exact ⟨origin, held, by rw [← owner origin held, owned]⟩
  · rintro ⟨origin, held, owned⟩
    exact ⟨_, mem_keys_reroot_iff.2 ⟨origin, held, rfl⟩, by rw [owner origin held, owned]⟩

/-! ## What a slice sees -/

theorem HasRoom.partition (room : old.HasRoom new p) (slice : String) :
    old.HasRoom new (old.partition p slice) := by
  intro key seen foreign
  rw [KeyMap.contains, get?_partition_of_foreign foreign] at seen
  exact room key seen foreign

/-- **A slice sees its moved properties.** -/
theorem partition_reroot (room : old.HasRoom new p) (slice : String) :
    new.partition (old.reroot new p) slice = old.reroot new (old.partition p slice) := by
  refine ext_get?_of_root new (fun property => ?_) fun key foreign => ?_
  · simp only [get?_reroot_globalKey (room.partition slice), get?_partition_globalKey,
      sliceKey_eq_globalKey, get?_reroot_globalKey room]
  · rw [get?_partition_of_foreign foreign, get?_reroot_of_foreign room foreign,
      get?_reroot_of_foreign (room.partition slice) foreign]
    cases outside : beginsWith old.globalLead key with
    | true => rfl
    | false => simp [get?_partition_of_foreign outside]

theorem get?_globalProperties_globalKey (keys : Keyspace) (whole : Properties) (property : String) :
    (keys.globalProperties whole).get? (keys.globalKey property) =
      if beginsWith "slice." property then none else whole.get? (keys.globalKey property) := by
  rw [get?_globalProperties, beginsWith_sliceLead_globalKey]

theorem get?_globalProperties_of_foreign {keys : Keyspace} {whole : Properties}
    (foreign : beginsWith keys.globalLead key = false) :
    (keys.globalProperties whole).get? key = whole.get? key := by
  have outside : beginsWith keys.sliceLead key = false := beginsWith_append_eq_false foreign _
  rw [get?_globalProperties, outside]
  rfl

theorem HasRoom.globalProperties (room : old.HasRoom new p) :
    old.HasRoom new (old.globalProperties p) := by
  intro key seen foreign
  rw [KeyMap.contains, get?_globalProperties_of_foreign foreign] at seen
  exact room key seen foreign

theorem globalProperties_reroot (room : old.HasRoom new p) :
    new.globalProperties (old.reroot new p) = old.reroot new (old.globalProperties p) := by
  refine ext_get?_of_root new (fun property => ?_) fun key foreign => ?_
  · simp only [get?_reroot_globalKey room.globalProperties, get?_globalProperties_globalKey,
      get?_reroot_globalKey room]
  · rw [get?_globalProperties_of_foreign foreign, get?_reroot_of_foreign room foreign,
      get?_reroot_of_foreign room.globalProperties foreign]
    cases outside : beginsWith old.globalLead key with
    | true => rfl
    | false => simp [get?_globalProperties_of_foreign outside]

end SliceFleet.Keyspace
