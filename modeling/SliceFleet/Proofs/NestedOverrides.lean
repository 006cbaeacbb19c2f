/-
SliceFleet.Proofs.NestedOverrides — partitioning what was partitioned before.

A slice may override a key that begins like the slice lead itself: what it states under
`<root>.slice.<slice>.slice.` is renamed to a key under `<root>.slice.`, and nothing else
that a slice sees is there (`get?_partition_sliceLead`). Partitioned again, such a key is
renamed once more or dropped.

A namespace is its own partition just if it has no key under the slice lead
(`partition_eq_self_iff`). A key there would have to be what is left of a longer one, and
that of a longer one still, but some key of the namespace is the longest. So partitioning
twice is partitioning once exactly where no override nests the slice lead
(`partition_partition_eq_iff`).
-/
import Mathlib.Data.List.MinMax
import SliceFleet.Proofs.Partitioning

namespace SliceFleet.Keyspace

open Text

variable {keys : Keyspace} {whole : Properties} {slice : String}

/-- No key is under the slice lead. -/
def IsFlat (keys : Keyspace) (p : Properties) : Prop :=
  ∀ rest, p.get? (keys.sliceLead ++ rest) = none

theorem isFlat_iff {p : Properties} :
    keys.IsFlat p ↔ ∀ key, beginsWith keys.sliceLead key = true → p.get? key = none := by
  constructor
  · intro flat key under
    obtain ⟨rest, rfl⟩ := beginsWith_iff.1 under
    exact flat rest
  · intro none rest
    exact none _ (beginsWith_iff.2 ⟨rest, rfl⟩)

/-- **Under the slice lead** a slice sees what it states under keys that nest this lead,
and nothing else. -/
theorem get?_partition_sliceLead (keys : Keyspace) (whole : Properties) (slice rest : String) :
    (keys.partition whole slice).get? (keys.sliceLead ++ rest) =
      whole.get? (keys.sliceKey slice "slice." ++ rest) := by
  have renamed : keys.sliceLead ++ rest = keys.globalKey ("slice." ++ rest) :=
    controlKey_eq_globalKey keys rest
  have nested : keys.sliceKey slice "slice." ++ rest = keys.sliceKey slice ("slice." ++ rest) :=
    String.append_assoc ..
  have under : beginsWith "slice." ("slice." ++ rest) = true := beginsWith_iff.2 ⟨rest, rfl⟩
  rw [renamed, nested, get?_partition_globalKey, under, if_pos rfl, Option.or_none]

/-- A namespace that is flat is seen as it is. -/
theorem partition_of_isFlat (flat : keys.IsFlat whole) (slice : String) :
    keys.partition whole slice = whole := by
  have free : ∀ key property, key = keys.globalKey property →
      whole.get? (keys.sliceKey slice property) = none :=
    fun _ property _ => isFlat_iff.1 flat _ (beginsWith_sliceLead_sliceKey keys slice property)
  refine KeyMap.ext_get? fun key => ?_
  rw [get?_partition_of_not_overridden (free key), get?_globalProperties]
  cases under : beginsWith keys.sliceLead key with
  | true => exact (isFlat_iff.1 flat key under).symm
  | false => rfl

/-- The key that is renamed to this one is longer. -/
theorem length_lt_nested (keys : Keyspace) (slice rest : String) :
    (keys.sliceLead ++ rest).length < (keys.sliceKey slice "slice." ++ rest).length := by
  have word : "slice.".length = 6 := rfl
  simp only [sliceKey, ownLead, String.length_append, word]
  omega

/-- Of the keys under the slice lead, if there are any, one is the longest. -/
theorem exists_longest_of_not_isFlat (under : ¬ keys.IsFlat whole) :
    ∃ rest, (whole.get? (keys.sliceLead ++ rest)).isSome = true ∧
      ∀ other, (whole.get? (keys.sliceLead ++ other)).isSome = true →
        (keys.sliceLead ++ other).length ≤ (keys.sliceLead ++ rest).length := by
  let held := whole.keys.filter (beginsWith keys.sliceLead)
  have mem_held : ∀ key, key ∈ held ↔
      ∃ rest, key = keys.sliceLead ++ rest ∧ (whole.get? key).isSome = true := by
    intro key
    rw [List.mem_filter, KeyMap.mem_keys_iff, beginsWith_iff, KeyMap.contains]
    constructor
    · rintro ⟨there, rest, same⟩
      exact ⟨rest, same, there⟩
    · rintro ⟨rest, same, there⟩
      exact ⟨there, rest, same⟩
  obtain ⟨first, there⟩ : ∃ rest, whole.get? (keys.sliceLead ++ rest) ≠ none := by
    simpa [IsFlat] using under
  have some : held.argmax String.length ≠ none := by
    rw [ne_eq, List.argmax_eq_none]
    exact List.ne_nil_of_mem ((mem_held _).2 ⟨first, rfl, Option.isSome_iff_ne_none.2 there⟩)
  obtain ⟨key, longest⟩ := Option.ne_none_iff_exists'.1 some
  obtain ⟨rest, rfl, inWhole⟩ := (mem_held key).1 (List.argmax_mem longest)
  exact ⟨rest, inWhole, fun other there =>
    List.le_of_mem_argmax ((mem_held _).2 ⟨other, rfl, there⟩) longest⟩

/-- **No keys reproduce themselves** under the slice lead: each would be what is left of a
longer one there, and nothing is longer than the longest. -/
theorem isFlat_of_partition_eq_self (fixed : keys.partition whole slice = whole) :
    keys.IsFlat whole := by
  by_contra under
  obtain ⟨rest, there, longest⟩ := exists_longest_of_not_isFlat under
  have nested : keys.sliceKey slice "slice." ++ rest =
      keys.sliceLead ++ (slice ++ ".slice." ++ rest) := by
    simp [sliceKey, ownLead, String.append_assoc]
  have deeper : (whole.get? (keys.sliceKey slice "slice." ++ rest)).isSome = true := by
    rw [← get?_partition_sliceLead, fixed]
    exact there
  have shorter := length_lt_nested keys slice rest
  rw [nested] at deeper shorter
  exact absurd (longest _ deeper) (Nat.not_le_of_lt shorter)

/-- **A namespace is its own partition** just if it has no key under the slice lead. -/
theorem partition_eq_self_iff : keys.partition whole slice = whole ↔ keys.IsFlat whole :=
  ⟨isFlat_of_partition_eq_self, fun flat => partition_of_isFlat flat slice⟩

/-- **Partitioning twice is partitioning once** exactly if the slice overrides no key under
the slice lead. -/
theorem partition_partition_eq_iff (keys : Keyspace) (whole : Properties) (slice : String) :
    keys.partition (keys.partition whole slice) slice = keys.partition whole slice ↔
      ∀ key ∈ whole.keys, beginsWith (keys.sliceKey slice "slice.") key = false := by
  rw [partition_eq_self_iff]
  constructor
  · intro flat key member
    rw [← Bool.not_eq_true, beginsWith_iff]
    rintro ⟨rest, rfl⟩
    rw [KeyMap.mem_keys_iff, KeyMap.contains, ← get?_partition_sliceLead, flat rest] at member
    cases member
  · intro none rest
    rw [get?_partition_sliceLead]
    cases stated : whole.get? (keys.sliceKey slice "slice." ++ rest) with
    | none => rfl
    | some value =>
      have member : keys.sliceKey slice "slice." ++ rest ∈ whole.keys := by
        rw [KeyMap.mem_keys_iff, KeyMap.contains, stated]
        rfl
      have nests : beginsWith (keys.sliceKey slice "slice.")
          (keys.sliceKey slice "slice." ++ rest) = true := beginsWith_iff.2 ⟨rest, rfl⟩
      rw [none _ member] at nests
      cases nests

/-- What was nested overrides another default the second time. -/
example :
    let once := partition default crossing "east"
    once.get? "helios.a" = some "2" ∧
      (partition default once "east").get? "helios.a" = some "3" := by decide +kernel

end SliceFleet.Keyspace
