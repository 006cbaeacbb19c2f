/-
SliceFleet.Proofs.Contributions — which keys reach a slice, and by what grammar.

A key under the slice lead contributes to a slice if the slice finds its value
under some key, whatever the value is. It does so just if it is a key of that
slice, and then under the key of the default (`contributes_iff`). The grammar
asks for more: a property must not be empty and must stand on one line. So
partition and grammar agree on a key unless its property is one that the
grammar refuses (`followsGrammar_iff`), and there they differ: the key is
malformed, and the slice sees it all the same (`not_followsGrammar_trailing`).
-/
import SliceFleet.Proofs.KeyGrammar

namespace SliceFleet.Keyspace

open Text

variable {keys : Keyspace} {whole : Properties} {slice key out : String}

/-- The slice finds under `out` whatever value the whole namespace holds under `key`. -/
def Contributes (keys : Keyspace) (whole : Properties) (slice key out : String) : Prop :=
  ∀ value, (keys.partition (whole.insert key value) slice).get? out = some value

/-- The slice sees the key just as the grammar classifies it: under the key of the
default if it is data of that slice, and not at all otherwise. -/
def FollowsGrammar (keys : Keyspace) (whole : Properties) (slice key : String) : Prop :=
  ∀ out, keys.Contributes whole slice key out ↔
    ∃ property, keys.classify key = .data slice property ∧ out = keys.globalKey property

/-! ## One more entry -/

theorem partition_insert_of_foreign (lead : beginsWith keys.sliceLead key = true)
    (foreign : ∀ property, key ≠ keys.sliceKey slice property) (value : String) :
    keys.partition (whole.insert key value) slice = keys.partition whole slice := by
  refine partition_congr (fun other outside => ?_) fun property => ?_
  · have different : key ≠ other := fun same => by simp [← same, lead] at outside
    rw [KeyMap.get?_insert, if_neg different]
  · rw [KeyMap.get?_insert, if_neg (foreign property)]

/-- An entry of the slice's own is an entry under the key of the default. -/
theorem partition_insert_own (keys : Keyspace) (whole : Properties) (slice property value : String) :
    keys.partition (whole.insert (keys.sliceKey slice property) value) slice =
      (keys.partition whole slice).insert (keys.globalKey property) value := by
  refine KeyMap.ext_get? fun out => ?_
  rw [KeyMap.get?_insert]
  by_cases here : keys.globalKey property = out
  · rw [if_pos here]
    have stated := KeyMap.get?_insert_self whole (keys.sliceKey slice property) value
    exact get?_partition_eq_some_iff.2 (.inl (get?_overrides_eq_some_iff.2
      ⟨property, here.symm, stated⟩))
  · rw [if_neg here]
    have stated : ∀ other, out = keys.globalKey other →
        (whole.insert (keys.sliceKey slice property) value).get? (keys.sliceKey slice other) =
          whole.get? (keys.sliceKey slice other) := by
      rintro other rfl
      have different : property ≠ other := fun same => here (by rw [same])
      rw [KeyMap.get?_insert, if_neg fun same => different (sliceKey_inj.1 same)]
    have inherits : keys.Inherits (whole.insert (keys.sliceKey slice property) value) slice out ↔
        keys.Inherits whole slice out :=
      and_congr_right fun _ => forall_congr' fun other => imp_congr_right fun same => by
        rw [stated other same]
    have held : keys.Inherits whole slice out →
        (whole.insert (keys.sliceKey slice property) value).get? out = whole.get? out := by
      rintro ⟨outside, -⟩
      refine (KeyMap.get?_insert ..).trans (if_neg fun same => ?_)
      rw [← same, beginsWith_sliceLead_sliceKey] at outside
      cases outside
    refine Option.ext fun found => ?_
    rw [get?_partition_eq_some_iff, get?_partition_eq_some_iff, get?_overrides_eq_some_iff,
      get?_overrides_eq_some_iff, inherits]
    refine or_congr (exists_congr fun other => and_congr_right fun same => ?_)
      (and_congr_left fun inherited => ?_)
    · rw [stated other same]
    · rw [held inherited]

/-! ## Contributions -/

/-- A key under the slice lead contributes just if it is one of the slice's own. -/
theorem contributes_iff (lead : beginsWith keys.sliceLead key = true) :
    keys.Contributes whole slice key out ↔
      ∃ property, key = keys.sliceKey slice property ∧ out = keys.globalKey property := by
  -- A value that does not depend on what the key holds can not be every value.
  have fixed : ∀ found : Option String, ¬ ∀ value : String, found = some value := by
    intro found same
    have clash : some "0" = some "1" := (same "0").symm.trans (same "1")
    exact absurd (Option.some.inj clash) (by decide)
  constructor
  · intro contributes
    by_cases own : ∃ property, key = keys.sliceKey slice property
    · obtain ⟨property, rfl⟩ := own
      refine ⟨property, rfl, ?_⟩
      by_contra elsewhere
      refine fixed ((keys.partition whole slice).get? out) fun value => ?_
      have found := contributes value
      rwa [partition_insert_own, KeyMap.get?_insert, if_neg (Ne.symm elsewhere)] at found
    · refine absurd (fun value => ?_) (fixed ((keys.partition whole slice).get? out))
      have found := contributes value
      rwa [partition_insert_of_foreign lead fun property same => own ⟨property, same⟩] at found
  · rintro ⟨property, rfl, rfl⟩ value
    rw [partition_insert_own, KeyMap.get?_insert_self]

/-- What a contributing key holds is what the slice finds. -/
theorem Contributes.get?_partition (contributes : keys.Contributes whole slice key out)
    {value : String} (held : whole.get? key = some value) :
    (keys.partition whole slice).get? out = some value := by
  have found := contributes value
  rwa [KeyMap.insert_eq_self held] at found

/-! ## Partition and grammar -/

/-- A malformed key of a slice contributes to it, against the grammar. -/
theorem not_followsGrammar_of_malformed {property : String}
    (malformed : keys.classify (keys.sliceKey slice property) = .malformed) :
    ¬ keys.FollowsGrammar whole slice (keys.sliceKey slice property) := by
  intro follows
  have contributes : keys.Contributes whole slice (keys.sliceKey slice property)
      (keys.globalKey property) :=
    (contributes_iff (beginsWith_sliceLead_sliceKey keys slice property)).2 ⟨property, rfl, rfl⟩
  obtain ⟨_, data, -⟩ := (follows _).1 contributes
  rw [malformed] at data
  cases data

/-- **Where partition and grammar agree.** Of a named slice, exactly its data and
its malformed keys contribute, each under the key of the default, with what it
holds; so the partition follows the grammar at a key unless this is a key of the
slice whose property is empty or broken by a line feed. -/
theorem followsGrammar_iff {keys : Keyspace} {whole : Properties} {slice key : String}
    (named : slice ≠ "") (dotFree : DotFree slice) (lead : beginsWith keys.sliceLead key = true) :
    (∀ out, keys.Contributes whole slice key out ↔
      ∃ property, out = keys.globalKey property ∧
        (keys.classify key = .data slice property ∨
          keys.classify key = .malformed ∧ key = keys.sliceKey slice property)) ∧
    (∀ out value, keys.Contributes whole slice key out → whole.get? key = some value →
      (keys.partition whole slice).get? out = some value) ∧
    (keys.FollowsGrammar whole slice key ↔
      ∀ property, key = keys.sliceKey slice property →
        property ≠ "" ∧ '\n' ∉ property.toList) := by
  refine ⟨fun out => ?_, fun out value contributes held => contributes.get?_partition held, ?_, ?_⟩
  · rw [contributes_iff lead]
    refine exists_congr fun property => and_comm.trans (and_congr_right fun _ => ?_)
    constructor
    · rintro rfl
      rw [classify_sliceKey keys dotFree]
      split
      · exact .inr ⟨rfl, rfl⟩
      · exact .inl rfl
    · rintro (data | ⟨-, same⟩)
      · exact (classify_eq_data_iff.1 data).1
      · exact same
  · rintro follows property rfl
    have sound : ¬ (slice = "" ∨ property = "" ∨ '\n' ∈ property.toList) := by
      intro refused
      refine not_followsGrammar_of_malformed ?_ follows
      rw [classify_sliceKey keys dotFree, if_pos refused]
    exact ⟨fun empty => sound (.inr (.inl empty)), fun broken => sound (.inr (.inr broken))⟩
  · intro sound out
    rw [contributes_iff lead]
    refine exists_congr fun property => and_congr_left fun _ => ?_
    rw [classify_eq_data_iff]
    constructor
    · intro same
      obtain ⟨stated, unbroken⟩ := sound property same
      exact ⟨same, dotFree, by simp [named, stated, unbroken]⟩
    · exact fun data => data.1

/-- A slice with a sound property, one that is empty, and one with a line feed. -/
def trailing : Properties :=
  KeyMap.ofList [("helios.slice.east.", "1"), ("helios.slice.east.a\nb", "2"),
    ("helios.slice.east.c", "3")]

theorem trailing_follows_at_sound_key :
    ("east" ≠ "" ∧ DotFree "east" ∧
      beginsWith (sliceLead default) "helios.slice.east.c" = true) ∧
    FollowsGrammar default trailing "east" "helios.slice.east.c" := by
  have named : "east" ≠ "" := by decide
  have dotFree : DotFree "east" := by decide +kernel
  have lead : beginsWith (sliceLead default) "helios.slice.east.c" = true := by decide +kernel
  refine ⟨⟨named, dotFree, lead⟩, (followsGrammar_iff named dotFree lead).2.2.2 ?_⟩
  intro property same
  have stated : property = "c" := sliceKey_inj.1 (same.symm.trans (by decide +kernel))
  subst stated
  decide +kernel

/-- The other two keys are malformed, and the slice sees them. -/
theorem not_followsGrammar_trailing :
    (∀ key ∈ ["helios.slice.east.", "helios.slice.east.a\nb"],
      classify default key = .malformed ∧ ¬ FollowsGrammar default trailing "east" key) ∧
    (partition default trailing "east").get? "helios." = some "1" ∧
    (partition default trailing "east").get? "helios.a\nb" = some "2" := by
  refine ⟨?_, by decide +kernel, by decide +kernel⟩
  have malformed : ∀ property ∈ ["", "a\nb"],
      classify default (sliceKey default "east" property) = .malformed := by decide +kernel
  have differs : ∀ property ∈ ["", "a\nb"],
      ¬ FollowsGrammar default trailing "east" (sliceKey default "east" property) :=
    fun property member => not_followsGrammar_of_malformed (malformed property member)
  have written : ["helios.slice.east.", "helios.slice.east.a\nb"] =
      ["", "a\nb"].map (sliceKey default "east") := by decide +kernel
  rw [written]
  intro key member
  obtain ⟨property, among, rfl⟩ := List.mem_map.1 member
  exact ⟨malformed property among, differs property among⟩

end SliceFleet.Keyspace
