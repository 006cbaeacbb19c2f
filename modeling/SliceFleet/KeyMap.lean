/-
SliceFleet.KeyMap — finite maps from text keys, in key order.

A map is the list of its entries, strictly ascending by key (by the Unicode
scalar values of the keys, first difference first). The order is part of the
type, so a map lists its entries in one way only: two maps with the same
value under every key are equal (`KeyMap.ext_get?`), and how a map came about
leaves no trace in it.

Every operation is described by what it does to the value under a key:
`get?_insert`, `get?_erase`, `get?_filter`, `get?_overlay`.
-/

namespace SliceFleet

/-- A finite map from texts to `α`: its entries, strictly ascending by key. -/
structure KeyMap (α : Type) where
  entries : List (String × α)
  ascending : entries.Pairwise fun a b => a.1 < b.1

namespace KeyMap

variable {α : Type}

theorem ext_entries {p q : KeyMap α} (h : p.entries = q.entries) : p = q := by
  cases p
  cases q
  cases h
  rfl

instance [DecidableEq α] : DecidableEq (KeyMap α) := fun p q =>
  decidable_of_iff (p.entries = q.entries) ⟨ext_entries, fun h => h ▸ rfl⟩

/-! ## Order of keys -/

theorem key_lt_or_eq_or_gt (a b : String) : a < b ∨ a = b ∨ b < a := by
  by_cases h : a < b
  · exact .inl h
  · by_cases h' : b < a
    · exact .inr (.inr h')
    · exact .inr (.inl (String.le_antisymm h' h))

theorem key_ne_of_lt {a b : String} (h : a < b) : a ≠ b := by
  rintro rfl
  exact String.lt_irrefl a h

theorem not_gt_of_lt {a b : String} (h : a < b) : ¬ b < a :=
  fun above => String.lt_irrefl a (String.lt_trans h above)

/-- Two lists in one strict order are equal if they have the same members. -/
theorem eq_of_ordered {β : Type} {before : β → β → Prop}
    (strict : ∀ {a b : β}, before a b → ¬ before b a) {xs ys : List β} (first : xs.Pairwise before)
    (second : ys.Pairwise before) (same : ∀ a, a ∈ xs ↔ a ∈ ys) : xs = ys := by
  have apart : ∀ {items : List β}, items.Pairwise before → items.Nodup := by
    intro items ordered
    refine ordered.imp fun {a b} earlier equal => ?_
    subst equal
    exact strict earlier earlier
  have perm : xs.Perm ys := (List.perm_ext_iff_of_nodup (apart first) (apart second)).2 same
  exact perm.eq_of_pairwise (fun _ _ _ _ earlier later => absurd later (strict earlier)) first second

/-! ## Lists of entries -/

/-- The value of the first entry with this key. -/
def find? (key : String) : List (String × α) → Option α
  | [] => none
  | entry :: rest => if entry.1 = key then some entry.2 else find? key rest

/-- Puts an entry in its place, in the place of an entry with the same key. -/
def place (key : String) (value : α) : List (String × α) → List (String × α)
  | [] => [(key, value)]
  | entry :: rest =>
    if key < entry.1 then (key, value) :: entry :: rest
    else if key = entry.1 then (key, value) :: rest
    else entry :: place key value rest

theorem mem_of_mem_place {key : String} {value : α} {entry : String × α}
    {entries : List (String × α)} (h : entry ∈ place key value entries) :
    entry = (key, value) ∨ entry ∈ entries := by
  induction entries with
  | nil => simp_all [place]
  | cons first rest ih =>
    rw [place] at h
    split at h
    · grind
    · split at h <;> grind

theorem place_ascending {key : String} {value : α} {entries : List (String × α)}
    (h : entries.Pairwise fun a b => a.1 < b.1) :
    (place key value entries).Pairwise fun a b => a.1 < b.1 := by
  induction entries with
  | nil => simp [place]
  | cons first rest ih =>
    obtain ⟨above, tail⟩ := List.pairwise_cons.1 h
    rw [place]
    split
    · rename_i before
      refine List.pairwise_cons.2 ⟨fun entry member => ?_, h⟩
      rcases List.mem_cons.1 member with rfl | member
      · exact before
      · exact String.lt_trans before (above entry member)
    · rename_i notBefore
      split
      · rename_i same
        exact List.pairwise_cons.2 ⟨fun entry member => by rw [same]; exact above entry member, tail⟩
      · rename_i different
        refine List.pairwise_cons.2 ⟨fun entry member => ?_, ih tail⟩
        rcases mem_of_mem_place member with rfl | member
        · rcases key_lt_or_eq_or_gt key first.1 with h | h | h
          · exact absurd h notBefore
          · exact absurd h different
          · exact h
        · exact above entry member

theorem find?_place (key other : String) (value : α) (entries : List (String × α)) :
    find? other (place key value entries) = if key = other then some value else find? other entries := by
  induction entries with
  | nil => simp [place, find?]
  | cons first rest ih =>
    by_cases before : key < first.1
    · simp [place, find?, before]
    · by_cases same : key = first.1
      · by_cases h : first.1 = other <;> simp [place, find?, same, h]
      · simp only [place, before, same, if_false, find?, ih]
        grind

theorem find?_eq_none_of_above {key : String} {entries : List (String × α)}
    (h : ∀ entry ∈ entries, key < entry.1) : find? key entries = none := by
  induction entries with
  | nil => rfl
  | cons first rest ih =>
    have different : first.1 ≠ key := (key_ne_of_lt (h first (by simp))).symm
    simp [find?, different, ih fun entry member => h entry (by simp [member])]

/-- No two entries have one key. -/
def Distinct (entries : List (String × α)) : Prop :=
  entries.Pairwise fun a b => a.1 ≠ b.1

theorem Distinct.perm {xs ys : List (String × α)} (distinct : Distinct xs) (same : xs.Perm ys) :
    Distinct ys :=
  same.pairwise distinct Ne.symm

theorem distinct_of_ascending {entries : List (String × α)}
    (h : entries.Pairwise fun a b => a.1 < b.1) : Distinct entries :=
  h.imp key_ne_of_lt

theorem find?_eq_some_iff {key : String} {value : α} {entries : List (String × α)}
    (distinct : Distinct entries) : find? key entries = some value ↔ (key, value) ∈ entries := by
  induction entries with
  | nil => simp [find?]
  | cons first rest ih =>
    obtain ⟨others, tail⟩ := List.pairwise_cons.1 distinct
    obtain ⟨k, v⟩ := first
    by_cases same : k = key
    · subst same
      have once : (k, value) ∉ rest := fun member => others (k, value) member rfl
      simp [find?, once, eq_comm]
    · simp [find?, same, ih tail, Ne.symm same]

theorem find?_append (key : String) (xs ys : List (String × α)) :
    find? key (xs ++ ys) = (find? key xs).or (find? key ys) := by
  induction xs with
  | nil => simp [find?]
  | cons first rest ih => by_cases h : first.1 = key <;> simp [find?, h, ih]

theorem find?_filter {key : String} (keep : String → Bool) (entries : List (String × α)) :
    find? key (entries.filter fun entry => keep entry.1) =
      if keep key then find? key entries else none := by
  induction entries with
  | nil => simp [find?]
  | cons first rest ih =>
    by_cases kept : keep first.1
    · by_cases same : first.1 = key
      · subst same
        simp [find?, kept]
      · simp [find?, kept, same, ih]
    · by_cases same : first.1 = key
      · subst same
        simp [kept, ih]
      · simp [find?, kept, same, ih]

/-- Strictly ascending lists with the same value under every key are equal. -/
theorem entries_ext {p q : List (String × α)} (hp : p.Pairwise fun a b => a.1 < b.1)
    (hq : q.Pairwise fun a b => a.1 < b.1) (h : ∀ key, find? key p = find? key q) : p = q := by
  induction p generalizing q with
  | nil =>
    cases q with
    | nil => rfl
    | cons first rest => simpa [find?] using h first.1
  | cons first rest ih =>
    cases q with
    | nil => simpa [find?] using h first.1
    | cons first' rest' =>
      obtain ⟨above, tail⟩ := List.pairwise_cons.1 hp
      obtain ⟨above', tail'⟩ := List.pairwise_cons.1 hq
      have least : first ∈ first' :: rest' := (find?_eq_some_iff (distinct_of_ascending hq)).1 (by
        rw [← h first.1]
        simp [find?])
      have least' : first' ∈ first :: rest := (find?_eq_some_iff (distinct_of_ascending hp)).1 (by
        rw [h first'.1]
        simp [find?])
      have same : first = first' := by
        rcases List.mem_cons.1 least with same | member
        · exact same
        · rcases List.mem_cons.1 least' with same | member'
          · exact same.symm
          · exact absurd (String.lt_trans (above' _ member) (above _ member')) (String.lt_irrefl _)
      subst same
      refine congrArg (first :: ·) (ih tail tail' fun key => ?_)
      by_cases key_first : first.1 = key
      · subst key_first
        rw [find?_eq_none_of_above above, find?_eq_none_of_above above']
      · simpa [find?, key_first] using h key

/-! ## Maps -/

def empty : KeyMap α := ⟨[], .nil⟩

instance : EmptyCollection (KeyMap α) := ⟨empty⟩

instance : Inhabited (KeyMap α) := ⟨empty⟩

def get? (p : KeyMap α) (key : String) : Option α :=
  find? key p.entries

def contains (p : KeyMap α) (key : String) : Bool :=
  (p.get? key).isSome

def keys (p : KeyMap α) : List String :=
  p.entries.map (·.1)

def size (p : KeyMap α) : Nat :=
  p.entries.length

def isEmpty (p : KeyMap α) : Bool :=
  p.entries.isEmpty

/-- Sets the value under a key, in the place of an earlier one. -/
def insert (p : KeyMap α) (key : String) (value : α) : KeyMap α :=
  ⟨place key value p.entries, place_ascending p.ascending⟩

/-- Keeps the entries whose key passes the test. -/
def filterKeys (keep : String → Bool) (p : KeyMap α) : KeyMap α :=
  ⟨p.entries.filter fun entry => keep entry.1, p.ascending.filter _⟩

def erase (p : KeyMap α) (key : String) : KeyMap α :=
  p.filterKeys fun other => other != key

/-- Inserts the entries one after the other: of several with one key the last wins. -/
def insertAll (p : KeyMap α) (entries : List (String × α)) : KeyMap α :=
  entries.foldl (fun p entry => p.insert entry.1 entry.2) p

/-- The map of these entries; of several with one key the last wins. -/
def ofList (entries : List (String × α)) : KeyMap α :=
  insertAll ∅ entries

/-- All of `q`, and of `p` what `q` leaves undefined. -/
def overlay (p q : KeyMap α) : KeyMap α :=
  p.insertAll q.entries

/-- Sets the value under a key if there is one to set. -/
def insertSome (p : KeyMap α) (key : String) : Option α → KeyMap α
  | none => p
  | some value => p.insert key value

/-! ## What a key maps to -/

@[simp] theorem get?_empty (key : String) : (∅ : KeyMap α).get? key = none := rfl

theorem get?_eq_some_iff {p : KeyMap α} {key : String} {value : α} :
    p.get? key = some value ↔ (key, value) ∈ p.entries :=
  find?_eq_some_iff (distinct_of_ascending p.ascending)

/-- A map is known by its values. -/
theorem ext_get? {p q : KeyMap α} (h : ∀ key, p.get? key = q.get? key) : p = q :=
  ext_entries (entries_ext p.ascending q.ascending h)

theorem get?_insert (p : KeyMap α) (key other : String) (value : α) :
    (p.insert key value).get? other = if key = other then some value else p.get? other :=
  find?_place key other value p.entries

@[simp] theorem get?_insert_self (p : KeyMap α) (key : String) (value : α) :
    (p.insert key value).get? key = some value := by
  simp [get?_insert]

theorem get?_filterKeys (keep : String → Bool) (p : KeyMap α) (key : String) :
    (p.filterKeys keep).get? key = if keep key then p.get? key else none :=
  find?_filter keep p.entries

theorem get?_erase (p : KeyMap α) (key other : String) :
    (p.erase key).get? other = if other = key then none else p.get? other := by
  rw [erase, get?_filterKeys]
  by_cases h : other = key <;> simp [h]

/-- What is erased before it is set leaves no trace. -/
@[simp] theorem insert_erase (p : KeyMap α) (key : String) (value : α) :
    (p.erase key).insert key value = p.insert key value := by
  refine ext_get? fun other => ?_
  rw [get?_insert, get?_insert, get?_erase]
  by_cases same : key = other
  · simp [same]
  · simp [same, Ne.symm same]

/-- Setting a value that is there already changes nothing. -/
theorem insert_eq_self {p : KeyMap α} {key : String} {value : α} (held : p.get? key = some value) :
    p.insert key value = p := by
  refine ext_get? fun other => ?_
  rw [get?_insert]
  split
  · rename_i same
    rw [← same, held]
  · rfl

/-- Erasing what is not there changes nothing. -/
theorem erase_eq_self {p : KeyMap α} {key : String} (unheld : p.get? key = none) :
    p.erase key = p := by
  refine ext_get? fun other => ?_
  rw [get?_erase]
  split
  · rename_i same
    rw [same, unheld]
  · rfl

theorem get?_insertSome (p : KeyMap α) (key other : String) (value : Option α) :
    (p.insertSome key value).get? other =
      if key = other then value.or (p.get? other) else p.get? other := by
  cases value with
  | none => simp [insertSome]
  | some value => simp [insertSome, get?_insert]

/-- The last of the inserted entries with a key gives its value. -/
theorem get?_insertAll (p : KeyMap α) (entries : List (String × α)) (key : String) :
    (p.insertAll entries).get? key = (find? key entries.reverse).or (p.get? key) := by
  induction entries generalizing p with
  | nil => simp [insertAll, find?]
  | cons first rest ih =>
    have step : p.insertAll (first :: rest) = (p.insert first.1 first.2).insertAll rest := rfl
    rw [step, ih, get?_insert, List.reverse_cons, find?_append]
    by_cases h : first.1 = key <;> simp [find?, h]

theorem get?_ofList (entries : List (String × α)) (key : String) :
    (ofList entries).get? key = find? key entries.reverse := by
  simp [ofList, get?_insertAll]

theorem find?_reverse_entries (p : KeyMap α) (key : String) :
    find? key p.entries.reverse = p.get? key := by
  suffices h : ∀ entries : List (String × α), (entries.Pairwise fun a b => a.1 < b.1) →
      find? key entries.reverse = find? key entries from h p.entries p.ascending
  intro entries
  induction entries with
  | nil => intro _; rfl
  | cons first rest ih =>
    intro h
    obtain ⟨above, tail⟩ := List.pairwise_cons.1 h
    rw [List.reverse_cons, find?_append, ih tail]
    by_cases h : first.1 = key
    · subst h
      simp [find?, find?_eq_none_of_above above]
    · simp [find?, h]

theorem get?_overlay (p q : KeyMap α) (key : String) :
    (p.overlay q).get? key = (q.get? key).or (p.get? key) := by
  rw [overlay, get?_insertAll, find?_reverse_entries]

/-- A map is the map of its own entries. -/
@[simp] theorem ofList_entries (p : KeyMap α) : ofList p.entries = p :=
  ext_get? fun key => by rw [get?_ofList, find?_reverse_entries]

theorem insertAll_append (p : KeyMap α) (xs ys : List (String × α)) :
    p.insertAll (xs ++ ys) = (p.insertAll xs).insertAll ys :=
  List.foldl_append

/-- Entries that follow others are laid over them. -/
theorem ofList_append (xs ys : List (String × α)) :
    ofList (xs ++ ys) = (ofList xs).overlay (ofList ys) := by
  refine ext_get? fun key => ?_
  rw [get?_overlay, get?_ofList, get?_ofList, get?_ofList, List.reverse_append, find?_append]

theorem mem_keys_iff {p : KeyMap α} {key : String} : key ∈ p.keys ↔ p.contains key = true := by
  rw [contains, Option.isSome_iff_exists, keys, List.mem_map]
  constructor
  · rintro ⟨⟨k, v⟩, member, rfl⟩
    exact ⟨v, get?_eq_some_iff.2 member⟩
  · rintro ⟨v, found⟩
    exact ⟨(key, v), get?_eq_some_iff.1 found, rfl⟩

theorem find?_isSome_iff {key : String} {entries : List (String × α)} :
    (find? key entries).isSome = true ↔ key ∈ entries.map (·.1) := by
  induction entries with
  | nil => simp [find?]
  | cons first rest ih =>
    by_cases same : first.1 = key
    · simp [find?, same]
    · simp only [find?, if_neg same, ih, List.map_cons, List.mem_cons, Ne.symm same, false_or]

/-- The map of these entries has their keys. -/
theorem mem_keys_ofList_iff {key : String} {entries : List (String × α)} :
    key ∈ (ofList entries).keys ↔ key ∈ entries.map (·.1) := by
  rw [mem_keys_iff, contains, get?_ofList, find?_isSome_iff]
  simp

/-- Maps with one list of keys leave the same keys undefined. -/
theorem get?_eq_none_iff_of_keys_eq {p q : KeyMap α} (same : p.keys = q.keys) {key : String} :
    p.get? key = none ↔ q.get? key = none := by
  have held : p.contains key = q.contains key := by
    rw [Bool.eq_iff_iff, ← mem_keys_iff, ← mem_keys_iff, same]
  rw [contains, contains] at held
  rw [← Option.not_isSome_iff_eq_none, ← Option.not_isSome_iff_eq_none, held]

/-- The keys are strictly ascending, so each is listed once. -/
theorem keys_ascending (p : KeyMap α) : p.keys.Pairwise (· < ·) :=
  List.pairwise_map.2 p.ascending

/-- Maps that define the same keys list them in the same way. -/
theorem keys_eq_of_mem_iff {β : Type} {p : KeyMap α} {q : KeyMap β}
    (same : ∀ key, key ∈ p.keys ↔ key ∈ q.keys) : p.keys = q.keys :=
  eq_of_ordered not_gt_of_lt p.keys_ascending q.keys_ascending same

/-! ## Entries with keys of their own -/

theorem distinct_entries (p : KeyMap α) : Distinct p.entries :=
  distinct_of_ascending p.ascending

/-- The map of entries with keys of their own holds these entries and no others. -/
theorem get?_ofList_eq_some_iff {entries : List (String × α)} (distinct : Distinct entries)
    {key : String} {value : α} :
    (ofList entries).get? key = some value ↔ (key, value) ∈ entries := by
  have backwards : Distinct entries.reverse := distinct.perm entries.reverse_perm.symm
  rw [get?_ofList, find?_eq_some_iff backwards, List.mem_reverse]

/-- It does not matter in which order they are inserted. -/
theorem ofList_eq_of_perm {xs ys : List (String × α)} (distinct : Distinct xs)
    (same : xs.Perm ys) : ofList xs = ofList ys := by
  refine ext_get? fun key => Option.ext fun value => ?_
  rw [get?_ofList_eq_some_iff distinct, get?_ofList_eq_some_iff (distinct.perm same),
    same.mem_iff]

/-- A map comes back from its entries in any order. -/
theorem ofList_eq_of_perm_entries {p : KeyMap α} {entries : List (String × α)}
    (same : entries.Perm p.entries) : ofList entries = p := by
  rw [ofList_eq_of_perm (p.distinct_entries.perm same.symm) same, ofList_entries]

end KeyMap

end SliceFleet
