import Mathlib

set_option autoImplicit false

-- Finite maps whose values do not depend on the key.
namespace Tables

abbrev Table (Key Value : Type) := AList (fun _ : Key => Value)

variable {Key Value : Type} [DecidableEq Key]

theorem lookup_insert (table : Table Key Value) (key other : Key) (value : Value) :
    (table.insert key value).lookup other = if other = key then some value else table.lookup other := by
  by_cases same : other = key
  · subst same
    rw [if_pos rfl, AList.lookup_insert]
  · rw [if_neg same, AList.lookup_insert_ne same]

theorem lookup_erase (table : Table Key Value) (key other : Key) :
    (table.erase key).lookup other = if other = key then none else table.lookup other := by
  by_cases same : other = key
  · subst same
    rw [if_pos rfl, AList.lookup_erase]
  · rw [if_neg same, AList.lookup_erase_ne same]

theorem mem_of_lookup (table : Table Key Value) (key : Key) (value : Value) (found : table.lookup key = some value) :
    key ∈ table := by
  rw [← AList.lookup_isSome, found]
  rfl

theorem lookup_of_mem (table : Table Key Value) (key : Key) (present : key ∈ table) :
    ∃ value, table.lookup key = some value :=
  Option.isSome_iff_exists.1 (AList.lookup_isSome.2 present)

theorem not_mem_of_lookup (table : Table Key Value) (key : Key) (absent : table.lookup key = none) : key ∉ table :=
  AList.lookup_eq_none.1 absent

theorem keys_length_insert_new (table : Table Key Value) (key : Key) (value : Value) (absent : key ∉ table) :
    (table.insert key value).keys.length = table.keys.length + 1 := by
  rw [AList.keys_insert, List.length_cons, List.erase_of_not_mem (fun member => absent (AList.mem_keys.2 member))]

theorem keys_length_insert_old (table : Table Key Value) (key : Key) (value : Value) (present : key ∈ table) :
    (table.insert key value).keys.length = table.keys.length := by
  have member := AList.mem_keys.1 present
  have positive := List.length_pos_of_mem member
  rw [AList.keys_insert, List.length_cons, List.length_erase_of_mem member]
  omega

theorem keys_length_insert_le (table : Table Key Value) (key : Key) (value : Value) :
    (table.insert key value).keys.length ≤ table.keys.length + 1 := by
  by_cases present : key ∈ table
  · rw [keys_length_insert_old table key value present]
    exact Nat.le_succ _
  · rw [keys_length_insert_new table key value present]

theorem keys_length_erase (table : Table Key Value) (key : Key) (present : key ∈ table) :
    (table.erase key).keys.length + 1 = table.keys.length := by
  have member := AList.mem_keys.1 present
  have positive := List.length_pos_of_mem member
  rw [AList.keys_erase, List.length_erase_of_mem member]
  omega

def valueOr {Result : Type} (default : Result) (read : Value → Result) (table : Table Key Value) (key : Key) : Result :=
  ((table.lookup key).map read).getD default

theorem value_or_insert {Result : Type} (default : Result) (read : Value → Result) (table : Table Key Value) (key : Key)
    (value : Value) :
    valueOr default read (table.insert key value) = Function.update (valueOr default read table) key (read value) := by
  funext other
  by_cases same : other = key
  · subst same
    simp [valueOr]
  · simp [valueOr, same]

theorem value_or_erase {Result : Type} (default : Result) (read : Value → Result) (table : Table Key Value) (key : Key) :
    valueOr default read (table.erase key) = Function.update (valueOr default read table) key default := by
  funext other
  by_cases same : other = key
  · subst same
    simp [valueOr]
  · simp [valueOr, same]

theorem value_or_missing {Result : Type} (default : Result) (read : Value → Result) (table : Table Key Value) (key : Key)
    (absent : table.lookup key = none) : valueOr default read table key = default := by
  simp [valueOr, absent]

theorem value_or_found {Result : Type} (default : Result) (read : Value → Result) (table : Table Key Value) (key : Key)
    (value : Value) (found : table.lookup key = some value) : valueOr default read table key = read value := by
  simp [valueOr, found]

def countEntries (property : Key → Value → Bool) (table : Table Key Value) : Nat :=
  (table.entries.filter (fun entry => property entry.1 entry.2)).length

omit [DecidableEq Key] in
@[simp] theorem count_entries_empty (property : Key → Value → Bool) :
    countEntries property (∅ : Table Key Value) = 0 := rfl

theorem entries_split (table : Table Key Value) (key : Key) (value : Value) (found : table.lookup key = some value) :
    ∃ before after, table.entries = before ++ ⟨key, value⟩ :: after ∧ (table.erase key).entries = before ++ after := by
  obtain ⟨other, before, after, absent, split, erased⟩ := List.exists_of_kerase (mem_of_lookup table key value found)
  have same : other = value := by
    have present : ⟨key, other⟩ ∈ table.entries := by
      rw [split]
      simp
    exact Option.some.inj ((AList.mem_lookup_iff.2 present).symm.trans found)
  subst same
  exact ⟨before, after, split, erased⟩

theorem entries_erase_new (table : Table Key Value) (key : Key) (absent : table.lookup key = none) :
    (table.erase key).entries = table.entries := List.kerase_of_notMem_keys (AList.lookup_eq_none.1 absent)

theorem count_entries_erase (property : Key → Value → Bool) (table : Table Key Value) (key : Key) (value : Value)
    (found : table.lookup key = some value) :
    countEntries property (table.erase key) + (if property key value then 1 else 0) = countEntries property table := by
  obtain ⟨before, after, split, erased⟩ := entries_split table key value found
  rw [countEntries, countEntries, erased, split, List.filter_append, List.filter_append, List.length_append,
    List.length_append, List.filter_cons]
  split
  · simp
    omega
  · simp

theorem count_entries_insert (property : Key → Value → Bool) (table : Table Key Value) (key : Key) (value : Value) :
    countEntries property (table.insert key value) =
      countEntries property (table.erase key) + (if property key value then 1 else 0) := by
  have entries : (table.insert key value).entries = ⟨key, value⟩ :: (table.erase key).entries := AList.entries_insert
  rw [countEntries, countEntries, entries, List.filter_cons]
  split <;> simp

theorem count_entries_insert_new (property : Key → Value → Bool) (table : Table Key Value) (key : Key) (value : Value)
    (absent : table.lookup key = none) :
    countEntries property (table.insert key value) = countEntries property table + (if property key value then 1 else 0) := by
  rw [count_entries_insert, countEntries, entries_erase_new table key absent, countEntries]

def count (property : Value → Bool) (table : Table Key Value) : Nat := countEntries (fun _ => property) table

omit [DecidableEq Key] in
@[simp] theorem count_empty (property : Value → Bool) : count property (∅ : Table Key Value) = 0 := rfl

theorem count_erase (property : Value → Bool) (table : Table Key Value) (key : Key) (value : Value)
    (found : table.lookup key = some value) :
    count property (table.erase key) + (if property value then 1 else 0) = count property table :=
  count_entries_erase (fun _ => property) table key value found

theorem count_insert_new (property : Value → Bool) (table : Table Key Value) (key : Key) (value : Value)
    (absent : table.lookup key = none) :
    count property (table.insert key value) = count property table + (if property value then 1 else 0) :=
  count_entries_insert_new (fun _ => property) table key value absent

theorem count_replace (property : Value → Bool) (table : Table Key Value) (key : Key) (old new : Value)
    (found : table.lookup key = some old) :
    count property (table.insert key new) + (if property old then 1 else 0) =
      count property table + (if property new then 1 else 0) := by
  have erased := count_erase property table key old found
  have inserted : count property (table.insert key new) = count property (table.erase key) + (if property new then 1 else 0) :=
    count_entries_insert (fun _ => property) table key new
  omega

theorem count_pos (property : Value → Bool) (table : Table Key Value) (key : Key) (value : Value)
    (found : table.lookup key = some value) (holds : property value = true) : 0 < count property table := by
  have erased := count_erase property table key value found
  rw [if_pos holds] at erased
  omega

theorem count_zero_iff (property : Value → Bool) (table : Table Key Value) :
    count property table = 0 ↔ ∀ key value, table.lookup key = some value → property value = false := by
  rw [count, countEntries, List.length_eq_zero_iff, List.filter_eq_nil_iff]
  constructor
  · intro none key value found
    exact Bool.eq_false_iff.2 (none _ (AList.mem_lookup_iff.1 found))
  · intro none entry member
    rw [none entry.1 entry.2 (AList.mem_lookup_iff.2 member)]
    exact Bool.false_ne_true

theorem exists_of_count_pos (property : Value → Bool) (table : Table Key Value) (positive : 0 < count property table) :
    ∃ key value, table.lookup key = some value ∧ property value = true := by
  by_contra none
  refine positive.ne' ((count_zero_iff property table).2 (fun key value found => ?_))
  exact Bool.eq_false_iff.2 (fun holds => none ⟨key, value, found, holds⟩)

theorem count_congr (first last : Value → Bool) (table : Table Key Value)
    (same : ∀ key value, table.lookup key = some value → first value = last value) : count first table = count last table := by
  rw [count, count, countEntries, countEntries]
  congr 1
  exact List.filter_congr (fun entry member => same entry.1 entry.2 (AList.mem_lookup_iff.2 member))

def values (table : Table Key Value) : Multiset Value := table.entries.map Sigma.snd

omit [DecidableEq Key] in
@[simp] theorem values_empty : values (∅ : Table Key Value) = 0 := rfl

theorem values_erase (table : Table Key Value) (key : Key) (value : Value) (found : table.lookup key = some value) :
    value ::ₘ values (table.erase key) = values table := by
  obtain ⟨before, after, split, erased⟩ := entries_split table key value found
  rw [values, values, split, erased, Multiset.cons_coe, Multiset.coe_eq_coe, List.map_append, List.map_append, List.map_cons]
  exact List.perm_middle.symm

theorem values_insert (table : Table Key Value) (key : Key) (value : Value) :
    values (table.insert key value) = value ::ₘ values (table.erase key) := by
  have entries : (table.insert key value).entries = ⟨key, value⟩ :: (table.erase key).entries := AList.entries_insert
  rw [values, entries, List.map_cons, values, Multiset.cons_coe]

theorem values_insert_new (table : Table Key Value) (key : Key) (value : Value) (absent : table.lookup key = none) :
    values (table.insert key value) = value ::ₘ values table := by
  rw [values_insert, values, entries_erase_new table key absent, values]

theorem values_replace (table : Table Key Value) (key : Key) (old new : Value) (found : table.lookup key = some old) :
    old ::ₘ values (table.insert key new) = new ::ₘ values table := by
  rw [← values_erase table key old found, values_insert, Multiset.cons_swap]

theorem mem_values (table : Table Key Value) (value : Value) :
    value ∈ values table ↔ ∃ key, table.lookup key = some value := by
  rw [values, Multiset.mem_coe, List.mem_map]
  constructor
  · rintro ⟨entry, member, rfl⟩
    exact ⟨entry.1, AList.mem_lookup_iff.2 member⟩
  · rintro ⟨key, found⟩
    exact ⟨⟨key, value⟩, AList.mem_lookup_iff.1 found, rfl⟩

theorem key_of_distinct {Result : Type} (read : Value → Result) (table : Table Key Value) (first last : Key)
    (value other : Value) (distinct : ((values table).map read).Nodup) (here : table.lookup first = some value)
    (there : table.lookup last = some other) (same : read value = read other) : first = last := by
  by_contra different
  rw [← values_erase table first value here, Multiset.map_cons, Multiset.nodup_cons] at distinct
  refine distinct.1 (Multiset.mem_map.2 ⟨other, (mem_values _ _).2 ⟨last, ?_⟩, same.symm⟩)
  rw [lookup_erase, if_neg (Ne.symm different), there]

section MapValues

variable {Result : Type}

omit [DecidableEq Key]

def mapValues (change : Value → Result) (table : Table Key Value) : Table Key Result :=
  ⟨table.entries.map (fun entry => ⟨entry.1, change entry.2⟩), by
    have keys : (table.entries.map (fun entry => (⟨entry.1, change entry.2⟩ : Sigma fun _ => Result))).keys =
        table.entries.keys := by
      simp [List.keys, Function.comp_def]
    rw [List.NodupKeys, keys]
    exact table.nodupKeys⟩

theorem count_map_values (property : Result → Bool) (change : Value → Result) (table : Table Key Value) :
    count property (mapValues change table) = count (fun value => property (change value)) table := by
  rw [count, countEntries, mapValues, List.filter_map, List.length_map]
  rfl

end MapValues

theorem lookup_map_values {Result : Type} (change : Value → Result) (table : Table Key Value) (key : Key) :
    (mapValues change table).lookup key = (table.lookup key).map change := by
  cases found : table.lookup key with
  | none =>
      rw [Option.map_none, AList.lookup_eq_none]
      intro present
      obtain ⟨value, member⟩ := List.mem_keys.1 (AList.mem_keys.1 present)
      obtain ⟨entry, entryMember, same⟩ := List.mem_map.1 member
      have key := congrArg Sigma.fst same
      dsimp only at key
      subst key
      rw [AList.mem_lookup_iff.2 entryMember] at found
      cases found
  | some value =>
      exact AList.mem_lookup_iff.2 (List.mem_map_of_mem (AList.mem_lookup_iff.1 found))

theorem entries_nil_iff (table : Table Key Value) : table.entries = [] ↔ ∀ key, table.lookup key = none := by
  constructor
  · intro none key
    rw [AList.lookup_eq_none]
    intro present
    rw [AList.mem_keys, AList.keys, none] at present
    cases present
  · intro none
    refine List.eq_nil_iff_forall_not_mem.2 (fun entry member => ?_)
    have found := AList.mem_lookup_iff.2 member
    rw [none] at found
    cases found

end Tables
