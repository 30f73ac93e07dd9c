import Mathlib

/-! Finite maps with distinct keys. The entry list stands for one iteration
order; a result about every map is a result about every order. -/
namespace TwitterClone.Foundation

universe u v w

/-- A hash map: a list of entries in which no key occurs twice. -/
structure UnorderedMap (Key : Type u) (Value : Type v) where
  entries : List (Key × Value)
  distinct : (entries.map Prod.fst).Nodup

namespace UnorderedMap

variable {Key : Type u} {Value : Type v} {Item : Type w}

def keys (map : UnorderedMap Key Value) : List Key := map.entries.map Prod.fst

instance : Membership Key (UnorderedMap Key Value) := ⟨fun map key => key ∈ map.keys⟩

instance : EmptyCollection (UnorderedMap Key Value) := ⟨⟨[], List.nodup_nil⟩⟩

instance [DecidableEq Key] [DecidableEq Value] : DecidableEq (UnorderedMap Key Value) :=
  fun first second => decidable_of_iff (first.entries = second.entries) (by
    cases first; cases second; simp)

@[ext] theorem ext {first second : UnorderedMap Key Value}
    (same : first.entries = second.entries) : first = second := by
  cases first; cases second; simp_all

theorem mem_keys {map : UnorderedMap Key Value} {key : Key} : key ∈ map.keys ↔ key ∈ map :=
  Iff.rfl

@[simp] theorem notMem_empty (key : Key) : key ∉ (∅ : UnorderedMap Key Value) :=
  List.not_mem_nil

@[simp] theorem entries_empty : (∅ : UnorderedMap Key Value).entries = [] := rfl

variable [DecidableEq Key]

instance (map : UnorderedMap Key Value) (key : Key) : Decidable (key ∈ map) :=
  inferInstanceAs (Decidable (key ∈ map.keys))

def lookup (map : UnorderedMap Key Value) (key : Key) : Option Value :=
  map.entries.lookup key

theorem lookup_isSome {map : UnorderedMap Key Value} {key : Key} :
    (map.lookup key).isSome = true ↔ key ∈ map := by
  simp only [lookup, List.lookup_isSome_iff, ← mem_keys, keys, List.mem_map, beq_iff_eq]
  constructor
  · rintro ⟨entry, member, same⟩
    exact ⟨entry, member, same.symm⟩
  · rintro ⟨entry, member, same⟩
    exact ⟨entry, member, same.symm⟩

theorem lookup_eq_none {map : UnorderedMap Key Value} {key : Key} :
    map.lookup key = none ↔ key ∉ map := by
  rw [← lookup_isSome]
  cases map.lookup key <;> simp

theorem lookup_of_mem {map : UnorderedMap Key Value} {key : Key} (member : key ∈ map) :
    ∃ value, map.lookup key = some value :=
  Option.isSome_iff_exists.mp (lookup_isSome.mpr member)

theorem mem_of_lookup {map : UnorderedMap Key Value} {key : Key} {value : Value}
    (found : map.lookup key = some value) : key ∈ map :=
  lookup_isSome.mp (by simp [found])

@[simp] theorem lookup_empty (key : Key) :
    (∅ : UnorderedMap Key Value).lookup key = none := rfl

private theorem lookup_iff_mem (entries : List (Key × Value))
    (distinct : (entries.map Prod.fst).Nodup) (key : Key) (value : Value) :
    entries.lookup key = some value ↔ (key, value) ∈ entries := by
  induction entries with
  | nil => simp
  | cons entry rest ih =>
    obtain ⟨name, stored⟩ := entry
    obtain ⟨absent, distinctRest⟩ := List.nodup_cons.mp distinct
    by_cases here : key = name
    · subst here
      have missing : (key, value) ∉ rest := fun member =>
        absent (List.mem_map.mpr ⟨_, member, rfl⟩)
      simp [missing, eq_comm]
    · simp [List.lookup_cons, beq_eq_false_iff_ne.mpr here, here, ih distinctRest]

/-- Looking a key up finds exactly the entries of the map. -/
theorem lookup_eq_some {map : UnorderedMap Key Value} {key : Key} {value : Value} :
    map.lookup key = some value ↔ (key, value) ∈ map.entries :=
  lookup_iff_mem map.entries map.distinct key value

/-- Insert under a new key; an entry already present is kept as it is. -/
def emplace (map : UnorderedMap Key Value) (key : Key) (value : Value) :
    UnorderedMap Key Value :=
  if fresh : key ∈ map then map
  else ⟨map.entries ++ [(key, value)], by
    have absent : key ∉ map.entries.map Prod.fst := fresh
    rw [List.map_append]
    exact map.distinct.append (List.nodup_singleton key)
      (List.disjoint_singleton.mpr absent)⟩

private def changeEntry (key : Key) (change : Value → Value) (entry : Key × Value) :
    Key × Value :=
  (entry.1, if entry.1 = key then change entry.2 else entry.2)

private theorem keys_changeEntry (key : Key) (change : Value → Value)
    (entries : List (Key × Value)) :
    (entries.map (changeEntry key change)).map Prod.fst = entries.map Prod.fst := by
  rw [List.map_map]
  exact List.map_congr_left fun _ _ => rfl

/-- Change the value stored under one key in place. -/
def modify (map : UnorderedMap Key Value) (key : Key) (change : Value → Value) :
    UnorderedMap Key Value :=
  ⟨map.entries.map (changeEntry key change), by
    simpa only [keys_changeEntry] using map.distinct⟩

/-- Remove a key and its value. -/
def erase (map : UnorderedMap Key Value) (key : Key) : UnorderedMap Key Value :=
  ⟨map.entries.filter fun entry => entry.1 ≠ key,
    map.distinct.sublist (List.filter_sublist.map Prod.fst)⟩

@[simp] theorem keys_modify (map : UnorderedMap Key Value) (key : Key)
    (change : Value → Value) : (map.modify key change).keys = map.keys :=
  keys_changeEntry key change map.entries

@[simp] theorem mem_modify (map : UnorderedMap Key Value) (key other : Key)
    (change : Value → Value) : other ∈ map.modify key change ↔ other ∈ map := by
  rw [← mem_keys, ← mem_keys, keys_modify]

theorem lookup_modify (map : UnorderedMap Key Value) (key other : Key)
    (change : Value → Value) :
    (map.modify key change).lookup other =
      if other = key then (map.lookup other).map change else map.lookup other := by
  obtain ⟨entries, distinct⟩ := map
  simp only [modify, lookup]
  clear distinct
  induction entries with
  | nil => simp
  | cons entry rest ih =>
    obtain ⟨name, value⟩ := entry
    by_cases there : other = name
    · subst there
      by_cases here : other = key <;> simp [changeEntry, here]
    · simp [changeEntry, List.lookup_cons, beq_eq_false_iff_ne.mpr there, ih]

/-- A map whose values were all changed alike, its keys kept. -/
theorem lookup_map {Other : Type w} {map : UnorderedMap Key Value}
    {result : UnorderedMap Key Other} (change : Value → Other)
    (shape : result.entries = map.entries.map fun entry => (entry.1, change entry.2)) (key : Key) :
    result.lookup key = (map.lookup key).map change := by
  rw [lookup, shape, lookup]
  induction map.entries with
  | nil => rfl
  | cons entry rest ih =>
    obtain ⟨name, value⟩ := entry
    by_cases here : key = name
    · simp [here]
    · simp [List.lookup_cons, beq_eq_false_iff_ne.mpr here, ih]

/-- Storing the value that is there already changes nothing. -/
theorem modify_eq_self (map : UnorderedMap Key Value) (key : Key) (change : Value → Value)
    (same : ∀ value, map.lookup key = some value → change value = value) :
    map.modify key change = map := by
  apply ext
  apply (List.map_congr_left _).trans (List.map_id _)
  rintro ⟨name, value⟩ member
  by_cases here : name = key
  · subst here
    simp [changeEntry, same value (lookup_eq_some.mpr member)]
  · simp [changeEntry, here]

/-- Two changes in one place are one. -/
theorem modify_modify (map : UnorderedMap Key Value) (key : Key) (first second : Value → Value) :
    (map.modify key first).modify key second = map.modify key (second ∘ first) := by
  apply ext
  simp only [modify, List.map_map]
  apply List.map_congr_left
  intro entry member
  by_cases here : entry.1 = key <;> simp [changeEntry, here]

/-- Where the entries of a changed map come from. -/
theorem of_mem_modify {map : UnorderedMap Key Value} {key : Key} {change : Value → Value}
    {entry : Key × Value} (member : entry ∈ (map.modify key change).entries) :
    ∃ value, (entry.1, value) ∈ map.entries ∧
      entry.2 = if entry.1 = key then change value else value := by
  obtain ⟨before, inside, rfl⟩ := List.mem_map.mp member
  exact ⟨before.2, inside, rfl⟩

theorem entries_emplace_of_notMem (map : UnorderedMap Key Value) (key : Key) (value : Value)
    (fresh : key ∉ map) : (map.emplace key value).entries = map.entries ++ [(key, value)] := by
  simp [emplace, fresh]

theorem emplace_of_mem (map : UnorderedMap Key Value) (key : Key) (value : Value)
    (present : key ∈ map) : map.emplace key value = map := by
  simp [emplace, present]

@[simp] theorem mem_emplace (map : UnorderedMap Key Value) (key other : Key) (value : Value) :
    other ∈ map.emplace key value ↔ other = key ∨ other ∈ map := by
  by_cases present : key ∈ map
  · rw [emplace_of_mem map key value present]
    exact ⟨Or.inr, fun found => found.elim (fun same => same ▸ present) id⟩
  · rw [← mem_keys, ← mem_keys, keys, keys, entries_emplace_of_notMem map key value present]
    simp [or_comm]

theorem lookup_emplace (map : UnorderedMap Key Value) (key other : Key) (value : Value) :
    (map.emplace key value).lookup other =
      if other = key ∧ key ∉ map then some value else map.lookup other := by
  by_cases present : key ∈ map
  · simp [emplace_of_mem map key value present, present]
  · rw [lookup, entries_emplace_of_notMem map key value present, List.lookup_append]
    by_cases same : other = key
    · subst same
      have missing : map.entries.lookup other = none := lookup_eq_none.mpr present
      simp [present, missing]
    · simp [same, lookup, List.lookup_cons, beq_eq_false_iff_ne.mpr same]

/-- All items held by the values of a map, in iteration order. -/
def gather (items : Value → List Item) (map : UnorderedMap Key Value) : List Item :=
  map.entries.flatMap fun entry => items entry.2

theorem mem_gather {items : Value → List Item} {map : UnorderedMap Key Value} {item : Item} :
    item ∈ gather items map ↔
      ∃ key value, map.lookup key = some value ∧ item ∈ items value := by
  simp only [gather, List.mem_flatMap]
  constructor
  · rintro ⟨⟨key, value⟩, member, inside⟩
    exact ⟨key, value, lookup_eq_some.mpr member, inside⟩
  · rintro ⟨key, value, found, inside⟩
    exact ⟨(key, value), lookup_eq_some.mp found, inside⟩

theorem gather_emplace_nil (items : Value → List Item) (map : UnorderedMap Key Value)
    (key : Key) (value : Value) (empty : items value = []) :
    gather items (map.emplace key value) = gather items map := by
  by_cases present : key ∈ map
  · rw [emplace_of_mem map key value present]
  · simp [gather, entries_emplace_of_notMem map key value present, empty]

private theorem changeEntry_absent (key : Key) (change : Value → Value)
    (entries : List (Key × Value)) (absent : key ∉ entries.map Prod.fst) :
    entries.map (changeEntry key change) = entries := by
  rw [List.map_congr_left (g := id), List.map_id]
  intro entry member
  have different : entry.1 ≠ key := fun same =>
    absent (List.mem_map.mpr ⟨entry, member, same⟩)
  simp [changeEntry, different]

/-- Changing one value trades its old items for its new ones. -/
theorem count_gather_modify [DecidableEq Item] (items : Value → List Item)
    (map : UnorderedMap Key Value) (key : Key) (change : Value → Value) (value : Value)
    (found : map.lookup key = some value) (item : Item) :
    (gather items (map.modify key change)).count item + (items value).count item =
      (gather items map).count item + (items (change value)).count item := by
  obtain ⟨entries, distinct⟩ := map
  simp only [gather, modify, lookup] at *
  induction entries with
  | nil => simp at found
  | cons entry rest ih =>
    obtain ⟨name, stored⟩ := entry
    obtain ⟨absent, distinctRest⟩ := List.nodup_cons.mp distinct
    by_cases here : key = name
    · subst here
      have same : stored = value := by simpa using found
      subst same
      simp only [List.map_cons, List.flatMap_cons, List.count_append,
        changeEntry_absent key change rest absent]
      simp [changeEntry]
      omega
    · have later : rest.lookup key = some value := by
        simpa [List.lookup_cons, beq_eq_false_iff_ne.mpr here] using found
      have rest := ih distinctRest later
      simp only [List.map_cons, List.flatMap_cons, List.count_append]
      simp only [changeEntry, Ne.symm here, ↓reduceIte]
      omega

/-- Maps with the same keys and, under them, the same values. -/
theorem lookup_congr {first second : UnorderedMap Key Value} (default : Value)
    (keys : ∀ key, key ∈ first ↔ key ∈ second)
    (values : ∀ key, (first.lookup key).getD default = (second.lookup key).getD default)
    (key : Key) : first.lookup key = second.lookup key := by
  by_cases present : key ∈ first
  · obtain ⟨value, found⟩ := lookup_of_mem present
    obtain ⟨other, foundToo⟩ := lookup_of_mem ((keys key).mp present)
    have same := values key
    rw [found, foundToo, Option.getD_some, Option.getD_some] at same
    rw [found, foundToo, same]
  · rw [lookup_eq_none.mpr present, lookup_eq_none.mpr (mt (keys key).mpr present)]

end UnorderedMap

end TwitterClone.Foundation
