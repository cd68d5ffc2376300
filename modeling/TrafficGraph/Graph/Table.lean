import Std.Data.ExtHashMap

/-!
# Keyed tables in insertion order

A table lists entries in the order in which they were added and finds each by
its key through an index of positions.  The index holds exactly the keys of the
entries, so keys are pairwise distinct and a table is determined by its list.
Entries are never removed.
-/

namespace TrafficGraph

/-- Entries in insertion order with an index from keys to positions. -/
structure Table {κ ρ : Type} [DecidableEq κ] [Hashable κ] (key : ρ → κ) where
  /-- The entries, oldest first. -/
  entries : Array ρ
  /-- The position of each key. -/
  positions : Std.ExtHashMap κ Nat
  /-- The index holds exactly the keys of the entries. -/
  indexed : ∀ name position, positions[name]? = some position ↔
    (entries[position]?).map key = some name

namespace Table

variable {κ ρ : Type} [DecidableEq κ] [Hashable κ] {key : ρ → κ}

/-- The table without entries. -/
def empty : Table key where
  entries := #[]
  positions := ∅
  indexed := by simp

/-- The entries, oldest first. -/
def toList (table : Table key) : List ρ :=
  table.entries.toList

/-- The number of entries. -/
def size (table : Table key) : Nat :=
  table.entries.size

/-- The entry with a key. -/
def find? (table : Table key) (name : κ) : Option ρ :=
  (table.positions[name]?).bind fun position => table.entries[position]?

/-- There is an entry with this key. -/
def contains (table : Table key) (name : κ) : Bool :=
  (table.positions[name]?).isSome

/-- Adds an entry whose key is new. -/
def add (table : Table key) (entry : ρ) (fresh : table.positions[key entry]? = none) :
    Table key where
  entries := table.entries.push entry
  positions := table.positions.insert (key entry) table.entries.size
  indexed name position := by
    rw [Std.ExtHashMap.getElem?_insert, Array.getElem?_push]
    by_cases same : key entry = name
    · subst same
      constructor
      · intro found
        simp at found
        simp [found]
      · intro found
        split at found
        · next last => simp [last]
        · have inside := (table.indexed (key entry) position).2 found
          rw [fresh] at inside
          cases inside
    · have different : (key entry == name) = false := by simpa using same
      rw [if_neg (by simp [different]), table.indexed name position]
      split
      · next last =>
        subst last
        simp [same]
      · rfl

/-- Changes the entry with a key, if there is one, without changing its key. -/
def modify (table : Table key) (name : κ) (change : ρ → ρ)
    (keeps : ∀ entry, key (change entry) = key entry) : Table key :=
  match table.positions[name]? with
  | none => table
  | some position => {
      entries := table.entries.modify position change
      positions := table.positions
      indexed := fun other place => by
        rw [table.indexed other place, Array.getElem?_modify]
        split
        · next here =>
          subst here
          cases table.entries[position]? <;> simp [keeps]
        · rfl }

/-- Changes all entries without changing their keys. -/
def map (table : Table key) (change : ρ → ρ)
    (keeps : ∀ entry, key (change entry) = key entry) : Table key where
  entries := table.entries.map change
  positions := table.positions
  indexed name position := by
    rw [table.indexed name position, Array.getElem?_map]
    cases table.entries[position]? <;> simp [keeps]

/-- Changes the entry that has the key of a new one, or adds the new one changed
in the same way. -/
def upsert (table : Table key) (entry : ρ) (change : ρ → ρ)
    (keeps : ∀ entry, key (change entry) = key entry) : Table key :=
  match fresh : table.positions[key entry]? with
  | none => table.add (change entry) (by rw [keeps]; exact fresh)
  | some _ => table.modify (key entry) change keeps

/-- A table is determined by its list of entries. -/
theorem ext_toList {first second : Table key} (equality : first.toList = second.toList) :
    first = second := by
  obtain ⟨firstEntries, firstPositions, firstIndexed⟩ := first
  obtain ⟨secondEntries, secondPositions, secondIndexed⟩ := second
  have entriesEq : firstEntries = secondEntries := Array.toList_inj.1 equality
  subst entriesEq
  have positionsEq : firstPositions = secondPositions := by
    apply Std.ExtHashMap.ext_getElem?
    intro name
    apply Option.ext
    intro position
    rw [firstIndexed, secondIndexed]
  subst positionsEq
  rfl

@[simp] theorem toList_empty : (empty : Table key).toList = [] := rfl

@[simp] theorem length_toList (table : Table key) : table.toList.length = table.size := rfl

@[simp] theorem toList_add (table : Table key) (entry : ρ)
    (fresh : table.positions[key entry]? = none) :
    (table.add entry fresh).toList = table.toList ++ [entry] := by
  simp [toList, add]

@[simp] theorem toList_map (table : Table key) (change : ρ → ρ)
    (keeps : ∀ entry, key (change entry) = key entry) :
    (table.map change keeps).toList = table.toList.map change := by
  simp [toList, map]

/-- The keys of a table are pairwise distinct. -/
theorem nodup_keys (table : Table key) : (table.toList.map key).Nodup := by
  rw [List.Nodup, List.pairwise_iff_getElem]
  intro earlier later earlierBound laterBound before equality
  simp only [List.length_map, length_toList, size] at earlierBound laterBound
  simp only [toList, List.getElem_map, Array.getElem_toList] at equality
  have first := (table.indexed (key table.entries[later]) earlier).2
    (by simp [Array.getElem?_eq_getElem earlierBound, equality])
  have second := (table.indexed (key table.entries[later]) later).2
    (by simp [Array.getElem?_eq_getElem laterBound])
  rw [first] at second
  cases second
  omega

/-- A table contains the keys of its entries. -/
theorem contains_iff (table : Table key) (name : κ) :
    table.contains name = true ↔ ∃ entry ∈ table.toList, key entry = name := by
  rw [contains, Option.isSome_iff_exists]
  constructor
  · rintro ⟨position, found⟩
    have present := (table.indexed name position).1 found
    obtain ⟨entry, inside, same⟩ := Option.map_eq_some_iff.1 present
    exact ⟨entry, by simpa [toList] using Array.mem_of_getElem? inside, same⟩
  · rintro ⟨entry, membership, same⟩
    obtain ⟨position, bound, found⟩ := List.getElem_of_mem membership
    refine ⟨position, (table.indexed name position).2 ?_⟩
    have bound : position < table.entries.size := bound
    rw [Array.getElem?_eq_getElem bound]
    simp only [toList, Array.getElem_toList] at found
    simp [found, same]

/-- The entry with a key is the only member of the list that has it. -/
theorem find?_eq_some_iff (table : Table key) (name : κ) (entry : ρ) :
    table.find? name = some entry ↔ entry ∈ table.toList ∧ key entry = name := by
  rw [find?]
  constructor
  · intro found
    obtain ⟨position, index, inside⟩ := Option.bind_eq_some_iff.1 found
    have present := (table.indexed name position).1 index
    rw [inside] at present
    exact ⟨by simpa [toList] using Array.mem_of_getElem? inside, by simpa using present⟩
  · rintro ⟨membership, same⟩
    obtain ⟨position, bound, found⟩ := List.getElem_of_mem membership
    have bound : position < table.entries.size := bound
    simp only [toList, Array.getElem_toList] at found
    have inside : table.entries[position]? = some entry := by
      rw [Array.getElem?_eq_getElem bound, found]
    have index : table.positions[name]? = some position :=
      (table.indexed name position).2 (by simp [inside, same])
    simp [index, inside]

/-- Changing the entry with a key changes the members of the list that have it. -/
theorem toList_modify (table : Table key) (name : κ) (change : ρ → ρ)
    (keeps : ∀ entry, key (change entry) = key entry) :
    (table.modify name change keeps).toList =
      table.toList.map fun entry => if key entry = name then change entry else entry := by
  rw [modify]
  split
  · next absent =>
    have outside : ∀ entry ∈ table.toList, key entry ≠ name := by
      intro entry membership same
      have present := (table.contains_iff name).2 ⟨entry, membership, same⟩
      rw [contains, absent] at present
      cases present
    symm
    calc table.toList.map (fun entry => if key entry = name then change entry else entry)
        = table.toList.map id :=
          List.map_congr_left fun entry membership => if_neg (outside entry membership)
      _ = table.toList := List.map_id _
  · next position found =>
    apply List.ext_getElem?
    intro place
    simp only [toList, Array.getElem?_toList, Array.getElem?_modify, List.getElem?_map]
    split
    · next here =>
      subst here
      have present := (table.indexed name position).1 found
      cases entryEq : table.entries[position]? with
      | none => simp [entryEq] at present
      | some entry =>
        rw [entryEq] at present
        have same : key entry = name := by simpa using present
        simp [same]
    · next elsewhere =>
      cases entryEq : table.entries[place]? with
      | none => rfl
      | some entry =>
        have different : key entry ≠ name := by
          intro same
          have index := (table.indexed name place).2 (by simp [entryEq, same])
          rw [found] at index
          cases index
          exact elsewhere rfl
        simp [different]

/-- What adding or changing an entry does to the list. -/
theorem toList_upsert (table : Table key) (entry : ρ) (change : ρ → ρ)
    (keeps : ∀ entry, key (change entry) = key entry) :
    (table.upsert entry change keeps).toList =
      if table.contains (key entry) then
        table.toList.map fun other => if key other = key entry then change other else other
      else table.toList ++ [change entry] := by
  rw [upsert]
  split
  · next fresh => simp [contains, fresh]
  · next position found =>
    rw [if_pos (by simp [contains, found]), toList_modify]

end Table
end TrafficGraph
