import Mathlib.Data.List.AList

set_option autoImplicit false

-- A hash map is an association list with distinct keys. The order of the entries is the
-- order in which an iteration meets them; `Reorders` relates maps that differ in it only.
abbrev Table (κ α : Type) := AList (fun _ : κ => α)

namespace Table

section Traversal

variable {κ α : Type}

def values (table : Table κ α) : List α :=
  table.entries.map Sigma.snd

def mapValues (change : κ → α → α) (table : Table κ α) : Table κ α :=
  ⟨table.entries.map (Sigma.map id change), table.nodupKeys.map₂ change⟩

def findEntry (accepts : α → Bool) (table : Table κ α) : Option ((_ : κ) × α) :=
  table.entries.find? fun row => accepts row.2

def findValue (accepts : α → Bool) (table : Table κ α) : Option α :=
  (findEntry accepts table).map Sigma.snd

-- `HashMap::retain`.
def retain (keep : α → Bool) (table : Table κ α) : Table κ α :=
  ⟨table.entries.filter fun row => keep row.2, table.nodupKeys.sublist List.filter_sublist⟩

def Reorders (table other : Table κ α) : Prop :=
  table.entries.Perm other.entries

end Traversal

section Lookup

variable {κ α : Type} [DecidableEq κ]

def modify (key : κ) (change : α → α) (table : Table κ α) : Table κ α :=
  mapValues (fun found value => if found = key then change value else value) table

def rehash [DecidableEq α] (other table : Table κ α) : Table κ α :=
  if other.entries.Perm table.entries then other else table

@[simp] theorem lookup_map_values (change : κ → α → α) (table : Table κ α) (key : κ) :
    (mapValues change table).lookup key = (table.lookup key).map (change key) :=
  List.dlookup_map₂ key

theorem lookup_modify (key found : κ) (change : α → α) (table : Table κ α) :
    (modify key change table).lookup found =
      if found = key then (table.lookup found).map change else table.lookup found := by
  by_cases same : found = key
  · simp [modify, same]
  · simp [modify, same]

theorem lookup_insert_eq (key found : κ) (value : α) (table : Table κ α) :
    (table.insert key value).lookup found = if found = key then some value else table.lookup found := by
  by_cases same : found = key
  · subst found
    simp
  · simp [same, AList.lookup_insert_ne same]

theorem lookup_insert_absent (key found : κ) (value other : α) (table : Table κ α) (absent : table.lookup key = none) :
    (table.insert key value).lookup found = some other ↔
      table.lookup found = some other ∨ (found = key ∧ other = value) := by
  rw [lookup_insert_eq]
  by_cases same : found = key
  · rw [if_pos same, same, absent, Option.some.injEq]
    simp [eq_comm]
  · simp [same]

theorem lookup_erase_eq (key found : κ) (table : Table κ α) :
    (table.erase key).lookup found = if found = key then none else table.lookup found := by
  by_cases same : found = key
  · subst found
    simp
  · simp [same, AList.lookup_erase_ne same]

theorem insert_erase (key : κ) (value : α) (table : Table κ α) :
    (table.erase key).insert key value = table.insert key value := by
  apply AList.ext
  rw [AList.entries_insert, AList.entries_insert]
  congr 1
  exact List.kerase_of_notMem_keys (List.notMem_keys_kerase key table.nodupKeys)

@[simp] theorem lookup_rehash [DecidableEq α] (other table : Table κ α) (key : κ) :
    (rehash other table).lookup key = table.lookup key := by
  by_cases perm : other.entries.Perm table.entries
  · simp only [rehash, perm, if_true]
    exact AList.perm_lookup perm
  · simp only [rehash, perm, if_false]

theorem rehash_reorders [DecidableEq α] (other table : Table κ α) (reorders : Reorders other table) :
    rehash other table = other := by
  have perm : other.entries.Perm table.entries := reorders
  simp only [rehash, perm, if_true]

-- Collecting pairs into a map: a later pair replaces an earlier one with its key.
def collect (rows : List (κ × α)) : Table κ α :=
  rows.foldl (fun table row => table.insert row.1 row.2) ∅

theorem fold_insert_origin (rows : List (κ × α)) (table : Table κ α) (key : κ) (value : α)
    (present : (rows.foldl (fun table row => table.insert row.1 row.2) table).lookup key = some value) :
    (key, value) ∈ rows ∨ table.lookup key = some value := by
  induction rows generalizing table with
  | nil => exact Or.inr present
  | cons row rows ih =>
      rcases ih (table.insert row.1 row.2) present with later | earlier
      · exact Or.inl (List.mem_cons_of_mem row later)
      · rw [lookup_insert_eq] at earlier
        by_cases same : key = row.1
        · simp only [same, if_true, Option.some.injEq] at earlier
          exact Or.inl (by rw [same, ← earlier]; exact List.mem_cons_self)
        · simp only [same, if_false] at earlier
          exact Or.inr earlier

theorem lookup_collect_origin (rows : List (κ × α)) (key : κ) (value : α)
    (present : (collect rows).lookup key = some value) : (key, value) ∈ rows := by
  rcases fold_insert_origin rows ∅ key value present with member | absent
  · exact member
  · simp at absent

theorem mem_entries (table : Table κ α) (key : κ) (value : α) :
    (⟨key, value⟩ : (_ : κ) × α) ∈ table.entries ↔ table.lookup key = some value :=
  AList.mem_lookup_iff.symm

theorem modify_eq_self (key : κ) (change : α → α) (table : Table κ α) :
    modify key change table = table ↔ ∀ value, table.lookup key = some value → change value = value := by
  constructor
  · intro same value present
    have changed := lookup_modify key key change table
    rw [same, if_pos rfl, present, Option.map_some, Option.some.injEq] at changed
    exact changed.symm
  · intro unchanged
    apply AList.ext
    rw [modify, mapValues]
    apply (List.map_congr_left _).trans (List.map_id _)
    intro row member
    by_cases chosen : row.1 = key
    · have present := (mem_entries table row.1 row.2).mp member
      rw [chosen] at present
      simp [Sigma.map, chosen, unchanged row.2 present, Sigma.ext_iff]
    · simp [Sigma.map, chosen]

theorem fold_insert_present (rows : List (κ × α)) (table : Table κ α) (key : κ)
    (present : key ∈ rows.map Prod.fst ∨ (table.lookup key).isSome = true) :
    ((rows.foldl (fun table row => table.insert row.1 row.2) table).lookup key).isSome = true := by
  induction rows generalizing table with
  | nil => exact present.resolve_left (by simp)
  | cons row rows ih =>
      refine ih (table.insert row.1 row.2) ?_
      rw [lookup_insert_eq]
      by_cases same : key = row.1
      · exact Or.inr (by rw [if_pos same]; rfl)
      · rw [if_neg same]
        rcases present with listed | stored
        · rw [List.map_cons, List.mem_cons] at listed
          exact Or.inl (listed.resolve_left same)
        · exact Or.inr stored

theorem lookup_collect_entries (table : Table κ α) (key : κ) :
    (collect (table.entries.map fun entry => (entry.1, entry.2))).lookup key = table.lookup key := by
  have origin (value : α)
      (found : (collect (table.entries.map fun entry => (entry.1, entry.2))).lookup key = some value) :
      table.lookup key = some value := by
    obtain ⟨entry, member, same⟩ := List.mem_map.mp (lookup_collect_origin _ key value found)
    cases same
    exact (mem_entries table _ _).mp member
  apply Option.ext
  intro value
  refine ⟨origin value, fun stored => ?_⟩
  have listed : key ∈ (table.entries.map fun entry => (entry.1, entry.2)).map Prod.fst := by
    have entry : (⟨key, value⟩ : (_ : κ) × α) ∈ table.entries := (mem_entries table key value).mpr stored
    exact List.mem_map_of_mem (List.mem_map_of_mem entry)
  obtain ⟨other, found⟩ := Option.isSome_iff_exists.mp (fold_insert_present _ ∅ key (Or.inl listed))
  have sameValue := (origin other found).symm.trans stored
  rw [← sameValue]
  exact found

theorem lookup_retain (keep : α → Bool) (table : Table κ α) (key : κ) :
    (retain keep table).lookup key = (table.lookup key).filter keep := by
  apply Option.ext
  intro value
  have kept : (⟨key, value⟩ : (_ : κ) × α) ∈ (retain keep table).entries ↔
      ⟨key, value⟩ ∈ table.entries ∧ keep value = true :=
    List.mem_filter
  rw [mem_entries, mem_entries] at kept
  rw [kept, Option.filter_eq_some_iff]

theorem find_entry_some (accepts : α → Bool) (table : Table κ α) (key : κ) (value : α)
    (found : findEntry accepts table = some ⟨key, value⟩) :
    table.lookup key = some value ∧ accepts value = true :=
  ⟨(mem_entries table key value).mp (List.mem_of_find?_eq_some found),
    List.find?_some (p := fun row : (_ : κ) × α => accepts row.2) found⟩

theorem find_entry_none (accepts : α → Bool) (table : Table κ α) :
    findEntry accepts table = none ↔ ∀ key value, table.lookup key = some value → accepts value = false := by
  simp only [findEntry, List.find?_eq_none, Bool.not_eq_true]
  constructor
  · intro absent key value present
    exact absent ⟨key, value⟩ ((mem_entries table key value).mpr present)
  · intro absent row member
    exact absent row.1 row.2 ((mem_entries table row.1 row.2).mp member)

theorem find_entry_present (accepts : α → Bool) (table : Table κ α) (key : κ) (value : α)
    (present : table.lookup key = some value) (accepted : accepts value = true) :
    ∃ found match_, findEntry accepts table = some ⟨found, match_⟩ := by
  cases result : findEntry accepts table with
  | some row => exact ⟨row.1, row.2, rfl⟩
  | none =>
      have rejected := (find_entry_none accepts table).mp result key value present
      simp [rejected] at accepted

theorem find_entry_unique (accepts : α → Bool) (table : Table κ α) (key : κ) (value : α)
    (present : table.lookup key = some value) (accepted : accepts value = true)
    (unique : ∀ found other, table.lookup found = some other → accepts other = true → found = key) :
    findEntry accepts table = some ⟨key, value⟩ := by
  obtain ⟨found, other, result⟩ := find_entry_present accepts table key value present accepted
  obtain ⟨otherPresent, otherAccepted⟩ := find_entry_some accepts table found other result
  have same := unique found other otherPresent otherAccepted
  subst found
  rw [present, Option.some.injEq] at otherPresent
  subst other
  exact result

theorem find_value_some (accepts : α → Bool) (table : Table κ α) (value : α)
    (found : findValue accepts table = some value) :
    (∃ key, table.lookup key = some value) ∧ accepts value = true := by
  obtain ⟨⟨key, other⟩, entry, rfl⟩ := Option.map_eq_some_iff.mp found
  obtain ⟨present, accepted⟩ := find_entry_some accepts table key other entry
  exact ⟨⟨key, present⟩, accepted⟩

theorem find_value_none (accepts : α → Bool) (table : Table κ α) :
    findValue accepts table = none ↔ ∀ key value, table.lookup key = some value → accepts value = false := by
  rw [findValue, Option.map_eq_none_iff]
  exact find_entry_none accepts table

theorem insert_reorders (table : Table κ α) (key : κ) (value : α) (present : table.lookup key = some value) :
    Reorders (table.insert key value) table := by
  apply List.lookup_ext (AList.nodupKeys _) (AList.nodupKeys _)
  intro found other
  have same := lookup_insert_eq key found value table
  change other ∈ (table.insert key value).lookup found ↔ other ∈ table.lookup found
  rw [same]
  by_cases chosen : found = key
  · rw [if_pos chosen, chosen, present]
  · rw [if_neg chosen]

theorem find_value_insert (accepts : α → Bool) (table : Table κ α) (key : κ) (value : α)
    (accepted : accepts value = true) : findValue accepts (table.insert key value) = some value := by
  simp [findValue, findEntry, AList.entries_insert, accepted]

end Lookup

end Table
