import Mathlib.Data.List.Nodup
import Mathlib.Data.List.Pairwise

set_option autoImplicit false

-- A set that lists its members in the order in which they were added.
structure OrderedSet (α : Type) where
  entries : List α
  distinct : entries.Nodup

namespace OrderedSet

variable {α : Type}

instance : Membership α (OrderedSet α) :=
  ⟨fun set entry => entry ∈ set.entries⟩

def empty : OrderedSet α :=
  { entries := [], distinct := List.nodup_nil }

theorem not_mem_empty (entry : α) : entry ∉ (empty : OrderedSet α) :=
  List.not_mem_nil

variable [DecidableEq α]

def has (set : OrderedSet α) (entry : α) : Bool :=
  entry ∈ set.entries

def add (set : OrderedSet α) (entry : α) : OrderedSet α :=
  if absent : entry ∉ set.entries then
    { entries := set.entries ++ [entry]
      distinct := List.Nodup.append set.distinct (List.nodup_singleton entry) (List.disjoint_singleton.mpr absent) }
  else set

def delete (set : OrderedSet α) (entry : α) : OrderedSet α :=
  { entries := set.entries.filter (· ≠ entry), distinct := set.distinct.filter _ }

theorem has_iff (set : OrderedSet α) (entry : α) : set.has entry = true ↔ entry ∈ set :=
  decide_eq_true_iff

theorem mem_add (set : OrderedSet α) (entry other : α) : other ∈ set.add entry ↔ other ∈ set ∨ other = entry := by
  by_cases absent : entry ∉ set.entries
  · rw [add, dif_pos absent]
    exact List.mem_append.trans (or_congr_right List.mem_singleton)
  · rw [add, dif_neg absent]
    constructor
    · exact Or.inl
    · rintro (member | rfl)
      · exact member
      · exact not_not.mp absent

theorem mem_delete (set : OrderedSet α) (entry other : α) : other ∈ set.delete entry ↔ other ∈ set ∧ other ≠ entry :=
  List.mem_filter.trans (and_congr_right fun _ => decide_eq_true_iff)

theorem mem_add_all (entries : List α) (set : OrderedSet α) (other : α) :
    other ∈ entries.foldl add set ↔ other ∈ set ∨ other ∈ entries := by
  induction entries generalizing set with
  | nil => simp
  | cons entry rest ih => rw [List.foldl_cons, ih, mem_add, List.mem_cons, or_assoc]

theorem mem_delete_all (entries : List α) (set : OrderedSet α) (other : α) :
    other ∈ entries.foldl delete set ↔ other ∈ set ∧ other ∉ entries := by
  induction entries generalizing set with
  | nil => simp
  | cons entry rest ih => rw [List.foldl_cons, ih, mem_delete, List.mem_cons, not_or, and_assoc]

theorem nodup_filter_map_iff {β : Type} (set : OrderedSet α) (read : α → Option β) :
    (set.entries.filterMap read).Nodup ↔
      ∀ first ∈ set, ∀ second ∈ set, ∀ value, read first = some value → read second = some value → first = second := by
  rw [List.Nodup, List.pairwise_filterMap]
  constructor
  · intro apart first isFirst second isSecond value readFirst readSecond
    by_contra different
    have symmetric : Std.Symm fun a b => ∀ x, read a = some x → ∀ y, read b = some y → x ≠ y :=
      ⟨fun a b differ y readB x readA same => differ x readA y readB same.symm⟩
    exact apart.forall isFirst isSecond different value readFirst value readSecond rfl
  · intro injective
    refine set.distinct.imp_of_mem fun isFirst isSecond different x readFirst y readSecond same => ?_
    subst same
    exact different (injective _ isFirst _ isSecond x readFirst readSecond)

end OrderedSet
