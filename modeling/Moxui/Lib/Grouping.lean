import Mathlib.Data.List.Basic
import Moxui.Lib.Table

set_option autoImplicit false

-- A table that keeps, under each key, what the items of a log with that key come to.
namespace Grouping

variable {κ α β : Type} [DecidableEq κ]

def group (keyOf : β → κ) (key : κ) (items : List β) : List β :=
  items.filter fun item => keyOf item == key

theorem group_snoc (keyOf : β → κ) (key : κ) (items : List β) (item : β) :
    group keyOf key (items ++ [item]) =
      if keyOf item = key then group keyOf key items ++ [item] else group keyOf key items := by
  unfold group
  rw [List.filter_append]
  by_cases same : keyOf item = key
  · rw [if_pos same, List.filter_cons_of_pos (by simpa using same), List.filter_nil]
  · rw [if_neg same, List.filter_cons_of_neg (by simpa using same), List.filter_nil, List.append_nil]

def Keeps (keyOf : β → κ) (summary : List β → α) (table : Table κ α) (items : List β) : Prop :=
  ∀ key, (table.lookup key).getD (summary []) = summary (group keyOf key items)

variable {keyOf : β → κ} {summary : List β → α}

theorem keeps_empty : Keeps keyOf summary ∅ [] := by
  intro key
  rw [AList.lookup_empty]
  rfl

theorem Keeps.insert {table : Table κ α} {items : List β} (keeps : Keeps keyOf summary table items) (item : β)
    (value : α) (adds : ∀ earlier, summary earlier = (table.lookup (keyOf item)).getD (summary []) →
      summary (earlier ++ [item]) = value) :
    Keeps keyOf summary (table.insert (keyOf item) value) (items ++ [item]) := by
  intro key
  rw [Table.lookup_insert_eq, group_snoc]
  by_cases same : key = keyOf item
  · subst same
    rw [if_pos rfl, if_pos rfl, Option.getD_some]
    exact (adds _ (keeps (keyOf item)).symm).symm
  · rw [if_neg same, if_neg (Ne.symm same)]
    exact keeps key

end Grouping
