import Mathlib.Data.List.Basic

set_option autoImplicit false

-- A stable sort by a comparator of which only the sign of the answer counts.
namespace StableSort

section Comparators

variable {α β : Type}

-- What is missing comes after everything else.
def nullsLast (compare : α → α → Ordering) : Option α → Option α → Ordering
  | none, none => .eq
  | none, some _ => .gt
  | some _, none => .lt
  | some first, some second => compare first second

def signed (descending : Bool) (order : Ordering) : Ordering :=
  if descending then order.swap else order

theorem signed_eq_iff (descending : Bool) (order : Ordering) : signed descending order = .eq ↔ order = .eq := by
  cases descending with
  | false => exact Iff.rfl
  | true => exact Ordering.swap_eq_eq

variable (compare : α → α → Ordering) [Std.TransCmp compare]

theorem signed_true (first second : α) : signed true (compare first second) = compare second first :=
  Std.OrientedCmp.eq_swap.symm

theorem trans_signed (descending : Bool) : Std.TransCmp fun first second => signed descending (compare first second) := by
  cases descending with
  | false => exact inferInstanceAs (Std.TransCmp compare)
  | true =>
      simp only [signed_true]
      exact Std.TransCmp.opposite

theorem trans_comap (key : β → α) : Std.TransCmp fun first second => compare (key first) (key second) where
  eq_swap := Std.OrientedCmp.eq_swap
  isLE_trans := Std.TransCmp.isLE_trans

theorem trans_nulls_last : Std.TransCmp (nullsLast compare) where
  eq_swap := by
    intro first second
    cases first with
    | none => cases second <;> rfl
    | some first =>
        cases second with
        | none => rfl
        | some second =>
            have swapped : compare first second = (compare second first).swap := Std.OrientedCmp.eq_swap
            exact swapped
  isLE_trans := by
    intro first second third lower upper
    cases third with
    | none => cases first <;> rfl
    | some third =>
        cases second with
        | none => exact absurd upper Bool.false_ne_true
        | some second =>
            cases first with
            | none => exact absurd lower Bool.false_ne_true
            | some first =>
                have both : (compare first third).isLE = true := Std.TransCmp.isLE_trans (b := second) lower upper
                exact both

end Comparators

section Sorting

variable {α : Type} (compare : α → α → Ordering)

def sort (rows : List α) : List α :=
  rows.mergeSort fun first second => (compare first second).isLE

theorem sort_perm (rows : List α) : (sort compare rows).Perm rows :=
  List.mergeSort_perm rows _

variable [Std.TransCmp compare]

theorem le_total (first second : α) : ((compare first second).isLE || (compare second first).isLE) = true := by
  have swapped : compare second first = (compare first second).swap := Std.OrientedCmp.eq_swap
  rw [swapped]
  cases compare first second <;> rfl

theorem sort_ordered (rows : List α) : (sort compare rows).Pairwise fun first second => (compare first second).isLE :=
  List.pairwise_mergeSort (fun _ _ _ => Std.TransCmp.isLE_trans) (le_total compare) rows

theorem sort_stable (rows : List α) (row : α) :
    ((sort compare rows).filter fun other => compare row other = .eq) = rows.filter fun other => compare row other = .eq := by
  have equal : (rows.filter fun other => compare row other = .eq).Pairwise fun first second => (compare first second).isLE := by
    refine List.pairwise_of_forall_mem_list fun first isFirst second isSecond => ?_
    have left : compare row first = .eq := of_decide_eq_true (List.mem_filter.mp isFirst).2
    have right : compare row second = .eq := of_decide_eq_true (List.mem_filter.mp isSecond).2
    have same : compare first second = .eq := Std.TransCmp.eq_trans (Std.OrientedCmp.eq_symm left) right
    rw [same]
    rfl
  have kept : (rows.filter fun other => compare row other = .eq).Sublist (sort compare rows) :=
    List.sublist_mergeSort (fun _ _ _ => Std.TransCmp.isLE_trans) (le_total compare) equal List.filter_sublist
  have inside := kept.filter fun other => decide (compare row other = .eq)
  rw [List.filter_filter] at inside
  simp only [Bool.and_self] at inside
  exact (inside.eq_of_length ((sort_perm compare rows).filter _).length_eq.symm).symm

end Sorting

end StableSort
