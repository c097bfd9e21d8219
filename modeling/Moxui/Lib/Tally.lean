import Mathlib.Data.List.Basic

set_option autoImplicit false

-- Counters of a fixed width that a loop adds to: as long as the exact sum fits, it is what they hold.
namespace Tally

variable {α σ : Type}

def total (weight : α → Nat) : List α → Nat
  | [] => 0
  | item :: items => weight item + total weight items

@[simp] theorem total_nil (weight : α → Nat) : total weight [] = 0 := rfl

@[simp] theorem total_cons (weight : α → Nat) (item : α) (items : List α) :
    total weight (item :: items) = weight item + total weight items := rfl

theorem total_map {β : Type} (weight : β → Nat) (image : α → β) (items : List α) :
    total weight (items.map image) = total (fun item => weight (image item)) items := by
  induction items with
  | nil => rfl
  | cons item items ih => rw [List.map_cons, total_cons, total_cons, ih]

theorem weight_le_total (weight : α → Nat) (items : List α) (item : α) (member : item ∈ items) :
    weight item ≤ total weight items := by
  induction items with
  | nil => cases member
  | cons head items ih =>
      rw [total_cons]
      rcases List.mem_cons.mp member with here | later
      · rw [here]
        omega
      · have rest := ih later
        omega

-- `adds` is the step: a counter that does not overflow takes the weight of the item.
theorem foldl_total (step : σ → α → σ) (counter : σ → Nat) (weight : α → Nat) (bound : Nat)
    (adds : ∀ state item, counter state + weight item < bound → counter (step state item) = counter state + weight item)
    (state : σ) (items : List α) (fits : counter state + total weight items < bound) :
    counter (items.foldl step state) = counter state + total weight items := by
  induction items generalizing state with
  | nil => rfl
  | cons item items ih =>
      rw [total_cons] at fits
      have here := adds state item (by omega)
      rw [List.foldl_cons, ih (step state item) (by omega), here, total_cons]
      omega

def one (chosen : α → Bool) (item : α) : Nat := if chosen item then 1 else 0

theorem total_one (chosen : α → Bool) (items : List α) : total (one chosen) items = items.countP chosen := by
  induction items with
  | nil => rfl
  | cons item items ih =>
      rw [total_cons, ih, one, List.countP_cons]
      omega

theorem total_le (weight other : α → Nat) (items : List α) (below : ∀ item ∈ items, weight item ≤ other item) :
    total weight items ≤ total other items := by
  induction items with
  | nil => exact Nat.le_refl 0
  | cons item items ih =>
      have here := below item List.mem_cons_self
      have rest := ih fun later member => below later (List.mem_cons_of_mem item member)
      rw [total_cons, total_cons]
      omega

theorem maps_same {β γ : Type} (read : α → γ) (other : β → γ) (items : List α) (others : List β)
    (same : List.Forall₂ (fun item alike => read item = other alike) items others) : items.map read = others.map other := by
  induction same with
  | nil => rfl
  | cons here _ ih => rw [List.map_cons, List.map_cons, here, ih]

theorem total_congr {β : Type} (weight : α → Nat) (other : β → Nat) (items : List α) (others : List β)
    (same : List.Forall₂ (fun item alike => weight item = other alike) items others) :
    total weight items = total other others := by
  induction same with
  | nil => rfl
  | cons here _ ih => rw [total_cons, total_cons, here, ih]

end Tally
