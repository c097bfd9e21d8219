import Mathlib.Data.List.Basic
import Mathlib.Data.List.Nodup
import Mathlib.Data.List.Perm.Basic

set_option autoImplicit false

-- A form with named fields, of which some are not set, and the pairs that are sent for it.
namespace FormFields

variable {κ τ : Type}

def pairs (fields : List (κ × Option τ)) : List (κ × τ) :=
  fields.filterMap fun field => field.2.map (field.1, ·)

@[simp] theorem pairs_nil : pairs ([] : List (κ × Option τ)) = [] := rfl

@[simp] theorem pairs_set (key : κ) (value : τ) (fields : List (κ × Option τ)) :
    pairs ((key, some value) :: fields) = (key, value) :: pairs fields := rfl

@[simp] theorem pairs_unset (key : κ) (fields : List (κ × Option τ)) :
    pairs ((key, none) :: fields) = pairs fields := rfl

theorem pairs_append (fields others : List (κ × Option τ)) : pairs (fields ++ others) = pairs fields ++ pairs others :=
  List.filterMap_append

theorem pairs_cons_cons (first second : κ × Option τ) (fields : List (κ × Option τ)) :
    pairs (first :: second :: fields) = pairs [first] ++ pairs (second :: fields) :=
  pairs_append [first] (second :: fields)

theorem mem_pairs (fields : List (κ × Option τ)) (key : κ) (value : τ) :
    (key, value) ∈ pairs fields ↔ (key, some value) ∈ fields := by
  induction fields with
  | nil => simp
  | cons field fields ih =>
      obtain ⟨name, set⟩ := field
      cases set with
      | none =>
          rw [pairs_unset, ih]
          simp
      | some content =>
          rw [pairs_set, List.mem_cons, List.mem_cons, ih]
          simp

theorem pairs_keys_sublist (fields : List (κ × Option τ)) :
    List.Sublist ((pairs fields).map Prod.fst) (fields.map Prod.fst) := by
  induction fields with
  | nil => exact List.Sublist.refl []
  | cons field fields ih =>
      obtain ⟨name, set⟩ := field
      cases set with
      | none => exact ih.cons name
      | some content => exact ih.cons_cons name

theorem pairs_keys_nodup (fields : List (κ × Option τ)) (distinct : (fields.map Prod.fst).Nodup) :
    ((pairs fields).map Prod.fst).Nodup :=
  distinct.sublist (pairs_keys_sublist fields)

section Exactly

variable [DecidableEq κ]

theorem pairs_of_other_key (fields : List (κ × Option τ)) (key : κ) (absent : key ∉ fields.map Prod.fst) :
    (pairs fields).filter (fun pair => pair.1 = key) = [] := by
  apply List.filter_eq_nil_iff.mpr
  intro pair member same
  rw [decide_eq_true_eq] at same
  have kept := (pairs_keys_sublist fields).subset (List.mem_map_of_mem member)
  rw [same] at kept
  exact absent kept

theorem pairs_of_key (fields : List (κ × Option τ)) (distinct : (fields.map Prod.fst).Nodup) (key : κ)
    (set : Option τ) (member : (key, set) ∈ fields) :
    (pairs fields).filter (fun pair => pair.1 = key) = (set.map (key, ·)).toList := by
  induction fields with
  | nil => cases member
  | cons field fields ih =>
      rw [List.map_cons, List.nodup_cons] at distinct
      rcases List.mem_cons.mp member with here | later
      · subst here
        have rest := pairs_of_other_key fields key distinct.1
        cases set with
        | none => exact rest
        | some value =>
            rw [pairs_set, List.filter_cons_of_pos (by simp), rest]
            rfl
      · obtain ⟨name, content⟩ := field
        have other : name ≠ key := by
          intro same
          apply distinct.1
          rw [same]
          exact List.mem_map.mpr ⟨(key, set), later, rfl⟩
        cases content with
        | none => exact ih distinct.2 later
        | some value =>
            rw [pairs_set, List.filter_cons_of_neg (by simp [other])]
            exact ih distinct.2 later

end Exactly

theorem pairs_injective (fields others : List (κ × Option τ)) (keys : fields.map Prod.fst = others.map Prod.fst)
    (distinct : (fields.map Prod.fst).Nodup) (same : pairs fields = pairs others) : fields = others := by
  induction fields generalizing others with
  | nil => exact (List.map_eq_nil_iff.mp keys.symm).symm
  | cons field fields ih =>
      cases others with
      | nil => cases keys
      | cons other others =>
          obtain ⟨name, set⟩ := field
          obtain ⟨otherName, otherSet⟩ := other
          obtain ⟨sameName, sameKeys⟩ := List.cons.inj keys
          change name = otherName at sameName
          subst sameName
          rw [List.map_cons, List.nodup_cons] at distinct
          -- The key comes first in one list only if it does in the other.
          have here (value : τ) (rest : List (κ × Option τ)) (missing : name ∉ rest.map Prod.fst) :
              (name, value) ∉ pairs rest := by
            intro member
            exact missing ((pairs_keys_sublist rest).subset (List.mem_map_of_mem member))
          cases set with
          | none =>
              cases otherSet with
              | none => rw [ih others sameKeys distinct.2 same]
              | some value =>
                  rw [pairs_unset, pairs_set] at same
                  exact absurd (by rw [same]; exact List.mem_cons_self) (here value fields distinct.1)
          | some value =>
              cases otherSet with
              | none =>
                  rw [pairs_unset, pairs_set] at same
                  rw [sameKeys] at distinct
                  exact absurd (by rw [← same]; exact List.mem_cons_self) (here value others distinct.1)
              | some content =>
                  rw [pairs_set, pairs_set] at same
                  obtain ⟨samePair, rest⟩ := List.cons.inj same
                  rw [ih others sameKeys distinct.2 rest, (Prod.mk.inj samePair).2]

-- What an encoder of forms does that is faithful to the fields of its forms: for each field
-- that is set one pair, for each field that is not set none.
structure Faithful {ρ : Type} [DecidableEq κ] (fields : ρ → List (κ × Option τ)) (encode : ρ → List (κ × τ)) :
    Prop where
  keys_distinct : ∀ form, ((encode form).map Prod.fst).Nodup
  one_if_set : ∀ form key set, (key, set) ∈ fields form →
    (encode form).filter (fun pair => pair.1 = key) = (set.map (key, ·)).toList
  no_others : ∀ form pair, pair ∈ encode form → (pair.1, some pair.2) ∈ fields form
  injective : ∀ form other, encode form = encode other → form = other

theorem faithful_of_pairs {ρ : Type} [DecidableEq κ] (fields : ρ → List (κ × Option τ)) (encode : ρ → List (κ × τ))
    (distinct : ∀ form, ((fields form).map Prod.fst).Nodup)
    (named : ∀ form other, (fields form).map Prod.fst = (fields other).map Prod.fst)
    (encoded : ∀ form, encode form = pairs (fields form))
    (apart : ∀ form other, fields form = fields other → form = other) : Faithful fields encode := by
  refine ⟨?_, ?_, ?_, ?_⟩
  · intro form
    rw [encoded form]
    exact pairs_keys_nodup _ (distinct form)
  · intro form key set member
    rw [encoded form]
    exact pairs_of_key _ (distinct form) key set member
  · intro form pair member
    rw [encoded form] at member
    exact (mem_pairs _ pair.1 pair.2).mp member
  · intro form other same
    rw [encoded form, encoded other] at same
    apply apart
    exact pairs_injective _ _ (named form other) (distinct form) same

end FormFields
