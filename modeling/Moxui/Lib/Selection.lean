import Mathlib.Data.List.Basic

set_option autoImplicit false

-- What is taken from a list: by a test that stands for another one, or by names of which an
-- empty list stands for all.
namespace Selection

section Tests

variable {α β : Type} (chosen wanted : α → Bool)

theorem filter_refine (items : List α) (covers : ∀ item ∈ items, wanted item = true → chosen item = true) :
    (items.filter chosen).filter wanted = items.filter wanted := by
  rw [List.filter_filter]
  apply List.filter_congr
  intro item member
  cases both : wanted item with
  | true => rw [covers item member both, Bool.true_and]
  | false => rw [Bool.false_and]

theorem filter_map_eq_iff (use : α → β) (items : List α)
    (covers : ∀ item ∈ items, wanted item = true → chosen item = true) :
    (items.filter chosen).map use = (items.filter wanted).map use ↔
      ∀ item ∈ items, chosen item = true → wanted item = true := by
  rw [← filter_refine chosen wanted items covers]
  constructor
  · intro same item member passes
    have lengths := congrArg List.length same
    rw [List.length_map, List.length_map] at lengths
    have all := List.filter_sublist.eq_of_length lengths.symm
    have kept : item ∈ (items.filter chosen).filter wanted := by
      rw [all]
      exact List.mem_filter.mpr ⟨member, passes⟩
    exact (List.mem_filter.mp kept).2
  · intro passes
    congr 1
    symm
    apply List.filter_eq_self.mpr
    intro item kept
    obtain ⟨member, taken⟩ := List.mem_filter.mp kept
    exact passes item member taken

end Tests

section Names

variable {ν ε : Type} (name : ε → ν) (parse : ν → Option ε)

def Reads : Prop :=
  ∀ text value, parse text = some value ↔ text = name value

theorem mem_parsed (reads : Reads name parse) (names : List ν) (value : ε) :
    value ∈ names.filterMap parse ↔ name value ∈ names := by
  rw [List.mem_filterMap]
  constructor
  · intro found
    obtain ⟨text, member, known⟩ := found
    rw [reads] at known
    exact known ▸ member
  · intro member
    exact ⟨name value, member, (reads _ _).mpr rfl⟩

variable [DecidableEq ε]

def selects (values : List ε) (value : ε) : Bool :=
  values.isEmpty || values.contains value

-- What is left of a list of names selects what the list does, or everything if none was known.
theorem selects_parsed (reads : Reads name parse) (names : List ν) (value : ε) :
    selects (names.filterMap parse) value = true ↔
      (names = [] ∨ name value ∈ names) ∨ (names ≠ [] ∧ ∀ text ∈ names, parse text = none) := by
  rw [selects, Bool.or_eq_true, List.isEmpty_iff, List.contains_iff_mem, mem_parsed name parse reads,
    List.filterMap_eq_nil_iff]
  by_cases nothing : names = []
  · simp [nothing]
  · simp only [nothing, false_or, ne_eq, not_false_eq_true, true_and]
    exact or_comm

end Names

end Selection
