import Moxui.Lib.FilterTemplate

set_option autoImplicit false

-- When a filter that was made from a template says of each value what was filled in.
namespace SearchFilter

section Counting

variable (placeholder : Placeholder)

def width (chars : List Char) : Nat :=
  (chars.flatMap String.utf8EncodeChar).length

theorem width_append (first second : List Char) : width (first ++ second) = width first + width second := by
  rw [width, List.flatMap_append, List.length_append]
  rfl

theorem flatten_value (values : List (List Char)) (valid : ∀ value ∈ values, AssertionValue value) :
    AssertionValue values.flatten ∧ octets values.flatten = values.flatMap octets := by
  induction values with
  | nil => exact ⟨.empty, rfl⟩
  | cons value values ih =>
      have here := valid value List.mem_cons_self
      obtain ⟨more, denoted⟩ := ih fun other member => valid other (List.mem_cons_of_mem value member)
      rw [List.flatten_cons, List.flatMap_cons, octets_append value _ here, denoted]
      exact ⟨value_append value _ here more, rfl⟩

theorem values_width (values : List (List Char)) (valid : ∀ value ∈ values, AssertionValue value) :
    width values.flatten = (values.flatMap octets).length + 2 * values.flatten.count backslash := by
  obtain ⟨whole, denoted⟩ := flatten_value values valid
  rw [← denoted]
  exact octets_length values.flatten whole

theorem parts_measure (measure : List Char → Nat)
    (additive : ∀ first second, measure (first ++ second) = measure first + measure second)
    (parts others : List (Part (List Char)))
    (alike : parts.map (Part.map fun _ => ()) = others.map (Part.map fun _ => ())) :
    measure (parts.flatMap Part.text) + measure (others.flatMap Part.values).flatten =
      measure (others.flatMap Part.text) + measure (parts.flatMap Part.values).flatten := by
  induction parts generalizing others with
  | nil =>
      cases others with
      | nil => rfl
      | cons other others => cases alike
  | cons part parts ih =>
      cases others with
      | nil => cases alike
      | cons other others =>
          obtain ⟨same, rest⟩ := List.cons.inj alike
          have later := ih others rest
          cases part with
          | frame chars =>
              cases other with
              | frame otherChars =>
                  cases same
                  simp only [List.flatMap_cons, additive, Part.text, Part.values, List.nil_append]
                  omega
              | slot value stop => cases same
          | slot value stop =>
              cases other with
              | frame otherChars => cases same
              | slot otherValue otherStop =>
                  have sameStop : stop = otherStop := (Part.slot.inj same).2
                  subst sameStop
                  simp only [List.flatMap_cons, additive, Part.text, Part.values, List.singleton_append,
                    List.flatten_cons]
                  omega

theorem values_measure (measure : List Char → Nat)
    (additive : ∀ first second, measure (first ++ second) = measure first + measure second)
    (filter other : Filter (List Char)) (alike : filter.map (fun _ => ()) = other.map (fun _ => ()))
    (same : filter.text = other.text) : measure filter.values.flatten = measure other.values.flatten := by
  have partsAlike : filter.parts.map (Part.map fun _ => ()) = other.parts.map (Part.map fun _ => ()) := by
    rw [← Filter.parts_map, ← Filter.parts_map, alike]
  have counted := parts_measure measure additive filter.parts other.parts partsAlike
  rw [Filter.parts_text, Filter.parts_text, Filter.parts_values, Filter.parts_values, same] at counted
  omega

def Placeholder.occurrences : List (List Char) → Nat
  | [] => 0
  | value :: values => Text.occurrences placeholder.pattern value + Placeholder.occurrences values

theorem filled_measure (measure : List Char → Nat)
    (additive : ∀ first second, measure (first ++ second) = measure first + measure second) (replacement : List Char)
    (values : List (List Char)) :
    measure (values.map (placeholder.fill replacement)).flatten =
      measure (values.map (placeholder.fill [])).flatten + placeholder.occurrences values * measure replacement := by
  have nothing := Text.measure_nil measure additive
  induction values with
  | nil => simp [Placeholder.occurrences]
  | cons value values ih =>
      have here := Text.measure_replace measure additive placeholder.pattern replacement value
      have gone := Text.measure_replace measure additive placeholder.pattern [] value
      rw [nothing, Nat.mul_zero, Nat.add_zero] at gone
      rw [List.map_cons, List.map_cons, List.flatten_cons, List.flatten_cons, additive, additive, ih,
        Placeholder.occurrences, Nat.add_mul, Placeholder.fill, Placeholder.fill, here, gone]
      omega

theorem occurrences_pos (values : List (List Char)) (value : List Char) (member : value ∈ values)
    (occurs : placeholder.pattern <:+: value) : 0 < placeholder.occurrences values := by
  have twice := Text.cut_occurrence placeholder.pattern value (pattern_nonempty placeholder) occurs
  have once : 0 < Text.occurrences placeholder.pattern value := by
    unfold Text.occurrences
    omega
  induction values with
  | nil => cases member
  | cons first rest ih =>
      rw [Placeholder.occurrences]
      rcases List.mem_cons.mp member with same | later
      · subst same
        omega
      · have positive := ih later
        omega

-- What a filled value is longer than what it should denote by: the backslashes of the template.
theorem filled_length (replacement value : List Char) (valid : AssertionValue value) :
    width (placeholder.fill replacement value) =
      (placeholder.filled replacement value).length + 2 * (placeholder.fill [] value).count backslash := by
  have pieces := cut_values placeholder value valid
  have whole := Text.measure_replace width width_append placeholder.pattern replacement value
  have kept := Text.measure_replace (List.count backslash) (fun first second => List.count_append) placeholder.pattern []
    value
  have denoted := Text.measure_intercalate List.length (fun first second => List.length_append)
    (replacement.flatMap String.utf8EncodeChar) ((Text.cut placeholder.pattern value).map octets)
    (fun empty => Text.cut_from_nonempty placeholder.pattern 0 value (List.map_eq_nil_iff.mp empty))
  rw [List.count_nil, Nat.mul_zero, Nat.add_zero] at kept
  rw [List.length_map, ← List.flatMap_def] at denoted
  unfold Placeholder.fill Placeholder.filled
  rw [whole, kept, denoted, values_width _ pieces]
  unfold Text.occurrences width
  omega

theorem filled_width (replacement : List Char) (values : List (List Char))
    (valid : ∀ value ∈ values, AssertionValue value) :
    width (values.map (placeholder.fill replacement)).flatten =
      (values.flatMap (placeholder.filled replacement)).length +
        2 * (values.map (placeholder.fill [])).flatten.count backslash := by
  induction values with
  | nil => rfl
  | cons value values ih =>
      have here := filled_length placeholder replacement value (valid value List.mem_cons_self)
      have later := ih fun other member => valid other (List.mem_cons_of_mem value member)
      rw [List.map_cons, List.map_cons, List.flatten_cons, List.flatten_cons, List.flatMap_cons, width_append, here, later,
        List.length_append, List.count_append]
      omega

end Counting

section Literal

variable (placeholder : Placeholder)

-- The text is a filter, and however it is read, it is the template's tree with the replacement
-- itself, to the octet, in its values.
def Placeholder.Literal (template : Filter (List Char)) (replacement sent : List Char) : Prop :=
  (∃ filter : Filter (List Char), filter.WellFormed ∧ filter.text = sent) ∧
    ∀ filter : Filter (List Char), filter.WellFormed → filter.text = sent →
      filter.map octets = template.map (placeholder.filled replacement)

def Placeholder.Erases : Item (List Char) → Prop
  | .substring _ first second [] => placeholder.fill [] first = [] ∧ placeholder.fill [] second = []
  | _ => False

theorem fill_nothing (replacement value : List Char) (nothing : placeholder.fill replacement value = []) :
    placeholder.fill [] value = [] ∧ (replacement = [] ∨ value = []) := by
  have lengths := Text.measure_replace List.length (fun first second => List.length_append) placeholder.pattern
  have whole := lengths replacement value
  have erased := lengths [] value
  have own := lengths placeholder.pattern value
  rw [Text.replace_self placeholder.pattern 0 value (pattern_nonempty placeholder), List.drop_zero] at own
  rw [Placeholder.fill] at nothing
  rw [nothing, List.length_nil] at whole
  have parts : (Text.cut placeholder.pattern value).flatten.length = 0 := by omega
  rw [parts, List.length_nil, Nat.mul_zero] at erased
  refine ⟨List.eq_nil_of_length_eq_zero erased, ?_⟩
  by_cases absent : Text.occurrences placeholder.pattern value = 0
  · rw [parts, absent, Nat.zero_mul] at own
    exact Or.inr (List.eq_nil_of_length_eq_zero own)
  · have product : Text.occurrences placeholder.pattern value * replacement.length = 0 := by omega
    exact Or.inl (List.eq_nil_of_length_eq_zero ((Nat.mul_eq_zero.mp product).resolve_left absent))

theorem fill_item (replacement : List Char) (plain : ∀ char ∈ replacement, normal char = true)
    (item : Item (List Char)) (valid : item.wellFormed = true)
    (kept : replacement = [] → ¬ placeholder.Erases item) :
    (item.map (placeholder.fill replacement)).wellFormed = true := by
  have filled : ∀ value ∈ item.values, assertionValue (placeholder.fill replacement value) = true := by
    intro value member
    exact (assertion_value_iff _).mpr (fill_plain placeholder replacement value plain (item_values item valid value member)).1
  cases item with
  | simple attr comparison value =>
      rw [Item.wellFormed, Bool.and_eq_true] at valid
      rw [Item.map, Item.wellFormed, valid.1, filled value (List.mem_singleton_self value)]
      rfl
  | present attr => exact valid
  | substring attr first second rest =>
      simp only [Item.wellFormed, Bool.and_eq_true] at valid
      simp only [Item.map, Item.wellFormed, Bool.and_eq_true]
      refine ⟨⟨valid.1.1, ?_⟩, ?_⟩
      · rw [← List.map_cons, ← List.map_cons, List.all_map]
        exact List.all_eq_true.mpr fun value member => filled value member
      · rw [Bool.not_eq_true']
        apply Bool.eq_false_iff.mpr
        intro bare
        simp only [Bool.and_eq_true, List.isEmpty_iff, List.map_eq_nil_iff] at bare
        obtain ⟨⟨firstBare, secondBare⟩, last⟩ := bare
        obtain ⟨firstErased, firstCase⟩ := fill_nothing placeholder replacement first firstBare
        obtain ⟨secondErased, secondCase⟩ := fill_nothing placeholder replacement second secondBare
        subst last
        by_cases empty : replacement = []
        · exact kept empty ⟨firstErased, secondErased⟩
        · rw [firstCase.resolve_left empty, secondCase.resolve_left empty] at valid
          exact absurd valid.2 (by decide)
  | extensible attr dn rule value =>
      simp only [Item.wellFormed, Bool.and_eq_true] at valid
      simp only [Item.map, Item.wellFormed, Bool.and_eq_true]
      exact ⟨⟨valid.1.1, filled value (List.mem_singleton_self value)⟩, valid.2⟩

theorem filled_literal (template : Filter (List Char)) (valid : template.WellFormed) (replacement : List Char)
    (plain : ∀ char ∈ replacement, normal char = true)
    (kept : replacement = [] → ∀ item ∈ template.items, ¬ placeholder.Erases item) :
    placeholder.Literal template replacement (placeholder.fill replacement template.text) := by
  have wellFormed : (template.map (placeholder.fill replacement)).WellFormed := by
    intro item member
    rw [Filter.items_map] at member
    obtain ⟨own, inside, rfl⟩ := List.mem_map.mp member
    exact fill_item placeholder replacement plain own (valid own inside) fun empty => kept empty own inside
  rw [fill_text placeholder replacement template valid]
  refine ⟨⟨_, wellFormed, rfl⟩, ?_⟩
  intro filter filterValid same
  rw [filter_text_injective filter _ filterValid wellFormed same, Filter.map_map]
  apply Filter.map_congr
  intro item member
  apply Item.map_congr
  intro value inside
  exact (fill_plain placeholder replacement value plain (item_values item (valid item member) value inside)).2

theorem filter_values (filter : Filter (List Char)) (valid : filter.WellFormed) :
    ∀ value ∈ filter.values, AssertionValue value := by
  intro value member
  obtain ⟨item, inside, own⟩ := List.mem_flatMap.mp member
  exact item_values item (valid item inside) value own

section Read

variable (template : Filter (List Char)) (valid : template.WellFormed) (replacement : List Char)
  (filter : Filter (List Char)) (filterValid : filter.WellFormed)
  (text : filter.text = placeholder.fill replacement template.text)
  (meaning : filter.map octets = template.map (placeholder.filled replacement))

include valid text meaning

theorem read_measure (measure : List Char → Nat)
    (additive : ∀ first second, measure (first ++ second) = measure first + measure second) :
    measure filter.values.flatten = measure (template.values.map (placeholder.fill [])).flatten +
      placeholder.occurrences template.values * measure replacement := by
  have alike : filter.map (fun _ => ()) = (template.map (placeholder.fill replacement)).map fun _ => () := by
    have erased := congrArg (Filter.map fun _ => ()) meaning
    rw [Filter.map_map, Filter.map_map] at erased
    rw [Filter.map_map]
    exact erased
  have same := text.trans (fill_text placeholder replacement template valid)
  rw [values_measure measure additive filter _ alike same, Filter.values_map]
  exact filled_measure placeholder measure additive replacement template.values

include filterValid

theorem read_without (occurs : 0 < placeholder.occurrences template.values) (char : Char)
    (special : normal char = false) (other : char ≠ backslash) : char ∉ replacement := by
  have counted := read_measure placeholder template valid replacement filter text meaning (List.count char)
    fun first second => List.count_append
  have none : filter.values.flatten.count char = 0 := by
    apply List.count_eq_zero.mpr
    intro member
    obtain ⟨value, inside, found⟩ := List.mem_flatten.mp member
    exact value_without value (filter_values filter filterValid value inside) char special other found
  rw [none] at counted
  have product : placeholder.occurrences template.values * replacement.count char = 0 := by omega
  exact List.count_eq_zero.mp ((Nat.mul_eq_zero.mp product).resolve_left (by omega))

-- Each backslash that is read makes an octet of three characters, and there are not too few octets.
theorem read_unescaped (occurs : 0 < placeholder.occurrences template.values) : backslash ∉ replacement := by
  have counted := read_measure placeholder template valid replacement filter text meaning (List.count backslash)
    fun first second => List.count_append
  have alike := read_measure placeholder template valid replacement filter text meaning width width_append
  rw [← filled_measure placeholder width width_append] at alike
  have read := values_width filter.values (filter_values filter filterValid)
  have made := filled_width placeholder replacement template.values (filter_values template valid)
  have denoted : filter.values.flatMap octets = template.values.flatMap (placeholder.filled replacement) := by
    rw [List.flatMap_def, List.flatMap_def, ← Filter.values_map, ← Filter.values_map, meaning]
  rw [denoted] at read
  have product : placeholder.occurrences template.values * replacement.count backslash = 0 := by omega
  exact List.count_eq_zero.mp ((Nat.mul_eq_zero.mp product).resolve_left (by omega))

end Read

-- A substring item of which nothing is left would be read as a presence item.
theorem read_kept (template filter : Filter (List Char)) (valid : template.WellFormed)
    (filterValid : filter.WellFormed) (replacement : List Char)
    (meaning : filter.map octets = template.map (placeholder.filled replacement)) (empty : replacement = []) (item : Item (List Char)) (member : item ∈ template.items) :
    ¬ placeholder.Erases item := by
  intro erased
  have listed : item.map (placeholder.filled replacement) ∈ (template.map (placeholder.filled replacement)).items := by
    rw [Filter.items_map]
    exact List.mem_map_of_mem member
  rw [← meaning, Filter.items_map] at listed
  obtain ⟨own, inside, same⟩ := List.mem_map.mp listed
  cases item with
  | substring attr first second rest =>
      cases rest with
      | nil =>
          have itemValid := item_values _ (valid _ member)
          have nothing (value : List Char) (isValue : AssertionValue value) (gone : placeholder.fill [] value = []) :
              placeholder.filled replacement value = [] := by
            rw [empty, ← (fill_plain placeholder [] value (fun char member => absurd member List.not_mem_nil) isValue).2, gone]
            rfl
          rw [Item.map, nothing first (itemValid first List.mem_cons_self) erased.1,
            nothing second (itemValid second (List.mem_cons_of_mem first List.mem_cons_self)) erased.2] at same
          have ownValid := filterValid own inside
          cases own with
          | substring ownAttr ownFirst ownSecond ownRest =>
              obtain ⟨-, firstEmpty, secondEmpty, restEmpty⟩ := Item.substring.inj same
              have ownValues := item_values _ ownValid
              have bareFirst := octets_empty ownFirst (ownValues ownFirst List.mem_cons_self) firstEmpty
              have bareSecond := octets_empty ownSecond
                (ownValues ownSecond (List.mem_cons_of_mem ownFirst List.mem_cons_self)) secondEmpty
              have bareRest := List.map_eq_nil_iff.mp restEmpty
              simp [Item.wellFormed, bareFirst, bareSecond, bareRest] at ownValid
          | _ => cases same
      | cons third rest => exact erased
  | _ => exact erased

theorem literal_iff (template : Filter (List Char)) (valid : template.WellFormed) (replacement : List Char)
    (placed : ∃ value ∈ template.values, placeholder.pattern <:+: value) :
    placeholder.Literal template replacement (placeholder.fill replacement template.text) ↔
      (∀ char ∈ replacement, normal char = true) ∧
        (replacement = [] → ∀ item ∈ template.items, ¬ placeholder.Erases item) := by
  obtain ⟨value, member, occurs⟩ := placed
  have several := occurrences_pos placeholder template.values value member occurs
  constructor
  · intro literal
    obtain ⟨⟨filter, filterValid, text⟩, every⟩ := literal
    have meaning := every filter filterValid text
    constructor
    · intro char inside
      by_cases plain : normal char = true
      · exact plain
      · have special := Bool.eq_false_iff.mpr plain
        by_cases escapes : char = backslash
        · have absent := read_unescaped placeholder template valid replacement filter filterValid text meaning several
          exact absurd (escapes ▸ inside) absent
        · have absent := read_without placeholder template valid replacement filter filterValid text meaning several
            char special escapes
          exact absurd inside absent
    · exact read_kept placeholder template filter valid filterValid replacement meaning
  · intro condition
    exact filled_literal placeholder template valid replacement condition.1 condition.2

end Literal

end SearchFilter
