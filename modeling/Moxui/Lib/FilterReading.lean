import Moxui.Lib.SearchFilter

set_option autoImplicit false

-- A text is the string form of at most one filter.
namespace SearchFilter

section Names

def nameChar (char : Char) : Bool :=
  keyChar char || char == '.' || char == ';'

theorem key_name_char (char : Char) (key : keyChar char = true) : nameChar char = true := by
  rw [nameChar, key]
  rfl

theorem mem_joined (separator char : Char) (parts : List (List Char))
    (member : char ∈ [separator].intercalate parts) : char = separator ∨ ∃ part ∈ parts, char ∈ part := by
  induction parts with
  | nil => cases member
  | cons first rest ih =>
      by_cases last : rest = []
      · subst last
        rw [List.intercalate_singleton] at member
        exact Or.inr ⟨first, List.mem_cons_self, member⟩
      · rw [List.intercalate_cons_of_ne_nil last, List.append_assoc, List.mem_append, List.mem_append,
          List.mem_singleton] at member
        rcases member with here | same | later
        · exact Or.inr ⟨first, List.mem_cons_self, here⟩
        · exact Or.inl same
        · rcases ih later with same | ⟨part, inside, found⟩
          · exact Or.inl same
          · exact Or.inr ⟨part, List.mem_cons_of_mem first inside, found⟩

theorem mem_split (separator char : Char) (chars : List Char) (member : char ∈ chars) :
    char = separator ∨ ∃ part ∈ chars.splitOn separator, char ∈ part := by
  apply mem_joined
  rwa [List.intercalate_splitOn]

theorem key_string_chars (chars : List Char) (valid : keyString chars = true) :
    ∀ char ∈ chars, nameChar char = true := by
  intro char member
  cases chars with
  | nil => cases member
  | cons first rest =>
      rw [keyString, Bool.and_eq_true] at valid
      apply key_name_char
      rcases List.mem_cons.mp member with same | later
      · rw [same, keyChar, Char.isAlphanum, valid.1]
        rfl
      · exact List.all_eq_true.mp valid.2 char later

theorem number_chars (chars : List Char) (valid : number chars = true) : ∀ char ∈ chars, nameChar char = true := by
  have digits : ∀ char ∈ chars, char.isDigit = true := by
    intro char member
    fun_cases number chars with
    | case1 => cases member
    | case2 digit =>
        rw [List.mem_singleton.mp member]
        exact valid
    | case3 first rest _ =>
        rw [number, Bool.and_eq_true, Bool.and_eq_true] at valid
        rcases List.mem_cons.mp member with same | later
        · exact same ▸ valid.1.1
        · exact List.all_eq_true.mp valid.2 char later
        · assumption
  intro char member
  apply key_name_char
  rw [keyChar, Char.isAlphanum, digits char member, Bool.or_true]
  rfl

theorem oid_chars (chars : List Char) (valid : oid chars = true) : ∀ char ∈ chars, nameChar char = true := by
  intro char member
  rcases Bool.or_eq_true_iff.mp valid with key | numeric
  · exact key_string_chars chars key char member
  · rw [numericOid, Bool.and_eq_true] at numeric
    rcases mem_split '.' char chars member with same | ⟨part, inside, found⟩
    · rw [same]
      decide
    · exact number_chars part (List.all_eq_true.mp numeric.2 part inside) char found

theorem dn_chars (chars : List Char) (valid : dnSpelling chars = true) : ∀ char ∈ chars, nameChar char = true := by
  simp only [dnSpelling, decide_eq_true_eq, List.mem_cons, List.not_mem_nil, or_false] at valid
  rcases valid with same | same | same | same <;> (subst same; exact List.all_eq_true.mp rfl)

theorem attribute_chars (chars : List Char) (valid : attributeDescription chars = true) :
    ∀ char ∈ chars, nameChar char = true := by
  intro char member
  rcases mem_split ';' char chars member with same | ⟨part, inside, found⟩
  · rw [same]
    decide
  · unfold attributeDescription at valid
    cases parts : chars.splitOn ';' with
    | nil =>
        rw [parts] at inside
        cases inside
    | cons type options =>
        rw [parts] at valid inside
        rw [Bool.and_eq_true] at valid
        rcases List.mem_cons.mp inside with same | later
        · exact oid_chars part (same ▸ valid.1) char found
        · have option := List.all_eq_true.mp valid.2 part later
          rw [Bool.and_eq_true] at option
          exact key_name_char char (List.all_eq_true.mp option.2 char found)

theorem attribute_nonempty (chars : List Char) (valid : attributeDescription chars = true) : chars ≠ [] := by
  intro empty
  subst empty
  exact absurd valid (by decide +kernel)

end Names

theorem stretch_ends (kind : Char → Bool) (first second rest after : List Char) (stop halt : Char)
    (within : ∀ char ∈ first, kind char = true) (also : ∀ char ∈ second, kind char = true)
    (stops : kind stop = false) (ends : kind halt = false)
    (same : first ++ stop :: rest = second ++ halt :: after) : first = second ∧ stop = halt ∧ rest = after := by
  induction first generalizing second with
  | nil =>
      cases second with
      | nil =>
          obtain ⟨sameStop, sameRest⟩ := List.cons.inj same
          exact ⟨rfl, sameStop, sameRest⟩
      | cons char second =>
          have isKind := also char List.mem_cons_self
          rw [← (List.cons.inj same).1, stops] at isKind
          cases isKind
  | cons char first ih =>
      cases second with
      | nil =>
          have isKind := within char List.mem_cons_self
          rw [(List.cons.inj same).1, ends] at isKind
          cases isKind
      | cons head second =>
          obtain ⟨sameHead, sameTail⟩ := List.cons.inj same
          obtain ⟨sameFirst, sameStop, sameRest⟩ := ih second
            (fun next member => within next (List.mem_cons_of_mem char member))
            (fun char member => also char (List.mem_cons_of_mem head member)) sameTail
          exact ⟨by rw [sameHead, sameFirst], sameStop, sameRest⟩

section Items

def Comparison.sign : Comparison → Char
  | equal => '='
  | approx => '~'
  | greaterOrEqual => '>'
  | lessOrEqual => '<'

def Comparison.second : Comparison → List Char
  | equal => []
  | approx | greaterOrEqual | lessOrEqual => ['=']

theorem comparison_text (comparison : Comparison) : comparison.text = comparison.sign :: comparison.second := by
  cases comparison <;> rfl

def Item.name : Item (List Char) → List Char
  | simple attr _ _ => attr
  | present attr => attr
  | substring attr _ _ _ => attr
  | extensible attr _ _ _ => attr.getD []

def Item.sign : Item (List Char) → Char
  | simple _ comparison _ => comparison.sign
  | present _ => '='
  | substring _ _ _ _ => '='
  | extensible _ _ _ _ => ':'

def labels (dn rule : Option (List Char)) : List (List Char) :=
  dn.toList ++ rule.toList

def spellLabels (names : List (List Char)) (value : List Char) : List Char :=
  match names with
  | [] => '=' :: value
  | first :: rest => first ++ ':' :: spellLabels rest value

def Item.assertion : Item (List Char) → List Char
  | simple _ comparison value => comparison.second ++ value
  | present _ => ['*']
  | substring _ first second rest => ['*'].intercalate (first :: second :: rest)
  | extensible _ dn rule value => spellLabels (labels dn rule) value

theorem item_text (item : Item (List Char)) : item.text = item.name ++ item.sign :: item.assertion := by
  cases item with
  | simple attr comparison value =>
      simp [Item.text, Item.name, Item.sign, Item.assertion, comparison_text]
  | present attr => rfl
  | substring attr first second rest => rfl
  | extensible attr dn rule value =>
      cases dn <;> cases rule <;>
        simp [Item.text, Item.name, Item.sign, Item.assertion, label, labels, spellLabels]

theorem sign_not_name (item : Item (List Char)) : nameChar item.sign = false := by
  cases item with
  | simple attr comparison value => cases comparison <;> rfl
  | present attr => rfl
  | substring attr first second rest => rfl
  | extensible attr dn rule value => rfl

theorem name_chars (item : Item (List Char)) (valid : item.wellFormed = true) :
    ∀ char ∈ item.name, nameChar char = true := by
  cases item with
  | simple attr comparison value =>
      rw [Item.wellFormed, Bool.and_eq_true] at valid
      exact attribute_chars attr valid.1
  | present attr => exact attribute_chars attr valid
  | substring attr first second rest =>
      simp only [Item.wellFormed, Bool.and_eq_true] at valid
      exact attribute_chars attr valid.1.1
  | extensible attr dn rule value =>
      simp only [Item.wellFormed, Bool.and_eq_true] at valid
      cases attr with
      | none => exact fun char member => absurd member List.not_mem_nil
      | some chars => exact attribute_chars chars valid.1.1.1.1

theorem label_chars (attr dn rule : Option (List Char)) (value : List Char)
    (valid : (Item.extensible attr dn rule value).wellFormed = true) :
    ∀ name ∈ labels dn rule, ∀ char ∈ name, nameChar char = true := by
  simp only [Item.wellFormed, Bool.and_eq_true] at valid
  intro name member
  rcases List.mem_append.mp member with isDn | isRule
  · rw [Option.mem_toList] at isDn
    rw [isDn] at valid
    exact dn_chars name valid.1.1.1.2
  · rw [Option.mem_toList] at isRule
    rw [isRule] at valid
    exact oid_chars name valid.1.1.2

theorem spell_labels_injective (names others : List (List Char)) (value other : List Char)
    (named : ∀ name ∈ names, ∀ char ∈ name, nameChar char = true)
    (othersNamed : ∀ name ∈ others, ∀ char ∈ name, nameChar char = true)
    (same : spellLabels names value = spellLabels others other) : names = others ∧ value = other := by
  have colon : nameChar ':' = false := by decide
  have equals : nameChar '=' = false := by decide
  induction names generalizing others with
  | nil =>
      cases others with
      | nil => exact ⟨rfl, (List.cons.inj same).2⟩
      | cons name others =>
          have ends := stretch_ends nameChar [] name value _ '=' ':' (fun char member => absurd member List.not_mem_nil)
            (othersNamed name List.mem_cons_self) equals colon same
          exact absurd ends.2.1 (by decide)
  | cons name names ih =>
      cases others with
      | nil =>
          have ends := stretch_ends nameChar name [] _ other ':' '=' (named name List.mem_cons_self)
            (fun char member => absurd member List.not_mem_nil) colon equals same
          exact absurd ends.2.1 (by decide)
      | cons head others =>
          obtain ⟨sameName, _, sameRest⟩ := stretch_ends nameChar name head _ _ ':' ':' (named name List.mem_cons_self)
            (othersNamed head List.mem_cons_self) colon colon same
          obtain ⟨sameNames, sameValue⟩ := ih others (fun name member => named name (List.mem_cons_of_mem _ member))
            (fun name member => othersNamed name (List.mem_cons_of_mem _ member)) sameRest
          exact ⟨by rw [sameName, sameNames], sameValue⟩

-- Which label is the `dn` flag: with an attribute, the one that is spelled so; without one,
-- a rule there must be.
theorem labels_injective (attr dn rule : Option (List Char)) (otherDn otherRule : Option (List Char))
    (value other : List Char) (valid : (Item.extensible attr dn rule value).wellFormed = true)
    (otherValid : (Item.extensible attr otherDn otherRule other).wellFormed = true)
    (same : labels dn rule = labels otherDn otherRule) : dn = otherDn ∧ rule = otherRule := by
  simp only [Item.wellFormed, Bool.and_eq_true] at valid otherValid
  cases dn <;> cases rule <;> cases otherDn <;> cases otherRule <;> cases attr <;>
    simp_all [labels]

theorem attribute_names (attr otherAttr dn rule otherDn otherRule : Option (List Char)) (value other : List Char)
    (valid : (Item.extensible attr dn rule value).wellFormed = true)
    (otherValid : (Item.extensible otherAttr otherDn otherRule other).wellFormed = true)
    (same : attr.getD [] = otherAttr.getD []) : attr = otherAttr := by
  simp only [Item.wellFormed, Bool.and_eq_true] at valid otherValid
  cases attr with
  | none =>
      cases otherAttr with
      | none => rfl
      | some chars => exact absurd same.symm (attribute_nonempty chars otherValid.1.1.1.1)
  | some chars =>
      cases otherAttr with
      | none => exact absurd same (attribute_nonempty chars valid.1.1.1.1)
      | some others => exact congrArg some same

theorem value_star (value : List Char) (valid : assertionValue value = true) : '*' ∉ value :=
  value_without value ((assertion_value_iff value).mp valid) '*' (by decide) (by decide)

theorem starred_injective (parts others : List (List Char)) (nonempty : parts ≠ []) (present : others ≠ [])
    (starless : ∀ part ∈ parts, '*' ∉ part) (without : ∀ part ∈ others, '*' ∉ part)
    (same : ['*'].intercalate parts = ['*'].intercalate others) : parts = others := by
  have split := congrArg (List.splitOn '*') same
  rwa [List.splitOn_intercalate '*' starless nonempty, List.splitOn_intercalate '*' without present] at split

theorem substring_parts (attr first second : List Char) (rest : List (List Char))
    (valid : (Item.substring attr first second rest).wellFormed = true) :
    ∀ part ∈ first :: second :: rest, '*' ∉ part := by
  simp only [Item.wellFormed, Bool.and_eq_true] at valid
  exact fun part member => value_star part (List.all_eq_true.mp valid.1.2 part member)

theorem simple_starless (attr value : List Char) (comparison : Comparison)
    (valid : (Item.simple attr comparison value).wellFormed = true) (equals : comparison.sign = '=') :
    '*' ∉ (Item.simple attr comparison value).assertion := by
  rw [Item.wellFormed, Bool.and_eq_true] at valid
  cases comparison with
  | equal => exact value_star value valid.2
  | approx => exact absurd equals (by decide)
  | greaterOrEqual => exact absurd equals (by decide)
  | lessOrEqual => exact absurd equals (by decide)

theorem star_joined (first second : List Char) (rest : List (List Char)) :
    '*' ∈ ['*'].intercalate (first :: second :: rest) := by
  rw [List.intercalate_cons_cons]
  simp

theorem substring_not_presence (attr first second : List Char) (rest : List (List Char))
    (valid : (Item.substring attr first second rest).wellFormed = true) :
    ['*'].intercalate (first :: second :: rest) ≠ ['*'] := by
  intro same
  have bare : first :: second :: rest = [[], []] := by
    apply starred_injective _ _ (List.cons_ne_nil _ _) (List.cons_ne_nil _ _)
      (substring_parts attr first second rest valid)
    · simp
    · exact same
  cases bare
  simp [Item.wellFormed] at valid

theorem item_text_injective (item other : Item (List Char)) (valid : item.wellFormed = true)
    (otherValid : other.wellFormed = true) (same : item.text = other.text) : item = other := by
  rw [item_text, item_text] at same
  obtain ⟨names, signs, assertions⟩ := stretch_ends nameChar _ _ _ _ _ _ (name_chars item valid) (name_chars other otherValid)
    (sign_not_name item) (sign_not_name other) same
  cases item with
  | simple attr comparison value =>
      cases other with
      | simple otherAttr otherComparison otherValue =>
          cases comparison <;> cases otherComparison <;>
            simp_all [Item.name, Item.sign, Item.assertion, Comparison.sign, Comparison.second]
      | present otherAttr =>
          have star : '*' ∈ (Item.present otherAttr).assertion := List.mem_singleton_self '*'
          exact absurd (assertions ▸ star) (simple_starless attr value comparison valid signs)
      | substring otherAttr first second rest =>
          have star := star_joined first second rest
          exact absurd (assertions ▸ star) (simple_starless attr value comparison valid signs)
      | extensible otherAttr dn rule otherValue =>
          cases comparison <;> exact absurd signs (by simp [Item.sign, Comparison.sign])
  | present attr =>
      cases other with
      | simple otherAttr otherComparison otherValue =>
          have star : '*' ∈ (Item.present attr).assertion := List.mem_singleton_self '*'
          exact absurd (assertions ▸ star) (simple_starless otherAttr otherValue otherComparison otherValid signs.symm)
      | present otherAttr => exact congrArg Item.present names
      | substring otherAttr first second rest =>
          exact absurd assertions.symm (substring_not_presence otherAttr first second rest otherValid)
      | extensible otherAttr dn rule otherValue => exact absurd signs (by simp [Item.sign])
  | substring attr first second rest =>
      cases other with
      | simple otherAttr otherComparison otherValue =>
          have star := star_joined first second rest
          exact absurd (assertions ▸ star) (simple_starless otherAttr otherValue otherComparison otherValid signs.symm)
      | present otherAttr => exact absurd assertions (substring_not_presence attr first second rest valid)
      | substring otherAttr otherFirst otherSecond otherRest =>
          have parts := starred_injective _ _ (List.cons_ne_nil _ _) (List.cons_ne_nil _ _)
            (substring_parts attr first second rest valid)
            (substring_parts otherAttr otherFirst otherSecond otherRest otherValid) assertions
          cases parts
          rw [show attr = otherAttr from names]
      | extensible otherAttr dn rule otherValue => exact absurd signs (by simp [Item.sign])
  | extensible attr dn rule value =>
      cases other with
      | simple otherAttr otherComparison otherValue =>
          cases otherComparison <;> exact absurd signs (by simp [Item.sign, Comparison.sign])
      | present otherAttr => exact absurd signs (by simp [Item.sign])
      | substring otherAttr first second rest => exact absurd signs (by simp [Item.sign])
      | extensible otherAttr otherDn otherRule otherValue =>
          obtain ⟨sameLabels, sameValue⟩ := spell_labels_injective _ _ value otherValue
            (label_chars attr dn rule value valid) (label_chars otherAttr otherDn otherRule otherValue otherValid)
            assertions
          have sameAttr : attr = otherAttr := attribute_names attr otherAttr dn rule otherDn otherRule value otherValue
            valid otherValid names
          subst sameAttr
          obtain ⟨sameDn, sameRule⟩ := labels_injective attr dn rule otherDn otherRule value otherValue valid otherValid
            sameLabels
          rw [sameDn, sameRule, sameValue]

end Items

section Filters

theorem item_values (item : Item (List Char)) (valid : item.wellFormed = true) :
    ∀ value ∈ item.values, AssertionValue value := by
  intro value member
  apply (assertion_value_iff value).mp
  cases item with
  | simple attr comparison own =>
      rw [Item.wellFormed, Bool.and_eq_true] at valid
      exact List.mem_singleton.mp member ▸ valid.2
  | present attr => cases member
  | substring attr first second rest =>
      simp only [Item.wellFormed, Bool.and_eq_true] at valid
      exact List.all_eq_true.mp valid.1.2 value member
  | extensible attr dn rule own =>
      simp only [Item.wellFormed, Bool.and_eq_true] at valid
      exact List.mem_singleton.mp member ▸ valid.1.2

theorem assertion_chars (item : Item (List Char)) (valid : item.wellFormed = true) (char : Char)
    (member : char ∈ item.assertion) :
    nameChar char = true ∨ char ∈ ['=', ':', '*'] ∨ ∃ value ∈ item.values, char ∈ value := by
  cases item with
  | simple attr comparison value =>
      rcases List.mem_append.mp member with second | inside
      · cases comparison <;> simp_all [Comparison.second]
      · exact Or.inr (Or.inr ⟨value, List.mem_singleton_self value, inside⟩)
  | present attr => exact Or.inr (Or.inl (by simp [List.mem_singleton.mp member]))
  | substring attr first second rest =>
      rcases mem_joined '*' char _ member with same | inside
      · exact Or.inr (Or.inl (by simp [same]))
      · exact Or.inr (Or.inr inside)
  | extensible attr dn rule value =>
      have named := label_chars attr dn rule value valid
      simp only [Item.assertion] at member
      generalize labels dn rule = names at named member
      induction names with
      | nil =>
          rcases List.mem_cons.mp member with same | inside
          · exact Or.inr (Or.inl (by simp [same]))
          · exact Or.inr (Or.inr ⟨value, List.mem_singleton_self value, inside⟩)
      | cons name names ih =>
          rcases List.mem_append.mp member with inName | after
          · exact Or.inl (named name List.mem_cons_self char inName)
          · rcases List.mem_cons.mp after with same | later
            · exact Or.inr (Or.inl (by simp [same]))
            · exact ih (fun other inside => named other (List.mem_cons_of_mem name inside)) later

theorem item_unclosed (item : Item (List Char)) (valid : item.wellFormed = true) : ')' ∉ item.text := by
  intro member
  rw [item_text] at member
  have notName : nameChar ')' = false := by decide
  rcases List.mem_append.mp member with inName | after
  · rw [name_chars item valid ')' inName] at notName
    cases notName
  · rcases List.mem_cons.mp after with isSign | inAssertion
    · cases item with
      | simple attr comparison value => cases comparison <;> exact absurd isSign (by simp [Item.sign, Comparison.sign])
      | present attr => exact absurd isSign (by simp [Item.sign])
      | substring attr first second rest => exact absurd isSign (by simp [Item.sign])
      | extensible attr dn rule value => exact absurd isSign (by simp [Item.sign])
    · rcases assertion_chars item valid ')' inAssertion with name | mark | ⟨value, inside, found⟩
      · rw [name] at notName
        cases notName
      · exact absurd mark (by decide)
      · exact value_without value (item_values item valid value inside) ')' (by decide) (by decide) found

theorem item_opens (item : Item (List Char)) (valid : item.wellFormed = true) :
    ∃ head tail, item.text = head :: tail ∧ head ∉ ['!', '&', '|'] := by
  rw [item_text]
  cases name : item.name with
  | nil =>
      refine ⟨item.sign, item.assertion, rfl, ?_⟩
      cases item with
      | simple attr comparison value => cases comparison <;> simp [Item.sign, Comparison.sign]
      | present attr => simp [Item.sign]
      | substring attr first second rest => simp [Item.sign]
      | extensible attr dn rule value => simp [Item.sign]
  | cons head tail =>
      refine ⟨head, tail ++ item.sign :: item.assertion, rfl, ?_⟩
      have named := name_chars item valid head (by rw [name]; exact List.mem_cons_self)
      intro operator
      simp only [List.mem_cons, List.not_mem_nil, or_false] at operator
      rcases operator with same | same | same <;> (subst same; exact absurd named (by decide))

theorem filters_open (filters : Filters (List Char)) : ∃ tail, filters.text = '(' :: tail := by
  have opens (filter : Filter (List Char)) : ∃ tail, filter.text = '(' :: tail := by
    cases filter <;> exact ⟨_, rfl⟩
  cases filters with
  | last only => exact opens only
  | cons first rest =>
      obtain ⟨tail, text⟩ := opens first
      exact ⟨tail ++ rest.text, by rw [Filters.text, text, List.cons_append]⟩

theorem item_not_operator (item : Item (List Char)) (valid : item.wellFormed = true) (operator : Char)
    (after rest : List Char) (isOperator : operator ∈ ['!', '&', '|']) : item.text ++ after ≠ operator :: rest := by
  intro same
  obtain ⟨head, tail, text, other⟩ := item_opens item valid
  rw [text] at same
  exact other ((List.cons.inj same).1 ▸ isOperator)

theorem junction_operator (junction : Junction) : junction.char ∈ ['!', '&', '|'] ∧ junction.char ≠ '!' := by
  cases junction <;> decide

mutual
theorem filter_text_ends (filter other : Filter (List Char)) (valid : filter.WellFormed) (otherValid : other.WellFormed)
    (after rest : List Char) (same : filter.text ++ after = other.text ++ rest) : filter = other ∧ after = rest := by
  cases filter with
  | item assertion =>
      have wellFormed := valid assertion (List.mem_singleton_self assertion)
      cases other with
      | item otherAssertion =>
          have otherWellFormed := otherValid otherAssertion (List.mem_singleton_self otherAssertion)
          simp only [Filter.text, List.cons_append, List.append_assoc, List.nil_append, List.cons.injEq, true_and] at same
          have unclosed (item : Item (List Char)) (itemValid : item.wellFormed = true) :
              ∀ char ∈ item.text, (char != ')') = true := by
            intro char member
            exact bne_iff_ne.mpr fun closes => item_unclosed item itemValid (closes ▸ member)
          obtain ⟨texts, _, rests⟩ := stretch_ends (· != ')') _ _ _ _ ')' ')' (unclosed assertion wellFormed)
            (unclosed otherAssertion otherWellFormed) rfl rfl same
          exact ⟨congrArg Filter.item (item_text_injective assertion otherAssertion wellFormed otherWellFormed texts),
            rests⟩
      | not negated =>
          simp only [Filter.text, List.cons_append, List.append_assoc, List.cons.injEq, true_and] at same
          exact absurd same (item_not_operator assertion wellFormed '!' _ _ (by decide))
      | list junction members =>
          simp only [Filter.text, List.cons_append, List.append_assoc, List.cons.injEq, true_and] at same
          exact absurd same (item_not_operator assertion wellFormed _ _ _ (junction_operator junction).1)
  | not negated =>
      cases other with
      | item assertion =>
          have wellFormed := otherValid assertion (List.mem_singleton_self assertion)
          simp only [Filter.text, List.cons_append, List.append_assoc, List.cons.injEq, true_and] at same
          exact absurd same.symm (item_not_operator assertion wellFormed '!' _ _ (by decide))
      | not otherNegated =>
          simp only [Filter.text, List.cons_append, List.append_assoc, List.nil_append, List.cons.injEq, true_and] at same
          obtain ⟨sameFilter, sameRest⟩ := filter_text_ends negated otherNegated valid otherValid _ _ same
          exact ⟨by rw [sameFilter], (List.cons.inj sameRest).2⟩
      | list junction members =>
          simp only [Filter.text, List.cons_append, List.cons.injEq, true_and] at same
          exact absurd same.1.symm (junction_operator junction).2
  | list junction members =>
      cases other with
      | item assertion =>
          have wellFormed := otherValid assertion (List.mem_singleton_self assertion)
          simp only [Filter.text, List.cons_append, List.append_assoc, List.cons.injEq, true_and] at same
          exact absurd same.symm (item_not_operator assertion wellFormed _ _ _ (junction_operator junction).1)
      | not negated =>
          simp only [Filter.text, List.cons_append, List.cons.injEq, true_and] at same
          exact absurd same.1 (junction_operator junction).2
      | list otherJunction otherMembers =>
          simp only [Filter.text, List.cons_append, List.append_assoc, List.nil_append, List.cons.injEq, true_and] at same
          have sameJunction : junction = otherJunction := by
            cases junction <;> cases otherJunction <;> simp_all [Junction.char]
          obtain ⟨sameMembers, sameRest⟩ := filters_text_ends members otherMembers valid otherValid after rest same.2
          exact ⟨by rw [sameJunction, sameMembers], sameRest⟩
theorem filters_text_ends (filters others : Filters (List Char))
    (valid : ∀ item ∈ filters.items, item.wellFormed = true) (otherValid : ∀ item ∈ others.items, item.wellFormed = true)
    (after rest : List Char) (same : filters.text ++ ')' :: after = others.text ++ ')' :: rest) :
    filters = others ∧ after = rest := by
  cases filters with
  | last only =>
      cases others with
      | last other =>
          obtain ⟨sameFilter, sameRest⟩ := filter_text_ends only other valid otherValid _ _ same
          exact ⟨by rw [sameFilter], (List.cons.inj sameRest).2⟩
      | cons first more =>
          rw [Filters.text, Filters.text, List.append_assoc] at same
          have ends := filter_text_ends only first valid
            (fun item member => otherValid item (List.mem_append_left _ member)) _ _ same
          obtain ⟨tail, opens⟩ := filters_open more
          rw [opens] at ends
          exact absurd (List.cons.inj ends.2).1 (by decide)
  | cons first more =>
      have firstValid : first.WellFormed := fun item member => valid item (List.mem_append_left _ member)
      cases others with
      | last other =>
          rw [Filters.text, Filters.text, List.append_assoc] at same
          have ends := filter_text_ends first other firstValid otherValid _ _ same
          obtain ⟨tail, opens⟩ := filters_open more
          rw [opens] at ends
          exact absurd (List.cons.inj ends.2).1 (by decide)
      | cons other others =>
          rw [Filters.text, Filters.text, List.append_assoc, List.append_assoc] at same
          obtain ⟨sameFirst, sameMore⟩ := filter_text_ends first other firstValid
            (fun item member => otherValid item (List.mem_append_left _ member)) _ _ same
          obtain ⟨sameRest, sameAfter⟩ := filters_text_ends more others
            (fun item member => valid item (List.mem_append_right _ member))
            (fun item member => otherValid item (List.mem_append_right _ member)) after rest sameMore
          exact ⟨by rw [sameFirst, sameRest], sameAfter⟩
end

theorem filter_text_injective (filter other : Filter (List Char)) (valid : filter.WellFormed)
    (otherValid : other.WellFormed) (same : filter.text = other.text) : filter = other :=
  (filter_text_ends filter other valid otherValid [] [] (by rw [same])).1

end Filters

end SearchFilter
