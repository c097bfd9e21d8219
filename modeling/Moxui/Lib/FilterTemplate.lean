import Moxui.Lib.FilterReading
import Moxui.Lib.Replace

set_option autoImplicit false

-- Filters with a placeholder in their assertion values, and what it means to fill it in by
-- replacing text.
namespace SearchFilter

section Maps

variable {ν μ ξ : Type}

mutual
theorem Filter.map_map (first : ν → μ) (second : μ → ξ) (filter : Filter ν) :
    (filter.map first).map second = filter.map (second ∘ first) := by
  cases filter with
  | item assertion => cases assertion <;> simp [Filter.map, Item.map]
  | not negated => simp only [Filter.map, Filter.map_map first second negated]
  | list junction members => simp only [Filter.map, Filters.map_map first second members]
theorem Filters.map_map (first : ν → μ) (second : μ → ξ) (filters : Filters ν) :
    (filters.map first).map second = filters.map (second ∘ first) := by
  cases filters with
  | last only => simp only [Filters.map, Filter.map_map first second only]
  | cons head rest => simp only [Filters.map, Filter.map_map first second head, Filters.map_map first second rest]
end

mutual
theorem Filter.items_map (change : ν → μ) (filter : Filter ν) :
    (filter.map change).items = filter.items.map (Item.map change) := by
  cases filter with
  | item assertion => rfl
  | not negated => exact Filter.items_map change negated
  | list junction members => exact Filters.items_map change members
theorem Filters.items_map (change : ν → μ) (filters : Filters ν) :
    (filters.map change).items = filters.items.map (Item.map change) := by
  cases filters with
  | last only => exact Filter.items_map change only
  | cons first rest =>
      simp only [Filters.map, Filters.items, Filter.items_map change first, Filters.items_map change rest,
        List.map_append]
end

theorem Item.values_map (change : ν → μ) (item : Item ν) : (item.map change).values = item.values.map change := by
  cases item <;> simp [Item.map, Item.values]

theorem Filter.values_map (change : ν → μ) (filter : Filter ν) :
    (filter.map change).values = filter.values.map change := by
  rw [Filter.values, Filter.items_map, Filter.values, List.map_flatMap, List.flatMap_map]
  simp only [Item.values_map]

theorem Item.map_congr (first second : ν → μ) (item : Item ν)
    (agree : ∀ value ∈ item.values, first value = second value) : item.map first = item.map second := by
  cases item with
  | simple attr comparison value => rw [Item.map, Item.map, agree value (List.mem_singleton_self value)]
  | present attr => rfl
  | substring attr head next rest =>
      have tails := List.map_congr_left fun value member =>
        agree value (List.mem_cons_of_mem head (List.mem_cons_of_mem next member))
      rw [Item.map, Item.map, agree head List.mem_cons_self,
        agree next (List.mem_cons_of_mem head List.mem_cons_self), tails]
  | extensible attr dn rule value => rw [Item.map, Item.map, agree value (List.mem_singleton_self value)]

mutual
theorem Filter.map_congr (first second : ν → μ) (filter : Filter ν)
    (agree : ∀ item ∈ filter.items, item.map first = item.map second) : filter.map first = filter.map second := by
  cases filter with
  | item assertion => exact congrArg Filter.item (agree assertion (List.mem_singleton_self assertion))
  | not negated => exact congrArg Filter.not (Filter.map_congr first second negated agree)
  | list junction members => exact congrArg (Filter.list junction) (Filters.map_congr first second members agree)
theorem Filters.map_congr (first second : ν → μ) (filters : Filters ν)
    (agree : ∀ item ∈ filters.items, item.map first = item.map second) : filters.map first = filters.map second := by
  cases filters with
  | last only => exact congrArg Filters.last (Filter.map_congr first second only agree)
  | cons head rest =>
      rw [Filters.map, Filters.map,
        Filter.map_congr first second head fun item member => agree item (List.mem_append_left _ member),
        Filters.map_congr first second rest fun item member => agree item (List.mem_append_right _ member)]
end

end Maps

-- The text of a filter as a row of parts: frames, which no value changes, and values with the
-- character that ends them.
section Parts

inductive Part (ν : Type) where
  | frame (chars : List Char)
  | slot (value : ν) (stop : Char)

variable {ν μ : Type}

def Part.text : Part (List Char) → List Char
  | frame chars => chars
  | slot value stop => value ++ [stop]

def Part.map (change : ν → μ) : Part ν → Part μ
  | frame chars => frame chars
  | slot value stop => slot (change value) stop

def Part.values : Part ν → List ν
  | frame _ => []
  | slot value _ => [value]

def starredParts : ν → List ν → List (Part ν)
  | last, [] => [.slot last ')']
  | first, second :: rest => .slot first '*' :: starredParts second rest

def Item.parts : Item ν → List (Part ν)
  | simple attr comparison value => [.frame ('(' :: attr ++ comparison.text), .slot value ')']
  | present attr => [.frame ('(' :: attr ++ ['=', '*', ')'])]
  | substring attr first second rest => .frame ('(' :: attr ++ ['=']) :: starredParts first (second :: rest)
  | extensible attr dn rule value =>
      [.frame ('(' :: attr.getD [] ++ label dn ++ label rule ++ [':', '=']), .slot value ')']

mutual
def Filter.parts : Filter ν → List (Part ν)
  | .item assertion => assertion.parts
  | .not negated => .frame ['(', '!'] :: negated.parts ++ [.frame [')']]
  | .list junction members => .frame ['(', junction.char] :: members.parts ++ [.frame [')']]
def Filters.parts : Filters ν → List (Part ν)
  | .last only => only.parts
  | .cons first rest => first.parts ++ rest.parts
end

theorem starred_text (first : List Char) (rest : List (List Char)) :
    (starredParts first rest).flatMap Part.text = ['*'].intercalate (first :: rest) ++ [')'] := by
  induction rest generalizing first with
  | nil => simp [starredParts, Part.text]
  | cons second rest ih => simp [starredParts, Part.text, ih, List.intercalate_cons_cons]

theorem Item.parts_text (item : Item (List Char)) : item.parts.flatMap Part.text = '(' :: item.text ++ [')'] := by
  cases item with
  | simple attr comparison value => simp [Item.parts, Item.text, Part.text]
  | present attr => simp [Item.parts, Item.text, Part.text]
  | substring attr first second rest => simp [Item.parts, Item.text, Part.text, starred_text]
  | extensible attr dn rule value => simp [Item.parts, Item.text, Part.text]

mutual
theorem Filter.parts_text (filter : Filter (List Char)) : filter.parts.flatMap Part.text = filter.text := by
  cases filter with
  | item assertion => exact Item.parts_text assertion
  | not negated => simp [Filter.parts, Filter.text, Part.text, Filter.parts_text negated]
  | list junction members => simp [Filter.parts, Filter.text, Part.text, Filters.parts_text members]
theorem Filters.parts_text (filters : Filters (List Char)) : filters.parts.flatMap Part.text = filters.text := by
  cases filters with
  | last only => exact Filter.parts_text only
  | cons first rest => simp [Filters.parts, Filters.text, Filter.parts_text first, Filters.parts_text rest]
end

theorem starred_map (change : ν → μ) (first : ν) (rest : List ν) :
    starredParts (change first) (rest.map change) = (starredParts first rest).map (Part.map change) := by
  induction rest generalizing first with
  | nil => rfl
  | cons second rest ih => simp [starredParts, Part.map, ih]

mutual
theorem Filter.parts_map (change : ν → μ) (filter : Filter ν) :
    (filter.map change).parts = filter.parts.map (Part.map change) := by
  cases filter with
  | item assertion =>
      cases assertion with
      | substring attr first second rest =>
          have starred := starred_map change first (second :: rest)
          simp_all [Filter.map, Filter.parts, Item.map, Item.parts, Part.map]
      | _ => simp [Filter.map, Filter.parts, Item.map, Item.parts, Part.map]
  | not negated => simp [Filter.map, Filter.parts, Part.map, Filter.parts_map change negated]
  | list junction members => simp [Filter.map, Filter.parts, Part.map, Filters.parts_map change members]
theorem Filters.parts_map (change : ν → μ) (filters : Filters ν) :
    (filters.map change).parts = filters.parts.map (Part.map change) := by
  cases filters with
  | last only => exact Filter.parts_map change only
  | cons first rest =>
      simp [Filters.map, Filters.parts, Filter.parts_map change first, Filters.parts_map change rest]
end

theorem starred_values (first : ν) (rest : List ν) : (starredParts first rest).flatMap Part.values = first :: rest := by
  induction rest generalizing first with
  | nil => rfl
  | cons second rest ih => simp [starredParts, Part.values, ih]

theorem Item.parts_values (item : Item ν) : item.parts.flatMap Part.values = item.values := by
  cases item <;> simp [Item.parts, Item.values, Part.values, starred_values]

mutual
theorem Filter.parts_values (filter : Filter ν) : filter.parts.flatMap Part.values = filter.values := by
  cases filter with
  | item assertion => simp [Filter.parts, Filter.values, Filter.items, Item.parts_values]
  | not negated =>
      have inner := Filter.parts_values negated
      simp_all [Filter.parts, Filter.values, Filter.items, Part.values]
  | list junction members =>
      have inner := Filters.parts_values members
      simp_all [Filter.parts, Filter.values, Filter.items, Part.values]
theorem Filters.parts_values (filters : Filters ν) :
    filters.parts.flatMap Part.values = filters.items.flatMap Item.values := by
  cases filters with
  | last only => exact Filter.parts_values only
  | cons first rest =>
      have head := Filter.parts_values first
      have tail := Filters.parts_values rest
      simp_all [Filters.parts, Filters.items, Filter.values]
end

end Parts

section Frames

def frameChar (char : Char) : Bool :=
  nameChar char || decide (char ∈ ['(', ')', '!', '&', '|', '=', '~', '<', '>', ':', '*'])

def Part.Framed : Part (List Char) → Prop
  | frame chars => ∀ char ∈ chars, frameChar char = true
  | slot _ stop => stop = '*' ∨ stop = ')'

theorem name_frame (char : Char) (name : nameChar char = true) : frameChar char = true := by
  rw [frameChar, name, Bool.true_or]

theorem starred_framed (first : List Char) (rest : List (List Char)) :
    ∀ part ∈ starredParts first rest, part.Framed := by
  induction rest generalizing first with
  | nil => simp [starredParts, Part.Framed]
  | cons second rest ih =>
      intro part member
      rcases List.mem_cons.mp member with same | later
      · rw [same]
        exact Or.inl rfl
      · exact ih second part later

theorem Item.frame_framed (item : Item (List Char)) (valid : item.wellFormed = true) (chars : List Char)
    (marks : ∀ char ∈ chars, frameChar char = true) : (Part.frame ('(' :: item.name ++ chars)).Framed := by
  intro char member
  simp only [List.cons_append, List.mem_cons, List.mem_append] at member
  rcases member with opens | inName | mark
  · rw [opens]
    rfl
  · exact name_frame char (name_chars item valid char inName)
  · exact marks char mark

theorem label_framed (name : Option (List Char)) (named : ∀ chars ∈ name, ∀ char ∈ chars, nameChar char = true) :
    ∀ char ∈ label name, frameChar char = true := by
  intro char member
  cases name with
  | none => cases member
  | some chars =>
      rcases List.mem_cons.mp member with colon | inside
      · rw [colon]
        rfl
      · exact name_frame char (named chars rfl char inside)

theorem Item.parts_framed (item : Item (List Char)) (valid : item.wellFormed = true) :
    ∀ part ∈ item.parts, part.Framed := by
  have framed := Item.frame_framed item valid
  cases item with
  | simple attr comparison value =>
      have marks : ∀ char ∈ comparison.text, frameChar char = true := by
        cases comparison <;> exact List.all_eq_true.mp rfl
      simp only [Item.parts, List.mem_cons, List.not_mem_nil, or_false]
      rintro part (frame | slot)
      · rw [frame]
        exact framed comparison.text marks
      · rw [slot]
        exact Or.inr rfl
  | present attr =>
      simp only [Item.parts, List.mem_singleton]
      intro part frame
      rw [frame]
      exact framed ['=', '*', ')'] (List.all_eq_true.mp rfl)
  | substring attr first second rest =>
      intro part member
      rcases List.mem_cons.mp member with frame | starred
      · rw [frame]
        exact framed ['='] (List.all_eq_true.mp rfl)
      · exact starred_framed first (second :: rest) part starred
  | extensible attr dn rule value =>
      have named := label_chars attr dn rule value valid
      have marks : ∀ char ∈ label dn ++ label rule ++ [':', '='], frameChar char = true := by
        intro char member
        simp only [List.append_assoc, List.mem_append] at member
        rcases member with inDn | inRule | mark
        · apply label_framed dn _ char inDn
          exact fun chars isDn => named chars (List.mem_append_left _ (Option.mem_toList.mpr isDn))
        · apply label_framed rule _ char inRule
          exact fun chars isRule => named chars (List.mem_append_right _ (Option.mem_toList.mpr isRule))
        · exact List.all_eq_true.mp (show [':', '='].all frameChar = true from rfl) char mark
      simp only [Item.parts, List.mem_cons, List.not_mem_nil, or_false]
      rintro part (frame | slot)
      · rw [frame]
        have whole := framed (label dn ++ label rule ++ [':', '=']) marks
        simp only [List.append_assoc] at whole ⊢
        exact whole
      · rw [slot]
        exact Or.inr rfl

theorem enclosed_framed (opening : List Char) (parts : List (Part (List Char)))
    (marks : ∀ char ∈ opening, frameChar char = true) (framed : ∀ part ∈ parts, part.Framed) :
    ∀ part ∈ .frame opening :: parts ++ [.frame [')']], part.Framed := by
  intro part member
  simp only [List.cons_append, List.mem_cons, List.mem_append, List.not_mem_nil, or_false] at member
  rcases member with opens | inside | closes
  · rw [opens]
    exact marks
  · exact framed part inside
  · rw [closes]
    exact fun char closing => by rw [List.mem_singleton.mp closing]; rfl

mutual
theorem Filter.parts_framed (filter : Filter (List Char)) (valid : filter.WellFormed) :
    ∀ part ∈ filter.parts, part.Framed := by
  cases filter with
  | item assertion => exact Item.parts_framed assertion (valid assertion (List.mem_singleton_self assertion))
  | not negated => exact enclosed_framed ['(', '!'] negated.parts (List.all_eq_true.mp rfl) (Filter.parts_framed negated valid)
  | list junction members =>
      exact enclosed_framed ['(', junction.char] members.parts (by cases junction <;> exact List.all_eq_true.mp rfl)
        (Filters.parts_framed members valid)
theorem Filters.parts_framed (filters : Filters (List Char)) (valid : ∀ item ∈ filters.items, item.wellFormed = true) :
    ∀ part ∈ filters.parts, part.Framed := by
  cases filters with
  | last only => exact Filter.parts_framed only valid
  | cons first rest =>
      intro part member
      rcases List.mem_append.mp member with early | later
      · exact Filter.parts_framed first (fun item inside => valid item (List.mem_append_left _ inside)) part early
      · exact Filters.parts_framed rest (fun item inside => valid item (List.mem_append_right _ inside)) part later
end

end Frames

-- What stands for the value to be filled in. No part of a frame or of an escape begins with it.
structure Placeholder where
  head : Char
  tail : List Char
  plain : ∀ char ∈ head :: tail, normal char = true
  notHex : head.isHexDigit = false
  notFrame : frameChar head = false

section Filling

variable (placeholder : Placeholder)

def Placeholder.pattern : List Char :=
  placeholder.head :: placeholder.tail

def Placeholder.fill (replacement value : List Char) : List Char :=
  Text.replaceFrom placeholder.pattern replacement 0 value

def Placeholder.filled (replacement value : List Char) : List UInt8 :=
  (replacement.flatMap String.utf8EncodeChar).intercalate ((Text.cut placeholder.pattern value).map octets)

theorem pattern_nonempty : placeholder.pattern ≠ [] :=
  List.cons_ne_nil placeholder.head placeholder.tail

theorem stop_absent (stop : Char) (isStop : stop = '*' ∨ stop = ')') : stop ∉ placeholder.pattern := by
  intro member
  have plain := (normal_iff stop).mp (placeholder.plain stop member)
  rcases isStop with star | closes
  · exact plain.2.2.2.1 star
  · exact plain.2.2.1 closes

theorem fill_parts (replacement : List Char) (parts : List (Part (List Char))) (framed : ∀ part ∈ parts, part.Framed) :
    placeholder.fill replacement (parts.flatMap Part.text) =
      (parts.map (Part.map (placeholder.fill replacement))).flatMap Part.text := by
  induction parts with
  | nil => rfl
  | cons part parts ih =>
      have later := ih fun other member => framed other (List.mem_cons_of_mem part member)
      have here := framed part List.mem_cons_self
      cases part with
      | frame chars =>
          have absent : placeholder.head ∉ chars := by
            intro member
            have isFrame := here placeholder.head member
            rw [placeholder.notFrame] at isFrame
            cases isFrame
          rw [List.flatMap_cons, List.map_cons, List.flatMap_cons, ← later]
          exact Text.replace_frame replacement placeholder.head placeholder.tail chars _ absent
      | slot value stop =>
          have stopped := Text.replace_stop placeholder.pattern replacement stop 0 value (parts.flatMap Part.text)
            (pattern_nonempty placeholder) (stop_absent placeholder stop here) (Nat.zero_le _)
          simp only [List.flatMap_cons, List.map_cons, Part.map, Part.text, List.append_assoc, List.singleton_append,
            ← later]
          exact stopped

-- To replace in the text of a filter is to replace in its values.
theorem fill_text (replacement : List Char) (filter : Filter (List Char)) (valid : filter.WellFormed) :
    placeholder.fill replacement filter.text = (filter.map (placeholder.fill replacement)).text := by
  rw [← Filter.parts_text, ← Filter.parts_text, Filter.parts_map]
  exact fill_parts placeholder replacement filter.parts (Filter.parts_framed filter valid)

theorem drop_plain (plain rest : List Char) (normals : ∀ char ∈ plain, normal char = true)
    (valid : AssertionValue (plain ++ rest)) : AssertionValue rest := by
  induction plain with
  | nil => exact valid
  | cons char plain ih =>
      apply ih fun other member => normals other (List.mem_cons_of_mem char member)
      exact value_rest char _ (normals char List.mem_cons_self) valid

theorem pieces_values (parts : List (List Char)) (valid : AssertionValue (placeholder.pattern.intercalate parts)) :
    ∀ part ∈ parts, AssertionValue part := by
  induction parts with
  | nil => exact fun part member => absurd member List.not_mem_nil
  | cons first rest ih =>
      by_cases last : rest = []
      · subst last
        rw [List.intercalate_singleton] at valid
        exact fun part member => List.mem_singleton.mp member ▸ valid
      · rw [List.intercalate_cons_of_ne_nil last, List.append_assoc] at valid
        obtain ⟨firstValid, after⟩ := value_cut first placeholder.head _ placeholder.notHex valid
        have restValid := drop_plain placeholder.pattern _ placeholder.plain after
        intro part member
        rcases List.mem_cons.mp member with same | later
        · exact same ▸ firstValid
        · exact ih restValid part later

theorem cut_values (value : List Char) (valid : AssertionValue value) :
    ∀ part ∈ Text.cut placeholder.pattern value, AssertionValue part := by
  apply pieces_values placeholder
  rwa [Text.cut_joined placeholder.pattern value (pattern_nonempty placeholder)]

theorem intercalate_value (replacement : List Char) (parts : List (List Char)) (plain : AssertionValue replacement)
    (valid : ∀ part ∈ parts, AssertionValue part) : AssertionValue (replacement.intercalate parts) ∧
      octets (replacement.intercalate parts) = (octets replacement).intercalate (parts.map octets) := by
  induction parts with
  | nil => exact ⟨.empty, rfl⟩
  | cons first rest ih =>
      have firstValid := valid first List.mem_cons_self
      obtain ⟨restValid, restOctets⟩ := ih fun part member => valid part (List.mem_cons_of_mem first member)
      by_cases last : rest = []
      · subst last
        simpa using firstValid
      · have mapped : rest.map octets ≠ [] := fun empty => last (List.map_eq_nil_iff.mp empty)
        have headValid := value_append first replacement firstValid plain
        rw [List.intercalate_cons_of_ne_nil last, List.map_cons, List.intercalate_cons_of_ne_nil mapped]
        refine ⟨value_append _ _ headValid restValid, ?_⟩
        rw [octets_append _ _ headValid, octets_append first replacement firstValid, restOctets]

theorem fill_plain (replacement value : List Char) (plain : ∀ char ∈ replacement, normal char = true)
    (valid : AssertionValue value) : AssertionValue (placeholder.fill replacement value) ∧
      octets (placeholder.fill replacement value) = placeholder.filled replacement value := by
  rw [Placeholder.fill, Text.replace_cut, Placeholder.filled, ← plain_octets replacement plain]
  exact intercalate_value replacement _ (plain_value replacement plain) (cut_values placeholder value valid)

end Filling

end SearchFilter
