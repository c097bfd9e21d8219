import Moxui.Lib.Percent
import Moxui.Lib.Text

set_option autoImplicit false

-- The string form of LDAP search filters (RFC 4515). `ν` is what stands for an assertion value:
-- its spelling in a filter as it is sent, its octets in what the filter means.
namespace SearchFilter

inductive Comparison where
  | equal
  | approx
  | greaterOrEqual
  | lessOrEqual
deriving DecidableEq, Repr

inductive Item (ν : Type) where
  | simple (attr : List Char) (comparison : Comparison) (value : ν)
  | present (attr : List Char)
  | substring (attr : List Char) (first second : ν) (rest : List ν)
  | extensible (attr dn rule : Option (List Char)) (value : ν)

inductive Junction where
  | and
  | or
deriving DecidableEq, Repr

mutual
inductive Filter (ν : Type) where
  | item (assertion : Item ν)
  | not (negated : Filter ν)
  | list (junction : Junction) (members : Filters ν)
inductive Filters (ν : Type) where
  | last (only : Filter ν)
  | cons (first : Filter ν) (rest : Filters ν)
end

section Syntax

def Comparison.text : Comparison → List Char
  | equal => ['=']
  | approx => ['~', '=']
  | greaterOrEqual => ['>', '=']
  | lessOrEqual => ['<', '=']

def label : Option (List Char) → List Char
  | none => []
  | some chars => ':' :: chars

def Item.text : Item (List Char) → List Char
  | simple attr comparison value => attr ++ comparison.text ++ value
  | present attr => attr ++ ['=', '*']
  | substring attr first second rest => attr ++ '=' :: ['*'].intercalate (first :: second :: rest)
  | extensible attr dn rule value => attr.getD [] ++ label dn ++ label rule ++ ':' :: '=' :: value

def Junction.char : Junction → Char
  | and => '&'
  | or => '|'

mutual
def Filter.text : Filter (List Char) → List Char
  | .item assertion => '(' :: assertion.text ++ [')']
  | .not negated => '(' :: '!' :: negated.text ++ [')']
  | .list junction members => '(' :: junction.char :: members.text ++ [')']
def Filters.text : Filters (List Char) → List Char
  | .last only => only.text
  | .cons first rest => first.text ++ rest.text
end

-- `attr:dn:rule:=value` has its `dn` in any case.
def dnSpelling (chars : List Char) : Bool :=
  chars ∈ [['d', 'n'], ['D', 'n'], ['d', 'N'], ['D', 'N']]

def keyChar (char : Char) : Bool :=
  char.isAlphanum || char == '-'

def keyString : List Char → Bool
  | [] => false
  | first :: rest => first.isAlpha && rest.all keyChar

def number : List Char → Bool
  | [] => false
  | [digit] => digit.isDigit
  | first :: rest => first.isDigit && first != '0' && rest.all Char.isDigit

def numericOid (chars : List Char) : Bool :=
  decide (2 ≤ (chars.splitOn '.').length) && (chars.splitOn '.').all number

def oid (chars : List Char) : Bool :=
  keyString chars || numericOid chars

def attributeDescription (chars : List Char) : Bool :=
  match chars.splitOn ';' with
  | [] => false
  | type :: options => oid type && options.all fun option => !option.isEmpty && option.all keyChar

def nul : Char := Char.ofNat 0

def backslash : Char := Char.ofNat 92

def normal (char : Char) : Bool :=
  char ∉ [nul, '(', ')', '*', backslash]

def assertionValue : List Char → Bool
  | [] => true
  | char :: rest =>
      if char = backslash then
        match rest with
        | high :: low :: after => high.isHexDigit && low.isHexDigit && assertionValue after
        | _ => false
      else normal char && assertionValue rest

def octets : List Char → List UInt8
  | [] => []
  | char :: rest =>
      if char = backslash then
        match rest with
        | high :: low :: after =>
            (Percent.hexValue high.toUInt8 * 16 + Percent.hexValue low.toUInt8) :: octets after
        | _ => []
      else String.utf8EncodeChar char ++ octets rest

-- `attr=*` is a presence filter, and `attr:dn:=value` has no rule called `dn`.
def Item.wellFormed : Item (List Char) → Bool
  | simple attr _ value => attributeDescription attr && assertionValue value
  | present attr => attributeDescription attr
  | substring attr first second rest =>
      attributeDescription attr && (first :: second :: rest).all assertionValue &&
        !(first.isEmpty && second.isEmpty && rest.isEmpty)
  | extensible attr dn rule value =>
      attr.all attributeDescription && dn.all dnSpelling && rule.all oid && assertionValue value &&
        (if attr.isSome then dn.isSome || rule.all fun chars => !dnSpelling chars else rule.isSome)

end Syntax

section Tree

variable {ν μ : Type}

def Item.values : Item ν → List ν
  | simple _ _ value => [value]
  | present _ => []
  | substring _ first second rest => first :: second :: rest
  | extensible _ _ _ value => [value]

def Item.map (change : ν → μ) : Item ν → Item μ
  | simple attr comparison value => simple attr comparison (change value)
  | present attr => present attr
  | substring attr first second rest => substring attr (change first) (change second) (rest.map change)
  | extensible attr dn rule value => extensible attr dn rule (change value)

mutual
def Filter.items : Filter ν → List (Item ν)
  | .item assertion => [assertion]
  | .not negated => negated.items
  | .list _ members => members.items
def Filters.items : Filters ν → List (Item ν)
  | .last only => only.items
  | .cons first rest => first.items ++ rest.items
end

mutual
def Filter.map (change : ν → μ) : Filter ν → Filter μ
  | .item assertion => .item (assertion.map change)
  | .not negated => .not (negated.map change)
  | .list junction members => .list junction (members.map change)
def Filters.map (change : ν → μ) : Filters ν → Filters μ
  | .last only => .last (only.map change)
  | .cons first rest => .cons (first.map change) (rest.map change)
end

def Filter.values (filter : Filter ν) : List ν :=
  filter.items.flatMap Item.values

def Filter.WellFormed (filter : Filter (List Char)) : Prop :=
  ∀ item ∈ filter.items, item.wellFormed = true

instance (filter : Filter (List Char)) : Decidable filter.WellFormed :=
  inferInstanceAs (Decidable (∀ item ∈ filter.items, item.wellFormed = true))

end Tree

section Values

inductive AssertionValue : List Char → Prop where
  | empty : AssertionValue []
  | escape (high low : Char) (after : List Char) (highHex : high.isHexDigit = true) (lowHex : low.isHexDigit = true)
      (more : AssertionValue after) : AssertionValue (backslash :: high :: low :: after)
  | itself (char : Char) (rest : List Char) (plain : normal char = true) (more : AssertionValue rest) :
      AssertionValue (char :: rest)

theorem normal_iff (char : Char) : normal char = true ↔
    char ≠ nul ∧ char ≠ '(' ∧ char ≠ ')' ∧ char ≠ '*' ∧ char ≠ backslash := by
  simp [normal]

theorem normal_ne_backslash (char : Char) (plain : normal char = true) : char ≠ backslash :=
  ((normal_iff char).mp plain).2.2.2.2

theorem assertion_value_iff (value : List Char) : assertionValue value = true ↔ AssertionValue value := by
  constructor
  · intro valid
    fun_induction assertionValue value with
    | case1 => exact .empty
    | case2 high low after ih =>
        simp only [Bool.and_eq_true] at valid
        exact .escape high low after valid.1.1 valid.1.2 (ih valid.2)
    | case3 => cases valid
    | case4 char rest _ ih =>
        rw [Bool.and_eq_true] at valid
        exact .itself char rest valid.1 (ih valid.2)
  · intro derived
    induction derived with
    | empty => rfl
    | escape high low after highHex lowHex _ ih => simp [assertionValue, highHex, lowHex, ih]
    | itself char rest plain _ ih =>
        unfold assertionValue
        rw [if_neg (normal_ne_backslash char plain), plain, ih, Bool.true_and]

theorem hex_normal (char : Char) (hex : char.isHexDigit = true) : normal char = true := by
  rw [normal_iff]
  refine ⟨?_, ?_, ?_, ?_, ?_⟩ <;> exact fun same => absurd (same ▸ hex) (by decide)

theorem octets_normal (char : Char) (rest : List Char) (plain : normal char = true) :
    octets (char :: rest) = String.utf8EncodeChar char ++ octets rest := by
  conv => lhs; unfold octets
  rw [if_neg (normal_ne_backslash char plain)]

theorem octets_escape (high low : Char) (after : List Char) :
    octets (backslash :: high :: low :: after) =
      (Percent.hexValue high.toUInt8 * 16 + Percent.hexValue low.toUInt8) :: octets after := by
  simp [octets]

theorem value_append (first second : List Char) (valid : AssertionValue first) (other : AssertionValue second) :
    AssertionValue (first ++ second) := by
  induction valid with
  | empty => exact other
  | escape high low after highHex lowHex _ ih => exact .escape high low _ highHex lowHex ih
  | itself char rest plain _ ih => exact .itself char _ plain ih

theorem octets_append (first second : List Char) (valid : AssertionValue first) :
    octets (first ++ second) = octets first ++ octets second := by
  induction valid with
  | empty => rfl
  | escape high low after _ _ _ ih => simp only [List.cons_append, octets_escape, ih]
  | itself char rest plain _ ih =>
      rw [List.cons_append, octets_normal char _ plain, octets_normal char _ plain, ih, List.append_assoc]

theorem plain_value (chars : List Char) (plain : ∀ char ∈ chars, normal char = true) : AssertionValue chars := by
  induction chars with
  | nil => exact .empty
  | cons char rest ih =>
      exact .itself char rest (plain char List.mem_cons_self)
        (ih fun other member => plain other (List.mem_cons_of_mem char member))

theorem plain_octets (chars : List Char) (plain : ∀ char ∈ chars, normal char = true) :
    octets chars = chars.flatMap String.utf8EncodeChar := by
  induction chars with
  | nil => rfl
  | cons char rest ih =>
      rw [octets_normal char rest (plain char List.mem_cons_self), List.flatMap_cons,
        ih fun other member => plain other (List.mem_cons_of_mem char member)]

theorem value_chars (value : List Char) (valid : AssertionValue value) (char : Char) (member : char ∈ value) :
    normal char = true ∨ char = backslash := by
  induction valid with
  | empty => cases member
  | escape high low after highHex lowHex _ ih =>
      simp only [List.mem_cons] at member
      rcases member with same | same | same | later
      · exact Or.inr same
      · exact Or.inl (same ▸ hex_normal high highHex)
      · exact Or.inl (same ▸ hex_normal low lowHex)
      · exact ih later
  | itself first rest plain _ ih =>
      rcases List.mem_cons.mp member with same | later
      · exact Or.inl (same ▸ plain)
      · exact ih later

theorem value_without (value : List Char) (valid : AssertionValue value) (char : Char)
    (special : normal char = false) (other : char ≠ backslash) : char ∉ value := by
  intro member
  rcases value_chars value valid char member with plain | same
  · rw [special] at plain
    cases plain
  · exact other same

-- A value can be cut before a character that is no hexadecimal digit.
theorem value_cut (first : List Char) (char : Char) (rest : List Char) (notHex : char.isHexDigit = false)
    (valid : AssertionValue (first ++ char :: rest)) : AssertionValue first ∧ AssertionValue (char :: rest) := by
  generalize whole : first ++ char :: rest = value at valid
  induction valid generalizing first with
  | empty => cases first <;> cases whole
  | escape high low after highHex lowHex more ih =>
      rcases first with _ | ⟨first, _ | ⟨second, _ | ⟨third, first⟩⟩⟩
      · rw [List.nil_append] at whole
        exact ⟨.empty, whole ▸ .escape high low after highHex lowHex more⟩
      · cases whole
        rw [notHex] at highHex
        cases highHex
      · cases whole
        rw [notHex] at lowHex
        cases lowHex
      · cases whole
        exact ⟨.escape _ _ _ highHex lowHex (ih first rfl).1, (ih first rfl).2⟩
  | itself head after plain more ih =>
      cases first with
      | nil =>
          rw [List.nil_append] at whole
          exact ⟨.empty, whole ▸ .itself head after plain more⟩
      | cons first rest =>
          cases whole
          exact ⟨.itself _ _ plain (ih rest rfl).1, (ih rest rfl).2⟩

theorem value_rest (char : Char) (rest : List Char) (plain : normal char = true)
    (valid : AssertionValue (char :: rest)) : AssertionValue rest := by
  cases valid with
  | escape high low after _ _ _ => exact absurd rfl (normal_ne_backslash backslash plain)
  | itself _ _ _ more => exact more

theorem hex_single (char : Char) (hex : char.isHexDigit = true) : (String.utf8EncodeChar char).length = 1 := by
  have small : char.val ≤ 127 := by
    simp only [Char.isHexDigit, Char.isDigit, Bool.or_eq_true, Bool.and_eq_true, decide_eq_true_eq] at hex
    rcases hex with (digit | lower) | upper
    · exact UInt32.le_trans digit.2 (by decide)
    · exact UInt32.le_trans lower.2 (by decide)
    · exact UInt32.le_trans upper.2 (by decide)
  rw [String.length_utf8EncodeChar]
  unfold Char.utf8Size
  exact if_pos small

theorem octets_length (value : List Char) (valid : AssertionValue value) :
    (value.flatMap String.utf8EncodeChar).length = (octets value).length + 2 * value.count backslash := by
  induction valid with
  | empty => rfl
  | escape high low after highHex lowHex _ ih =>
      have highOther := normal_ne_backslash high (hex_normal high highHex)
      have lowOther := normal_ne_backslash low (hex_normal low lowHex)
      have single : (String.utf8EncodeChar backslash).length = 1 := by decide
      simp only [List.flatMap_cons, List.length_append, octets_escape, List.length_cons, single,
        hex_single high highHex, hex_single low lowHex, List.count_cons_self, List.count_cons_of_ne highOther,
        List.count_cons_of_ne lowOther, ih]
      omega
  | itself char rest plain _ ih =>
      rw [octets_normal char rest plain, List.flatMap_cons, List.length_append, List.length_append,
        List.count_cons_of_ne (normal_ne_backslash char plain), ih, Nat.add_assoc]

theorem octets_empty (value : List Char) (valid : AssertionValue value) (nothing : octets value = []) :
    value = [] := by
  cases valid with
  | empty => rfl
  | escape high low after _ _ _ =>
      rw [octets_escape] at nothing
      cases nothing
  | itself char rest plain _ =>
      rw [octets_normal char rest plain, List.append_eq_nil_iff] at nothing
      exact absurd nothing.1 (by simp)

end Values

end SearchFilter
