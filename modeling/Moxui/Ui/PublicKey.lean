import Mathlib.Data.List.Basic
import Moxui.Lib.Base64

set_option autoImplicit false

namespace Moxui.Ui.PublicKey

-- The values of JavaScript that come of a JSON text, and buffers.
inductive Value (ν : Type) where
  | null
  | bool (value : Bool)
  | number (value : ν)
  | str (text : String)
  | buffer (bytes : List UInt8)
  | arr (items : List (Value ν))
  | obj (members : List (String × Value ν))

section Atob

def atobDigit (char : Char) : Option Nat :=
  if char = '+' then some 62
  else if char = '/' then some 63
  else if char = '-' ∨ char = '_' then none
  else Base64.value char

-- Bits that are left over are dropped.
def atobGroups : List Char → Option (List UInt8)
  | [] => some []
  | [_] => none
  | [w, x] => do
      let w ← atobDigit w
      let x ← atobDigit x
      some [UInt8.ofNat (w * 4 + x / 16)]
  | [w, x, y] => do
      let w ← atobDigit w
      let x ← atobDigit x
      let y ← atobDigit y
      some [UInt8.ofNat (w * 4 + x / 16), UInt8.ofNat (x % 16 * 16 + y / 4)]
  | w :: x :: y :: z :: rest => do
      let w ← atobDigit w
      let x ← atobDigit x
      let y ← atobDigit y
      let z ← atobDigit z
      let bytes ← atobGroups rest
      some (UInt8.ofNat (w * 4 + x / 16) :: UInt8.ofNat (x % 16 * 16 + y / 4) :: UInt8.ofNat (y % 4 * 64 + z) :: bytes)

def isSpace (char : Char) : Bool :=
  char = ' ' ∨ char = '\t' ∨ char = '\n' ∨ char = '\x0C' ∨ char = '\r'

def dropPadding (chars : List Char) : List Char :=
  match chars.reverse with
  | '=' :: '=' :: rest => rest.reverse
  | '=' :: rest => rest.reverse
  | _ => chars

def atob (chars : List Char) : Option (List UInt8) :=
  let chars := chars.filter fun char => !isSpace char
  atobGroups (if chars.length % 4 = 0 then dropPadding chars else chars)

end Atob

section Decoding

variable {ν : Type}

-- `b64.replace(/-/g, '+').replace(/_/g, '/')`, character by character.
def standard (char : Char) : Char :=
  if char = '-' then '+' else if char = '_' then '/' else char

def base64urlToBuffer (b64 : String) : Option (List UInt8) :=
  atob (b64.toList.map standard)

def isBinaryKey (key : String) : Bool :=
  key = "challenge" ∨ key = "id" ∨ ['I', 'd'].isSuffixOf key.toList

-- `{ ...cred, id: this._base64urlToBuffer(cred.id) }`. What is no text has no `replace`.
def decodeCredential : Value ν → Option (Value ν)
  | .obj members =>
      match members.lookup "id" with
      | some (.str text) => do
          let bytes ← base64urlToBuffer text
          some (.obj (members.map fun member => if member.1 = "id" then ("id", .buffer bytes) else member))
      | _ => none
  | _ => none

-- What is assigned to a key; `walked` is what the recursive call answers for the value.
def decodedMember (key : String) (value : Value ν) (walked : Option (Value ν)) : Option (Value ν) :=
  match value with
  | .str text => if isBinaryKey key then (base64urlToBuffer text).map .buffer else walked
  | .arr items =>
      if key = "transports" then some (.arr items)
      else if key = "allowCredentials" then (items.mapM decodeCredential).map .arr
      else if key = "credential" then some (.arr items)
      else walked
  | .obj members => if key = "credential" then some (.obj members) else walked
  | .buffer bytes => if key = "credential" then some (.buffer bytes) else walked
  | _ => walked

-- `decoded[key] = value`. An assignment to `__proto__` adds no member.
def assign (key : String) (value : Value ν) (decoded : List (String × Value ν)) : List (String × Value ν) :=
  if key = "__proto__" then decoded else (key, value) :: decoded

mutual
def decodePublicKey : Value ν → Option (Value ν)
  | .null => some .null
  | .bool value => some (.bool value)
  | .number value => some (.number value)
  | .str text => some (.str text)
  | .buffer _ => some (.obj [])
  | .arr items => (decodeItems items).map .arr
  | .obj members => (decodeMembers members).map .obj
def decodeItems : List (Value ν) → Option (List (Value ν))
  | [] => some []
  | value :: rest => do
      let decoded ← decodePublicKey value
      let others ← decodeItems rest
      some (decoded :: others)
def decodeMembers : List (String × Value ν) → Option (List (String × Value ν))
  | [] => some []
  | (key, value) :: rest => do
      let decoded ← decodedMember key value (decodePublicKey value)
      let others ← decodeMembers rest
      some (assign key decoded others)
end

end Decoding

-- Options as they come in JSON, with each member at most once.
section Shape

variable {ν : Type}

def Text (value : Value ν) : Prop :=
  ∃ text, value = .str text

def Texts (value : Value ν) : Prop :=
  ∃ items, value = .arr items ∧ ∀ item ∈ items, Text item

structure Members (shape : String → Value ν → Prop) (members : List (String × Value ν)) : Prop where
  distinct : (members.map Prod.fst).Nodup
  each : ∀ member ∈ members, shape member.1 member.2

def Object (shape : String → Value ν → Prop) (value : Value ν) : Prop :=
  ∃ members, value = .obj members ∧ Members shape members

def Objects (shape : String → Value ν → Prop) (value : Value ν) : Prop :=
  ∃ items, value = .arr items ∧ ∀ item ∈ items, Object shape item

inductive RpMember : String → Value ν → Prop where
  | id (text : String) : RpMember "id" (.str text)
  | name (text : String) : RpMember "name" (.str text)

inductive UserMember : String → Value ν → Prop where
  | id (bytes : List UInt8) : UserMember "id" (.str (Base64.encode bytes))
  | name (text : String) : UserMember "name" (.str text)
  | displayName (text : String) : UserMember "displayName" (.str text)

inductive ParamMember : String → Value ν → Prop where
  | type (text : String) : ParamMember "type" (.str text)
  | alg (value : ν) : ParamMember "alg" (.number value)

inductive DescriptorMember : String → Value ν → Prop where
  | id (bytes : List UInt8) : DescriptorMember "id" (.str (Base64.encode bytes))
  | type (text : String) : DescriptorMember "type" (.str text)
  | transports (value : Value ν) (texts : Texts value) : DescriptorMember "transports" value

inductive SelectionMember : String → Value ν → Prop where
  | authenticatorAttachment (text : String) : SelectionMember "authenticatorAttachment" (.str text)
  | residentKey (text : String) : SelectionMember "residentKey" (.str text)
  | requireResidentKey (value : Bool) : SelectionMember "requireResidentKey" (.bool value)
  | userVerification (text : String) : SelectionMember "userVerification" (.str text)

def Descriptors (value : Value ν) : Prop :=
  ∃ items, value = .arr items ∧
    ∀ item ∈ items, ∃ members, item = .obj members ∧ Members DescriptorMember members ∧ ∃ id, ("id", id) ∈ members

-- The members of the options for a creation and for a request. What extensions hold is left open.
inductive OptionsMember : String → Value ν → Prop where
  | challenge (bytes : List UInt8) : OptionsMember "challenge" (.str (Base64.encode bytes))
  | rp (members : List (String × Value ν)) (shape : Members RpMember members) : OptionsMember "rp" (.obj members)
  | rpId (text : String) : OptionsMember "rpId" (.str text)
  | user (members : List (String × Value ν)) (shape : Members UserMember members) : OptionsMember "user" (.obj members)
  | pubKeyCredParams (value : Value ν) (shape : Objects ParamMember value) : OptionsMember "pubKeyCredParams" value
  | timeout (value : ν) : OptionsMember "timeout" (.number value)
  | excludeCredentials (value : Value ν) (shape : Descriptors value) : OptionsMember "excludeCredentials" value
  | allowCredentials (value : Value ν) (shape : Descriptors value) : OptionsMember "allowCredentials" value
  | authenticatorSelection (value : Value ν) (shape : Object SelectionMember value) :
      OptionsMember "authenticatorSelection" value
  | userVerification (text : String) : OptionsMember "userVerification" (.str text)
  | hints (value : Value ν) (texts : Texts value) : OptionsMember "hints" value
  | attestation (text : String) : OptionsMember "attestation" (.str text)
  | attestationFormats (value : Value ν) (texts : Texts value) : OptionsMember "attestationFormats" value
  | extensions (members : List (String × Value ν)) : OptionsMember "extensions" (.obj members)

-- What should become of a member: the binary ones turn into buffers, and the others stay.
def binaryValue : Value ν → Value ν
  | .str text => .buffer ((Base64.decode text).getD [])
  | value => value

def withId : Value ν → Value ν
  | .obj members => .obj (members.map fun member => if member.1 = "id" then ("id", binaryValue member.2) else member)
  | value => value

def withIds : Value ν → Value ν
  | .arr items => .arr (items.map withId)
  | value => value

def expectedMember (key : String) (value : Value ν) : Value ν :=
  if key = "challenge" then binaryValue value
  else if key = "user" then withId value
  else if key = "excludeCredentials" ∨ key = "allowCredentials" then withIds value
  else value

def expected (members : List (String × Value ν)) : List (String × Value ν) :=
  members.map fun member => (member.1, expectedMember member.1 member.2)

def MemberUntouched (key : String) (value : Value ν) (inner : Prop) : Prop :=
  match value with
  | .str _ => isBinaryKey key = false
  | .arr items =>
      if key = "transports" then True
      else if key = "allowCredentials" then items = []
      else if key = "credential" then True
      else inner
  | .obj _ => key = "credential" ∨ inner
  | .buffer _ => key = "credential" ∨ inner
  | _ => True

mutual
def Untouched : Value ν → Prop
  | .null => True
  | .bool _ => True
  | .number _ => True
  | .str _ => True
  | .buffer _ => False
  | .arr items => ItemsUntouched items
  | .obj members => MembersUntouched members
def ItemsUntouched : List (Value ν) → Prop
  | [] => True
  | value :: rest => Untouched value ∧ ItemsUntouched rest
def MembersUntouched : List (String × Value ν) → Prop
  | [] => True
  | (key, value) :: rest => key ≠ "__proto__" ∧ MemberUntouched key value (Untouched value) ∧ MembersUntouched rest
end

structure LeftAlone (key : String) (value : Value ν) : Prop where
  noRpId : key ≠ "rpId"
  noIdOfRp : key = "rp" → ∀ rp, value = .obj rp → ∀ id, ("id", id) ∉ rp
  extensions : key = "extensions" → Untouched value

def NothingElseRead (members : List (String × Value ν)) : Prop :=
  ∀ member ∈ members, LeftAlone member.1 member.2

end Shape

section Buffers

theorem letters_standard : Base64.alphabet.all (fun char =>
    atobDigit (standard char) = Base64.value char ∧ isSpace (standard char) = false ∧ standard char ≠ '=') = true := by
  decide +kernel

theorem standard_letter (char : Char) (letter : char ∈ Base64.alphabet) :
    atobDigit (standard char) = Base64.value char ∧ isSpace (standard char) = false ∧ standard char ≠ '=' :=
  of_decide_eq_true (List.all_eq_true.mp letters_standard char letter)

theorem digit_standard (char : Char) (letter : char ∈ Base64.alphabet) : atobDigit (standard char) = Base64.value char :=
  (standard_letter char letter).1

theorem groups_standard (chars : List Char) (bytes : List UInt8) (letters : ∀ char ∈ chars, char ∈ Base64.alphabet)
    (strict : Base64.decodeList chars = some bytes) : atobGroups (chars.map standard) = some bytes := by
  induction chars using Base64.decodeList.induct generalizing bytes with
  | case1 => exact strict
  | case2 w => exact absurd strict (by simp [Base64.decodeList])
  | case3 w x =>
      simp only [List.forall_mem_cons] at letters
      simp only [List.map_cons, List.map_nil, atobGroups, digit_standard w letters.1, digit_standard x letters.2.1]
      simp only [Base64.decodeList, Option.bind_eq_bind, Option.bind_eq_some_iff] at strict
      obtain ⟨first, atW, second, atX, left⟩ := strict
      simp only [atW, atX, Option.bind_eq_bind, Option.bind_some]
      exact (Option.ite_none_right_eq_some.mp left).2
  | case4 w x y =>
      simp only [List.forall_mem_cons] at letters
      simp only [List.map_cons, List.map_nil, atobGroups, digit_standard w letters.1, digit_standard x letters.2.1,
        digit_standard y letters.2.2.1]
      simp only [Base64.decodeList, Option.bind_eq_bind, Option.bind_eq_some_iff] at strict
      obtain ⟨first, atW, second, atX, third, atY, left⟩ := strict
      simp only [atW, atX, atY, Option.bind_eq_bind, Option.bind_some]
      exact (Option.ite_none_right_eq_some.mp left).2
  | case5 w x y z rest ih =>
      simp only [List.forall_mem_cons] at letters
      obtain ⟨atFirst, atSecond, atThird, atFourth, others⟩ := letters
      simp only [Base64.decodeList, Option.bind_eq_bind, Option.bind_eq_some_iff] at strict
      obtain ⟨first, atW, second, atX, third, atY, fourth, atZ, tail, ofRest, whole⟩ := strict
      simp only [List.map_cons, atobGroups, digit_standard w atFirst, digit_standard x atSecond, digit_standard y atThird,
        digit_standard z atFourth, atW, atX, atY, atZ, ih tail others ofRest, Option.bind_eq_bind, Option.bind_some]
      exact whole

theorem drop_no_padding (chars : List Char) (bare : '=' ∉ chars) : dropPadding chars = chars := by
  have first : '=' ∉ chars.reverse := mt List.mem_reverse.mp bare
  rw [dropPadding]
  split
  · next rest same => exact absurd (same ▸ List.mem_cons_self) first
  · next rest _ same => exact absurd (same ▸ List.mem_cons_self) first
  · rfl

theorem buffer_encode (bytes : List UInt8) : base64urlToBuffer (Base64.encode bytes) = some bytes := by
  have letters := Base64.encode_alphabet bytes
  have solid : ((Base64.encode bytes).toList.map standard).filter (fun char => !isSpace char) =
      (Base64.encode bytes).toList.map standard := by
    rw [List.filter_eq_self]
    intro char inText
    obtain ⟨letter, inEncoded, rfl⟩ := List.mem_map.mp inText
    rw [(standard_letter letter (letters letter inEncoded)).2.1, Bool.not_false]
  have bare : '=' ∉ (Base64.encode bytes).toList.map standard := by
    intro inText
    obtain ⟨letter, inEncoded, same⟩ := List.mem_map.mp inText
    exact (standard_letter letter (letters letter inEncoded)).2.2 same
  rw [base64urlToBuffer, atob, solid, drop_no_padding _ bare, ite_self]
  exact groups_standard _ bytes letters (Base64.decode_encode bytes)

end Buffers


section Untouched

variable {ν : Type}

theorem credential_changed (credential : Value ν) : decodeCredential credential ≠ some credential := by
  intro kept
  cases credential with
  | obj members =>
      rw [decodeCredential] at kept
      split at kept
      · next text found =>
          obtain ⟨bytes, _, same⟩ := Option.bind_eq_some_iff.mp kept
          rw [Option.some_inj, Value.obj.injEq] at same
          obtain ⟨before, after, split, _⟩ := List.lookup_eq_some_iff.mp found
          have inside : ("id", .str text) ∈ members := by simp [split]
          have fixed := List.map_inj_left.mp (same.trans (List.map_id members).symm) _ inside
          simp at fixed
      · exact absurd kept (Option.some_ne_none _).symm
  | _ => exact absurd kept (Option.some_ne_none _).symm

theorem credentials_changed (items : List (Value ν)) : items.mapM decodeCredential = some items ↔ items = [] := by
  cases items with
  | nil => simp
  | cons credential rest =>
      simp only [List.mapM_cons, Option.bind_eq_bind, Option.pure_def, Option.bind_eq_some_iff, Option.some_inj, reduceCtorEq,
        iff_false]
      rintro ⟨decoded, ofFirst, others, _, same⟩
      rw [List.cons.injEq] at same
      exact credential_changed credential (same.1 ▸ ofFirst)

theorem member_untouched (key : String) (value : Value ν) (walk : decodePublicKey value = some value ↔ Untouched value) :
    decodedMember key value (decodePublicKey value) = some value ↔ MemberUntouched key value (Untouched value) := by
  cases value with
  | null => simp [decodedMember, MemberUntouched, decodePublicKey]
  | bool flag => simp [decodedMember, MemberUntouched, decodePublicKey]
  | number number => simp [decodedMember, MemberUntouched, decodePublicKey]
  | str text =>
      by_cases binary : isBinaryKey key = true
      · simp [decodedMember, MemberUntouched, binary]
      · simp [decodedMember, MemberUntouched, binary, decodePublicKey]
  | buffer bytes =>
      by_cases whole : key = "credential"
      · simp [decodedMember, MemberUntouched, whole]
      · simp [decodedMember, MemberUntouched, whole, walk]
  | obj members =>
      by_cases whole : key = "credential"
      · simp [decodedMember, MemberUntouched, whole]
      · simp [decodedMember, MemberUntouched, whole, walk]
  | arr items =>
      rw [decodedMember, MemberUntouched]
      by_cases transports : key = "transports"
      · rw [if_pos transports, if_pos transports, eq_self, true_iff]
        trivial
      · rw [if_neg transports, if_neg transports]
        by_cases allow : key = "allowCredentials"
        · rw [if_pos allow, if_pos allow, Option.map_eq_some_iff, ← credentials_changed]
          simp
        · rw [if_neg allow, if_neg allow]
          by_cases whole : key = "credential"
          · rw [if_pos whole, if_pos whole, eq_self, true_iff]
            trivial
          · rw [if_neg whole, if_neg whole, walk]

theorem members_shorter (members decoded : List (String × Value ν)) (walked : decodeMembers members = some decoded) :
    decoded.length ≤ members.length := by
  induction members generalizing decoded with
  | nil =>
      rw [decodeMembers, Option.some_inj] at walked
      rw [← walked]
  | cons member rest ih =>
      simp only [decodeMembers, Option.bind_eq_bind, Option.bind_eq_some_iff, Option.some_inj] at walked
      obtain ⟨value, _, others, ofRest, rfl⟩ := walked
      have shorter := ih others ofRest
      rw [assign]
      split
      · exact Nat.le_succ_of_le shorter
      · exact Nat.succ_le_succ shorter

theorem first_assigned (key : String) (value decoded : Value ν) (rest others : List (String × Value ν))
    (ofRest : decodeMembers rest = some others) :
    assign key decoded others = (key, value) :: rest ↔ key ≠ "__proto__" ∧ decoded = value ∧ others = rest := by
  rw [assign]
  by_cases proto : key = "__proto__"
  · have shorter := members_shorter rest others ofRest
    rw [if_pos proto]
    simp only [ne_eq, proto, not_true, false_and, iff_false]
    rintro rfl
    exact absurd shorter (Nat.not_succ_le_self _)
  · simp [proto]

-- Both sides recurse over the value, so the three lemmas do.
mutual
theorem untouched_iff (value : Value ν) : decodePublicKey value = some value ↔ Untouched value := by
  cases value with
  | null => simp [decodePublicKey, Untouched]
  | bool flag => simp [decodePublicKey, Untouched]
  | number number => simp [decodePublicKey, Untouched]
  | str text => simp [decodePublicKey, Untouched]
  | buffer bytes => simp [decodePublicKey, Untouched]
  | arr items =>
      rw [decodePublicKey, Untouched, ← items_untouched_iff items, Option.map_eq_some_iff]
      simp
  | obj members =>
      rw [decodePublicKey, Untouched, ← members_untouched_iff members, Option.map_eq_some_iff]
      simp
theorem items_untouched_iff (items : List (Value ν)) : decodeItems items = some items ↔ ItemsUntouched items := by
  cases items with
  | nil => simp [decodeItems, ItemsUntouched]
  | cons value rest =>
      rw [ItemsUntouched, ← untouched_iff value, ← items_untouched_iff rest]
      simp only [decodeItems, Option.bind_eq_bind, Option.bind_eq_some_iff, Option.some_inj, List.cons.injEq]
      constructor
      · rintro ⟨decoded, ofFirst, others, ofRest, rfl, rfl⟩
        exact ⟨ofFirst, ofRest⟩
      · rintro ⟨ofFirst, ofRest⟩
        exact ⟨value, ofFirst, rest, ofRest, rfl, rfl⟩
theorem members_untouched_iff (members : List (String × Value ν)) :
    decodeMembers members = some members ↔ MembersUntouched members := by
  cases members with
  | nil => simp [decodeMembers, MembersUntouched]
  | cons member rest =>
      obtain ⟨key, value⟩ := member
      have ofValue := member_untouched key value (untouched_iff value)
      rw [MembersUntouched, ← members_untouched_iff rest]
      simp only [decodeMembers, Option.bind_eq_bind, Option.bind_eq_some_iff, Option.some_inj]
      constructor
      · rintro ⟨decoded, ofFirst, others, ofRest, same⟩
        obtain ⟨own, rfl, rfl⟩ := (first_assigned key value decoded rest others ofRest).mp same
        exact ⟨own, ofValue.mp ofFirst, ofRest⟩
      · rintro ⟨own, kept, ofRest⟩
        have same := (first_assigned key value value rest rest ofRest).mpr ⟨own, rfl, rfl⟩
        exact ⟨value, ofValue.mpr kept, rest, ofRest, same⟩
end

end Untouched


section Options

variable {ν : Type}

theorem members_untouched (members : List (String × Value ν)) : MembersUntouched members ↔
    ∀ member ∈ members, member.1 ≠ "__proto__" ∧ MemberUntouched member.1 member.2 (Untouched member.2) := by
  induction members with
  | nil => simp [MembersUntouched]
  | cons member rest ih => rw [MembersUntouched, ih, List.forall_mem_cons, and_assoc]

theorem items_untouched (items : List (Value ν)) : ItemsUntouched items ↔ ∀ item ∈ items, Untouched item := by
  induction items with
  | nil => simp [ItemsUntouched]
  | cons item rest ih => rw [ItemsUntouched, ih, List.forall_mem_cons]

theorem decode_members (rewrite : String → Value ν → Value ν) (members : List (String × Value ν))
    (own : ∀ member ∈ members, member.1 ≠ "__proto__") :
    decodeMembers members = some (members.map fun member => (member.1, rewrite member.1 member.2)) ↔
      ∀ member ∈ members, decodedMember member.1 member.2 (decodePublicKey member.2) = some (rewrite member.1 member.2) := by
  induction members with
  | nil => simp [decodeMembers]
  | cons member rest ih =>
      obtain ⟨key, value⟩ := member
      rw [List.forall_mem_cons] at own ⊢
      rw [← ih own.2]
      simp only [decodeMembers, assign, if_neg own.1, Option.bind_eq_bind, Option.bind_eq_some_iff, Option.some_inj, List.map_cons,
        List.cons.injEq, Prod.mk.injEq, true_and]
      constructor
      · rintro ⟨decoded, ofFirst, others, ofRest, rfl, rfl⟩
        exact ⟨ofFirst, ofRest⟩
      · rintro ⟨ofFirst, ofRest⟩
        exact ⟨_, ofFirst, _, ofRest, rfl, rfl⟩

theorem decode_items (rewrite : Value ν → Value ν) (items : List (Value ν))
    (each : ∀ item ∈ items, decodePublicKey item = some (rewrite item)) : decodeItems items = some (items.map rewrite) := by
  induction items with
  | nil => rfl
  | cons item rest ih =>
      rw [List.forall_mem_cons] at each
      rw [decodeItems, each.1, ih each.2]
      rfl

theorem texts_untouched (value : Value ν) (texts : Texts value) : Untouched value := by
  obtain ⟨items, rfl, each⟩ := texts
  rw [Untouched, items_untouched]
  intro item inItems
  obtain ⟨text, rfl⟩ := each item inItems
  rw [Untouched]
  trivial

theorem text_untouched (key text : String) (plain : isBinaryKey key = false) :
    MemberUntouched (ν := ν) key (.str text) (Untouched (ν := ν) (.str text)) :=
  plain

theorem param_untouched (key : String) (value : Value ν) (shape : ParamMember key value) :
    key ≠ "__proto__" ∧ MemberUntouched key value (Untouched value) := by
  cases shape with
  | type text => exact ⟨by decide, text_untouched _ text (by decide)⟩
  | alg value => exact ⟨by decide, trivial⟩

theorem selection_untouched (key : String) (value : Value ν) (shape : SelectionMember key value) :
    key ≠ "__proto__" ∧ MemberUntouched key value (Untouched value) := by
  cases shape with
  | authenticatorAttachment text => exact ⟨by decide, text_untouched _ text (by decide)⟩
  | residentKey text => exact ⟨by decide, text_untouched _ text (by decide)⟩
  | requireResidentKey value => exact ⟨by decide, trivial⟩
  | userVerification text => exact ⟨by decide, text_untouched _ text (by decide)⟩

theorem object_untouched (shape : String → Value ν → Prop) (value : Value ν) (object : Object shape value)
    (each : ∀ key value, shape key value → key ≠ "__proto__" ∧ MemberUntouched key value (Untouched value)) :
    Untouched value := by
  obtain ⟨members, rfl, shaped⟩ := object
  rw [Untouched, members_untouched]
  intro member inMembers
  exact each member.1 member.2 (shaped.each member inMembers)

theorem objects_untouched (shape : String → Value ν → Prop) (value : Value ν) (objects : Objects shape value)
    (each : ∀ key value, shape key value → key ≠ "__proto__" ∧ MemberUntouched key value (Untouched value)) :
    Untouched value := by
  obtain ⟨items, rfl, shaped⟩ := objects
  rw [Untouched, items_untouched]
  intro item inItems
  exact object_untouched shape item (shaped item inItems) each

theorem binary_value (bytes : List UInt8) : binaryValue (ν := ν) (.str (Base64.encode bytes)) = .buffer bytes := by
  rw [binaryValue, Base64.decode_encode, Option.getD_some]

theorem binary_member (key : String) (bytes : List UInt8) (binary : isBinaryKey key = true) (walked : Option (Value ν)) :
    decodedMember key (.str (Base64.encode bytes)) walked = some (binaryValue (.str (Base64.encode bytes))) := by
  rw [decodedMember, if_pos binary, buffer_encode, binary_value]
  rfl

def idMember (key : String) (value : Value ν) : Value ν :=
  if key = "id" then binaryValue value else value

theorem with_id (members : List (String × Value ν)) :
    withId (.obj members) = .obj (members.map fun member => (member.1, idMember member.1 member.2)) := by
  rw [withId]
  congr 2
  funext member
  rw [idMember]
  split
  · next same => rw [same]
  · rfl

theorem kept_member (key : String) (value : Value ν) (other : key ≠ "id")
    (untouched : MemberUntouched key value (Untouched value)) :
    decodedMember key value (decodePublicKey value) = some (idMember key value) := by
  rw [idMember, if_neg other]
  exact (member_untouched key value (untouched_iff value)).mpr untouched

theorem user_member (key : String) (value : Value ν) (shape : UserMember key value) :
    key ≠ "__proto__" ∧ decodedMember key value (decodePublicKey value) = some (idMember key value) := by
  cases shape with
  | id bytes => exact ⟨by decide, binary_member "id" bytes (by decide) _⟩
  | name text => exact ⟨by decide, kept_member _ _ (by decide) (text_untouched _ text (by decide))⟩
  | displayName text => exact ⟨by decide, kept_member _ _ (by decide) (text_untouched _ text (by decide))⟩

theorem descriptor_member (key : String) (value : Value ν) (shape : DescriptorMember key value) :
    key ≠ "__proto__" ∧ decodedMember key value (decodePublicKey value) = some (idMember key value) := by
  cases shape with
  | id bytes => exact ⟨by decide, binary_member "id" bytes (by decide) _⟩
  | type text => exact ⟨by decide, kept_member _ _ (by decide) (text_untouched _ text (by decide))⟩
  | transports value texts =>
      obtain ⟨items, rfl, _⟩ := texts
      exact ⟨by decide, rfl⟩

theorem id_decoded (shape : String → Value ν → Prop) (members : List (String × Value ν)) (shaped : Members shape members)
    (each : ∀ key value, shape key value →
      key ≠ "__proto__" ∧ decodedMember key value (decodePublicKey value) = some (idMember key value)) :
    decodePublicKey (.obj members) = some (withId (.obj members)) := by
  have own : ∀ member ∈ members, member.1 ≠ "__proto__" := fun member inMembers =>
    (each member.1 member.2 (shaped.each member inMembers)).1
  have ofMembers := (decode_members idMember members own).mpr fun member inMembers =>
    (each member.1 member.2 (shaped.each member inMembers)).2
  rw [decodePublicKey, ofMembers, with_id]
  rfl

theorem descriptor_id (key : String) (value : Value ν) (shape : DescriptorMember key value) (isId : key = "id") :
    ∃ bytes, value = .str (Base64.encode bytes) := by
  cases shape with
  | id bytes => exact ⟨bytes, rfl⟩
  | type text => exact absurd isId (by decide)
  | transports value texts => exact absurd isId (by decide)

theorem credential_decoded (members : List (String × Value ν)) (shaped : Members DescriptorMember members) (id : Value ν)
    (present : ("id", id) ∈ members) : decodeCredential (.obj members) = some (withId (.obj members)) := by
  obtain ⟨bytes, rfl⟩ := descriptor_id "id" id (shaped.each _ present) rfl
  have found : members.lookup "id" = some (.str (Base64.encode bytes)) := by
    obtain ⟨before, after, whole⟩ := List.append_of_mem present
    refine List.lookup_eq_some_iff.mpr ⟨before, after, whole, ?_⟩
    intro member isBefore
    have distinct := shaped.distinct
    rw [whole, List.map_append, List.map_cons] at distinct
    have apart := (List.nodup_append.mp distinct).2.2 member.1 (List.mem_map_of_mem isBefore) "id" List.mem_cons_self
    exact bne_iff_ne.mpr apart.symm
  rw [decodeCredential, found]
  simp only [buffer_encode, Option.bind_eq_bind, Option.bind_some, withId, Option.some_inj, Value.obj.injEq]
  refine List.map_inj_left.mpr fun member inMembers => ?_
  by_cases isId : member.1 = "id"
  · have same := List.inj_on_of_nodup_map shaped.distinct inMembers present isId
    rw [if_pos isId, if_pos isId, same, binary_value]
  · rw [if_neg isId, if_neg isId]

theorem credentials_decoded (items : List (Value ν))
    (each : ∀ item ∈ items, ∃ members, item = .obj members ∧ Members DescriptorMember members ∧ ∃ id, ("id", id) ∈ members) :
    items.mapM decodeCredential = some (items.map withId) := by
  induction items with
  | nil => rfl
  | cons item rest ih =>
      rw [List.forall_mem_cons] at each
      obtain ⟨⟨members, rfl, shaped, id, present⟩, others⟩ := each
      rw [List.mapM_cons, credential_decoded members shaped id present, ih others]
      rfl

theorem options_key (key : String) (value : Value ν) (shape : OptionsMember key value) : key ≠ "__proto__" := by
  cases shape <;> decide

theorem rp_member (key : String) (value : Value ν) (shape : RpMember key value) :
    key ≠ "__proto__" ∧ (MemberUntouched key value (Untouched value) ↔ key ≠ "id") := by
  cases shape with
  | id text => exact ⟨by decide, by simp [MemberUntouched, isBinaryKey]⟩
  | name text => exact ⟨by decide, iff_of_true (text_untouched _ text (by decide)) (by decide)⟩

theorem rp_untouched (members : List (String × Value ν)) (shaped : Members RpMember members) :
    Untouched (.obj members) ↔ ∀ id, ("id", id) ∉ members := by
  rw [Untouched, members_untouched]
  constructor
  · intro untouched id present
    exact (rp_member "id" id (shaped.each _ present)).2.mp (untouched _ present).2 rfl
  · intro absent member inMembers
    obtain ⟨own, kept⟩ := rp_member member.1 member.2 (shaped.each _ inMembers)
    refine ⟨own, kept.mpr ?_⟩
    intro isId
    exact absent member.2 (isId ▸ inMembers)

theorem left_alone (key : String) (value : Value ν) (other : key ≠ "rpId" ∧ key ≠ "rp" ∧ key ≠ "extensions") :
    LeftAlone key value :=
  ⟨other.1, fun isRp => absurd isRp other.2.1, fun isExtensions => absurd isExtensions other.2.2⟩

theorem kept_option (key : String) (value : Value ν) (same : expectedMember key value = value) :
    decodedMember key value (decodePublicKey value) = some (expectedMember key value) ↔
      MemberUntouched key value (Untouched value) := by
  rw [same]
  exact member_untouched key value (untouched_iff value)

theorem text_option (key text : String) (same : expectedMember (ν := ν) key (.str text) = .str text)
    (plain : isBinaryKey key = false) (other : key ≠ "rpId" ∧ key ≠ "rp" ∧ key ≠ "extensions") :
    decodedMember (ν := ν) key (.str text) (decodePublicKey (.str text)) = some (expectedMember key (.str text)) ↔
      LeftAlone (ν := ν) key (.str text) :=
  iff_of_true ((kept_option key _ same).mpr (text_untouched key text plain)) (left_alone key _ other)

theorem walked_untouched (key : String) (value : Value ν) (plain : isBinaryKey key = false)
    (other : key ≠ "allowCredentials") (untouched : Untouched value) : MemberUntouched key value (Untouched value) := by
  cases value with
  | null => trivial
  | bool flag => trivial
  | number number => trivial
  | str text => exact plain
  | buffer bytes => exact Or.inr untouched
  | obj members => exact Or.inr untouched
  | arr items =>
      rw [MemberUntouched, if_neg other]
      split
      · trivial
      · split
        · trivial
        · exact untouched

theorem walked_option (key : String) (value : Value ν) (same : expectedMember key value = value) (plain : isBinaryKey key = false)
    (other : key ≠ "rpId" ∧ key ≠ "rp" ∧ key ≠ "extensions") (walked : key ≠ "allowCredentials")
    (untouched : Untouched value) :
    decodedMember key value (decodePublicKey value) = some (expectedMember key value) ↔ LeftAlone key value :=
  iff_of_true ((kept_option key value same).mpr (walked_untouched key value plain walked untouched)) (left_alone key value other)

theorem options_member (key : String) (value : Value ν) (shape : OptionsMember key value) :
    decodedMember key value (decodePublicKey value) = some (expectedMember key value) ↔ LeftAlone key value := by
  cases shape with
  | challenge bytes => exact iff_of_true (binary_member _ bytes (by decide) _) (left_alone _ _ (by decide))
  | rp members shaped =>
      rw [kept_option _ _ rfl, MemberUntouched, rp_untouched members shaped]
      constructor
      · rintro (never | absent)
        · exact absurd never (by decide)
        · refine ⟨by decide, ?_, fun isExtensions => absurd isExtensions (by decide)⟩
          rintro _ rp same
          rw [Value.obj.injEq] at same
          exact same ▸ absent
      · intro alone
        exact Or.inr (alone.noIdOfRp rfl members rfl)
  | rpId text =>
      rw [kept_option _ _ rfl]
      exact iff_of_false (fun kept => absurd kept (show isBinaryKey "rpId" ≠ false by decide)) fun alone => alone.noRpId rfl
  | user members shaped => exact iff_of_true (id_decoded UserMember members shaped user_member) (left_alone _ _ (by decide))
  | pubKeyCredParams value shaped =>
      exact walked_option _ _ rfl (by decide) (by decide) (by decide) (objects_untouched ParamMember value shaped param_untouched)
  | timeout value => exact iff_of_true ((kept_option _ _ rfl).mpr trivial) (left_alone _ _ (by decide))
  | excludeCredentials value shaped =>
      obtain ⟨items, rfl, each⟩ := shaped
      refine iff_of_true ?_ (left_alone _ _ (by decide))
      have walked : decodeItems items = some (items.map withId) := by
        apply decode_items
        intro item inItems
        obtain ⟨members, rfl, descriptor, _⟩ := each item inItems
        exact id_decoded DescriptorMember members descriptor descriptor_member
      exact congrArg (Option.map Value.arr) walked
  | allowCredentials value shaped =>
      obtain ⟨items, rfl, each⟩ := shaped
      refine iff_of_true ?_ (left_alone _ _ (by decide))
      exact congrArg (Option.map Value.arr) (credentials_decoded items each)
  | authenticatorSelection value shaped =>
      exact walked_option _ _ rfl (by decide) (by decide) (by decide)
        (object_untouched SelectionMember value shaped selection_untouched)
  | userVerification text => exact text_option _ text rfl (by decide) (by decide)
  | hints value texts => exact walked_option _ _ rfl (by decide) (by decide) (by decide) (texts_untouched value texts)
  | attestation text => exact text_option _ text rfl (by decide) (by decide)
  | attestationFormats value texts =>
      exact walked_option _ _ rfl (by decide) (by decide) (by decide) (texts_untouched value texts)
  | extensions members =>
      rw [kept_option _ _ rfl, MemberUntouched]
      constructor
      · rintro (never | untouched)
        · exact absurd never (by decide)
        · exact ⟨by decide, fun isRp => absurd isRp (by decide), fun _ => untouched⟩
      · intro alone
        exact Or.inr (alone.extensions rfl)

theorem options_decoded_iff (members : List (String × Value ν)) (options : Members OptionsMember members) :
    decodePublicKey (.obj members) = some (.obj (expected members)) ↔ NothingElseRead members := by
  have own : ∀ member ∈ members, member.1 ≠ "__proto__" := fun member inMembers =>
    options_key member.1 member.2 (options.each member inMembers)
  rw [decodePublicKey, Option.map_eq_some_iff]
  simp only [Value.obj.injEq, exists_eq_right]
  rw [expected, decode_members expectedMember members own]
  exact forall₂_congr fun member inMembers => options_member member.1 member.2 (options.each member inMembers)

def passwordlessLogin : List (String × Value Nat) :=
  [("challenge", .str (Base64.encode [77, 97, 110])), ("timeout", .number 60000),
    ("allowCredentials", .arr [.obj [("id", .str (Base64.encode [255])), ("type", .str "public-key")]])]

theorem login_shape : Members OptionsMember passwordlessLogin := by
  refine ⟨by decide, ?_⟩
  simp only [passwordlessLogin, List.forall_mem_cons]
  refine ⟨.challenge _, .timeout _, .allowCredentials _ ⟨_, rfl, ?_⟩, by simp⟩
  simp only [List.forall_mem_cons]
  refine ⟨⟨_, rfl, ⟨by decide, ?_⟩, _, List.mem_cons_self⟩, by simp⟩
  simp only [List.forall_mem_cons]
  exact ⟨.id _, .type _, by simp⟩

theorem login_decoded : decodePublicKey (.obj passwordlessLogin) = some (.obj (expected passwordlessLogin)) := by
  refine (options_decoded_iff passwordlessLogin login_shape).mpr ?_
  simp only [NothingElseRead, passwordlessLogin, List.forall_mem_cons]
  exact ⟨left_alone _ _ (by decide), left_alone _ _ (by decide), left_alone _ _ (by decide), by simp⟩

def loginAtHost : List (String × Value Nat) :=
  [("challenge", .str (Base64.encode [77, 97, 110])), ("rpId", .str "localhost")]

-- The id of the relying party ends in `Id`, and its text is no base64.
theorem rp_id_throws : Members OptionsMember loginAtHost ∧ decodePublicKey (.obj loginAtHost) = none := by
  refine ⟨⟨by decide, ?_⟩, ?_⟩
  · simp only [loginAtHost, List.forall_mem_cons]
    exact ⟨.challenge _, .rpId _, by simp⟩
  · have bare : base64urlToBuffer "localhost" = none := by decide
    have thrown (walked : Option (Value Nat)) : decodedMember "rpId" (.str "localhost") walked = none := by
      rw [decodedMember, if_pos (by decide), bare]
      rfl
    have ofChallenge (walked : Option (Value Nat)) := binary_member "challenge" [77, 97, 110] (by decide) walked
    simp only [loginAtHost, decodePublicKey, decodeMembers, ofChallenge, thrown, Option.bind_eq_bind, Option.bind_some,
      Option.bind_none, Option.map_none]

end Options

end Moxui.Ui.PublicKey
