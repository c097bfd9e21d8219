import Mathlib.Data.List.Basic

set_option autoImplicit false

namespace Percent

abbrev Bytes : Type :=
  List UInt8

def isHex (byte : UInt8) : Bool :=
  (48 ≤ byte && byte ≤ 57) || (65 ≤ byte && byte ≤ 70) || (97 ≤ byte && byte ≤ 102)

def hexValue (byte : UInt8) : UInt8 :=
  if byte ≤ 57 then byte - 48 else if byte ≤ 70 then byte - 55 else byte - 87

def hexDigit (value : UInt8) : UInt8 :=
  if value < 10 then 48 + value else 55 + value

def escape (byte : UInt8) : Bytes :=
  [37, hexDigit (byte / 16), hexDigit (byte % 16)]

-- A percent sign that two hexadecimal digits do not follow stands for itself.
def decode : Bytes → Bytes
  | [] => []
  | [first] => [first]
  | [first, second] => [first, second]
  | first :: high :: low :: rest =>
      if first = 37 ∧ isHex high = true ∧ isHex low = true then (hexValue high * 16 + hexValue low) :: decode rest
      else first :: decode (high :: low :: rest)

def hasEscape : Bytes → Bool
  | first :: high :: low :: rest =>
      (first == 37 && isHex high && isHex low) || hasEscape (high :: low :: rest)
  | _ => false

def encode (mustEscape : UInt8 → Bool) (bytes : Bytes) : Bytes :=
  bytes.flatMap fun byte => if mustEscape byte then escape byte else [byte]

theorem length_decode_le (bytes : Bytes) : (decode bytes).length ≤ bytes.length := by
  fun_induction decode bytes with
  | case1 => simp
  | case2 => simp
  | case3 => simp
  | case4 first high low rest escaped ih =>
      simp only [List.length_cons]
      omega
  | case5 first high low rest plain ih =>
      simp only [List.length_cons] at ih ⊢
      omega

theorem has_escape_of_length (bytes : Bytes) (same : (decode bytes).length = bytes.length) :
    hasEscape bytes = false := by
  fun_induction decode bytes with
  | case1 => rfl
  | case2 => rfl
  | case3 => rfl
  | case4 first high low rest escaped ih =>
      have shorter := length_decode_le rest
      simp only [List.length_cons] at same
      omega
  | case5 first high low rest plain ih =>
      simp only [List.length_cons] at same ih
      have later := ih (by omega)
      simp only [hasEscape, Bool.or_eq_false_iff]
      refine ⟨?_, later⟩
      simp only [not_and, Bool.not_eq_true] at plain
      by_cases percent : first = 37
      · by_cases highHex : isHex high = true
        · simp [plain percent highHex]
        · simp [highHex]
      · simp [percent]

theorem decode_of_no_escape (bytes : Bytes) (none : hasEscape bytes = false) : decode bytes = bytes := by
  fun_induction decode bytes with
  | case1 => rfl
  | case2 => rfl
  | case3 => rfl
  | case4 first high low rest escaped ih => simp [hasEscape, escaped] at none
  | case5 first high low rest plain ih =>
      simp only [hasEscape, Bool.or_eq_false_iff] at none
      rw [ih none.2]

def escapeNext : Bytes → Bool
  | high :: low :: _ => isHex high && isHex low
  | _ => false

theorem decode_cons_of_no_escape (byte : UInt8) (rest : Bytes) (plain : ¬ (byte = 37 ∧ escapeNext rest = true)) :
    decode (byte :: rest) = byte :: decode rest := by
  match rest with
  | [] => rfl
  | [_] => rfl
  | high :: low :: rest =>
      simp only [escapeNext, Bool.and_eq_true] at plain
      rw [decode, if_neg plain]

theorem mem_decode (byte : UInt8) (notPercent : byte ≠ 37) (notHex : isHex byte = false) (bytes : Bytes)
    (member : byte ∈ bytes) : byte ∈ decode bytes := by
  fun_induction decode bytes with
  | case1 => exact member
  | case2 => exact member
  | case3 => exact member
  | case4 first high low rest escaped ih =>
      obtain ⟨percent, highHex, lowHex⟩ := escaped
      simp only [List.mem_cons] at member
      rcases member with rfl | rfl | rfl | later
      · exact absurd percent notPercent
      · rw [highHex] at notHex
        cases notHex
      · rw [lowHex] at notHex
        cases notHex
      · exact List.mem_cons_of_mem _ (ih later)
  | case5 first high low rest plain ih =>
      rcases List.mem_cons.mp member with rfl | later
      · exact List.mem_cons_self
      · exact List.mem_cons_of_mem _ (ih later)

theorem every_byte (holds : UInt8 → Bool)
    (checked : ((List.range 256).all fun value => holds (UInt8.ofNat value)) = true) (byte : UInt8) :
    holds byte = true := by
  have inRange : byte.toNat ∈ List.range 256 := List.mem_range.mpr byte.toNat_lt
  have held := List.all_eq_true.mp checked byte.toNat inRange
  rwa [UInt8.ofNat_toNat] at held

theorem escape_digits : ∀ value : Fin 256, isHex (hexDigit (UInt8.ofFin value / 16)) = true ∧
    isHex (hexDigit (UInt8.ofFin value % 16)) = true ∧
    hexValue (hexDigit (UInt8.ofFin value / 16)) * 16 + hexValue (hexDigit (UInt8.ofFin value % 16)) =
      UInt8.ofFin value := by
  decide +kernel

theorem decode_escape (byte : UInt8) (rest : Bytes) : decode (escape byte ++ rest) = byte :: decode rest := by
  obtain ⟨high, low, value⟩ := escape_digits byte.toFin
  rw [UInt8.ofFin_toFin] at high low value
  simp [escape, decode, high, low, value]

theorem decode_encode_self (mustEscape : UInt8 → Bool) (percent : mustEscape 37 = true) (bytes : Bytes) :
    decode (encode mustEscape bytes) = bytes := by
  induction bytes with
  | nil => rfl
  | cons byte bytes ih =>
      rw [encode, List.flatMap_cons]
      by_cases escaped : mustEscape byte = true
      · rw [if_pos escaped, decode_escape]
        exact congrArg (byte :: ·) ih
      · have plain : byte ≠ 37 := by
          intro same
          rw [same] at escaped
          exact escaped percent
        rw [if_neg escaped, List.singleton_append, decode_cons_of_no_escape _ _ fun escapes => plain escapes.1]
        exact congrArg (byte :: ·) ih

-- Writing a byte either as itself or as an escape does not change what is read back, as
-- long as neither percent signs nor hexadecimal digits are escaped.
def Transparent (write : UInt8 → Bytes) (read : UInt8 → UInt8) : Prop :=
  ∀ byte, write byte = [read byte] ∨
    (read byte ≠ 37 ∧ isHex (read byte) = false ∧ write byte = escape (read byte))

theorem percent_not_hex : isHex 37 = false := by decide

theorem escape_next_flatMap (write : UInt8 → Bytes) (read : UInt8 → UInt8) (plain : Transparent write read)
    (bytes : Bytes) : escapeNext (bytes.flatMap write) = escapeNext (bytes.map read) := by
  match bytes with
  | [] => rfl
  | [high] =>
      rcases plain high with same | ⟨_, _, escaped⟩
      · simp [same, escapeNext]
      · simp [escaped, escape, escapeNext, percent_not_hex]
  | high :: low :: rest =>
      rcases plain high with same | ⟨_, notHex, escaped⟩
      · rcases plain low with sameLow | ⟨_, notHexLow, escapedLow⟩
        · simp [same, sameLow, escapeNext]
        · simp [same, escapedLow, escape, escapeNext, percent_not_hex, notHexLow]
      · simp [escaped, escape, escapeNext, percent_not_hex, notHex]

theorem decode_flatMap (write : UInt8 → Bytes) (read : UInt8 → UInt8) (plain : Transparent write read) :
    ∀ bytes : Bytes, decode (bytes.flatMap write) = decode (bytes.map read)
  | [] => rfl
  | byte :: rest => by
      have next := escape_next_flatMap write read plain rest
      rcases plain byte with same | ⟨notPercent, _, escaped⟩
      · by_cases escapes : read byte = 37 ∧ escapeNext (rest.map read) = true
        · match rest with
          | [] => simp [escapeNext] at escapes
          | [_] => simp [escapeNext] at escapes
          | high :: low :: rest =>
              obtain ⟨percent, digits⟩ := escapes
              simp only [List.map_cons, escapeNext, Bool.and_eq_true] at digits
              have sameHigh : write high = [read high] := by
                rcases plain high with same | ⟨_, notHex, _⟩
                · exact same
                · simp [notHex] at digits
              have sameLow : write low = [read low] := by
                rcases plain low with same | ⟨_, notHex, _⟩
                · exact same
                · simp [notHex] at digits
              simp only [List.flatMap_cons, same, sameHigh, sameLow, List.map_cons, List.singleton_append,
                decode, percent, digits, and_self, if_true]
              rw [decode_flatMap write read plain rest]
        · rw [List.flatMap_cons, same, List.singleton_append, List.map_cons,
            decode_cons_of_no_escape _ _ (by rw [next]; exact escapes), decode_cons_of_no_escape _ _ escapes,
            decode_flatMap write read plain rest]
      · rw [List.flatMap_cons, escaped, decode_escape, List.map_cons,
          decode_cons_of_no_escape _ _ (fun escapes => notPercent escapes.1), decode_flatMap write read plain rest]

theorem decode_encode (mustEscape : UInt8 → Bool)
    (plain : ∀ byte, mustEscape byte = true → byte ≠ 37 ∧ isHex byte = false) (bytes : Bytes) :
    decode (encode mustEscape bytes) = decode bytes := by
  have transparent : Transparent (fun byte => if mustEscape byte then escape byte else [byte]) id := by
    intro byte
    cases escaped : mustEscape byte with
    | false => exact Or.inl (by simp [escaped])
    | true => exact Or.inr ⟨(plain byte escaped).1, (plain byte escaped).2, by simp [escaped]⟩
  rw [encode, decode_flatMap _ id transparent, List.map_id]

end Percent
