import Mathlib.Data.UInt

set_option autoImplicit false

-- Base64 with the URL-safe alphabet and no padding.
namespace Base64

def alphabet : List Char :=
  "ABCDEFGHIJKLMNOPQRSTUVWXYZabcdefghijklmnopqrstuvwxyz0123456789-_".toList

def digit (value : Nat) : Char :=
  alphabet.getD value 'A'

def value (char : Char) : Option Nat :=
  if char ∈ alphabet then some (alphabet.idxOf char) else none

def encodeList : List UInt8 → List Char
  | [] => []
  | [a] => [digit (a.toNat / 4), digit (a.toNat % 4 * 16)]
  | [a, b] => [digit (a.toNat / 4), digit (a.toNat % 4 * 16 + b.toNat / 16), digit (b.toNat % 16 * 4)]
  | a :: b :: c :: rest => digit (a.toNat / 4) :: digit (a.toNat % 4 * 16 + b.toNat / 16) ::
      digit (b.toNat % 16 * 4 + c.toNat / 64) :: digit (c.toNat % 64) :: encodeList rest

-- What is left over of the last character must be zero.
def decodeList : List Char → Option (List UInt8)
  | [] => some []
  | [_] => none
  | [w, x] => do
      let w ← value w
      let x ← value x
      if x % 16 = 0 then some [UInt8.ofNat (w * 4 + x / 16)] else none
  | [w, x, y] => do
      let w ← value w
      let x ← value x
      let y ← value y
      if y % 4 = 0 then some [UInt8.ofNat (w * 4 + x / 16), UInt8.ofNat (x % 16 * 16 + y / 4)] else none
  | w :: x :: y :: z :: rest => do
      let w ← value w
      let x ← value x
      let y ← value y
      let z ← value z
      let bytes ← decodeList rest
      some (UInt8.ofNat (w * 4 + x / 16) :: UInt8.ofNat (x % 16 * 16 + y / 4) :: UInt8.ofNat (y % 4 * 64 + z) :: bytes)

def encode (bytes : List UInt8) : String :=
  String.ofList (encodeList bytes)

def decode (text : String) : Option (List UInt8) :=
  decodeList text.toList

theorem alphabet_length : alphabet.length = 64 := by
  decide +kernel

theorem alphabet_nodup : alphabet.Nodup := by
  decide +kernel

theorem digit_at (small : Nat) (within : small < alphabet.length) : digit small = alphabet[small] := by
  rw [digit, List.getD_eq_getElem?_getD, List.getElem?_eq_getElem within, Option.getD_some]

theorem digit_mem (small : Nat) (inside : small < 64) : digit small ∈ alphabet := by
  have within : small < alphabet.length := by rwa [alphabet_length]
  rw [digit_at small within]
  exact List.getElem_mem within

theorem value_digit (small : Nat) (inside : small < 64) : value (digit small) = some small := by
  have within : small < alphabet.length := by rwa [alphabet_length]
  rw [value, if_pos (digit_mem small inside), digit_at small within, alphabet_nodup.idxOf_getElem]

theorem of_parts (byte : UInt8) (whole : Nat) (same : whole = byte.toNat) : UInt8.ofNat whole = byte := by
  rw [same, UInt8.ofNat_toNat]

theorem decode_encode_list (bytes : List UInt8) : decodeList (encodeList bytes) = some bytes := by
  induction bytes using encodeList.induct with
  | case1 => rfl
  | case2 a =>
      have bound := a.toNat_lt
      simp only [encodeList, decodeList, value_digit (a.toNat / 4) (by omega), value_digit (a.toNat % 4 * 16) (by omega),
        Option.bind_eq_bind, Option.bind_some]
      rw [if_pos (by omega), of_parts a _ (by omega)]
  | case3 a b =>
      have bound := a.toNat_lt
      have other := b.toNat_lt
      simp only [encodeList, decodeList, value_digit (a.toNat / 4) (by omega),
        value_digit (a.toNat % 4 * 16 + b.toNat / 16) (by omega), value_digit (b.toNat % 16 * 4) (by omega),
        Option.bind_eq_bind, Option.bind_some]
      rw [if_pos (by omega), of_parts a _ (by omega), of_parts b _ (by omega)]
  | case4 a b c rest ih =>
      have bound := a.toNat_lt
      have other := b.toNat_lt
      have third := c.toNat_lt
      simp only [encodeList, decodeList, value_digit (a.toNat / 4) (by omega),
        value_digit (a.toNat % 4 * 16 + b.toNat / 16) (by omega), value_digit (b.toNat % 16 * 4 + c.toNat / 64) (by omega),
        value_digit (c.toNat % 64) (by omega), ih, Option.bind_eq_bind, Option.bind_some]
      rw [of_parts a _ (by omega), of_parts b _ (by omega), of_parts c _ (by omega)]

theorem decode_encode (bytes : List UInt8) : decode (encode bytes) = some bytes := by
  rw [decode, encode, String.toList_ofList, decode_encode_list]

theorem encode_list_alphabet (bytes : List UInt8) : ∀ char ∈ encodeList bytes, char ∈ alphabet := by
  induction bytes using encodeList.induct with
  | case1 => simp [encodeList]
  | case2 a =>
      have bound := a.toNat_lt
      simp only [encodeList, List.forall_mem_cons]
      exact ⟨digit_mem _ (by omega), digit_mem _ (by omega), by simp⟩
  | case3 a b =>
      have bound := a.toNat_lt
      have other := b.toNat_lt
      simp only [encodeList, List.forall_mem_cons]
      exact ⟨digit_mem _ (by omega), digit_mem _ (by omega), digit_mem _ (by omega), by simp⟩
  | case4 a b c rest ih =>
      have bound := a.toNat_lt
      have other := b.toNat_lt
      have third := c.toNat_lt
      simp only [encodeList, List.forall_mem_cons]
      exact ⟨digit_mem _ (by omega), digit_mem _ (by omega), digit_mem _ (by omega), digit_mem _ (by omega), ih⟩

theorem encode_alphabet (bytes : List UInt8) : ∀ char ∈ (encode bytes).toList, char ∈ alphabet := by
  rw [encode, String.toList_ofList]
  exact encode_list_alphabet bytes

example : encode [77, 97, 110, 255] = "TWFu_w" := by decide +kernel

end Base64
