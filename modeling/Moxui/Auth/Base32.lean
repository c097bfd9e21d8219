import Moxui.Auth.Totp
import Moxui.Lib.Digits

set_option autoImplicit false

namespace Moxui.Auth

namespace Totp

theorem letter_index_lt (value : UInt64) : (value &&& 0x1f).toNat < alphabet.length := by
  have letters : alphabet.length = 32 := by decide
  have masked : (value &&& 0x1f).toNat ≤ 31 := by
    rw [UInt64.toNat_and]
    exact Nat.and_le_right
  omega

def base32Letter (value : UInt64) : UInt8 :=
  alphabet.get ⟨(value &&& 0x1f).toNat, letter_index_lt value⟩

-- The inner loop: the letters of the whole groups of five bits, and how many bits are left over.
def base32Letters (buffer : UInt64) : Nat → List UInt8 × Nat
  | bits + 5 =>
      (base32Letter (buffer >>> UInt64.ofNat bits) :: (base32Letters buffer bits).1, (base32Letters buffer bits).2)
  | bits => ([], bits)

def base32EncodeFrom (buffer : UInt64) (bits : Nat) : List UInt8 → List UInt8
  | [] => if bits > 0 then [base32Letter (buffer <<< UInt64.ofNat (5 - bits))] else []
  | byte :: rest =>
      let shifted := buffer <<< 8 ||| byte.toUInt64
      (base32Letters shifted (bits + 8)).1 ++ base32EncodeFrom shifted (base32Letters shifted (bits + 8)).2 rest

def base32Encode (bytes : List UInt8) : String :=
  String.ofList ((base32EncodeFrom 0 0 bytes).map fun byte => Char.ofNat byte.toNat)

def base32Error (byte : UInt8) : String :=
  "invalid base32 char: " ++ String.singleton (Char.ofNat byte.toNat)

-- `base32_decode` with its error; the callers drop the text of it.
def base32DecodeResultFrom (buffer : UInt64) (bits : Nat) : List UInt8 → Except String (List UInt8)
  | [] => .ok []
  | byte :: rest =>
      match base32Index byte with
      | none => .error (base32Error byte)
      | some index =>
          let shifted := buffer <<< 5 ||| UInt64.ofNat index
          if bits + 5 ≥ 8 then
            (base32DecodeResultFrom shifted (bits - 3) rest).map fun out =>
              (shifted >>> UInt64.ofNat (bits - 3)).toUInt8 :: out
          else base32DecodeResultFrom shifted (bits + 5) rest

def base32DecodeResult (text : String) : Except String (List UInt8) :=
  base32DecodeResultFrom 0 0 (Text.bytes text)

end Totp

open Totp

def pending (bits : Nat) (buffer : UInt64) : List Nat :=
  Digits.digitsOf 2 bits buffer.toNat

def byteBits (byte : UInt8) : List Nat :=
  Digits.digitsOf 2 8 byte.toNat

def letterBits (letter : UInt8) : List Nat :=
  Digits.digitsOf 2 5 ((base32Index letter).getD 0)

theorem byte_bits_injective (byte other : UInt8) (same : byteBits byte = byteBits other) : byte = other :=
  UInt8.toNat_inj.mp (Digits.digits_of_injective 2 8 _ _ byte.toNat_lt other.toNat_lt same)

-- The buffer is never masked: what is shifted out at its top is no longer pending.
theorem pending_shift_in (bits more : Nat) (buffer low : UInt64) (room : bits + more ≤ 64) (small : low.toNat < 2 ^ more)
    (within : more < 64) :
    pending (bits + more) (buffer <<< UInt64.ofNat more ||| low) =
      pending bits buffer ++ Digits.digitsOf 2 more low.toNat := by
  have shift : (UInt64.ofNat more).toNat % 64 = more := by
    rw [UInt64.toNat_ofNat', Nat.mod_eq_of_lt (show more < 2 ^ 64 by omega), Nat.mod_eq_of_lt within]
  have size : 2 ^ 64 = 2 ^ (64 - more) * 2 ^ more := by
    rw [← Nat.pow_add]
    congr 1
    omega
  have joined : (buffer <<< UInt64.ofNat more ||| low).toNat = buffer.toNat % 2 ^ (64 - more) * 2 ^ more + low.toNat := by
    rw [UInt64.toNat_or, UInt64.toNat_shiftLeft, shift, Nat.shiftLeft_eq, size, Nat.mul_mod_mul_right,
      ← Nat.shiftLeft_eq, ← Nat.shiftLeft_add_eq_or_of_lt small]
  rw [pending, joined, Digits.digits_of_join 2 bits more _ _ small, Digits.digits_of_mod_le 2 bits (64 - more) _ (by omega),
    pending]

theorem pending_shift_out (bits more : Nat) (buffer : UInt64) :
    pending (bits + more) buffer = Digits.digitsOf 2 bits (buffer.toNat / 2 ^ more) ++ pending more buffer :=
  Digits.digits_of_append 2 bits more buffer.toNat

theorem shift_right_value (buffer : UInt64) (bits : Nat) (within : bits < 64) :
    (buffer >>> UInt64.ofNat bits).toNat = buffer.toNat / 2 ^ bits := by
  rw [UInt64.toNat_shiftRight, UInt64.toNat_ofNat', Nat.mod_eq_of_lt (show bits < 2 ^ 64 by omega),
    Nat.mod_eq_of_lt within, Nat.shiftRight_eq_div_pow]

theorem alphabet_bytes : alphabet = (List.range' 65 26 ++ List.range' 50 6).map UInt8.ofNat := by
  decide +kernel

theorem alphabet_nodup : alphabet.Nodup := by
  rw [alphabet_bytes]
  decide +kernel

theorem mem_alphabet_iff (letter : UInt8) :
    letter ∈ alphabet ↔ 65 ≤ letter.toNat ∧ letter.toNat ≤ 90 ∨ 50 ≤ letter.toNat ∧ letter.toNat ≤ 55 := by
  rw [alphabet_bytes, List.mem_map]
  simp only [List.mem_append, List.mem_range'_1]
  constructor
  · rintro ⟨value, range, rfl⟩
    rw [UInt8.toNat_ofNat', Nat.mod_eq_of_lt (by omega)]
    omega
  · intro range
    exact ⟨letter.toNat, by omega, UInt8.ofNat_toNat⟩

theorem uppercase_value (byte : UInt8) :
    (toAsciiUppercase byte).toNat = if 97 ≤ byte.toNat ∧ byte.toNat ≤ 122 then byte.toNat - 32 else byte.toNat := by
  by_cases lower : 97 ≤ byte ∧ byte ≤ 122
  · have bounds := lower
    simp only [UInt8.le_iff_toNat_le, UInt8.reduceToNat] at bounds
    rw [toAsciiUppercase, isAsciiLowercase, if_pos (decide_eq_true lower), if_pos bounds, UInt8.toNat_sub_of_le]
    · rfl
    · rw [UInt8.le_iff_toNat_le]
      exact Nat.le_trans (by decide) bounds.1
  · have bounds := lower
    simp only [UInt8.le_iff_toNat_le, UInt8.reduceToNat] at bounds
    rw [toAsciiUppercase, isAsciiLowercase, if_neg (by simpa using lower), if_neg bounds]

theorem alphabet_uppercase (letter : UInt8) (member : letter ∈ alphabet) : toAsciiUppercase letter = letter := by
  have range := (mem_alphabet_iff letter).mp member
  rw [← UInt8.toNat_inj, uppercase_value, if_neg (by omega)]

theorem base32_index_letter (index : Fin alphabet.length) : base32Index (alphabet.get index) = some index.val := by
  rw [base32Index, alphabet_uppercase _ (List.get_mem alphabet index), List.findIdx?_eq_some_iff_getElem]
  refine ⟨index.isLt, beq_self_eq_true _, ?_⟩
  intro earlier before same
  have equal : alphabet.get ⟨earlier, Nat.lt_trans before index.isLt⟩ = alphabet.get index := eq_of_beq same
  exact absurd (congrArg Fin.val (alphabet_nodup.get_inj_iff.mp equal)) (Nat.ne_of_lt before)

theorem letter_bits (value : UInt64) : letterBits (base32Letter value) = Digits.digitsOf 2 5 value.toNat := by
  have masked : (value &&& 0x1f).toNat = value.toNat % 2 ^ 5 := by
    rw [UInt64.toNat_and]
    exact Nat.and_two_pow_sub_one_eq_mod value.toNat 5
  have known : letterBits (base32Letter value) = Digits.digitsOf 2 5 (value &&& 0x1f).toNat := by
    rw [letterBits, base32Letter, base32_index_letter]
    rfl
  rw [known, masked, Digits.digits_of_mod]

theorem letters_bits (buffer : UInt64) (bits : Nat) (within : bits < 64) :
    (base32Letters buffer bits).2 < 5 ∧
      (base32Letters buffer bits).1.flatMap letterBits ++ pending (base32Letters buffer bits).2 buffer =
        pending bits buffer := by
  fun_induction base32Letters buffer bits with
  | case1 bits ih =>
      obtain ⟨few, spelled⟩ := ih (by omega)
      refine ⟨few, ?_⟩
      have whole := pending_shift_out 5 bits buffer
      rw [Nat.add_comm] at whole
      rw [List.flatMap_cons, letter_bits, shift_right_value buffer bits (by omega), List.append_assoc, spelled]
      exact whole.symm
  | case2 bits few =>
      refine ⟨?_, rfl⟩
      rcases Nat.lt_or_ge bits 5 with small | large
      · exact small
      · exact absurd (Nat.sub_add_cancel large).symm (few (bits - 5))

theorem encode_bits (buffer : UInt64) (bits : Nat) (few : bits < 5) (bytes : List UInt8) :
    ∃ pad, pad < 5 ∧ (base32EncodeFrom buffer bits bytes).flatMap letterBits =
      pending bits buffer ++ bytes.flatMap byteBits ++ List.replicate pad 0 := by
  induction bytes generalizing buffer bits with
  | nil =>
      rw [base32EncodeFrom]
      by_cases some : bits > 0
      · refine ⟨5 - bits, by omega, ?_⟩
        have filled := pending_shift_in bits (5 - bits) buffer 0 (by omega) (Nat.two_pow_pos _) (by omega)
        rw [show bits + (5 - bits) = 5 by omega, UInt64.or_zero] at filled
        rw [if_pos some, List.flatMap_singleton, letter_bits]
        apply filled.trans
        simp [Digits.digits_of_zero]
      · refine ⟨0, by omega, ?_⟩
        rw [if_neg some, show bits = 0 by omega]
        rfl
  | cons byte rest ih =>
      have shifted := pending_shift_in bits 8 buffer byte.toUInt64 (by omega) byte.toNat_lt (by omega)
      obtain ⟨left, spelled⟩ := letters_bits (buffer <<< 8 ||| byte.toUInt64) (bits + 8) (by omega)
      obtain ⟨pad, small, written⟩ := ih (buffer <<< 8 ||| byte.toUInt64) _ left
      refine ⟨pad, small, ?_⟩
      have taken : pending (bits + 8) (buffer <<< 8 ||| byte.toUInt64) = pending bits buffer ++ byteBits byte := shifted
      rw [base32EncodeFrom, List.flatMap_append, written, ← List.append_assoc, ← List.append_assoc, spelled, taken,
        List.flatMap_cons]
      simp only [List.append_assoc]

theorem top_byte_bits (buffer : UInt64) (bits : Nat) (within : bits < 64) :
    byteBits (buffer >>> UInt64.ofNat bits).toUInt8 = Digits.digitsOf 2 8 (buffer.toNat / 2 ^ bits) := by
  rw [byteBits, UInt64.toNat_toUInt8, shift_right_value buffer bits within, Digits.digits_of_mod 2 8]

def Base32Byte (byte : UInt8) : Prop :=
  65 ≤ byte ∧ byte ≤ 90 ∨ 97 ≤ byte ∧ byte ≤ 122 ∨ 50 ≤ byte ∧ byte ≤ 55

instance (byte : UInt8) : Decidable (Base32Byte byte) :=
  inferInstanceAs (Decidable (65 ≤ byte ∧ byte ≤ 90 ∨ 97 ≤ byte ∧ byte ≤ 122 ∨ 50 ≤ byte ∧ byte ≤ 55))

theorem base32_byte_iff (byte : UInt8) : Base32Byte byte ↔ toAsciiUppercase byte ∈ alphabet := by
  rw [mem_alphabet_iff, uppercase_value]
  simp only [Base32Byte, UInt8.le_iff_toNat_le, UInt8.reduceToNat]
  by_cases lower : 97 ≤ byte.toNat ∧ byte.toNat ≤ 122
  · rw [if_pos lower]
    omega
  · rw [if_neg lower]
    omega

theorem base32_index_iff (byte : UInt8) : (base32Index byte).isSome = true ↔ Base32Byte byte := by
  rw [base32_byte_iff, base32Index, List.findIdx?_isSome, List.any_eq_true]
  simp

theorem base32_index_lt (byte : UInt8) (index : Nat) (found : base32Index byte = some index) : index < 2 ^ 5 := by
  obtain ⟨within, _⟩ := List.findIdx?_eq_some_iff_getElem.mp found
  exact within

theorem decode_bits (buffer : UInt64) (bits : Nat) (few : bits < 8) (letters : List UInt8)
    (valid : ∀ letter ∈ letters, (base32Index letter).isSome = true) :
    ∃ out left, base32DecodeResultFrom buffer bits letters = .ok out ∧ left.length < 8 ∧
      out.flatMap byteBits ++ left = pending bits buffer ++ letters.flatMap letterBits := by
  induction letters generalizing buffer bits with
  | nil => exact ⟨[], pending bits buffer, rfl, by simp [pending, few], by simp⟩
  | cons letter rest ih =>
      obtain ⟨index, found⟩ := Option.isSome_iff_exists.mp (valid letter List.mem_cons_self)
      have later : ∀ letter ∈ rest, (base32Index letter).isSome = true :=
        fun letter member => valid letter (List.mem_cons_of_mem _ member)
      have small := base32_index_lt letter index found
      have value : (UInt64.ofNat index).toNat = index := by
        rw [UInt64.toNat_ofNat', Nat.mod_eq_of_lt (by omega)]
      have shifted := pending_shift_in bits 5 buffer (UInt64.ofNat index) (by omega) (by rwa [value]) (by omega)
      have taken : pending (bits + 5) (buffer <<< 5 ||| UInt64.ofNat index) = pending bits buffer ++ letterBits letter := by
        rw [value] at shifted
        rw [letterBits, found, Option.getD_some]
        exact shifted
      rw [base32DecodeResultFrom, found]
      by_cases whole : bits + 5 ≥ 8
      · obtain ⟨out, left, read, short, spelled⟩ := ih (buffer <<< 5 ||| UInt64.ofNat index) (bits - 3) (by omega) later
        refine ⟨((buffer <<< 5 ||| UInt64.ofNat index) >>> UInt64.ofNat (bits - 3)).toUInt8 :: out, left, ?_, short, ?_⟩
        · simp only [whole, if_true, read]
          rfl
        · have emitted := pending_shift_out 8 (bits - 3) (buffer <<< 5 ||| UInt64.ofNat index)
          rw [show 8 + (bits - 3) = bits + 5 by omega, taken] at emitted
          rw [List.flatMap_cons, List.append_assoc, spelled, top_byte_bits _ _ (by omega), ← List.append_assoc, ← emitted,
            List.append_assoc, List.flatMap_cons]
      · obtain ⟨out, left, read, short, spelled⟩ := ih (buffer <<< 5 ||| UInt64.ofNat index) (bits + 5) (by omega) later
        refine ⟨out, left, ?_, short, ?_⟩
        · simp only [whole, if_false]
          exact read
        · rw [spelled, taken, List.append_assoc, List.flatMap_cons]

theorem letters_alphabet (buffer : UInt64) (bits : Nat) : ∀ letter ∈ (base32Letters buffer bits).1, letter ∈ alphabet := by
  fun_induction base32Letters buffer bits with
  | case1 bits ih =>
      intro letter member
      rcases List.mem_cons.mp member with rfl | later
      · exact List.get_mem _ _
      · exact ih letter later
  | case2 bits few => simp

theorem encode_alphabet (buffer : UInt64) (bits : Nat) (bytes : List UInt8) :
    ∀ letter ∈ base32EncodeFrom buffer bits bytes, letter ∈ alphabet := by
  induction bytes generalizing buffer bits with
  | nil =>
      rw [base32EncodeFrom]
      by_cases some : bits > 0
      · rw [if_pos some, List.forall_mem_singleton]
        exact List.get_mem _ _
      · simp [some]
  | cons byte rest ih =>
      intro letter member
      rcases List.mem_append.mp member with now | later
      · exact letters_alphabet _ _ letter now
      · exact ih _ _ letter later

theorem alphabet_letter (letter : UInt8) (member : letter ∈ alphabet) : letter < 128 ∧ Base32Byte letter := by
  have range := (mem_alphabet_iff letter).mp member
  refine ⟨UInt8.lt_iff_toNat_lt.mpr ?_, (base32_byte_iff letter).mpr ?_⟩
  · exact Nat.lt_of_le_of_lt (show letter.toNat ≤ 90 by omega) (by decide)
  · rwa [alphabet_uppercase letter member]

theorem encode_bytes (bytes : List UInt8) : Text.bytes (base32Encode bytes) = base32EncodeFrom 0 0 bytes :=
  Text.ascii_bytes _ fun letter member => (alphabet_letter letter (encode_alphabet 0 0 bytes letter member)).1

theorem base32_round_trip (bytes : List UInt8) : base32DecodeResult (base32Encode bytes) = .ok bytes := by
  obtain ⟨pad, small, written⟩ := encode_bits 0 0 (by decide) bytes
  obtain ⟨out, left, read, short, spelled⟩ := decode_bits 0 0 (by decide) (base32EncodeFrom 0 0 bytes) (by
    intro letter member
    exact (base32_index_iff letter).mpr (alphabet_letter letter (encode_alphabet 0 0 bytes letter member)).2)
  rw [written] at spelled
  have lengths := congrArg List.length spelled
  have wide : ∀ byte, (byteBits byte).length = 8 := fun byte => Digits.length_digits_of 2 8 byte.toNat
  simp only [pending, Digits.digitsOf, List.nil_append, List.length_append, List.length_replicate,
    Digits.length_flat_map 8 byteBits wide] at lengths spelled
  have same : out.flatMap byteBits = bytes.flatMap byteBits := by
    apply List.append_inj_left spelled
    rw [Digits.length_flat_map 8 byteBits wide, Digits.length_flat_map 8 byteBits wide]
    omega
  rw [base32DecodeResult, encode_bytes, read]
  exact congrArg Except.ok (Digits.flat_map_injective 8 (by decide) byteBits wide byte_bits_injective out bytes same)

theorem base32_length (bytes : List UInt8) : (base32Encode bytes).length = (8 * bytes.length + 4) / 5 := by
  obtain ⟨pad, small, written⟩ := encode_bits 0 0 (by decide) bytes
  have lengths := congrArg List.length written
  simp only [pending, Digits.digitsOf, List.nil_append, List.length_append, List.length_replicate,
    Digits.length_flat_map 8 byteBits (fun byte => Digits.length_digits_of 2 8 byte.toNat),
    Digits.length_flat_map 5 letterBits (fun letter => Digits.length_digits_of 2 5 _)] at lengths
  rw [base32Encode, String.length_ofList, List.length_map]
  omega

theorem base32_refused (buffer : UInt64) (bits : Nat) (letters : List UInt8) :
    (∃ message, base32DecodeResultFrom buffer bits letters = .error message) ↔
      ∃ letter ∈ letters, base32Index letter = none := by
  induction letters generalizing buffer bits with
  | nil => simp [base32DecodeResultFrom]
  | cons letter rest ih =>
      rw [base32DecodeResultFrom]
      cases found : base32Index letter with
      | none => simp [found]
      | some index =>
          by_cases whole : bits + 5 ≥ 8
          · simp only [whole, if_true, List.exists_mem_cons_iff, found, reduceCtorEq, false_or,
              ← ih (buffer <<< 5 ||| UInt64.ofNat index) (bits - 3)]
            cases base32DecodeResultFrom (buffer <<< 5 ||| UInt64.ofNat index) (bits - 3) rest <;> simp [Except.map]
          · simp only [whole, if_false, List.exists_mem_cons_iff, found, reduceCtorEq, false_or, ih]

theorem uppercase_idempotent (byte : UInt8) : toAsciiUppercase (toAsciiUppercase byte) = toAsciiUppercase byte := by
  rw [← UInt8.toNat_inj, uppercase_value, uppercase_value]
  by_cases lower : 97 ≤ byte.toNat ∧ byte.toNat ≤ 122
  · rw [if_pos lower, if_neg (by omega)]
  · rw [if_neg lower, if_neg lower]

theorem uppercase_refused (byte : UInt8) (refused : base32Index byte = none) : toAsciiUppercase byte = byte := by
  have outside : ¬ Base32Byte byte := by
    rw [← base32_index_iff, refused]
    simp
  simp only [Base32Byte, UInt8.le_iff_toNat_le, UInt8.reduceToNat] at outside
  rw [← UInt8.toNat_inj, uppercase_value, if_neg]
  exact fun lower => outside (Or.inr (Or.inl lower))

theorem base32_caseless (buffer : UInt64) (bits : Nat) (letters : List UInt8) :
    base32DecodeResultFrom buffer bits (letters.map toAsciiUppercase) = base32DecodeResultFrom buffer bits letters := by
  induction letters generalizing buffer bits with
  | nil => rfl
  | cons letter rest ih =>
      have same : base32Index (toAsciiUppercase letter) = base32Index letter := by
        rw [base32Index, uppercase_idempotent, base32Index]
      rw [List.map_cons, base32DecodeResultFrom, base32DecodeResultFrom, same]
      cases found : base32Index letter with
      | none => rw [uppercase_refused letter found]
      | some index => simp only [ih]

theorem base32_letters (bytes : List UInt8) :
    ∀ char ∈ (base32Encode bytes).toList, 'A' ≤ char ∧ char ≤ 'Z' ∨ '2' ≤ char ∧ char ≤ '7' := by
  intro char member
  rw [base32Encode, String.toList_ofList] at member
  obtain ⟨letter, written, rfl⟩ := List.mem_map.mp member
  have range := (mem_alphabet_iff letter).mp (encode_alphabet 0 0 bytes letter written)
  simp only [Char.le_def, UInt32.le_iff_toNat_le, Text.char_of_byte]
  exact range

structure Base32Faithful (bytes : List UInt8) (text : String) : Prop where
  roundTrip : base32DecodeResult (base32Encode bytes) = .ok bytes
  length : (base32Encode bytes).length = (8 * bytes.length + 4) / 5
  letters : ∀ char ∈ (base32Encode bytes).toList, 'A' ≤ char ∧ char ≤ 'Z' ∨ '2' ≤ char ∧ char ≤ '7'
  refused : (∃ message, base32DecodeResult text = .error message) ↔ ∃ byte ∈ Text.bytes text, ¬ Base32Byte byte
  caseless : ∀ other, (Text.bytes other).map toAsciiUppercase = (Text.bytes text).map toAsciiUppercase →
    base32DecodeResult other = base32DecodeResult text

theorem base32_faithful (bytes : List UInt8) (text : String) : Base32Faithful bytes text where
  roundTrip := base32_round_trip bytes
  length := base32_length bytes
  letters := base32_letters bytes
  refused := by
    rw [base32DecodeResult, base32_refused]
    simp only [← base32_index_iff, Option.not_isSome_iff_eq_none]
  caseless other same := by
    rw [base32DecodeResult, ← base32_caseless, same, base32_caseless, base32DecodeResult]

example : base32Encode (Text.bytes "foobar") = "MZXW6YTBOI" ∧
    base32DecodeResult "mzxw6ytbo1" = .error "invalid base32 char: 1" := by
  decide +kernel

end Moxui.Auth
