import Mathlib.Data.List.DropRight

set_option autoImplicit false

namespace Text

-- `skip` counts what is left of a match that was already replaced.
def replaceFrom (pattern replacement : List Char) : Nat → List Char → List Char
  | _, [] => []
  | skip + 1, _ :: rest => replaceFrom pattern replacement skip rest
  | 0, char :: rest =>
      if pattern.isPrefixOf (char :: rest) then
        replacement ++ replaceFrom pattern replacement (pattern.length - 1) rest
      else char :: replaceFrom pattern replacement 0 rest

-- `str::replace` for a pattern that is not empty.
def replaceAll (pattern replacement text : String) : String :=
  String.ofList (replaceFrom pattern.toList replacement.toList 0 text.toList)

def startsWith (text start : String) : Bool :=
  start.toList.isPrefixOf text.toList

-- `str::trim_start_matches` and `str::trim_end_matches` for one character.
def trimStartMatches (char : Char) (text : String) : String :=
  String.ofList (text.toList.dropWhile (· == char))

def trimEndMatches (char : Char) (text : String) : String :=
  String.ofList (text.toList.rdropWhile (· == char))

-- `fuel` is the length of what is left: each round takes something off.
def trimPrefixFrom (pattern : List Char) : Nat → List Char → List Char
  | 0, rest => rest
  | fuel + 1, rest =>
      if pattern.isPrefixOf rest then trimPrefixFrom pattern fuel (rest.drop pattern.length) else rest

-- `str::trim_start_matches` for a pattern of several characters.
def trimStartPattern (pattern text : String) : String :=
  String.ofList (trimPrefixFrom pattern.toList text.toList.length text.toList)

-- `str::split_once`.
def splitOnce (char : Char) (text : String) : Option (String × String) :=
  match text.toList.dropWhile (· ≠ char) with
  | [] => none
  | _ :: rest => some (String.ofList (text.toList.takeWhile (· ≠ char)), String.ofList rest)

def asciiLower (text : String) : String :=
  String.ofList (text.toList.map Char.toLower)

-- `str::bytes`: the UTF-8 bytes in order.
def bytes (text : String) : List UInt8 :=
  text.toList.flatMap String.utf8EncodeChar

def hexDigits : List Char :=
  "0123456789ABCDEF".toList

def hexDigit (value : Nat) : Char :=
  hexDigits.getD value '0'

-- The two upper-case hexadecimal digits of a byte, as `{:02X}` prints them.
def hexByte (byte : UInt8) : List Char :=
  [hexDigit (byte.toNat / 16), hexDigit (byte.toNat % 16)]

@[simp] theorem bytes_append (first second : String) : bytes (first ++ second) = bytes first ++ bytes second := by
  simp [bytes, String.toList_append]

theorem to_byte_array (text : String) : text.toByteArray = (bytes text).toByteArray := by
  rw [← String.utf8Encode_toList, List.utf8Encode, bytes]

theorem bytes_injective (first second : String) (same : bytes first = bytes second) : first = second := by
  apply String.toByteArray_inj.mp
  rw [to_byte_array, to_byte_array, same]

theorem decimal_injective (first second : Nat) (same : toString first = toString second) : first = second := by
  have digits := congrArg String.toList same
  simp only [Nat.toString_eq_repr, Nat.toList_repr] at digits
  have values := congrArg (fun chars => Nat.ofDigitChars 10 chars 0) digits
  simpa using values

theorem utf8_size_ascii (char : Char) (small : char.val.toNat < 128) : char.utf8Size = 1 := by
  have ascii : char.val ≤ 127 := UInt32.le_iff_toNat_le.mpr (by rw [show (127 : UInt32).toNat = 127 from rfl]; omega)
  unfold Char.utf8Size
  exact if_pos ascii

theorem decimal_bytes (value : Nat) : ∀ byte ∈ bytes (toString value), 48 ≤ byte ∧ byte ≤ 57 := by
  intro byte member
  obtain ⟨char, digit, inside⟩ := List.mem_flatMap.mp member
  rw [Nat.toString_eq_repr, Nat.toList_repr] at digit
  have isDigit := Nat.isDigit_of_mem_toDigits (by omega) (by omega) digit
  simp only [Char.isDigit, Bool.and_eq_true, decide_eq_true_eq] at isDigit
  obtain ⟨low, high⟩ := isDigit
  have lowNat : 48 ≤ char.val.toNat := UInt32.le_iff_toNat_le.mp low
  have highNat : char.val.toNat ≤ 57 := UInt32.le_iff_toNat_le.mp high
  have size := utf8_size_ascii char (by omega)
  rw [String.utf8EncodeChar_eq_singleton size, List.mem_singleton] at inside
  subst inside
  have value : char.val.toUInt8.toNat = char.val.toNat := by
    rw [UInt32.toNat_toUInt8]
    omega
  rw [UInt8.le_iff_toNat_le, UInt8.le_iff_toNat_le, value]
  exact ⟨lowNat, highNat⟩

theorem char_of_byte (byte : UInt8) : (Char.ofNat byte.toNat).val.toNat = byte.toNat := by
  have small := byte.toNat_lt
  unfold Char.ofNat
  rw [dif_pos (Or.inl (by omega))]
  rfl

theorem encode_ascii (byte : UInt8) (small : byte < 128) : String.utf8EncodeChar (Char.ofNat byte.toNat) = [byte] := by
  have value := char_of_byte byte
  have below : byte.toNat < 128 := UInt8.lt_iff_toNat_lt.mp small
  have size := utf8_size_ascii (Char.ofNat byte.toNat) (by omega)
  rw [String.utf8EncodeChar_eq_singleton size, List.singleton_inj, ← UInt8.toNat_inj, UInt32.toNat_toUInt8, value]
  omega

theorem ascii_bytes (ascii : List UInt8) (small : ∀ byte ∈ ascii, byte < 128) :
    bytes (String.ofList (ascii.map fun byte => Char.ofNat byte.toNat)) = ascii := by
  rw [bytes, String.toList_ofList]
  induction ascii with
  | nil => rfl
  | cons byte ascii ih =>
      rw [List.map_cons, List.flatMap_cons, ih fun other member => small other (List.mem_cons_of_mem byte member),
        encode_ascii byte (small byte List.mem_cons_self)]
      rfl

theorem split_once_joined (char : Char) (first second : String) (absent : char ∉ first.toList) :
    splitOnce char (first ++ String.ofList [char] ++ second) = some (first, second) := by
  have accepted : ∀ other ∈ first.toList, decide (other ≠ char) = true := by
    intro other member
    exact decide_eq_true fun same => absent (same ▸ member)
  have whole : (first ++ String.ofList [char] ++ second).toList = first.toList ++ char :: second.toList := by
    simp [String.toList_append]
  unfold splitOnce
  rw [whole, List.dropWhile_append_of_pos accepted, List.takeWhile_append_of_pos accepted]
  simp

theorem split_once_some (char : Char) (text first second : String) (split : splitOnce char text = some (first, second)) :
    text.toList = first.toList ++ char :: second.toList := by
  have whole := List.takeWhile_append_dropWhile (p := fun other => decide (other ≠ char)) (l := text.toList)
  unfold splitOnce at split
  cases rest : text.toList.dropWhile (· ≠ char) with
  | nil =>
      rw [rest] at split
      cases split
  | cons found later =>
      have stopped : found = char := by
        have refused := List.head?_dropWhile_not (fun other => decide (other ≠ char)) text.toList
        rw [rest] at refused
        simpa using refused
      rw [rest, Option.some.injEq, Prod.mk.injEq] at split
      rw [← whole, rest, ← split.1, ← split.2, stopped, String.toList_ofList, String.toList_ofList]

section Separator

variable {α : Type} (separator : α)

-- A mark whose head comes only once in it cannot overlap itself.
theorem shifted_mark (tail : List α) (alone : separator ∉ tail) (first second rest other : List α) :
    first ++ separator :: tail ++ rest = second ++ separator :: tail ++ other ↔
      (first = second ∧ rest = other) ∨
      (∃ moved, second = first ++ separator :: tail ++ moved ∧ rest = moved ++ separator :: tail ++ other) ∨
      ∃ moved, first = second ++ separator :: tail ++ moved ∧ other = moved ++ separator :: tail ++ rest := by
  have leftOver (gap rest other : List α) (same : separator :: (tail ++ rest) = gap ++ separator :: (tail ++ other)) :
      (gap = [] ∧ rest = other) ∨
        ∃ moved, gap = separator :: tail ++ moved ∧ rest = moved ++ separator :: tail ++ other := by
    cases gap with
    | nil => exact Or.inl ⟨rfl, List.append_cancel_left (List.cons.inj same).2⟩
    | cons head gap =>
        obtain ⟨isSeparator, after⟩ := List.cons.inj same
        subst isSeparator
        rcases List.append_eq_append_iff.mp after with ⟨moved, gapEq, restEq⟩ | ⟨moved, tailEq, otherEq⟩
        · exact Or.inr ⟨moved, by rw [gapEq, List.cons_append], by rw [restEq, List.append_assoc, List.cons_append]⟩
        · cases moved with
          | nil =>
              rw [List.append_nil] at tailEq
              refine Or.inr ⟨[], by rw [tailEq, List.append_nil], ?_⟩
              rw [List.nil_append] at otherEq
              rw [← otherEq, List.nil_append, List.cons_append]
          | cons start moved =>
              obtain ⟨isStart, _⟩ := List.cons.inj otherEq
              apply absurd _ alone
              rw [tailEq, isStart]
              exact List.mem_append_right gap List.mem_cons_self
  refine ⟨?_, ?_⟩
  · intro same
    simp only [List.append_assoc, List.cons_append] at same
    rcases List.append_eq_append_iff.mp same with ⟨gap, secondEq, restEq⟩ | ⟨gap, firstEq, otherEq⟩
    · rcases leftOver gap rest other restEq with ⟨empty, sameRest⟩ | ⟨moved, gapEq, movedEq⟩
      · exact Or.inl ⟨by rw [secondEq, empty, List.append_nil], sameRest⟩
      · exact Or.inr (Or.inl ⟨moved, by rw [secondEq, gapEq, List.append_assoc], movedEq⟩)
    · rcases leftOver gap other rest otherEq with ⟨empty, sameRest⟩ | ⟨moved, gapEq, movedEq⟩
      · exact Or.inl ⟨by rw [firstEq, empty, List.append_nil], sameRest.symm⟩
      · exact Or.inr (Or.inr ⟨moved, by rw [firstEq, gapEq, List.append_assoc], movedEq⟩)
  · rintro (⟨rfl, rfl⟩ | ⟨moved, rfl, rfl⟩ | ⟨moved, rfl, rfl⟩)
    · rfl
    · simp
    · simp

theorem shifted_separator (first second rest other : List α) :
    first ++ separator :: rest = second ++ separator :: other ↔
      (first = second ∧ rest = other) ∨
      (∃ moved, second = first ++ separator :: moved ∧ rest = moved ++ separator :: other) ∨
      ∃ moved, first = second ++ separator :: moved ∧ other = moved ++ separator :: rest := by
  have marked := shifted_mark separator [] List.not_mem_nil first second rest other
  simpa only [List.append_assoc, List.cons_append, List.nil_append] using marked

theorem last_separator (first second rest other : List α) (absent : separator ∉ rest) (missing : separator ∉ other) :
    first ++ separator :: rest = second ++ separator :: other ↔ first = second ∧ rest = other := by
  rw [shifted_separator]
  refine ⟨?_, Or.inl⟩
  rintro (same | ⟨moved, _, restEq⟩ | ⟨moved, _, otherEq⟩)
  · exact same
  · exact absurd (by rw [restEq]; simp) absent
  · exact absurd (by rw [otherEq]; simp) missing

end Separator

end Text
