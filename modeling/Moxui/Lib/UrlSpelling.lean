import Moxui.Lib.UrlQuery

set_option autoImplicit false

namespace Url

open Percent

def unslash (byte : UInt8) : UInt8 :=
  if byte = 92 then 47 else byte

def spelling (text : Bytes) : Bytes :=
  encode inPathSet (text.map unslash)

-- A text, maybe of several segments, that a parser neither cuts nor resolves.
structure Steady (text : Bytes) : Prop where
  bytes : ∀ byte ∈ text, endsPath byte = false ∧ tabOrNewline byte = false
  dots : ∀ segment ∈ text.splitOnP slash, singleDot segment = false ∧ doubleDot segment = false

instance (text : Bytes) : Decidable (Steady text) :=
  decidable_of_iff
    ((text.all fun byte => !endsPath byte && !tabOrNewline byte) = true ∧
      ((text.splitOnP slash).all fun segment => !singleDot segment && !doubleDot segment) = true)
    ⟨fun steady => ⟨by simpa using steady.1, by simpa using steady.2⟩,
      fun steady => ⟨by simpa using steady.bytes, by simpa using steady.dots⟩⟩

theorem plain_steady (segment : Bytes) (plain : PlainSegment segment) : Steady segment := by
  refine ⟨fun byte member => (plain.bytes byte member).2, ?_⟩
  rw [List.splitOnP_eq_singleton fun byte member => (plain.bytes byte member).1]
  intro other member
  rw [List.mem_singleton.mp member]
  exact ⟨plain.single, plain.double⟩

@[simp] theorem spelling_nil : spelling [] = [] := rfl

@[simp] theorem spelling_append (first second : Bytes) : spelling (first ++ second) = spelling first ++ spelling second := by
  simp [spelling, encode]

theorem spelling_cons_slash (text : Bytes) : spelling (47 :: text) = 47 :: spelling text :=
  spelling_append [47] text

theorem spelling_of_plain (text : Bytes) (plain : ∀ byte ∈ text, byte ≠ 92 ∧ inPathSet byte = false) :
    spelling text = text := by
  induction text with
  | nil => rfl
  | cons byte rest ih =>
      obtain ⟨noBackslash, kept⟩ := plain byte List.mem_cons_self
      have first : spelling [byte] = [byte] := by simp [spelling, unslash, encode, noBackslash, kept]
      rw [← List.singleton_append, spelling_append, first, ih fun other member => plain other (List.mem_cons_of_mem _ member)]

theorem spelling_digits (digits : Bytes) (all : ∀ byte ∈ digits, 48 ≤ byte ∧ byte ≤ 57) : spelling digits = digits := by
  apply spelling_of_plain
  intro byte member
  have each : ∀ value : Fin 256, 48 ≤ UInt8.ofFin value ∧ UInt8.ofFin value ≤ 57 →
      UInt8.ofFin value ≠ 92 ∧ inPathSet (UInt8.ofFin value) = false := by decide +kernel
  exact each byte.toFin (all byte member)

theorem spelling_byte (byte : UInt8) (plain : slash byte = false) :
    spelling [byte] = encode inPathSet [byte] ∧ ∀ other ∈ spelling [byte], (other == 47) = false := by
  have each : ∀ value : Fin 256, slash (UInt8.ofFin value) = false →
      spelling [UInt8.ofFin value] = encode inPathSet [UInt8.ofFin value] ∧
        ((spelling [UInt8.ofFin value]).all fun other => !(other == 47)) = true := by decide +kernel
  obtain ⟨written, apart⟩ := each byte.toFin plain
  refine ⟨written, fun other member => ?_⟩
  exact (Bool.not_eq_true' _).mp (List.all_eq_true.mp apart other member)

theorem split_spelling (text : Bytes) :
    (spelling text).splitOnP (· == 47) = (text.splitOnP slash).map (encode inPathSet) := by
  induction text with
  | nil => rfl
  | cons byte rest ih =>
      rw [← List.singleton_append, spelling_append, List.singleton_append, List.splitOnP_cons_eq_if_modifyHead]
      cases separator : slash byte with
      | true =>
          have written : spelling [byte] = [47] := by
            simp only [slash, Bool.or_eq_true, beq_iff_eq] at separator
            rcases separator with rfl | rfl <;> decide
          rw [written, List.singleton_append, List.splitOnP_cons_eq_if_modifyHead, ih]
          rfl
      | false =>
          obtain ⟨written, plain⟩ := spelling_byte byte separator
          rw [splitOnP_append_plain _ _ _ plain, ih, written]
          cases rest.splitOnP slash with
          | nil => rfl
          | cons first later => simp [encode]

theorem spelling_of_split (first second : Bytes)
    (same : (spelling first).splitOnP (· == 47) = (spelling second).splitOnP (· == 47)) :
    spelling first = spelling second := by
  have joined (text : Bytes) : join (text.splitOnP (· == 47)) = text := List.intercalate_splitOn 47
  rw [← joined (spelling first), same, joined]

theorem steady_append (first second : Bytes) (before : Steady first) (after : Steady second) :
    Steady (first ++ 47 :: second) := by
  refine ⟨?_, ?_⟩
  · intro byte member
    rcases List.mem_append.mp member with inFirst | later
    · exact before.bytes byte inFirst
    · rcases List.mem_cons.mp later with rfl | inSecond
      · exact ⟨by decide, by decide⟩
      · exact after.bytes byte inSecond
  · rw [List.splitOnP_append_cons first second (by decide)]
    intro segment member
    rcases List.mem_append.mp member with inFirst | inSecond
    · exact before.dots segment inFirst
    · exact after.dots segment inSecond

theorem steady_join (segments : List Bytes) (each : ∀ segment ∈ segments, Steady segment) : Steady (join segments) := by
  induction segments with
  | nil => decide
  | cons first rest ih =>
      have head := each first List.mem_cons_self
      have tail := ih fun segment member => each segment (List.mem_cons_of_mem _ member)
      cases rest with
      | nil => simpa [join] using head
      | cons second rest =>
          rw [join_cons]
          exact steady_append first _ head tail

theorem parse_steady (origin : Origin) (text : Bytes) (steady : Steady text) (whole : trimmed text) :
    parse (origin.text ++ 47 :: text) = some
      { scheme := origin.scheme, authority := origin.authority, path := (spelling text).splitOnP (· == 47)
        query := none, fragment := none } := by
  have passes : ∀ byte ∈ text, (!endsPath byte) = true := fun byte member => by simp [(steady.bytes byte member).1]
  have path : pathText text = text := List.takeWhile_eq_self_iff.mpr passes
  have after : afterPath text = [] := List.dropWhile_eq_nil_iff.mpr passes
  rw [parse_origin, tidy_plain text whole fun byte member => (steady.bytes byte member).2, path, after, segmentsOf,
    normalize_plain [] _ steady.dots, List.reverse_nil, List.nil_append, split_spelling]
  rfl

end Url
