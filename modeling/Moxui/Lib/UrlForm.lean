import Moxui.Lib.UrlQuery

set_option autoImplicit false

namespace Url

open Percent

-- Everything but letters, digits and * - . _
def inFormSet (byte : UInt8) : Bool :=
  !(48 ≤ byte && byte ≤ 57 || 65 ≤ byte && byte ≤ 90 || 97 ≤ byte && byte ≤ 122 || byte ∈ [42, 45, 46, 95])

def formByte (byte : UInt8) : Bytes :=
  if byte = 32 then [43] else if inFormSet byte then escape byte else [byte]

def formEncode (text : Bytes) : Bytes :=
  text.flatMap formByte

def formPiece (pair : Bytes × Bytes) : Bytes :=
  formEncode pair.1 ++ 61 :: formEncode pair.2

def formText (pairs : List (Bytes × Bytes)) : Bytes :=
  List.intercalate [38] (pairs.map formPiece)

def formSafe (byte : UInt8) : Bool :=
  byte != 38 && byte != 61 && !inQuerySet byte && !edge byte && !endsPath byte

theorem form_byte_safe (byte : UInt8) : ∀ other ∈ formByte byte, formSafe other = true := by
  have all := every_byte (fun byte => (formByte byte).all formSafe) (by decide +kernel) byte
  exact List.all_eq_true.mp all

theorem form_encode_safe (text : Bytes) : ∀ byte ∈ formEncode text, formSafe byte = true := by
  intro byte member
  obtain ⟨source, _, written⟩ := List.mem_flatMap.mp member
  exact form_byte_safe source byte written

theorem decode_form_byte (byte : UInt8) (rest : Bytes) :
    decode ((formByte byte).map plusToSpace ++ rest) = byte :: decode rest := by
  have facts := every_byte (fun byte => (escape byte).map plusToSpace == escape byte &&
    (inFormSet byte || (byte != 37 && plusToSpace byte == byte))) (by decide +kernel) byte
  simp only [Bool.and_eq_true, Bool.or_eq_true, beq_iff_eq, bne_iff_ne] at facts
  obtain ⟨escaped, kept⟩ := facts
  unfold formByte
  by_cases space : byte = 32
  · subst space
    rw [if_pos rfl]
    exact decode_cons_of_no_escape 32 rest fun both => absurd both.1 (by decide)
  · rw [if_neg space]
    by_cases inSet : inFormSet byte = true
    · rw [if_pos inSet, escaped, decode_escape]
    · obtain ⟨notPercent, same⟩ := kept.resolve_left inSet
      rw [if_neg inSet, List.map_singleton, same, List.singleton_append]
      exact decode_cons_of_no_escape byte rest fun both => notPercent both.1

@[simp] theorem form_decode_form_encode (text : Bytes) : formDecode (formEncode text) = text := by
  rw [formDecode, formEncode]
  induction text with
  | nil => rfl
  | cons byte rest ih => rw [List.flatMap_cons, List.map_append, decode_form_byte, ih]

theorem form_pair_form_piece (pair : Bytes × Bytes) : formPair (formPiece pair) = pair := by
  have noEquals : ∀ byte ∈ formEncode pair.1, (byte != 61) = true := by
    intro byte member
    have safe := form_encode_safe pair.1 byte member
    simp only [formSafe, Bool.and_eq_true] at safe
    exact safe.1.1.1.2
  rw [formPair, formPiece, takeWhile_append_cons _ _ 61 _ noEquals (by decide),
    dropWhile_append_cons _ _ 61 _ noEquals (by decide), List.drop_one, List.tail_cons, form_decode_form_encode,
    form_decode_form_encode]

theorem form_piece_whole (pair : Bytes × Bytes) : 38 ∉ formPiece pair := by
  have none : ∀ text, 38 ∉ formEncode text := by
    intro text member
    have safe := form_encode_safe text 38 member
    revert safe
    decide
  intro member
  rcases List.mem_append.mp member with inKey | later
  · exact none _ inKey
  · rcases List.mem_cons.mp later with impossible | inValue
    · revert impossible
      decide
    · exact none _ inValue

theorem form_pairs_form_text (pairs : List (Bytes × Bytes)) : formPairs (formText pairs) = pairs := by
  cases pairs with
  | nil => rfl
  | cons first rest =>
      have pieces : (formText (first :: rest)).splitOnP (· == 38) = (first :: rest).map formPiece := by
        apply List.splitOn_intercalate
        · intro piece member
          obtain ⟨pair, _, rfl⟩ := List.mem_map.mp member
          exact form_piece_whole pair
        · exact List.cons_ne_nil _ _
      have nonempty : ((first :: rest).map formPiece).filter (fun piece => decide (piece ≠ [])) =
          (first :: rest).map formPiece := by
        apply List.filter_eq_self.mpr
        intro piece member
        obtain ⟨pair, _, rfl⟩ := List.mem_map.mp member
        simp [formPiece]
      rw [formPairs, pieces, nonempty, List.map_map]
      exact (List.map_congr_left fun pair _ => form_pair_form_piece pair).trans (List.map_id _)

def sparedInQuery (byte : UInt8) : Bool :=
  !inQuerySet byte && !edge byte

theorem form_piece_spared (pair : Bytes × Bytes) : ∀ byte ∈ formPiece pair, sparedInQuery byte = true := by
  have spared : ∀ text, ∀ byte ∈ formEncode text, sparedInQuery byte = true := by
    intro text byte member
    have safe := form_encode_safe text byte member
    simp only [formSafe, Bool.and_eq_true] at safe
    simp only [sparedInQuery, Bool.and_eq_true]
    exact ⟨safe.1.1.2, safe.1.2⟩
  intro byte member
  rcases List.mem_append.mp member with inKey | later
  · exact spared _ byte inKey
  · rcases List.mem_cons.mp later with rfl | inValue
    · decide
    · exact spared _ byte inValue

theorem form_text_spared (pairs : List (Bytes × Bytes)) : ∀ byte ∈ formText pairs, sparedInQuery byte = true := by
  induction pairs with
  | nil =>
      intro byte member
      cases member
  | cons first rest ih =>
      cases rest with
      | nil =>
          have single : formText [first] = formPiece first := by simp [formText]
          rw [single]
          exact form_piece_spared first
      | cons second rest =>
          have next : formText (first :: second :: rest) = formPiece first ++ 38 :: formText (second :: rest) := by
            simp [formText, List.intercalate_cons_cons]
          intro byte member
          rw [next] at member
          rcases List.mem_append.mp member with inFirst | later
          · exact form_piece_spared first byte inFirst
          · rcases List.mem_cons.mp later with rfl | inRest
            · decide
            · exact ih byte inRest

theorem encode_spared (text : Bytes) (spared : ∀ byte ∈ text, sparedInQuery byte = true) :
    encode inQuerySet text = text := by
  induction text with
  | nil => rfl
  | cons byte rest ih =>
      have own := spared byte List.mem_cons_self
      simp only [sparedInQuery, Bool.and_eq_true, Bool.not_eq_true'] at own
      have later := ih fun other member => spared other (List.mem_cons_of_mem byte member)
      rw [encode] at later
      rw [encode, List.flatMap_cons, later, own.1]
      rfl

theorem parse_form (origin : Origin) (path : Bytes) (pairs : List (Bytes × Bytes))
    (plain : ∀ byte ∈ path, endsPath byte = false ∧ edge byte = false) :
    parse (origin.text ++ 47 :: (path ++ 63 :: formText pairs)) =
      some
        { scheme := origin.scheme, authority := origin.authority, path := segmentsOf path
          query := some (formText pairs), fragment := none } := by
  have noEdges : ∀ byte ∈ path ++ 63 :: formText pairs, edge byte = false := by
    intro byte member
    rcases List.mem_append.mp member with inPath | later
    · exact (plain byte inPath).2
    · rcases List.mem_cons.mp later with rfl | inForm
      · decide
      · have spared := form_text_spared pairs byte inForm
        simp only [sparedInQuery, Bool.and_eq_true, Bool.not_eq_true'] at spared
        exact spared.2
  have whole : trimmed (path ++ 63 :: formText pairs) := by
    rw [trimmed, List.rdropWhile_eq_self_iff]
    intro nonempty
    rw [noEdges _ (List.getLast_mem nonempty)]
    exact Bool.false_ne_true
  have tidied := tidy_plain _ whole fun byte member => not_tab_of_not_edge byte (noEdges byte member)
  have inPath : ∀ byte ∈ path, (!endsPath byte) = true := by
    intro byte member
    rw [(plain byte member).1]
    rfl
  have noHash : ∀ byte ∈ formText pairs, (byte != 35) = true := by
    intro byte member
    have spared := form_text_spared pairs byte member
    rw [bne_iff_ne]
    rintro rfl
    revert spared
    decide
  have stop : (!endsPath 63) = false := by decide
  have query : queryOf (63 :: formText pairs) = some (formText pairs) := by
    rw [queryOf, List.takeWhile_eq_self_iff.mpr noHash, encode_spared _ (form_text_spared pairs)]
  have fragment : fragmentOf (63 :: formText pairs) = none := by
    have dropped : (63 :: formText pairs).dropWhile (· != 35) = [] := by
      rw [List.dropWhile_cons, if_pos (by decide)]
      exact List.dropWhile_eq_nil_iff.mpr noHash
    rw [fragmentOf, dropped]
  rw [parse_origin, tidied, pathText, afterPath, takeWhile_append_cons _ path 63 _ inPath stop,
    dropWhile_append_cons _ path 63 _ inPath stop, query, fragment]

end Url
