import Moxui.Lib.UrlPath

set_option autoImplicit false

namespace Url

open Percent

structure Origin where
  scheme : Bytes
  authority : Bytes
  known : scheme ∈ schemes
  named : authority ≠ []
  plain : ∀ byte ∈ authority, authorityByte byte = true ∧ edge byte = false

def Origin.text (origin : Origin) : Bytes :=
  origin.scheme ++ [58, 47, 47] ++ origin.authority

structure PlainValue (value : Bytes) : Prop where
  bytes : ∀ byte ∈ value, byte ≠ 35 ∧ byte ≠ 38 ∧ byte ≠ 43 ∧ tabOrNewline byte = false
  unescaped : hasEscape value = false
  whole : trimmed value

instance (value : Bytes) : Decidable (PlainValue value) :=
  decidable_of_iff
    ((value.all fun byte => byte != 35 && byte != 38 && byte != 43 && !tabOrNewline byte) = true ∧
      hasEscape value = false ∧ trimmed value)
    ⟨fun plain => ⟨by simpa [and_assoc] using plain.1, plain.2.1, plain.2.2⟩,
      fun plain => ⟨by simpa [and_assoc] using plain.bytes, plain.unescaped, plain.whole⟩⟩

structure PlainKey (key : Bytes) : Prop where
  nonempty : key ≠ []
  bytes : ∀ byte ∈ key, byte ≠ 35 ∧ byte ≠ 38 ∧ byte ≠ 43 ∧ byte ≠ 61 ∧ edge byte = false
  unescaped : hasEscape key = false

instance (key : Bytes) : Decidable (PlainKey key) :=
  decidable_of_iff
    (key ≠ [] ∧ (key.all fun byte => byte != 35 && byte != 38 && byte != 43 && byte != 61 && !edge byte) = true ∧
      hasEscape key = false)
    ⟨fun plain => ⟨plain.1, by simpa [and_assoc] using plain.2.1, plain.2.2⟩,
      fun plain => ⟨plain.nonempty, by simpa [and_assoc] using plain.bytes, plain.unescaped⟩⟩

theorem not_tab_of_not_edge (byte : UInt8) (plain : edge byte = false) : tabOrNewline byte = false := by
  have all : ∀ value : Fin 256, edge (UInt8.ofFin value) = false → tabOrNewline (UInt8.ofFin value) = false := by
    decide +kernel
  exact all byte.toFin plain

theorem filter_plain (text : Bytes) (plain : ∀ byte ∈ text, edge byte = false) :
    (text.filter fun byte => !tabOrNewline byte) = text := by
  rw [List.filter_eq_self]
  intro byte member
  simp [not_tab_of_not_edge byte (plain byte member)]

theorem Origin.text_plain (origin : Origin) : ∀ byte ∈ origin.text, edge byte = false := by
  have schemesPlain : ∀ scheme ∈ schemes, ∀ byte ∈ scheme ++ [58, 47, 47], edge byte = false := by
    decide +kernel
  intro byte member
  rcases List.mem_append.mp member with inScheme | inAuthority
  · exact schemesPlain origin.scheme origin.known byte inScheme
  · exact (origin.plain byte inAuthority).2

theorem clean_origin (origin : Origin) (text : Bytes) :
    clean (origin.text ++ 47 :: text) = origin.text ++ 47 :: tidy text := by
  have starts : (origin.text ++ 47 :: text).dropWhile edge = origin.text ++ 47 :: text := by
    cases found : origin.text with
    | nil => simp [Origin.text] at found
    | cons first rest =>
        have plain := origin.text_plain first (by rw [found]; exact List.mem_cons_self)
        rw [List.cons_append, List.dropWhile_cons, plain]
        rfl
  rw [clean, starts, tidy_append_cons _ 47 _ (by decide), filter_plain _ origin.text_plain]

theorem takeWhile_append_cons (accepts : UInt8 → Bool) (text : Bytes) (byte : UInt8) (rest : Bytes)
    (all : ∀ other ∈ text, accepts other = true) (stop : accepts byte = false) :
    (text ++ byte :: rest).takeWhile accepts = text := by
  rw [List.takeWhile_append_of_pos all, List.takeWhile_cons, stop]
  simp

theorem dropWhile_append_cons (accepts : UInt8 → Bool) (text : Bytes) (byte : UInt8) (rest : Bytes)
    (all : ∀ other ∈ text, accepts other = true) (stop : accepts byte = false) :
    (text ++ byte :: rest).dropWhile accepts = byte :: rest := by
  rw [List.dropWhile_append_of_pos all, List.dropWhile_cons, stop]
  simp

theorem parse_after_scheme_origin (origin : Origin) (text : Bytes) :
    parseAfterScheme origin.scheme (47 :: 47 :: (origin.authority ++ 47 :: text)) =
      some
        { scheme := origin.scheme, authority := origin.authority, path := segmentsOf (pathText text)
          query := queryOf (afterPath text), fragment := fragmentOf (afterPath text) } := by
  have body : (47 :: 47 :: (origin.authority ++ 47 :: text)).dropWhile slash = origin.authority ++ 47 :: text := by
    have doubled : slash 47 = true := by decide
    cases found : origin.authority with
    | nil => exact absurd found origin.named
    | cons first rest =>
        have plain := (origin.plain first (by rw [found]; exact List.mem_cons_self)).1
        have notSlash : slash first = false := by
          simp only [authorityByte, Bool.not_eq_true', Bool.or_eq_false_iff] at plain
          exact plain.1
        simp [doubled, notSlash]
  have stop : authorityByte 47 = false := by decide
  have inPath : (!endsPath 47) = true := by decide
  have named : origin.authority.isEmpty = false := by simpa using origin.named
  rw [parseAfterScheme, body, takeWhile_append_cons authorityByte _ 47 text (fun byte member => (origin.plain byte member).1)
    stop, dropWhile_append_cons authorityByte _ 47 text (fun byte member => (origin.plain byte member).1) stop]
  simp [named, pathText, afterPath, inPath]

theorem parse_origin (origin : Origin) (text : Bytes) :
    parse (origin.text ++ 47 :: text) =
      some
        { scheme := origin.scheme, authority := origin.authority, path := segmentsOf (pathText (tidy text))
          query := queryOf (afterPath (tidy text)), fragment := fragmentOf (afterPath (tidy text)) } := by
  have letters : ∀ scheme ∈ schemes, (∀ byte ∈ scheme, (byte != 58) = true) ∧ scheme.map lower = scheme := by
    decide +kernel
  obtain ⟨noColon, lowered⟩ := letters origin.scheme origin.known
  have regroup : origin.text ++ 47 :: tidy text =
      origin.scheme ++ 58 :: (47 :: 47 :: (origin.authority ++ 47 :: tidy text)) := by simp [Origin.text]
  rw [parse, clean_origin, regroup, takeWhile_append_cons _ origin.scheme 58 _ noColon (by decide),
    dropWhile_append_cons _ origin.scheme 58 _ noColon (by decide), lowered, ← parse_after_scheme_origin]
  exact if_pos origin.known

theorem takeWhile_flatMap (accepts : UInt8 → Bool) (write : UInt8 → Bytes)
    (stops : ∀ byte, accepts byte = false → write byte = [byte])
    (passes : ∀ byte, accepts byte = true → ∀ other ∈ write byte, accepts other = true) (text : Bytes) :
    (text.flatMap write).takeWhile accepts = (text.takeWhile accepts).flatMap write := by
  induction text with
  | nil => rfl
  | cons byte rest ih =>
      cases accepted : accepts byte with
      | false => simp [stops byte accepted, accepted]
      | true =>
          rw [List.flatMap_cons, List.takeWhile_append_of_pos (passes byte accepted), ih, List.takeWhile_cons, accepted]
          simp

theorem dropWhile_flatMap (accepts : UInt8 → Bool) (write : UInt8 → Bytes)
    (stops : ∀ byte, accepts byte = false → write byte = [byte])
    (passes : ∀ byte, accepts byte = true → ∀ other ∈ write byte, accepts other = true) (text : Bytes) :
    (text.flatMap write).dropWhile accepts = (text.dropWhile accepts).flatMap write := by
  induction text with
  | nil => rfl
  | cons byte rest ih =>
      cases accepted : accepts byte with
      | false => simp [stops byte accepted, accepted]
      | true =>
          rw [List.flatMap_cons, List.dropWhile_append_of_pos (passes byte accepted), ih, List.dropWhile_cons, accepted]
          simp

theorem splitOnP_first (separates : UInt8 → Bool) (text : Bytes) :
    ∃ rest, text.splitOnP separates = (text.takeWhile fun byte => !separates byte) :: rest := by
  induction text with
  | nil => exact ⟨[], by simp [List.splitOnP_nil]⟩
  | cons byte rest ih =>
      obtain ⟨later, split⟩ := ih
      rw [List.splitOnP_cons_eq_if_modifyHead]
      cases separator : separates byte with
      | true => exact ⟨rest.splitOnP separates, by simp [separator]⟩
      | false => exact ⟨later, by simp [separator, split]⟩

theorem query_set_plain (byte : UInt8) (escaped : inQuerySet byte = true) :
    plusToSpace byte = byte ∧ byte ≠ 37 ∧ isHex byte = false ∧ (escape byte).map plusToSpace = escape byte ∧
      ∀ other ∈ escape byte, other ≠ 38 ∧ other ≠ 61 := by
  have kept := every_byte (fun byte => !inQuerySet byte || (plusToSpace byte == byte && byte != 37 && !isHex byte &&
      (escape byte).map plusToSpace == escape byte && (escape byte).all fun other => other != 38 && other != 61))
    (by decide +kernel) byte
  simp only [escaped, Bool.not_true, Bool.false_or, Bool.and_eq_true, beq_iff_eq, bne_iff_ne, Bool.not_eq_true',
    List.all_eq_true] at kept
  exact ⟨kept.1.1.1.1, kept.1.1.1.2, kept.1.1.2, kept.1.2, kept.2⟩

@[simp] theorem form_decode_encode (text : Bytes) : formDecode (encode inQuerySet text) = formDecode text := by
  have transparent : Transparent
      (fun byte => (if inQuerySet byte then escape byte else [byte]).map plusToSpace) plusToSpace := by
    intro byte
    cases escaped : inQuerySet byte with
    | false => exact Or.inl (by simp [escaped])
    | true =>
        obtain ⟨same, notPercent, notHex, kept, _⟩ := query_set_plain byte escaped
        exact Or.inr ⟨by rw [same]; exact notPercent, by rw [same]; exact notHex, by simp [escaped, kept, same]⟩
  rw [formDecode, encode, List.map_flatMap, decode_flatMap _ plusToSpace transparent, formDecode]

-- The separators of a query are never escaped and never part of an escape.
theorem encode_separator (separator : UInt8) (known : separator = 38 ∨ separator = 61) (text : Bytes) :
    (encode inQuerySet text).takeWhile (· != separator) = encode inQuerySet (text.takeWhile (· != separator)) ∧
      (encode inQuerySet text).dropWhile (· != separator) = encode inQuerySet (text.dropWhile (· != separator)) := by
  have stops : ∀ byte, (byte != separator) = false →
      (if inQuerySet byte then escape byte else [byte]) = [byte] := by
    intro byte stopped
    have same : byte = separator := by simpa using stopped
    subst same
    rcases known with rfl | rfl <;> rfl
  have passes : ∀ byte, (byte != separator) = true → ∀ other ∈ (if inQuerySet byte then escape byte else [byte]),
      (other != separator) = true := by
    intro byte passed other member
    cases escaped : inQuerySet byte with
    | false =>
        simp only [escaped, Bool.false_eq_true, if_false, List.mem_singleton] at member
        rw [member]
        exact passed
    | true =>
        simp only [escaped, if_true] at member
        have apart := (query_set_plain byte escaped).2.2.2.2 other member
        rcases known with rfl | rfl
        · simpa using apart.1
        · simpa using apart.2
  exact ⟨takeWhile_flatMap _ _ stops passes text, dropWhile_flatMap _ _ stops passes text⟩

theorem splitOnP_append_plain (separates : UInt8 → Bool) (text rest : Bytes)
    (plain : ∀ byte ∈ text, separates byte = false) :
    (text ++ rest).splitOnP separates = (rest.splitOnP separates).modifyHead (text ++ ·) := by
  induction text with
  | nil =>
      rw [List.nil_append]
      cases rest.splitOnP separates <;> rfl
  | cons byte text ih =>
      have first := plain byte List.mem_cons_self
      rw [List.cons_append, List.splitOnP_cons_eq_if_modifyHead, first, ih fun other member =>
        plain other (List.mem_cons_of_mem byte member)]
      simp [List.modifyHead_modifyHead, Function.comp_def]

theorem splitOnP_flatMap (separates : UInt8 → Bool) (write : UInt8 → Bytes)
    (stops : ∀ byte, separates byte = true → write byte = [byte])
    (passes : ∀ byte, separates byte = false → ∀ other ∈ write byte, separates other = false) (text : Bytes) :
    (text.flatMap write).splitOnP separates = (text.splitOnP separates).map fun piece => piece.flatMap write := by
  induction text with
  | nil => simp [List.splitOnP_nil]
  | cons byte rest ih =>
      rw [List.flatMap_cons, List.splitOnP_cons_eq_if_modifyHead]
      cases separator : separates byte with
      | true => simp [stops byte separator, List.splitOnP_cons_eq_if_modifyHead, separator, ih]
      | false =>
          rw [splitOnP_append_plain separates _ _ (passes byte separator), ih]
          cases rest.splitOnP separates with
          | nil => rfl
          | cons first later => simp

theorem form_pair_encode (text : Bytes) : formPair (encode inQuerySet text) = formPair text := by
  obtain ⟨before, after⟩ := encode_separator 61 (Or.inr rfl) text
  have dropped : (encode inQuerySet (text.dropWhile (· != 61))).drop 1 =
      encode inQuerySet ((text.dropWhile (· != 61)).drop 1) := by
    cases found : text.dropWhile (· != 61) with
    | nil => rfl
    | cons first rest =>
        have refused := List.head?_dropWhile_not (· != 61) text
        rw [found] at refused
        have equals : first = 61 := by simpa using refused
        subst equals
        rfl
  rw [formPair, before, after, dropped, form_decode_encode, form_decode_encode, formPair]

theorem form_pairs_encode (text : Bytes) : formPairs (encode inQuerySet text) = formPairs text := by
  have split := splitOnP_flatMap (· == 38) (fun byte => if inQuerySet byte then escape byte else [byte])
    (by
      intro byte separator
      rw [beq_iff_eq] at separator
      subst separator
      rfl)
    (by
      intro byte plain other member
      cases escaped : inQuerySet byte with
      | false =>
          simp only [escaped, Bool.false_eq_true, if_false, List.mem_singleton] at member
          rw [member]
          exact plain
      | true =>
          simp only [escaped, if_true] at member
          simpa using ((query_set_plain byte escaped).2.2.2.2 other member).1) text
  have empty : ∀ piece, encode inQuerySet piece = [] ↔ piece = [] := by
    intro piece
    cases piece with
    | nil => simp [encode]
    | cons byte rest => by_cases escaped : inQuerySet byte <;> simp [encode, escaped, escape]
  rw [formPairs, encode, split, List.filter_map, List.map_map, formPairs]
  have kept : ((fun piece => decide (piece ≠ [])) ∘ fun piece : Bytes =>
      piece.flatMap fun byte => if inQuerySet byte then escape byte else [byte]) = fun piece => decide (piece ≠ []) := by
    funext piece
    have same := empty piece
    simp only [encode] at same
    simp [same]
  rw [kept]
  apply List.map_congr_left
  intro piece _
  exact form_pair_encode piece

theorem form_pairs_append (first second : Bytes) : formPairs (first ++ 38 :: second) = formPairs first ++ formPairs second := by
  rw [formPairs, List.splitOnP_append_cons (p := (· == 38)) first second (by decide), List.filter_append, List.map_append,
    formPairs, formPairs]

theorem form_pair_plain (key value : Bytes) (plain : PlainKey key) : formPair (key ++ 61 :: value) = (key, formDecode value) := by
  have noEquals : ∀ byte ∈ key, (byte != 61) = true := fun byte member => by simpa using (plain.bytes byte member).2.2.2.1
  have noPlus : key.map plusToSpace = key := by
    have each : key.map plusToSpace = key.map id := by
      apply List.map_congr_left
      intro byte member
      exact if_neg (plain.bytes byte member).2.2.1
    rw [each, List.map_id]
  rw [formPair, takeWhile_append_cons _ key 61 value noEquals (by decide),
    dropWhile_append_cons _ key 61 value noEquals (by decide), List.drop_one, List.tail_cons, formDecode, noPlus,
    decode_of_no_escape key plain.unescaped]

theorem form_pairs_first (key value : Bytes) (plain : PlainKey key) :
    ∃ rest, formPairs (key ++ 61 :: value) = (key, formDecode (value.takeWhile (· != 38))) :: rest := by
  have noAnd : ∀ byte ∈ key ++ [61], (byte != 38) = true := by
    intro byte member
    rcases List.mem_append.mp member with inKey | equals
    · simpa using (plain.bytes byte inKey).2.1
    · rw [List.mem_singleton] at equals
      subst equals
      decide
  have cut : (key ++ 61 :: value).takeWhile (· != 38) = key ++ 61 :: value.takeWhile (· != 38) := by
    have regroup : key ++ 61 :: value = (key ++ [61]) ++ value := by simp
    rw [regroup, List.takeWhile_append_of_pos noAnd]
    simp
  obtain ⟨rest, split⟩ := splitOnP_first (· == 38) (key ++ 61 :: value)
  have same : (fun byte : UInt8 => !(byte == 38)) = (· != 38) := rfl
  rw [same, cut] at split
  refine ⟨((rest.filter (· ≠ [])).map formPair), ?_⟩
  rw [formPairs, split, List.filter_cons, if_pos (by simp), List.map_cons, form_pair_plain key _ plain]

theorem form_pairs_single (key value : Bytes) (plain : PlainKey key) (single : ∀ byte ∈ value, byte ≠ 38) :
    formPairs (key ++ 61 :: value) = [(key, formDecode value)] := by
  have none : ∀ byte ∈ key ++ 61 :: value, (byte == 38) = false := by
    intro byte member
    rcases List.mem_append.mp member with inKey | later
    · simpa using (plain.bytes byte inKey).2.1
    · rcases List.mem_cons.mp later with rfl | inValue
      · decide
      · simpa using single byte inValue
  rw [formPairs, List.splitOnP_eq_singleton none, List.filter_cons, if_pos (by simp)]
  simp [form_pair_plain key value plain]

theorem form_decode_self_iff (value : Bytes) :
    formDecode value = value ↔ hasEscape value = false ∧ ∀ byte ∈ value, byte ≠ 43 := by
  have shape : (value.map plusToSpace).length = value.length := List.length_map _
  constructor
  · intro same
    have unescaped : hasEscape (value.map plusToSpace) = false := by
      apply has_escape_of_length
      rw [shape, ← formDecode, same]
    rw [formDecode, decode_of_no_escape _ unescaped] at same
    rw [same] at unescaped
    refine ⟨unescaped, fun byte member => ?_⟩
    rintro rfl
    obtain ⟨index, inside, found⟩ := List.mem_iff_getElem.mp member
    have mapped : (value.map plusToSpace)[index]? = value[index]? := by rw [same]
    rw [List.getElem?_map, List.getElem?_eq_getElem inside, found] at mapped
    simp [plusToSpace] at mapped
  · rintro ⟨unescaped, noPlus⟩
    have same : value.map plusToSpace = value.map id := List.map_congr_left fun byte member => if_neg (noPlus byte member)
    rw [formDecode, same, List.map_id, decode_of_no_escape value unescaped]

theorem length_form_decode_le (value : Bytes) : (formDecode value).length ≤ value.length :=
  (length_decode_le _).trans (List.length_map _).le

structure PlainParam (value : Bytes) : Prop where
  bytes : ∀ byte ∈ value, byte ≠ 35 ∧ byte ≠ 38 ∧ byte ≠ 43
  unescaped : hasEscape value = false

instance (value : Bytes) : Decidable (PlainParam value) :=
  decidable_of_iff ((value.all fun byte => byte != 35 && byte != 38 && byte != 43) = true ∧ hasEscape value = false)
    ⟨fun plain => ⟨by simpa [and_assoc] using plain.1, plain.2⟩,
      fun plain => ⟨by simpa [and_assoc] using plain.bytes, plain.unescaped⟩⟩

theorem cut_at_hash (key text : Bytes) (plain : PlainKey key) :
    (key ++ 61 :: text).takeWhile (· != 35) = key ++ 61 :: text.takeWhile (· != 35) := by
  have noHash : ∀ byte ∈ key ++ [61], (byte != 35) = true := by
    intro byte member
    rcases List.mem_append.mp member with inKey | equals
    · simpa using (plain.bytes byte inKey).1
    · rw [List.mem_singleton] at equals
      subst equals
      decide
  have regroup : key ++ 61 :: text = (key ++ [61]) ++ text := by simp
  rw [regroup, List.takeWhile_append_of_pos noHash]
  simp

-- Reading only ever shortens: a value read from a text that is no longer is all of that text.
theorem param_of_pairs (key value text : Bytes) (plain : PlainKey key) (long : text.length ≤ value.length)
    (whole : formPairs ((key ++ 61 :: text).takeWhile (· != 35)) = [(key, value)]) :
    text.length = value.length ∧ (∀ byte ∈ text, byte ≠ 35 ∧ byte ≠ 38) ∧ formDecode text = value := by
  rw [cut_at_hash key text plain] at whole
  obtain ⟨rest, first⟩ := form_pairs_first key (text.takeWhile (· != 35)) plain
  rw [whole, List.cons.injEq, Prod.mk.injEq] at first
  have same := first.1.2
  have decoded := length_form_decode_le ((text.takeWhile (· != 35)).takeWhile (· != 38))
  have cutAnd : ((text.takeWhile (· != 35)).takeWhile (· != 38)).length ≤ (text.takeWhile (· != 35)).length :=
    (List.takeWhile_prefix _).length_le
  have cutHash : (text.takeWhile (· != 35)).length ≤ text.length := (List.takeWhile_prefix _).length_le
  rw [← same] at decoded
  have noHashes := length_takeWhile_eq (· != 35) text (by omega)
  rw [List.takeWhile_eq_self_iff.mpr noHashes] at same cutAnd decoded
  have noAnds := length_takeWhile_eq (· != 38) text (by omega)
  rw [List.takeWhile_eq_self_iff.mpr noAnds] at same
  refine ⟨by omega, fun byte member => ⟨?_, ?_⟩, same.symm⟩
  · simpa using noHashes byte member
  · simpa using noAnds byte member

theorem pairs_of_param_iff (key value : Bytes) (plain : PlainKey key) :
    formPairs ((key ++ 61 :: value).takeWhile (· != 35)) = [(key, value)] ↔ PlainParam value := by
  constructor
  · intro whole
    obtain ⟨_, apart, same⟩ := param_of_pairs key value value plain (Nat.le_refl _) whole
    obtain ⟨unescaped, noPlus⟩ := (form_decode_self_iff value).mp same
    exact ⟨fun byte member => ⟨(apart byte member).1, (apart byte member).2, noPlus byte member⟩, unescaped⟩
  · intro safe
    have noHashes : ∀ byte ∈ value, (byte != 35) = true := fun byte member => by simpa using (safe.bytes byte member).1
    rw [cut_at_hash key value plain, List.takeWhile_eq_self_iff.mpr noHashes,
      form_pairs_single key value plain fun byte member => (safe.bytes byte member).2.1,
      (form_decode_self_iff value).mpr ⟨safe.unescaped, fun byte member => (safe.bytes byte member).2.2⟩]

theorem plain_value_iff (value : Bytes) :
    PlainValue value ↔ PlainParam value ∧ (∀ byte ∈ value, tabOrNewline byte = false) ∧ trimmed value := by
  constructor
  · intro plain
    refine ⟨⟨fun byte member => ?_, plain.unescaped⟩, fun byte member => (plain.bytes byte member).2.2.2, plain.whole⟩
    obtain ⟨noHash, noAnd, noPlus, _⟩ := plain.bytes byte member
    exact ⟨noHash, noAnd, noPlus⟩
  · intro ⟨plain, noTabs, whole⟩
    refine ⟨fun byte member => ?_, plain.unescaped, whole⟩
    obtain ⟨noHash, noAnd, noPlus⟩ := plain.bytes byte member
    exact ⟨noHash, noAnd, noPlus, noTabs byte member⟩

theorem pairs_of_query_iff (key value : Bytes) (plain : PlainKey key) :
    formPairs (encode inQuerySet ((key ++ 61 :: tidy value).takeWhile (· != 35))) = [(key, value)] ↔ PlainValue value := by
  rw [form_pairs_encode, plain_value_iff]
  constructor
  · intro whole
    obtain ⟨same, _, _⟩ := param_of_pairs key value (tidy value) plain (length_tidy_le value) whole
    obtain ⟨trim, noTabs⟩ := tidy_of_length value same
    rw [tidy_plain value trim noTabs] at whole
    exact ⟨(pairs_of_param_iff key value plain).mp whole, noTabs, trim⟩
  · intro ⟨safe, noTabs, trim⟩
    rw [tidy_plain value trim noTabs]
    exact (pairs_of_param_iff key value plain).mpr safe

structure Addresses (origin : Origin) (segments : List Bytes) (pairs : List (Bytes × Bytes)) (url : Url) : Prop where
  scheme : url.scheme = origin.scheme
  authority : url.authority = origin.authority
  segments : url.segments = segments
  pairs : url.pairs = pairs

def queryText (query : Option (Bytes × Bytes)) : Option Bytes :=
  query.map fun pair => pair.1 ++ 61 :: pair.2

theorem pairs_written_iff (segments : List Bytes) (query : Option (Bytes × Bytes))
    (plainKey : ∀ pair, query = some pair → PlainKey pair.1)
    (plain : ∀ byte ∈ join segments, endsPath byte = false ∧ tabOrNewline byte = false)
    (closed : Closed segments (queryText query)) :
    (match queryOf (afterPath (tidy (written segments (queryText query)))) with
      | some text => formPairs text
      | none => []) = query.toList ↔ ∀ pair, query = some pair → PlainValue pair.2 := by
  have passes : ∀ byte ∈ join segments, (!endsPath byte) = true := fun byte member => by simp [(plain byte member).1]
  cases query with
  | none =>
      have noTabs : ∀ byte ∈ join segments, tabOrNewline byte = false := fun byte member => (plain byte member).2
      have after : afterPath (tidy (written segments none)) = [] := by
        rw [written, tidy_plain _ (closed rfl) noTabs, afterPath, List.dropWhile_eq_nil_iff]
        exact passes
      simp [queryText, after, queryOf]
  | some pair =>
      have key := plainKey pair rfl
      have kept : ((join segments).filter fun byte => !tabOrNewline byte) = join segments :=
        List.filter_eq_self.mpr fun byte member => by simp [(plain byte member).2]
      have after : afterPath (tidy (written segments (queryText (some pair)))) = 63 :: (pair.1 ++ 61 :: tidy pair.2) := by
        rw [queryText, Option.map_some, written, tidy_append_cons _ 63 _ (by decide), kept,
          tidy_append_cons _ 61 _ (by decide), filter_plain _ fun byte member => (key.bytes byte member).2.2.2.2, afterPath]
        exact dropWhile_append_cons _ _ 63 _ passes (by decide)
      rw [after, queryOf]
      simpa using pairs_of_query_iff pair.1 pair.2 key

theorem addresses_written_iff (origin : Origin) (segments : List Bytes) (nonempty : segments ≠ [])
    (query : Option (Bytes × Bytes)) (plainKey : ∀ pair, query = some pair → PlainKey pair.1) :
    (∃ url, parse (origin.text ++ 47 :: written segments (queryText query)) = some url ∧
        Addresses origin segments query.toList url) ↔
      (∀ segment ∈ segments, PlainSegment segment) ∧ Closed segments (queryText query) ∧
        ∀ pair, query = some pair → PlainValue pair.2 := by
  rw [parse_origin]
  constructor
  · rintro ⟨url, parsed, addresses⟩
    rw [Option.some.injEq] at parsed
    subst parsed
    obtain ⟨plain, closed⟩ := (segments_of_written_iff segments nonempty (queryText query)).mp addresses.segments
    have same := path_text_bytes segments plain
    exact ⟨plain, closed, (pairs_written_iff segments query plainKey same closed).mp addresses.pairs⟩
  · rintro ⟨plain, closed, values⟩
    have same := path_text_bytes segments plain
    exact ⟨_, rfl, rfl, rfl, (segments_of_written_iff segments nonempty (queryText query)).mpr ⟨plain, closed⟩,
      (pairs_written_iff segments query plainKey same closed).mpr values⟩

theorem trimmed_append_cons (text : Bytes) (byte : UInt8) (rest : Bytes) (plain : edge byte = false) :
    trimmed (text ++ byte :: rest) ↔ trimmed rest := by
  rw [trimmed, rdropWhile_append_cons text byte rest plain, List.append_cancel_left_eq, List.cons.injEq, trimmed]
  exact ⟨fun same => same.2, fun same => ⟨rfl, same⟩⟩

theorem trimmed_join_iff (segments : List Bytes) (nonempty : segments ≠ []) :
    trimmed (join segments) ↔ trimmed (segments.getLast nonempty) := by
  induction segments with
  | nil => exact absurd rfl nonempty
  | cons first rest ih =>
      cases rest with
      | nil => simp [join]
      | cons second rest =>
          rw [join_cons, trimmed_append_cons first 47 _ (by decide), ih (List.cons_ne_nil second rest)]
          simp

end Url
