import Moxui.Lib.UrlQuery

set_option autoImplicit false

open Percent (Bytes)

-- URIs as the `http` crate parses them: nothing is normalized or escaped, and a text with an
-- octet that it does not take is no URI at all.
structure HttpUri where
  scheme : Bytes
  authority : Bytes
  path : Bytes
  query : Option Bytes

namespace HttpUri

def maxLength : Nat :=
  65534

-- Not a control, a space, `#`, `<`, `>`, `?` or a backquote.
def pathByte (byte : UInt8) : Bool :=
  32 < byte && !([35, 60, 62, 63, 96].contains byte)

-- Not a control, a space, a double quote, `#`, `<` or `>`.
def queryByte (byte : UInt8) : Bool :=
  32 < byte && !([34, 35, 60, 62].contains byte)

def authorityByte (byte : UInt8) : Bool :=
  byte != 47 && byte != 63 && byte != 35

-- Path and query, without the fragment.
def target (text : Bytes) : Bytes :=
  (text.dropWhile authorityByte).takeWhile (· != 35)

def pathOf (text : Bytes) : Bytes :=
  (target text).takeWhile (· != 63)

def queryOf (text : Bytes) : Option Bytes :=
  match (target text).dropWhile (· != 63) with
  | [] => none
  | _ :: query => some query

-- `accepts` is the check of the authority: host, port and credentials.
def parseRest (accepts : Bytes → Bool) (scheme text : Bytes) : Option HttpUri :=
  if accepts (text.takeWhile authorityByte) && (pathOf text).all pathByte && ((queryOf text).getD []).all queryByte then
    some { scheme := scheme, authority := text.takeWhile authorityByte, path := pathOf text, query := queryOf text }
  else none

def parse (accepts : Bytes → Bool) (text : Bytes) : Option HttpUri :=
  if text.length ≤ maxLength then
    match text.dropWhile (· != 58) with
    | 58 :: 47 :: 47 :: rest => parseRest accepts (text.takeWhile (· != 58)) rest
    | _ => none
  else none

def pairs (uri : HttpUri) : List (Bytes × Bytes) :=
  match uri.query with
  | none => []
  | some query => Url.formPairs query

end HttpUri

namespace Url

open Percent

def queryPart (text : Bytes) : Option Bytes :=
  match (text.takeWhile (· != 35)).dropWhile (· != 63) with
  | [] => none
  | _ :: query => some query

def queryPairs (text : Bytes) : List (Bytes × Bytes) :=
  match queryPart text with
  | none => []
  | some query => formPairs query

def twoParams (firstKey firstValue key value : Bytes) : Bytes :=
  (firstKey ++ 61 :: firstValue) ++ 38 :: (key ++ 61 :: value)

theorem query_pairs_hash (front rest : Bytes) (hash : 35 ∈ front) : queryPairs (front ++ rest) = queryPairs front := by
  have stops : (front.takeWhile (· != 35)).length ≠ front.length := by
    intro same
    have apart := length_takeWhile_eq (· != 35) front same 35 hash
    cases apart
  rw [queryPairs, queryPart, List.takeWhile_append, if_neg stops, queryPairs, queryPart]

theorem query_pairs_first (before later : Bytes) (noMark : 63 ∉ before) (noHash : 35 ∉ before) :
    queryPairs (before ++ 63 :: later) = formPairs (later.takeWhile (· != 35)) := by
  have passes : ∀ byte ∈ before, (byte != 35) = true := by
    intro byte member
    rw [bne_iff_ne]
    intro same
    exact noHash (same ▸ member)
  have skips : ∀ byte ∈ before, (byte != 63) = true := by
    intro byte member
    rw [bne_iff_ne]
    intro same
    exact noMark (same ▸ member)
  have cut : (before ++ 63 :: later).takeWhile (· != 35) = before ++ 63 :: later.takeWhile (· != 35) := by
    rw [List.takeWhile_append_of_pos passes]
    rfl
  rw [queryPairs, queryPart, cut, dropWhile_append_cons (· != 63) before 63 _ skips (by decide)]

theorem mem_pieces (separates : UInt8 → Bool) (text : Bytes) (byte : UInt8) (member : byte ∈ text)
    (plain : separates byte = false) : ∃ piece ∈ text.splitOnP separates, byte ∈ piece := by
  induction text with
  | nil => cases member
  | cons first rest ih =>
      rw [List.splitOnP_cons_eq_if_modifyHead]
      rcases List.mem_cons.mp member with rfl | later
      · rw [plain]
        obtain ⟨pieces, split⟩ := splitOnP_first separates rest
        simp [split]
      · obtain ⟨piece, listed, inside⟩ := ih later
        by_cases separator : separates first = true
        · rw [if_pos separator]
          exact ⟨piece, List.mem_cons_of_mem _ listed, inside⟩
        · rw [if_neg separator]
          cases pieces : rest.splitOnP separates with
          | nil =>
              rw [pieces] at listed
              cases listed
          | cons head tail =>
              rw [pieces] at listed
              rcases List.mem_cons.mp listed with rfl | among
              · exact ⟨first :: piece, List.mem_cons_self, List.mem_cons_of_mem _ inside⟩
              · exact ⟨piece, List.mem_cons_of_mem _ among, inside⟩

theorem mark_in_pairs (text : Bytes) (mark : 63 ∈ text) : ∃ pair ∈ formPairs text, 63 ∈ pair.1 ∨ 63 ∈ pair.2 := by
  obtain ⟨piece, listed, inside⟩ := mem_pieces (· == 38) text 63 mark (by decide)
  have decoded : ∀ part : Bytes, 63 ∈ part → 63 ∈ formDecode part := by
    intro part member
    exact mem_decode 63 (by decide) (by decide) _ (List.mem_map.mpr ⟨63, member, rfl⟩)
  have nonempty : piece ≠ [] := List.ne_nil_of_mem inside
  refine ⟨formPair piece, List.mem_map_of_mem (List.mem_filter.mpr ⟨listed, by simpa using nonempty⟩), ?_⟩
  rw [← List.takeWhile_append_dropWhile (p := (· != 61)) (l := piece), List.mem_append] at inside
  rcases inside with before | after
  · exact Or.inl (decoded _ before)
  · apply Or.inr
    apply decoded
    cases rest : piece.dropWhile (· != 61) with
    | nil =>
        rw [rest] at after
        cases after
    | cons first later =>
        have refused := List.head?_dropWhile_not (· != 61) piece
        rw [rest] at refused after
        have equals : first = 61 := by simpa using refused
        rw [equals] at after
        simpa using after

section TwoParams

variable (firstKey firstValue key value : Bytes)

theorem two_params_cut (front : Bytes) (noHash : 35 ∉ front) (plainFirst : PlainKey firstKey)
    (safeFirst : PlainParam firstValue) :
    (front ++ twoParams firstKey firstValue key value).takeWhile (· != 35) =
      (front ++ firstKey ++ 61 :: firstValue) ++ 38 :: (key ++ 61 :: value).takeWhile (· != 35) := by
  have passes : ∀ byte ∈ front ++ firstKey ++ 61 :: firstValue ++ [38], (byte != 35) = true := by
    intro byte member
    rw [bne_iff_ne]
    rintro rfl
    simp only [List.mem_append, List.mem_cons] at member
    rcases member with ((inFront | inKey) | equals | inValue) | final
    · exact noHash inFront
    · exact (plainFirst.bytes 35 inKey).1 rfl
    · cases equals
    · exact (safeFirst.bytes 35 inValue).1 rfl
    · simp at final
  have regroup : front ++ twoParams firstKey firstValue key value =
      (front ++ firstKey ++ 61 :: firstValue ++ [38]) ++ (key ++ 61 :: value) := by
    simp [twoParams]
  rw [regroup, List.takeWhile_append_of_pos passes]
  simp

theorem first_param (plainFirst : PlainKey firstKey) (safeFirst : PlainParam firstValue) :
    formPairs (firstKey ++ 61 :: firstValue) = [(firstKey, firstValue)] := by
  rw [form_pairs_single firstKey firstValue plainFirst fun byte member => (safeFirst.bytes byte member).2.1,
    (form_decode_self_iff firstValue).mpr ⟨safeFirst.unescaped, fun byte member => (safeFirst.bytes byte member).2.2⟩]

-- Behind an earlier question mark the first parameter is not one of its own.
theorem two_params_marked (front : Bytes) (noHash : 35 ∉ front) (mark : 63 ∈ front) (plainFirst : PlainKey firstKey)
    (safeFirst : PlainParam firstValue) (plainKey : PlainKey key) (unmarked : 63 ∉ firstKey ∧ 63 ∉ firstValue) :
    queryPairs (front ++ 63 :: twoParams firstKey firstValue key value) ≠ [(firstKey, firstValue), (key, value)] := by
  obtain ⟨before, later, split, noMark⟩ := List.eq_append_cons_of_mem mark
  rw [split, List.mem_append, List.mem_cons] at noHash
  obtain ⟨noHashBefore, noHashLater⟩ := not_or.mp noHash
  have noHashRest : 35 ∉ later ++ [63] := by
    intro member
    rcases List.mem_append.mp member with inLater | final
    · exact noHashLater (Or.inr inLater)
    · simp at final
  have regroup : front ++ 63 :: twoParams firstKey firstValue key value =
      before ++ 63 :: ((later ++ [63]) ++ twoParams firstKey firstValue key value) := by
    rw [split]
    simp
  obtain ⟨rest, second⟩ := form_pairs_first key (value.takeWhile (· != 35)) plainKey
  obtain ⟨pair, among, marked⟩ := mark_in_pairs (later ++ [63] ++ firstKey ++ 61 :: firstValue) (by simp)
  rw [regroup, query_pairs_first before _ noMark noHashBefore,
    two_params_cut firstKey firstValue key value _ noHashRest plainFirst safeFirst, form_pairs_append,
    cut_at_hash key value plainKey, second]
  intro whole
  have single : formPairs (later ++ [63] ++ firstKey ++ 61 :: firstValue) = [(firstKey, firstValue)] := by
    have lengths := congrArg List.length whole
    simp only [List.length_append, List.length_cons, List.length_nil] at lengths
    cases pairs : formPairs (later ++ [63] ++ firstKey ++ 61 :: firstValue) with
    | nil =>
        rw [pairs] at among
        cases among
    | cons head tail =>
        rw [pairs, List.length_cons] at lengths
        have last : tail = [] := List.eq_nil_of_length_eq_zero (by omega)
        rw [pairs, last, List.cons_append, List.cons.injEq] at whole
        rw [last, whole.1]
  rw [single, List.mem_singleton] at among
  rw [among] at marked
  rcases marked with inKey | inValue
  · exact unmarked.1 inKey
  · exact unmarked.2 inValue

theorem query_pairs_written_iff (front : Bytes) (plainFirst : PlainKey firstKey) (safeFirst : PlainParam firstValue)
    (plainKey : PlainKey key) (unmarked : 63 ∉ firstKey ∧ 63 ∉ firstValue) :
    queryPairs (front ++ 63 :: twoParams firstKey firstValue key value) = [(firstKey, firstValue), (key, value)] ↔
      (63 ∉ front ∧ 35 ∉ front ∧ PlainParam value) ∨
        (35 ∈ front ∧ queryPairs front = [(firstKey, firstValue), (key, value)]) := by
  by_cases hash : 35 ∈ front
  · rw [query_pairs_hash front _ hash]
    simp [hash]
  · by_cases mark : 63 ∈ front
    · have never := two_params_marked firstKey firstValue key value front hash mark plainFirst safeFirst plainKey unmarked
      simp [never, hash, mark]
    · have cut := two_params_cut firstKey firstValue key value [] (by simp) plainFirst safeFirst
      rw [List.nil_append, List.nil_append] at cut
      rw [query_pairs_first front _ mark hash, cut, form_pairs_append,
        first_param firstKey firstValue plainFirst safeFirst]
      simp only [List.singleton_append, List.cons.injEq, true_and, pairs_of_param_iff key value plainKey]
      simp [hash, mark]

end TwoParams

end Url

namespace HttpUri

structure Accepted (accepts : Bytes → Bool) (text : Bytes) : Prop where
  authority : accepts (text.takeWhile authorityByte) = true
  path : ∀ byte ∈ pathOf text, pathByte byte = true
  query : ∀ byte ∈ (queryOf text).getD [], queryByte byte = true

theorem query_of_part (text : Bytes) : queryOf text = Url.queryPart text := by
  have plain : ∀ byte ∈ text.takeWhile authorityByte, (byte != 35) = true ∧ (byte != 63) = true := by
    intro byte member
    have kept := List.mem_takeWhile_imp member
    simp only [authorityByte, Bool.and_eq_true] at kept
    exact ⟨kept.2, kept.1.2⟩
  have cut : text.takeWhile (· != 35) = text.takeWhile authorityByte ++ target text := by
    conv_lhs => rw [← List.takeWhile_append_dropWhile (p := authorityByte) (l := text)]
    exact List.takeWhile_append_of_pos fun byte member => (plain byte member).1
  rw [queryOf, Url.queryPart, cut, List.dropWhile_append_of_pos fun byte member => (plain byte member).2]

theorem parse_rest_pairs_iff (accepts : Bytes → Bool) (scheme text : Bytes) (expected : List (Bytes × Bytes)) :
    (parseRest accepts scheme text).map pairs = some expected ↔ Accepted accepts text ∧ Url.queryPairs text = expected := by
  have read : pairs { scheme := scheme, authority := text.takeWhile authorityByte, path := pathOf text
                      query := queryOf text } = Url.queryPairs text := by
    rw [pairs, Url.queryPairs, query_of_part]
  have accepted : (accepts (text.takeWhile authorityByte) && (pathOf text).all pathByte &&
      ((queryOf text).getD []).all queryByte) = true ↔ Accepted accepts text := by
    rw [Bool.and_eq_true, Bool.and_eq_true, List.all_eq_true, List.all_eq_true]
    exact ⟨fun taken => ⟨taken.1.1, taken.1.2, taken.2⟩, fun taken => ⟨⟨taken.authority, taken.path⟩, taken.query⟩⟩
  unfold parseRest
  by_cases taken : Accepted accepts text
  · rw [if_pos (accepted.mpr taken), Option.map_some, Option.some.injEq, read]
    exact (and_iff_right taken).symm
  · rw [if_neg (mt accepted.mp taken)]
    exact iff_of_false (by simp) fun both => taken both.1

theorem parse_pairs_iff (accepts : Bytes → Bool) (scheme text : Bytes)
    (plain : ∀ byte ∈ scheme, byte ≠ 58) (expected : List (Bytes × Bytes)) :
    (parse accepts (scheme ++ 58 :: 47 :: 47 :: text)).map pairs = some expected ↔
      (scheme ++ 58 :: 47 :: 47 :: text).length ≤ maxLength ∧ Accepted accepts text ∧ Url.queryPairs text = expected := by
  have apart : ∀ byte ∈ scheme, (byte != 58) = true := fun byte member => bne_iff_ne.mpr (plain byte member)
  unfold parse
  by_cases short : (scheme ++ 58 :: 47 :: 47 :: text).length ≤ maxLength
  · rw [if_pos short, Url.dropWhile_append_cons _ scheme 58 _ apart (by decide)]
    exact (parse_rest_pairs_iff accepts _ text expected).trans (and_iff_right short).symm
  · rw [if_neg short]
    exact iff_of_false (by simp) fun both => short both.1

theorem accepted_hash_iff (accepts : Bytes → Bool) (front rest : Bytes) (hash : 35 ∈ front) :
    Accepted accepts (front ++ rest) ↔ Accepted accepts front := by
  have stopsAt (accepting : UInt8 → Bool) (refused : accepting 35 = false) (text : Bytes) (inside : 35 ∈ text) :
      (text.takeWhile accepting).length ≠ text.length := by
    intro same
    have passes := Url.length_takeWhile_eq accepting text same 35 inside
    rw [refused] at passes
    cases passes
  have authority : (front ++ rest).takeWhile authorityByte = front.takeWhile authorityByte := by
    rw [List.takeWhile_append, if_neg (stopsAt authorityByte (by decide) front hash)]
  have after : 35 ∈ front.dropWhile authorityByte := by
    rw [← List.takeWhile_append_dropWhile (p := authorityByte) (l := front), List.mem_append] at hash
    refine hash.resolve_left fun before => ?_
    exact absurd (List.mem_takeWhile_imp before) (by decide)
  have dropped : (front ++ rest).dropWhile authorityByte = front.dropWhile authorityByte ++ rest := by
    have whole := List.takeWhile_append_dropWhile (p := authorityByte) (l := front ++ rest)
    rw [authority] at whole
    have parts := List.takeWhile_append_dropWhile (p := authorityByte) (l := front)
    apply (List.append_right_inj (front.takeWhile authorityByte)).mp
    rw [whole, ← List.append_assoc, parts]
  have same : target (front ++ rest) = target front := by
    rw [target, dropped, List.takeWhile_append, if_neg (stopsAt (· != 35) (by decide) _ after), target]
  have samePath : pathOf (front ++ rest) = pathOf front := by rw [pathOf, same, pathOf]
  have sameQuery : queryOf (front ++ rest) = queryOf front := by rw [queryOf, same, queryOf]
  refine ⟨fun taken => ⟨?_, ?_, ?_⟩, fun taken => ⟨?_, ?_, ?_⟩⟩
  · exact authority ▸ taken.authority
  · exact samePath ▸ taken.path
  · exact sameQuery ▸ taken.query
  · exact authority.symm ▸ taken.authority
  · exact samePath.symm ▸ taken.path
  · exact sameQuery.symm ▸ taken.query

theorem authority_written (host rest : Bytes) (plain : ∀ byte ∈ host, byte ≠ 63 ∧ byte ≠ 35) :
    (host ++ 47 :: rest).takeWhile authorityByte = host.takeWhile (· != 47) ∧
      (host ++ 47 :: rest).dropWhile authorityByte = host.dropWhile (· != 47) ++ 47 :: rest := by
  induction host with
  | nil => exact ⟨rfl, rfl⟩
  | cons byte host ih =>
      obtain ⟨noMark, noHash⟩ := plain byte List.mem_cons_self
      obtain ⟨taken, dropped⟩ := ih fun other member => plain other (List.mem_cons_of_mem _ member)
      have first : authorityByte byte = (byte != 47) := by
        rw [authorityByte, bne_iff_ne.mpr noMark, bne_iff_ne.mpr noHash, Bool.and_true, Bool.and_true]
      rw [List.cons_append, List.takeWhile_cons, List.takeWhile_cons, List.dropWhile_cons, List.dropWhile_cons, first]
      by_cases passes : (byte != 47) = true
      · rw [if_pos passes, if_pos passes, if_pos passes, if_pos passes, taken, dropped]
        exact ⟨rfl, rfl⟩
      · rw [if_neg passes, if_neg passes, if_neg passes, if_neg passes]
        exact ⟨rfl, rfl⟩

theorem accepted_written_iff (accepts : Bytes → Bool) (host path query : Bytes)
    (plainHost : 63 ∉ host ∧ 35 ∉ host) (plainPath : 63 ∉ path ∧ 35 ∉ path) (plainQuery : 35 ∉ query) :
    Accepted accepts (host ++ 47 :: path ++ 63 :: query) ↔
      accepts (host.takeWhile (· != 47)) = true ∧ (∀ byte ∈ host.dropWhile (· != 47), pathByte byte = true) ∧
        (∀ byte ∈ path, pathByte byte = true) ∧ ∀ byte ∈ query, queryByte byte = true := by
  have authority := authority_written host (path ++ 63 :: query) fun byte member =>
    ⟨fun same => plainHost.1 (same ▸ member), fun same => plainHost.2 (same ▸ member)⟩
  rw [← List.cons_append, ← List.append_assoc, ← List.append_assoc] at authority
  have inPath : ∀ byte ∈ host.dropWhile (· != 47) ++ 47 :: path, byte ≠ 63 ∧ byte ≠ 35 := by
    intro byte member
    rcases List.mem_append.mp member with inHost | later
    · have there := (List.dropWhile_suffix _).subset inHost
      exact ⟨fun same => plainHost.1 (same ▸ there), fun same => plainHost.2 (same ▸ there)⟩
    · rcases List.mem_cons.mp later with rfl | there
      · exact ⟨by decide, by decide⟩
      · exact ⟨fun same => plainPath.1 (same ▸ there), fun same => plainPath.2 (same ▸ there)⟩
  have whole : target (host ++ 47 :: path ++ 63 :: query) = host.dropWhile (· != 47) ++ 47 :: path ++ 63 :: query := by
    rw [target, authority.2, List.takeWhile_eq_self_iff]
    intro byte member
    rw [bne_iff_ne]
    rcases List.mem_append.mp member with before | later
    · exact (inPath byte before).2
    · rcases List.mem_cons.mp later with rfl | there
      · decide
      · exact fun same => plainQuery (same ▸ there)
  have isPath : pathOf (host ++ 47 :: path ++ 63 :: query) = host.dropWhile (· != 47) ++ 47 :: path := by
    rw [pathOf, whole]
    exact Url.takeWhile_append_cons _ _ 63 _ (fun byte member => bne_iff_ne.mpr (inPath byte member).1) (by decide)
  have isQuery : queryOf (host ++ 47 :: path ++ 63 :: query) = some query := by
    rw [queryOf, whole, Url.dropWhile_append_cons _ _ 63 _ (fun byte member => bne_iff_ne.mpr (inPath byte member).1)
      (by decide)]
  constructor
  · rintro ⟨named, onPath, onQuery⟩
    rw [authority.1] at named
    rw [isPath] at onPath
    rw [isQuery] at onQuery
    exact ⟨named, fun byte member => onPath byte (List.mem_append_left _ member),
      fun byte member => onPath byte (List.mem_append_right _ (List.mem_cons_of_mem _ member)), onQuery⟩
  · rintro ⟨named, onHost, onPath, onQuery⟩
    refine ⟨authority.1 ▸ named, ?_, ?_⟩
    · rw [isPath]
      intro byte member
      rcases List.mem_append.mp member with inHost | later
      · exact onHost byte inHost
      · rcases List.mem_cons.mp later with rfl | there
        · decide
        · exact onPath byte there
    · rw [isQuery]
      exact onQuery

end HttpUri
