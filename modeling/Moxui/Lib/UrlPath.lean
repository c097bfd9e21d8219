import Moxui.Lib.Url

set_option autoImplicit false

namespace Url

open Percent

structure PlainSegment (segment : Bytes) : Prop where
  bytes : ∀ byte ∈ segment, slash byte = false ∧ endsPath byte = false ∧ tabOrNewline byte = false
  unescaped : hasEscape segment = false
  single : singleDot segment = false
  double : doubleDot segment = false

instance (segment : Bytes) : Decidable (PlainSegment segment) :=
  decidable_of_iff
    ((segment.all fun byte => !slash byte && !endsPath byte && !tabOrNewline byte) = true ∧
      hasEscape segment = false ∧ singleDot segment = false ∧ doubleDot segment = false)
    ⟨fun plain => ⟨by simpa [and_assoc] using plain.1, plain.2.1, plain.2.2.1, plain.2.2.2⟩,
      fun plain => ⟨by simpa [and_assoc] using plain.bytes, plain.unescaped, plain.single, plain.double⟩⟩

def trimmed (text : Bytes) : Prop :=
  text.rdropWhile edge = text

instance (text : Bytes) : Decidable (trimmed text) :=
  inferInstanceAs (Decidable (text.rdropWhile edge = text))

def join (segments : List Bytes) : Bytes :=
  List.intercalate [47] segments

-- What the bytes of a path and the number of its segments come to. Parsing never adds to it.
def weight : List Bytes → Nat
  | [] => 0
  | segment :: rest => segment.length + 1 + weight rest

@[simp] theorem weight_nil : weight [] = 0 := rfl

@[simp] theorem weight_cons (segment : Bytes) (rest : List Bytes) :
    weight (segment :: rest) = segment.length + 1 + weight rest := rfl

@[simp] theorem weight_append (first second : List Bytes) :
    weight (first ++ second) = weight first + weight second := by
  induction first with
  | nil => simp
  | cons segment rest ih => simp [ih, Nat.add_assoc]

@[simp] theorem weight_reverse (segments : List Bytes) : weight segments.reverse = weight segments := by
  induction segments with
  | nil => rfl
  | cons segment rest ih =>
      rw [List.reverse_cons, weight_append, ih, weight_cons, weight_cons, weight_nil]
      omega

theorem weight_tail_le (segments : List Bytes) : weight (segments.map decode).tail ≤ weight (segments.map decode) := by
  cases segments with
  | nil => simp
  | cons segment rest => simp

theorem weight_decode_le (segments : List Bytes) : weight (segments.map decode) ≤ weight segments := by
  induction segments with
  | nil => simp
  | cons segment rest ih =>
      have shorter := length_decode_le segment
      simp only [List.map_cons, weight_cons]
      omega

theorem escapes_of_weight (segments : List Bytes) (same : weight (segments.map decode) = weight segments) :
    ∀ segment ∈ segments, hasEscape segment = false := by
  induction segments with
  | nil => simp
  | cons first rest ih =>
      have shorter := length_decode_le first
      have others := weight_decode_le rest
      simp only [List.map_cons, weight_cons] at same
      intro segment member
      rcases List.mem_cons.mp member with rfl | later
      · exact has_escape_of_length segment (by omega)
      · exact ih (by omega) segment later

theorem no_escape_of_no_percent (bytes : Bytes) (none : ∀ byte ∈ bytes, byte ≠ 37) : hasEscape bytes = false := by
  fun_induction hasEscape bytes with
  | case1 first high low rest ih =>
      have notPercent := none first List.mem_cons_self
      have later := ih fun byte member => none byte (List.mem_cons_of_mem _ member)
      simp [notPercent, later]
  | case2 bytes short => rfl

theorem plain_digits (digits : Bytes) (all : ∀ byte ∈ digits, 48 ≤ byte ∧ byte ≤ 57) :
    PlainSegment digits ∧ trimmed digits := by
  have each : ∀ value : Fin 256, 48 ≤ UInt8.ofFin value ∧ UInt8.ofFin value ≤ 57 →
      slash (UInt8.ofFin value) = false ∧ endsPath (UInt8.ofFin value) = false ∧ edge (UInt8.ofFin value) = false ∧
        tabOrNewline (UInt8.ofFin value) = false ∧ UInt8.ofFin value ≠ 37 ∧ lower (UInt8.ofFin value) ≠ 46 ∧
        lower (UInt8.ofFin value) ≠ 37 := by
    decide +kernel
  have digit : ∀ byte ∈ digits, slash byte = false ∧ endsPath byte = false ∧ edge byte = false ∧
      tabOrNewline byte = false ∧ byte ≠ 37 ∧ lower byte ≠ 46 ∧ lower byte ≠ 37 :=
    fun byte member => each byte.toFin (all byte member)
  refine ⟨⟨?_, ?_, ?_, ?_⟩, ?_⟩
  · intro byte member
    obtain ⟨noSlash, noEnd, _, noTab, _⟩ := digit byte member
    exact ⟨noSlash, noEnd, noTab⟩
  · exact no_escape_of_no_percent digits fun byte member => (digit byte member).2.2.2.2.1
  · cases digits with
    | nil => rfl
    | cons first rest =>
        obtain ⟨_, _, _, _, _, noDot, noPercent⟩ := digit first List.mem_cons_self
        simp [singleDot, noDot, noPercent]
  · cases digits with
    | nil => rfl
    | cons first rest =>
        obtain ⟨_, _, _, _, _, noDot, noPercent⟩ := digit first List.mem_cons_self
        simp [doubleDot, noDot, noPercent]
  · rw [trimmed, List.rdropWhile_eq_self_iff]
    intro nonempty
    have last := (digit _ (List.getLast_mem nonempty)).2.2.1
    simp [last]

theorem decoded_self (segments : List Bytes) (unescaped : ∀ segment ∈ segments, hasEscape segment = false) :
    segments.map decode = segments := by
  have each : segments.map decode = segments.map id := by
    apply List.map_congr_left
    intro segment member
    exact decode_of_no_escape segment (unescaped segment member)
  rw [each, List.map_id]

theorem in_path_set_plain (byte : UInt8) (escaped : inPathSet byte = true) : byte ≠ 37 ∧ isHex byte = false := by
  have all : ∀ value : Fin 256, inPathSet (UInt8.ofFin value) = true →
      UInt8.ofFin value ≠ 37 ∧ isHex (UInt8.ofFin value) = false := by decide +kernel
  exact all byte.toFin escaped

@[simp] theorem decode_path (segment : Bytes) : decode (encode inPathSet segment) = decode segment :=
  decode_encode inPathSet in_path_set_plain segment

theorem decoded_path (segments : List Bytes) :
    (segments.map (encode inPathSet)).map decode = segments.map decode := by
  rw [List.map_map]
  exact List.map_congr_left fun segment _ => decode_path segment

theorem decode_nonempty (segment : Bytes) (nonempty : segment ≠ []) : 1 ≤ (decode segment).length := by
  fun_cases decode segment with
  | case1 => exact absurd rfl nonempty
  | case2 => simp
  | case3 => simp
  | case4 => simp
  | case5 => simp

theorem single_dot_nonempty (segment : Bytes) (dot : singleDot segment = true) : segment ≠ [] := by
  rintro rfl
  cases dot

theorem double_dot_nonempty (segment : Bytes) (dot : doubleDot segment = true) : segment ≠ [] := by
  rintro rfl
  cases dot

theorem weight_normalize_le (kept raw : List Bytes) :
    weight ((normalize kept raw).map decode) ≤ weight (kept.map decode) + weight (raw.map decode) := by
  fun_induction normalize kept raw with
  | case1 kept => simp
  | case2 kept last double =>
      have shorter := weight_tail_le kept
      simp only [List.map_reverse, weight_reverse, List.map_cons, List.map_tail, weight_cons, List.map_nil, weight_nil,
        decode, List.length_nil]
      omega
  | case3 kept last double single =>
      simp only [List.map_reverse, weight_reverse, List.map_cons, weight_cons, List.map_nil, weight_nil, decode,
        List.length_nil]
      omega
  | case4 kept last double single => simp
  | case5 kept segment next rest double ih =>
      have shorter := weight_tail_le kept
      simp only [List.map_cons, weight_cons, List.map_tail] at ih ⊢
      omega
  | case6 kept segment next rest double single ih =>
      simp only [List.map_cons, weight_cons] at ih ⊢
      omega
  | case7 kept segment next rest double single ih =>
      simp only [List.map_cons, weight_cons, decode_path] at ih ⊢
      omega

theorem weight_normalize_lt (kept raw : List Bytes)
    (dotted : ∃ segment ∈ raw, singleDot segment = true ∨ doubleDot segment = true) :
    weight ((normalize kept raw).map decode) < weight (kept.map decode) + weight (raw.map decode) := by
  fun_induction normalize kept raw with
  | case1 kept => simp at dotted
  | case2 kept last double =>
      have shorter := weight_tail_le kept
      have nonempty := decode_nonempty last (double_dot_nonempty last double)
      simp only [List.map_reverse, weight_reverse, List.map_cons, List.map_tail, weight_cons, List.map_nil, weight_nil,
        decode, List.length_nil]
      omega
  | case3 kept last double single =>
      have nonempty := decode_nonempty last (single_dot_nonempty last single)
      simp only [List.map_reverse, weight_reverse, List.map_cons, weight_cons, List.map_nil, weight_nil, decode,
        List.length_nil]
      omega
  | case4 kept last double single => simp [double, single] at dotted
  | case5 kept segment next rest double ih =>
      have shorter := weight_tail_le kept
      have rest := weight_normalize_le kept.tail (next :: rest)
      simp only [List.map_cons, weight_cons, List.map_tail] at rest ⊢
      omega
  | case6 kept segment next rest double single ih =>
      have rest := weight_normalize_le kept (next :: rest)
      simp only [List.map_cons, weight_cons] at rest ⊢
      omega
  | case7 kept segment next rest double single ih =>
      have later : ∃ other ∈ next :: rest, singleDot other = true ∨ doubleDot other = true := by
        obtain ⟨other, member, dot⟩ := dotted
        rcases List.mem_cons.mp member with rfl | member
        · simp [double, single] at dot
        · exact ⟨other, member, dot⟩
      have shorter := ih later
      simp only [List.map_cons, weight_cons, decode_path] at shorter ⊢
      omega

theorem normalize_plain (kept raw : List Bytes)
    (plain : ∀ segment ∈ raw, singleDot segment = false ∧ doubleDot segment = false) :
    normalize kept raw = kept.reverse ++ raw.map (encode inPathSet) := by
  fun_induction normalize kept raw with
  | case1 kept => simp
  | case2 kept last double => simp [double] at plain
  | case3 kept last double single => simp [single] at plain
  | case4 kept last double single => simp
  | case5 kept segment next rest double ih => simp [double] at plain
  | case6 kept segment next rest double single ih => simp [single] at plain
  | case7 kept segment next rest double single ih =>
      rw [ih fun other member => plain other (List.mem_cons_of_mem _ member)]
      simp

theorem weight_modifyHead (byte : UInt8) (segments : List Bytes) (nonempty : segments ≠ []) :
    weight (segments.modifyHead (List.cons byte)) = weight segments + 1 := by
  cases segments with
  | nil => exact absurd rfl nonempty
  | cons first rest =>
      simp only [List.modifyHead_cons, weight_cons, List.length_cons]
      omega

theorem weight_splitOnP (separates : UInt8 → Bool) (text : Bytes) :
    weight (text.splitOnP separates) = text.length + 1 := by
  induction text with
  | nil => simp [List.splitOnP_nil]
  | cons byte rest ih =>
      rw [List.splitOnP_cons_eq_if_modifyHead]
      by_cases separator : separates byte = true
      · simp only [separator, if_true, weight_cons, List.length_nil, List.length_cons, ih]
        omega
      · simp only [separator, if_false, Bool.false_eq_true]
        rw [weight_modifyHead byte _ (List.splitOnP_ne_nil separates rest), ih, List.length_cons]

theorem mem_splitOnP (separates : UInt8 → Bool) (text : Bytes) :
    ∀ segment ∈ text.splitOnP separates, ∀ byte ∈ segment, separates byte = false ∧ byte ∈ text := by
  induction text with
  | nil => simp [List.splitOnP_nil]
  | cons first rest ih =>
      rw [List.splitOnP_cons_eq_if_modifyHead]
      intro segment member byte inside
      by_cases separator : separates first = true
      · simp only [separator, if_true, List.mem_cons] at member
        rcases member with rfl | later
        · cases inside
        · obtain ⟨plain, found⟩ := ih segment later byte inside
          exact ⟨plain, List.mem_cons_of_mem _ found⟩
      · simp only [separator, if_false, Bool.false_eq_true] at member
        cases pieces : rest.splitOnP separates with
        | nil => exact absurd pieces (List.splitOnP_ne_nil separates rest)
        | cons head tail =>
            rw [pieces] at ih member
            simp only [List.modifyHead_cons, List.mem_cons] at member
            rcases member with rfl | later
            · rcases List.mem_cons.mp inside with rfl | inHead
              · exact ⟨Bool.not_eq_true _ ▸ separator, List.mem_cons_self⟩
              · obtain ⟨plain, found⟩ := ih head List.mem_cons_self byte inHead
                exact ⟨plain, List.mem_cons_of_mem _ found⟩
            · obtain ⟨plain, found⟩ := ih segment (List.mem_cons_of_mem _ later) byte inside
              exact ⟨plain, List.mem_cons_of_mem _ found⟩

theorem join_cons (first second : Bytes) (rest : List Bytes) :
    join (first :: second :: rest) = first ++ 47 :: join (second :: rest) := by
  simp [join, List.intercalate_cons_cons]

theorem join_append (front rest : List Bytes) (nonempty : rest ≠ []) :
    (front.flatMap fun segment => 47 :: segment) ++ 47 :: join rest = 47 :: join (front ++ rest) := by
  induction front with
  | nil => rfl
  | cons first more ih =>
      have regroup : join (first :: (more ++ rest)) = first ++ 47 :: join (more ++ rest) := by
        cases tail : more ++ rest with
        | nil => exact absurd (List.append_eq_nil_iff.mp tail).2 nonempty
        | cons second others => exact join_cons first second others
      rw [List.flatMap_cons, List.append_assoc, ih, List.cons_append, List.cons_append, regroup]

theorem length_join (segments : List Bytes) (nonempty : segments ≠ []) :
    (join segments).length + 1 = weight segments := by
  induction segments with
  | nil => exact absurd rfl nonempty
  | cons first rest ih =>
      cases rest with
      | nil => simp [join]
      | cons second rest =>
          have later := ih (List.cons_ne_nil second rest)
          rw [join_cons, weight_cons, ← later, List.length_append, List.length_cons]
          omega

theorem mem_join (segments : List Bytes) (byte : UInt8) (member : byte ∈ join segments) :
    byte = 47 ∨ ∃ segment ∈ segments, byte ∈ segment := by
  induction segments with
  | nil => cases member
  | cons first rest ih =>
      cases rest with
      | nil =>
          have inFirst : byte ∈ first := by simpa [join] using member
          exact Or.inr ⟨first, List.mem_cons_self, inFirst⟩
      | cons second rest =>
          rw [join_cons, List.mem_append, List.mem_cons] at member
          rcases member with inFirst | separator | later
          · exact Or.inr ⟨first, List.mem_cons_self, inFirst⟩
          · exact Or.inl separator
          · rcases ih later with separator | ⟨segment, found, inside⟩
            · exact Or.inl separator
            · exact Or.inr ⟨segment, List.mem_cons_of_mem _ found, inside⟩

theorem join_mem (segments : List Bytes) (segment : Bytes) (member : segment ∈ segments) (byte : UInt8)
    (inside : byte ∈ segment) : byte ∈ join segments := by
  induction segments with
  | nil => cases member
  | cons first rest ih =>
      cases rest with
      | nil =>
          rw [List.mem_singleton] at member
          subst member
          simpa [join] using inside
      | cons second rest =>
          rw [join_cons, List.mem_append, List.mem_cons]
          rcases List.mem_cons.mp member with rfl | later
          · exact Or.inl inside
          · exact Or.inr (Or.inr (ih later))

theorem splitOnP_join (segments : List Bytes) (nonempty : segments ≠ [])
    (plain : ∀ segment ∈ segments, ∀ byte ∈ segment, slash byte = false) :
    (join segments).splitOnP slash = segments := by
  induction segments with
  | nil => exact absurd rfl nonempty
  | cons first rest ih =>
      have plainFirst := plain first List.mem_cons_self
      cases rest with
      | nil =>
          have only : join [first] = first := by simp [join]
          rw [only, List.splitOnP_eq_singleton plainFirst]
      | cons second rest =>
          have later := ih (List.cons_ne_nil second rest) fun segment member =>
            plain segment (List.mem_cons_of_mem _ member)
          rw [join_cons, List.splitOnP_append_cons_of_forall_mem plainFirst 47 (by decide), later]

theorem rdropWhile_append_cons (text : Bytes) (byte : UInt8) (rest : Bytes) (plain : edge byte = false) :
    (text ++ byte :: rest).rdropWhile edge = text ++ byte :: rest.rdropWhile edge := by
  induction rest using List.reverseRecOn with
  | nil => simpa using List.rdropWhile_concat_neg edge text byte (by simp [plain])
  | append_singleton rest last ih =>
      have regroup : text ++ byte :: (rest ++ [last]) = (text ++ byte :: rest) ++ [last] := by simp
      rw [regroup]
      by_cases trims : edge last = true
      · rw [List.rdropWhile_concat_pos edge _ last trims, List.rdropWhile_concat_pos edge _ last trims, ih]
      · rw [List.rdropWhile_concat_neg edge _ last trims, List.rdropWhile_concat_neg edge _ last trims]
        simp

theorem length_tidy_le (text : Bytes) : (tidy text).length ≤ text.length :=
  (List.length_filter_le _ _).trans (List.rdropWhile_prefix edge _).length_le

theorem tidy_of_length (text : Bytes) (same : (tidy text).length = text.length) :
    trimmed text ∧ ∀ byte ∈ text, tabOrNewline byte = false := by
  have shorter : (text.rdropWhile edge).length ≤ text.length := (List.rdropWhile_prefix edge _).length_le
  have filtered : (tidy text).length ≤ (text.rdropWhile edge).length := List.length_filter_le _ _
  have whole : trimmed text := (List.rdropWhile_prefix edge _).eq_of_length (by omega)
  refine ⟨whole, ?_⟩
  have kept : (text.filter fun byte => !tabOrNewline byte).length = text.length := by
    rw [← same, tidy, whole]
  intro byte member
  have passes := List.length_filter_eq_length_iff.mp kept byte member
  simpa using passes

theorem tidy_plain (text : Bytes) (whole : trimmed text) (plain : ∀ byte ∈ text, tabOrNewline byte = false) :
    tidy text = text := by
  rw [tidy, whole, List.filter_eq_self]
  intro byte member
  simp [plain byte member]

theorem tidy_append_cons (text : Bytes) (byte : UInt8) (rest : Bytes) (plain : edge byte = false) :
    tidy (text ++ byte :: rest) = (text.filter fun byte => !tabOrNewline byte) ++ byte :: tidy rest := by
  have kept : tabOrNewline byte = false := by
    have all : ∀ value : Fin 256, edge (UInt8.ofFin value) = false → tabOrNewline (UInt8.ofFin value) = false := by
      decide +kernel
    exact all byte.toFin plain
  rw [tidy, rdropWhile_append_cons text byte rest plain, List.filter_append, List.filter_cons]
  simp [kept, tidy]

def written (segments : List Bytes) (query : Option Bytes) : Bytes :=
  match query with
  | none => join segments
  | some text => join segments ++ 63 :: text

-- Without a query the path ends the URL, where white space is trimmed.
def Closed (segments : List Bytes) (query : Option Bytes) : Prop :=
  query = none → trimmed (join segments)

theorem path_text_bound (segments : List Bytes) (query : Option Bytes) :
    (pathText (tidy (written segments query))).length ≤ (join segments).length := by
  cases query with
  | none =>
      exact (List.takeWhile_prefix _).length_le.trans (length_tidy_le (join segments))
  | some text =>
      rw [written, tidy_append_cons _ 63 _ (by decide), pathText, List.takeWhile_append]
      split
      · simpa [List.takeWhile_cons, endsPath] using List.length_filter_le _ (join segments)
      · exact ((List.takeWhile_prefix _).length_le).trans (List.length_filter_le _ _)

theorem length_takeWhile_eq (accepts : UInt8 → Bool) (text : Bytes)
    (same : (text.takeWhile accepts).length = text.length) : ∀ byte ∈ text, accepts byte = true := by
  have whole := (List.takeWhile_prefix accepts (l := text)).eq_of_length same
  exact List.takeWhile_eq_self_iff.mp whole

theorem path_text_whole (segments : List Bytes) (query : Option Bytes)
    (same : (pathText (tidy (written segments query))).length = (join segments).length) :
    (∀ byte ∈ join segments, endsPath byte = false ∧ tabOrNewline byte = false) ∧ Closed segments query := by
  cases query with
  | none =>
      have cut : (pathText (tidy (join segments))).length ≤ (tidy (join segments)).length :=
        (List.takeWhile_prefix _).length_le
      have shorter := length_tidy_le (join segments)
      have sameTidy : (tidy (join segments)).length = (join segments).length := by
        simp only [written] at same
        omega
      obtain ⟨whole, noTabs⟩ := tidy_of_length (join segments) sameTidy
      rw [written, tidy_plain _ whole noTabs] at same
      have passes := length_takeWhile_eq _ _ same
      exact ⟨fun byte member => ⟨by simpa using passes byte member, noTabs byte member⟩, fun _ => whole⟩
  | some text =>
      rw [written, tidy_append_cons _ 63 _ (by decide), pathText, List.takeWhile_append] at same
      have filtered : ((join segments).filter fun byte => !tabOrNewline byte).length ≤ (join segments).length :=
        List.length_filter_le _ _
      split at same
      · rename_i whole
        have sameFilter : ((join segments).filter fun byte => !tabOrNewline byte).length = (join segments).length := by
          simpa [List.takeWhile_cons, endsPath] using same
        have noTabs := List.length_filter_eq_length_iff.mp sameFilter
        have passes := length_takeWhile_eq _ _ whole
        refine ⟨fun byte member => ?_, fun absurdity => by cases absurdity⟩
        have kept := noTabs byte member
        have passed := passes byte (List.mem_filter.mpr ⟨member, kept⟩)
        exact ⟨by simpa using passed, by simpa using kept⟩
      · rename_i cut
        have shorter : (List.takeWhile (fun byte => !endsPath byte)
            ((join segments).filter fun byte => !tabOrNewline byte)).length ≤
            ((join segments).filter fun byte => !tabOrNewline byte).length := (List.takeWhile_prefix _).length_le
        omega

theorem path_text_plain (segments : List Bytes) (query : Option Bytes)
    (plain : ∀ byte ∈ join segments, endsPath byte = false ∧ tabOrNewline byte = false)
    (closed : Closed segments query) : pathText (tidy (written segments query)) = join segments := by
  have passes : ∀ byte ∈ join segments, (!endsPath byte) = true := fun byte member => by simp [(plain byte member).1]
  cases query with
  | none =>
      rw [written, tidy_plain _ (closed rfl) (fun byte member => (plain byte member).2)]
      exact List.takeWhile_eq_self_iff.mpr passes
  | some text =>
      have kept : ((join segments).filter fun byte => !tabOrNewline byte) = join segments :=
        List.filter_eq_self.mpr fun byte member => by simp [(plain byte member).2]
      rw [written, tidy_append_cons _ 63 _ (by decide), kept, pathText, List.takeWhile_append_of_pos passes]
      simp [endsPath]

theorem path_text_bytes (segments : List Bytes) (plain : ∀ segment ∈ segments, PlainSegment segment) :
    ∀ byte ∈ join segments, endsPath byte = false ∧ tabOrNewline byte = false := by
  intro byte member
  rcases mem_join segments byte member with rfl | ⟨segment, found, inside⟩
  · exact ⟨by decide, by decide⟩
  · exact ((plain segment found).bytes byte inside).2

-- Nothing in parsing adds to the weight, so segments that come back whole lost nothing on the way.
theorem segments_of_written_iff (segments : List Bytes) (nonempty : segments ≠ []) (query : Option Bytes) :
    (segmentsOf (pathText (tidy (written segments query)))).map decode = segments ↔
      (∀ segment ∈ segments, PlainSegment segment) ∧ Closed segments query := by
  constructor
  · intro whole
    have bound := path_text_bound segments query
    have total := length_join segments nonempty
    have pieces := weight_splitOnP slash (pathText (tidy (written segments query)))
    have decoded := weight_decode_le ((pathText (tidy (written segments query))).splitOnP slash)
    have undotted : ∀ segment ∈ (pathText (tidy (written segments query))).splitOnP slash,
        singleDot segment = false ∧ doubleDot segment = false := by
      intro segment member
      by_contra dotted
      have dot : singleDot segment = true ∨ doubleDot segment = true := by
        cases single : singleDot segment <;> cases double : doubleDot segment <;> simp_all
      have shorter := weight_normalize_lt [] _ ⟨segment, member, dot⟩
      rw [← segmentsOf, whole] at shorter
      simp only [List.map_nil, weight_nil] at shorter
      omega
    have normal := normalize_plain [] _ undotted
    rw [segmentsOf, normal, List.reverse_nil, List.nil_append, decoded_path] at whole
    have sameWeight := congrArg weight whole
    obtain ⟨plainBytes, closed⟩ := path_text_whole segments query (by omega)
    have unescaped := escapes_of_weight ((pathText (tidy (written segments query))).splitOnP slash) (by omega)
    have same : (pathText (tidy (written segments query))).splitOnP slash = segments :=
      (decoded_self _ unescaped).symm.trans whole
    rw [same] at undotted unescaped
    refine ⟨fun segment member => ?_, closed⟩
    constructor
    · intro byte inside
      have separated := (mem_splitOnP slash _ segment (same ▸ member) byte inside).1
      exact ⟨separated, plainBytes byte (join_mem segments segment member byte inside)⟩
    · exact unescaped segment member
    · exact (undotted segment member).1
    · exact (undotted segment member).2
  · rintro ⟨plain, closed⟩
    rw [path_text_plain segments query (path_text_bytes segments plain) closed, segmentsOf,
      splitOnP_join segments nonempty fun segment member byte inside => ((plain segment member).bytes byte inside).1,
      normalize_plain [] segments fun segment member => ⟨(plain segment member).single, (plain segment member).double⟩,
      List.reverse_nil, List.nil_append, decoded_path]
    exact decoded_self segments fun segment member => (plain segment member).unescaped

end Url
