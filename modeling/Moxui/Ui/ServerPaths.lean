import Moxui.Lib.UrlQuery
import Moxui.Api.CheckedCluster
import Moxui.Proxmox.PathIntegrity

set_option autoImplicit false

namespace Moxui.Ui

open Moxui.Api
open Percent (Bytes)
open Url (PlainSegment trimmed inPathSet)
open Moxui.Proxmox.ProxmoxCall (spelled)

def asciiText (bytes : Bytes) : String :=
  String.ofList (bytes.map fun byte => Char.ofNat byte.toNat)

-- `fetch` takes a path to be one of the page's origin; the path of that URL goes to the server.
def requestTarget (origin : Url.Origin) (path : String) : Option String :=
  (Url.parse (origin.text ++ Text.bytes path)).map fun url => asciiText (47 :: Url.join url.path)

def filled : List PatternPart → List String → List String
  | .static text :: parts, values => text :: filled parts values
  | .param _ :: parts, value :: values => value :: filled parts values
  | _, _ => []

-- A template literal of the page: the pattern with its values in their places, as they are.
def templatePath (pattern : List PatternPart) (values : List String) : String :=
  "/" ++ spelled (filled pattern values)

def readSegments (pattern : List PatternPart) (segments : List String) : Option (List String) :=
  (matchParts pattern segments).bind fun params => params.mapM fun param => percentText param.2

def readParams (pattern : List PatternPart) (target : String) : Option (List String) :=
  readSegments pattern (segmentsOf target)

section Numbers

theorem digits_value_decimal (value : Nat) : digitsValue (Nat.toDigits 10 value) = some value := by
  have digits : (Nat.toDigits 10 value).all Char.isDigit = true := by
    rw [List.all_eq_true]
    exact fun char member => Nat.isDigit_of_mem_toDigits (by omega) (by omega) member
  have read : (Nat.toDigits 10 value).foldl (fun sum digit => sum * 10 + (digit.toNat - '0'.toNat)) 0 = value := by
    have known := Nat.ofDigitChars_ten_toDigits (n := value)
    rw [Nat.ofDigitChars_eq_foldl] at known
    simpa only [Nat.mul_comm] using known
  rw [digitsValue, if_pos ⟨Nat.toDigits_ne_nil, digits⟩, read]

theorem parse_decimal (bound value : Nat) (small : value < bound) : parseUnsigned bound (toString value) = some value := by
  have chars : (toString value).toList = Nat.toDigits 10 value := by rw [Nat.toString_eq_repr, Nat.toList_repr]
  have signless : ∀ rest, Nat.toDigits 10 value ≠ '+' :: rest := by
    intro rest plus
    have digit : Char.isDigit '+' = true :=
      Nat.isDigit_of_mem_toDigits (b := 10) (n := value) (by omega) (by omega) (by rw [plus]; exact List.mem_cons_self)
    revert digit
    decide
  unfold parseUnsigned
  rw [chars]
  split
  · rename_i rest plus
    exact absurd plus (signless rest)
  · dsimp only
    rw [digits_value_decimal]
    exact if_pos small

end Numbers

section Wire

def onWire (byte : UInt8) : Bool :=
  byte != 47 && byte < 128

theorem escape_on_wire (byte : UInt8) : (Percent.escape byte).all onWire = true := by
  have all : ∀ value : Fin 256, (Percent.escape (UInt8.ofFin value)).all onWire = true := by decide +kernel
  exact all byte.toFin

theorem kept_on_wire (byte : UInt8) (kept : inPathSet byte = false) (noSlash : Url.slash byte = false) :
    onWire byte = true := by
  have all : ∀ value : Fin 256, inPathSet (UInt8.ofFin value) = false → Url.slash (UInt8.ofFin value) = false →
      onWire (UInt8.ofFin value) = true := by decide +kernel
  exact all byte.toFin kept noSlash

theorem encoded_on_wire (segment : Bytes) (plain : ∀ byte ∈ segment, Url.slash byte = false) :
    ∀ byte ∈ Percent.encode inPathSet segment, onWire byte = true := by
  intro byte member
  obtain ⟨source, inside, written⟩ := List.mem_flatMap.mp member
  cases escaped : inPathSet source with
  | true =>
      simp only [escaped, if_true] at written
      exact List.all_eq_true.mp (escape_on_wire source) byte written
  | false =>
      simp only [escaped, Bool.false_eq_true, if_false, List.mem_singleton] at written
      subst written
      exact kept_on_wire byte escaped (plain byte inside)

theorem normalized_on_wire (kept raw : List Bytes) (plain : ∀ segment ∈ raw, ∀ byte ∈ segment, Url.slash byte = false)
    (before : ∀ segment ∈ kept, ∀ byte ∈ segment, onWire byte = true) :
    ∀ segment ∈ Url.normalize kept raw, ∀ byte ∈ segment, onWire byte = true := by
  have tail : ∀ segment ∈ kept.tail, ∀ byte ∈ segment, onWire byte = true :=
    fun segment member => before segment (List.mem_of_mem_tail member)
  fun_induction Url.normalize kept raw with
  | case1 kept => exact fun segment member => before segment (List.mem_reverse.mp member)
  | case2 kept last double =>
      intro segment member
      rcases List.mem_cons.mp (List.mem_reverse.mp member) with rfl | earlier
      · simp
      · exact tail segment earlier
  | case3 kept last double single =>
      intro segment member
      rcases List.mem_cons.mp (List.mem_reverse.mp member) with rfl | earlier
      · simp
      · exact before segment earlier
  | case4 kept last double single =>
      intro segment member
      rcases List.mem_cons.mp (List.mem_reverse.mp member) with rfl | earlier
      · exact encoded_on_wire last (plain last List.mem_cons_self)
      · exact before segment earlier
  | case5 kept segment next rest double ih =>
      have later : ∀ other ∈ next :: rest, ∀ byte ∈ other, Url.slash byte = false :=
        fun other member => plain other (List.mem_cons_of_mem _ member)
      exact ih later tail fun other member => tail other (List.mem_of_mem_tail member)
  | case6 kept segment next rest double single ih =>
      have later : ∀ other ∈ next :: rest, ∀ byte ∈ other, Url.slash byte = false :=
        fun other member => plain other (List.mem_cons_of_mem _ member)
      exact ih later before tail
  | case7 kept segment next rest double single ih =>
      have later : ∀ other ∈ next :: rest, ∀ byte ∈ other, Url.slash byte = false :=
        fun other member => plain other (List.mem_cons_of_mem _ member)
      apply ih later
      · intro other member
        rcases List.mem_cons.mp member with rfl | earlier
        · exact encoded_on_wire segment (plain segment List.mem_cons_self)
        · exact before other earlier
      · exact before

theorem parsed_on_wire (text : Bytes) : ∀ segment ∈ Url.segmentsOf text, ∀ byte ∈ segment, onWire byte = true := by
  apply normalized_on_wire
  · intro segment member byte inside
    exact (Url.mem_splitOnP Url.slash text segment member byte inside).1
  · intro segment member
    cases member

def charOf (byte : UInt8) : Char :=
  Char.ofNat byte.toNat

theorem join_chars (segments : List Bytes) :
    (Url.join segments).map charOf = List.intercalate ['/'] (segments.map (List.map charOf)) := by
  induction segments with
  | nil => rfl
  | cons first rest ih =>
      cases rest with
      | nil => simp [Url.join]
      | cons second rest =>
          have slash : charOf 47 = '/' := rfl
          rw [Url.join_cons, List.map_append, List.map_cons, ih, slash]
          simp [List.intercalate_cons_cons]

theorem no_slash_char (segment : Bytes) (wire : ∀ byte ∈ segment, onWire byte = true) : '/' ∉ segment.map charOf := by
  have all : ∀ value : Fin 256, onWire (UInt8.ofFin value) = true → charOf (UInt8.ofFin value) ≠ '/' := by decide +kernel
  intro member
  obtain ⟨byte, inside, same⟩ := List.mem_map.mp member
  exact all byte.toFin (wire byte inside) same

theorem target_segments (segments : List Bytes) (nonempty : segments ≠ [])
    (wire : ∀ segment ∈ segments, ∀ byte ∈ segment, onWire byte = true) :
    segmentsOf (asciiText (47 :: Url.join segments)) = segments.map asciiText := by
  have whole : (asciiText (47 :: Url.join segments)).toList =
      List.intercalate ['/'] ([] :: segments.map (List.map charOf)) := by
    have slashed : 47 :: Url.join segments = Url.join ([] :: segments) := by
      cases segments with
      | nil => exact absurd rfl nonempty
      | cons first rest => rw [Url.join_cons, List.nil_append]
    have chars := join_chars ([] :: segments)
    rw [slashed, asciiText, String.toList_ofList]
    exact chars
  have pieces : (asciiText (47 :: Url.join segments)).toList.splitOn '/' = [] :: segments.map (List.map charOf) := by
    rw [whole]
    apply List.splitOn_intercalate
    · intro piece member
      rcases List.mem_cons.mp member with rfl | later
      · simp
      · obtain ⟨segment, inside, rfl⟩ := List.mem_map.mp later
        exact no_slash_char segment (wire segment inside)
    · exact List.cons_ne_nil _ _
  unfold segmentsOf
  rw [pieces]
  simp only [List.map_map]
  rfl

end Wire

section Reading

-- The raw segments match the pattern and its parameters decode to the values.
def Reads : List PatternPart → List String → List String → Prop
  | [], [], [] => True
  | .static text :: parts, raw :: segments, values => text = raw ∧ Reads parts segments values
  | .param _ :: parts, raw :: segments, value :: values =>
      ¬ (raw = "" ∧ segments = []) ∧ percentText raw = some value ∧ Reads parts segments values
  | _, _, _ => False

def restless (pattern : List PatternPart) : Bool :=
  pattern.all fun part => part.rank != 2

theorem reads_iff (pattern : List PatternPart) (plain : restless pattern = true) (segments values : List String) :
    readSegments pattern segments = some values ↔ Reads pattern segments values := by
  induction pattern generalizing segments values with
  | nil =>
      cases segments with
      | nil => cases values <;> simp [readSegments, matchParts, Reads]
      | cons raw segments => simp [readSegments, matchParts, Reads]
  | cons part parts ih =>
      have later : restless parts = true := by
        simp only [restless, List.all_cons, Bool.and_eq_true] at plain
        exact plain.2
      cases part with
      | static text =>
          cases segments with
          | nil => simp [readSegments, matchParts, Reads]
          | cons raw segments =>
              rw [Reads, ← ih later, readSegments, matchParts]
              by_cases same : text = raw
              · simp [same, readSegments]
              · simp [same]
      | param name =>
          cases segments with
          | nil => simp [readSegments, matchParts, Reads]
          | cons raw segments =>
              rw [readSegments, matchParts]
              by_cases blank : raw = "" ∧ segments = []
              · cases values <;> simp [blank, Reads]
              · rw [if_neg blank]
                cases values with
                | nil =>
                    simp only [Reads, iff_false]
                    intro read
                    simp [Option.bind_eq_some_iff] at read
                | cons value values =>
                    rw [Reads, ← ih later, readSegments]
                    simp only [blank, not_false_eq_true, true_and, Option.bind_map, Function.comp_def, List.mapM_cons]
                    cases matched : matchParts parts segments with
                    | none => simp
                    | some params => simp [Option.bind_eq_some_iff]
      | rest name => simp [restless, PatternPart.rank] at plain

-- A literal of a pattern reads the same in the page, on the wire and in the router.
structure Fixed (text : String) : Prop where
  plain : PlainSegment (Text.bytes text)
  kept : Percent.encode inPathSet (Text.bytes text) = Text.bytes text
  trimmed : trimmed (Text.bytes text)

instance (text : String) : Decidable (Fixed text) :=
  decidable_of_iff
    (PlainSegment (Text.bytes text) ∧ Percent.encode inPathSet (Text.bytes text) = Text.bytes text ∧
      trimmed (Text.bytes text))
    ⟨fun fixed => ⟨fixed.1, fixed.2.1, fixed.2.2⟩, fun fixed => ⟨fixed.plain, fixed.kept, fixed.trimmed⟩⟩

def literals (pattern : List PatternPart) : List String :=
  pattern.filterMap fun part =>
    match part with
    | .static text => some text
    | _ => none

def FixedLiterals (pattern : List PatternPart) : Prop :=
  ∀ text, .static text ∈ pattern → Fixed text

theorem routes_fixed (route : Route) (member : route ∈ routes) : FixedLiterals route.pattern := by
  have all : ∀ text ∈ routes.flatMap fun route => literals route.pattern, Fixed text := by decide +kernel
  intro text inside
  apply all text
  exact List.mem_flatMap.mpr ⟨route, member, List.mem_filterMap.mpr ⟨_, inside, rfl⟩⟩

theorem on_wire_small (segment : Bytes) (wire : ∀ byte ∈ segment, onWire byte = true) : ∀ byte ∈ segment, byte < 128 := by
  intro byte member
  have good := wire byte member
  simp only [onWire, Bool.and_eq_true, decide_eq_true_eq] at good
  exact good.2

theorem ascii_text_bytes (segment : Bytes) (wire : ∀ byte ∈ segment, onWire byte = true) :
    Text.bytes (asciiText segment) = segment :=
  Text.ascii_bytes segment (on_wire_small segment wire)

theorem percent_ascii_iff (segment : Bytes) (wire : ∀ byte ∈ segment, onWire byte = true) (value : String) :
    percentText (asciiText segment) = some value ↔ Percent.decode segment = Text.bytes value := by
  rw [percent_text_some, ascii_text_bytes segment wire]
  exact eq_comm

theorem plain_on_wire (segment : Bytes) (plain : PlainSegment segment) :
    ∀ byte ∈ Percent.encode inPathSet segment, onWire byte = true :=
  encoded_on_wire segment fun byte member => (plain.bytes byte member).1

theorem fixed_text (text : String) (fixed : Fixed text) :
    asciiText (Percent.encode inPathSet (Text.bytes text)) = text := by
  apply Text.bytes_injective
  rw [ascii_text_bytes _ (plain_on_wire _ fixed.plain), fixed.kept]

theorem reads_decoded (pattern : List PatternPart) (fixed : FixedLiterals pattern) (raw : List Bytes)
    (wire : ∀ segment ∈ raw, ∀ byte ∈ segment, onWire byte = true) (values : List String)
    (reads : Reads pattern (raw.map asciiText) values) :
    raw.map Percent.decode = (filled pattern values).map Text.bytes := by
  induction pattern generalizing raw values with
  | nil =>
      cases raw with
      | nil => rfl
      | cons segment raw => exact reads.elim
  | cons part parts ih =>
      have later : FixedLiterals parts := fun text member => fixed text (List.mem_cons_of_mem _ member)
      cases raw with
      | nil => cases part <;> exact reads.elim
      | cons segment raw =>
          have rest : ∀ other ∈ raw, ∀ byte ∈ other, onWire byte = true :=
            fun other member => wire other (List.mem_cons_of_mem _ member)
          have own := wire segment List.mem_cons_self
          cases part with
          | static text =>
              obtain ⟨rfl, others⟩ := reads
              have plain := (fixed _ List.mem_cons_self).plain
              rw [ascii_text_bytes segment own] at plain
              rw [List.map_cons, filled, List.map_cons, ascii_text_bytes segment own,
                Percent.decode_of_no_escape segment plain.unescaped, ih later raw rest values others]
          | param name =>
              cases values with
              | nil => exact reads.elim
              | cons value values =>
                  obtain ⟨_, decoded, others⟩ := reads
                  rw [List.map_cons, filled, List.map_cons, (percent_ascii_iff segment own value).mp decoded,
                    ih later raw rest values others]
          | rest name => exact reads.elim

theorem blank_not_read (raw : String) (read : percentText raw = some "") : raw = "" := by
  have decoded := (percent_text_some raw "").mp read
  by_contra nonblank
  have bytes : Text.bytes raw ≠ [] := by
    intro none
    exact nonblank (Text.bytes_injective raw "" none)
  have longer := Url.decode_nonempty (Text.bytes raw) bytes
  rw [← decoded] at longer
  simp [Text.bytes] at longer

def arity (pattern : List PatternPart) : Nat :=
  pattern.countP fun part => part.rank == 1

def Finished (pattern : List PatternPart) (values : List String) : Prop :=
  ∀ name, pattern.getLast? = some (.param name) → ∀ value, values.getLast? = some value →
    value ≠ "" ∧ trimmed (Text.bytes value)

@[simp] theorem arity_static (text : String) (parts : List PatternPart) : arity (.static text :: parts) = arity parts := rfl

@[simp] theorem arity_param (name : String) (parts : List PatternPart) :
    arity (.param name :: parts) = arity parts + 1 := by
  simp [arity, PatternPart.rank]

theorem restless_tail (part : PatternPart) (parts : List PatternPart) (plain : restless (part :: parts) = true) :
    restless parts = true := by
  simp only [restless, List.all_cons, Bool.and_eq_true] at plain
  exact plain.2

theorem filled_length (pattern : List PatternPart) (plain : restless pattern = true) (values : List String)
    (fits : values.length = arity pattern) : (filled pattern values).length = pattern.length := by
  induction pattern generalizing values with
  | nil => rfl
  | cons part parts ih =>
      have later := restless_tail part parts plain
      cases part with
      | static text => rw [filled, List.length_cons, List.length_cons, ih later values fits]
      | param name =>
          cases values with
          | nil => simp at fits
          | cons value values =>
              rw [filled, List.length_cons, List.length_cons, ih later values (by simpa using fits)]
      | rest name => simp [restless, PatternPart.rank] at plain

theorem filled_nonempty (pattern : List PatternPart) (plain : restless pattern = true) (nonempty : pattern ≠ [])
    (values : List String) (fits : values.length = arity pattern) : filled pattern values ≠ [] := by
  intro none
  have lengths := filled_length pattern plain values fits
  rw [none] at lengths
  exact nonempty (List.eq_nil_of_length_eq_zero lengths.symm)

theorem mem_filled (pattern : List PatternPart) (values : List String) (segment : String)
    (member : segment ∈ filled pattern values) : .static segment ∈ pattern ∨ segment ∈ values := by
  induction pattern generalizing values with
  | nil => cases member
  | cons part parts ih =>
      cases part with
      | static text =>
          rcases List.mem_cons.mp member with rfl | later
          · exact Or.inl List.mem_cons_self
          · exact (ih values later).imp_left (List.mem_cons_of_mem _)
      | param name =>
          cases values with
          | nil => cases member
          | cons value values =>
              rcases List.mem_cons.mp member with rfl | later
              · exact Or.inr List.mem_cons_self
              · exact (ih values later).imp (List.mem_cons_of_mem _) (List.mem_cons_of_mem _)
      | rest name => cases member

theorem values_filled (pattern : List PatternPart) (plain : restless pattern = true) (values : List String)
    (fits : values.length = arity pattern) (value : String) (member : value ∈ values) :
    value ∈ filled pattern values := by
  induction pattern generalizing values with
  | nil =>
      have none : values = [] := List.eq_nil_of_length_eq_zero fits
      rw [none] at member
      cases member
  | cons part parts ih =>
      have later := restless_tail part parts plain
      cases part with
      | static text => exact List.mem_cons_of_mem _ (ih later values fits member)
      | param name =>
          cases values with
          | nil => cases member
          | cons first values =>
              rcases List.mem_cons.mp member with rfl | among
              · exact List.mem_cons_self
              · exact List.mem_cons_of_mem _ (ih later values (by simpa using fits) among)
      | rest name => simp [restless, PatternPart.rank] at plain

theorem last_of_cons {α : Type} (first : α) (rest : List α) (nonempty : rest ≠ []) :
    (first :: rest).getLast? = rest.getLast? := by
  cases rest with
  | nil => exact absurd rfl nonempty
  | cons second rest => exact List.getLast?_cons_cons

theorem filled_last (pattern : List PatternPart) (plain : restless pattern = true) (values : List String)
    (fits : values.length = arity pattern) (segment : String) (last : (filled pattern values).getLast? = some segment) :
    pattern.getLast? = some (.static segment) ∨
      ∃ name, pattern.getLast? = some (.param name) ∧ values.getLast? = some segment := by
  induction pattern generalizing values with
  | nil => cases last
  | cons part parts ih =>
      have later := restless_tail part parts plain
      by_cases single : parts = []
      · subst single
        cases part with
        | static text =>
            simp only [filled, List.getLast?_singleton, Option.some.injEq] at last
            exact Or.inl (by rw [last]; rfl)
        | param name =>
            cases values with
            | nil => simp at fits
            | cons value values =>
                have none : values = [] := List.eq_nil_of_length_eq_zero (by simpa [arity, PatternPart.rank] using fits)
                subst none
                exact Or.inr ⟨name, rfl, last⟩
        | rest name => simp [restless, PatternPart.rank] at plain
      · rw [last_of_cons part parts single]
        cases part with
        | static text =>
            rw [filled, last_of_cons _ _ (filled_nonempty parts later single values fits)] at last
            exact ih later values fits last
        | param name =>
            cases values with
            | nil => simp at fits
            | cons value values =>
                have fewer : values.length = arity parts := by simpa using fits
                rw [filled, last_of_cons _ _ (filled_nonempty parts later single values fewer)] at last
                rcases ih later values fewer last with literal | ⟨other, ends, final⟩
                · exact Or.inl literal
                · have some : values ≠ [] := by
                    rintro rfl
                    cases final
                  exact Or.inr ⟨other, ends, by rw [last_of_cons value values some, final]⟩
        | rest name => simp [restless, PatternPart.rank] at plain

theorem reads_length (pattern : List PatternPart) (segments values : List String) (reads : Reads pattern segments values) :
    values.length = arity pattern := by
  induction pattern generalizing segments values with
  | nil =>
      cases segments <;> cases values <;> first | rfl | exact reads.elim
  | cons part parts ih =>
      cases segments with
      | nil => cases part <;> exact reads.elim
      | cons raw segments =>
          cases part with
          | static text => exact ih segments values reads.2
          | param name =>
              cases values with
              | nil => exact reads.elim
              | cons value values => rw [List.length_cons, arity_param, ih segments values reads.2.2]
          | rest name => exact reads.elim

theorem arity_last (pattern : List PatternPart) (name : String) (ends : pattern.getLast? = some (.param name)) :
    0 < arity pattern :=
  List.countP_pos_iff.mpr ⟨.param name, List.mem_of_getLast? ends, rfl⟩

theorem reads_nonblank (pattern : List PatternPart) (segments values : List String) (reads : Reads pattern segments values)
    (name : String) (ends : pattern.getLast? = some (.param name)) : values.getLast? ≠ some "" := by
  induction pattern generalizing segments values with
  | nil => cases ends
  | cons part parts ih =>
      cases segments with
      | nil => cases part <;> exact reads.elim
      | cons raw segments =>
          cases part with
          | static text =>
              have more : parts ≠ [] := by
                rintro rfl
                cases ends
              rw [last_of_cons _ parts more] at ends
              exact ih segments values reads.2 ends
          | param own =>
              cases values with
              | nil => exact reads.elim
              | cons value values =>
                  obtain ⟨nonblank, decoded, others⟩ := reads
                  by_cases single : parts = []
                  · subst single
                    cases segments with
                    | cons next rest => exact others.elim
                    | nil =>
                        cases values with
                        | cons next rest => exact others.elim
                        | nil =>
                            intro blank
                            cases blank
                            exact nonblank ⟨blank_not_read raw decoded, rfl⟩
                  · rw [last_of_cons _ parts single] at ends
                    have some : values ≠ [] := by
                      rintro rfl
                      have count := reads_length parts segments [] others
                      have counted := arity_last parts name ends
                      rw [← count] at counted
                      exact absurd counted (Nat.lt_irrefl 0)
                    rw [last_of_cons value values some]
                    exact ih segments values others ends
          | rest own => exact reads.elim

theorem parsed_plain (segments : List Bytes) (nonempty : segments ≠ [])
    (plain : ∀ segment ∈ segments, PlainSegment segment) (closed : trimmed (Url.join segments)) :
    Url.segmentsOf (Url.pathText (Url.tidy (Url.written segments none))) =
      segments.map (Percent.encode inPathSet) := by
  rw [Url.path_text_plain segments none (Url.path_text_bytes segments plain) fun _ => closed, Url.segmentsOf,
    Url.splitOnP_join segments nonempty fun segment member byte inside => ((plain segment member).bytes byte inside).1,
    Url.normalize_plain [] segments fun segment member => ⟨(plain segment member).single, (plain segment member).double⟩,
    List.reverse_nil, List.nil_append]

theorem plain_reads (pattern : List PatternPart) (plain : restless pattern = true) (fixed : FixedLiterals pattern)
    (values : List String) (fits : values.length = arity pattern)
    (valuesPlain : ∀ value ∈ values, PlainSegment (Text.bytes value))
    (nonblank : ∀ name, pattern.getLast? = some (.param name) → values.getLast? ≠ some "") :
    Reads pattern ((((filled pattern values).map Text.bytes).map (Percent.encode inPathSet)).map asciiText) values := by
  induction pattern generalizing values with
  | nil =>
      have none : values = [] := List.eq_nil_of_length_eq_zero fits
      rw [none]
      trivial
  | cons part parts ih =>
      have later := restless_tail part parts plain
      have others : FixedLiterals parts := fun text member => fixed text (List.mem_cons_of_mem _ member)
      cases part with
      | static text =>
          refine ⟨(fixed_text text (fixed text List.mem_cons_self)).symm, ?_⟩
          apply ih later others values fits valuesPlain
          intro name ends
          apply nonblank name
          rw [last_of_cons _ parts (by rintro rfl; cases ends), ends]
      | param own =>
          cases values with
          | nil => simp at fits
          | cons value values =>
              have fewer : values.length = arity parts := by simpa using fits
              have valuePlain := valuesPlain value List.mem_cons_self
              have decoded : Percent.decode (Percent.encode inPathSet (Text.bytes value)) = Text.bytes value := by
                rw [Url.decode_path, Percent.decode_of_no_escape _ valuePlain.unescaped]
              refine ⟨?_, ?_, ?_⟩
              · rintro ⟨blank, none⟩
                have single : parts = [] := by
                  by_contra more
                  have filledMore := filled_nonempty parts later more values fewer
                  exact filledMore (by simpa using none)
                subst single
                have valueBlank : value = "" := by
                  apply Text.bytes_injective
                  rw [← decoded, ← ascii_text_bytes _ (plain_on_wire _ valuePlain), blank]
                  rfl
                have last : values = [] := List.eq_nil_of_length_eq_zero fewer
                subst last
                exact nonblank own rfl (by rw [valueBlank]; rfl)
              · rw [percent_ascii_iff _ (plain_on_wire _ valuePlain), decoded]
              · apply ih later others values fewer fun other member => valuesPlain other (List.mem_cons_of_mem _ member)
                intro name ends
                have more : parts ≠ [] := by
                  rintro rfl
                  cases ends
                have some : values ≠ [] := by
                  rintro rfl
                  have counted := arity_last parts name ends
                  rw [← fewer] at counted
                  exact absurd counted (Nat.lt_irrefl 0)
                rw [← last_of_cons value values some]
                exact nonblank name (by rw [last_of_cons _ parts more, ends])
      | rest name => simp [restless, PatternPart.rank] at plain

theorem template_bytes (pattern : List PatternPart) (values : List String) :
    Text.bytes (templatePath pattern values) = 47 :: Url.written ((filled pattern values).map Text.bytes) none := by
  have slash : Text.bytes "/" = [47] := by decide
  rw [templatePath, Text.bytes_append, slash, Proxmox.ProxmoxCall.bytes_spelled]
  rfl

theorem normalize_nonempty (kept raw : List Bytes) (nonempty : raw ≠ []) : Url.normalize kept raw ≠ [] := by
  fun_induction Url.normalize kept raw with
  | case1 kept => exact absurd rfl nonempty
  | case2 kept last double => simp
  | case3 kept last double single => simp
  | case4 kept last double single => simp
  | case5 kept segment next rest double ih => exact ih (List.cons_ne_nil _ _)
  | case6 kept segment next rest double single ih => exact ih (List.cons_ne_nil _ _)
  | case7 kept segment next rest double single ih => exact ih (List.cons_ne_nil _ _)

def sentSegments (pattern : List PatternPart) (values : List String) : List Bytes :=
  Url.segmentsOf (Url.pathText (Url.tidy (Url.written ((filled pattern values).map Text.bytes) none)))

theorem template_sent (origin : Url.Origin) (pattern : List PatternPart) (values : List String) :
    requestTarget origin (templatePath pattern values) =
      some (asciiText (47 :: Url.join (sentSegments pattern values))) := by
  rw [requestTarget, template_bytes, Url.parse_origin]
  rfl

theorem sent_segments (pattern : List PatternPart) (values : List String) :
    segmentsOf (asciiText (47 :: Url.join (sentSegments pattern values))) = (sentSegments pattern values).map asciiText :=
  target_segments _ (normalize_nonempty _ _ (List.splitOnP_ne_nil _ _)) (parsed_on_wire _)

end Reading

section RoundTrip

variable (origin : Url.Origin) (pattern : List PatternPart) (values : List String)

def Arrives : Prop :=
  (requestTarget origin (templatePath pattern values)).bind (readParams pattern) = some values

theorem plain_sent (nonempty : pattern ≠ []) (plain : restless pattern = true) (fixed : FixedLiterals pattern)
    (fits : values.length = arity pattern) (valuesPlain : ∀ value ∈ values, PlainSegment (Text.bytes value))
    (finished : Finished pattern values) :
    sentSegments pattern values = ((filled pattern values).map Text.bytes).map (Percent.encode inPathSet) := by
  have written : (filled pattern values).map Text.bytes ≠ [] := by
    simpa using filled_nonempty pattern plain nonempty values fits
  have segmentsPlain : ∀ segment ∈ (filled pattern values).map Text.bytes, PlainSegment segment := by
    intro segment member
    obtain ⟨text, inside, rfl⟩ := List.mem_map.mp member
    rcases mem_filled pattern values text inside with literal | value
    · exact (fixed text literal).plain
    · exact valuesPlain text value
  apply parsed_plain _ written segmentsPlain
  rw [Url.trimmed_join_iff _ written]
  have final := List.getLast?_eq_some_getLast written
  rw [List.getLast?_map, Option.map_eq_some_iff] at final
  obtain ⟨segment, lastSegment, same⟩ := final
  rw [← same]
  rcases filled_last pattern plain values fits segment lastSegment with literal | ⟨name, ends, last⟩
  · exact (fixed segment (List.mem_of_getLast? literal)).trimmed
  · exact (finished name ends segment last).2

theorem arrives_reads (plain : restless pattern = true) :
    Arrives origin pattern values ↔ Reads pattern ((sentSegments pattern values).map asciiText) values := by
  rw [Arrives, template_sent, Option.bind_some, readParams, sent_segments, reads_iff pattern plain]

-- Only plain values come through, and a parameter at the end must not be empty or end in what is
-- trimmed off.
theorem template_arrives_iff (nonempty : pattern ≠ []) (plain : restless pattern = true)
    (fixed : FixedLiterals pattern) (fits : values.length = arity pattern) :
    Arrives origin pattern values ↔
      (∀ value ∈ values, PlainSegment (Text.bytes value)) ∧ Finished pattern values := by
  have written : (filled pattern values).map Text.bytes ≠ [] := by
    simpa using filled_nonempty pattern plain nonempty values fits
  rw [arrives_reads origin pattern values plain]
  refine ⟨?_, ?_⟩
  · intro reads
    have whole := reads_decoded pattern fixed _ (parsed_on_wire _) values reads
    obtain ⟨segmentsPlain, closed⟩ := (Url.segments_of_written_iff _ written none).mp whole
    refine ⟨?_, ?_⟩
    · intro value member
      exact segmentsPlain _ (List.mem_map_of_mem (values_filled pattern plain values fits value member))
    · intro name ends value last
      refine ⟨?_, ?_⟩
      · rintro rfl
        exact reads_nonblank pattern _ values reads name ends last
      · have trims := (Url.trimmed_join_iff _ written).mp (closed rfl)
        have final := List.getLast?_eq_some_getLast written
        rw [List.getLast?_map, Option.map_eq_some_iff] at final
        obtain ⟨segment, lastSegment, same⟩ := final
        rw [← same] at trims
        rcases filled_last pattern plain values fits segment lastSegment with literal | ⟨other, _, lastValue⟩
        · rw [ends] at literal
          cases literal
        · rw [last] at lastValue
          cases lastValue
          exact trims
  · rintro ⟨valuesPlain, finished⟩
    rw [plain_sent pattern values nonempty plain fixed fits valuesPlain finished]
    apply plain_reads pattern plain fixed values fits valuesPlain
    intro name ends blank
    exact (finished name ends "" blank).1 rfl

end RoundTrip

section Choice

def couldMatch : List PatternPart → List (String → Bool) → Bool
  | [], [] => true
  | .static text :: parts, known :: rest => known text && couldMatch parts rest
  | .param _ :: parts, _ :: rest => couldMatch parts rest
  | [.rest _], _ => true
  | _, _ => false

theorem match_could (pattern : List PatternPart) (segments : List String) (params : PathParams)
    (matched : matchParts pattern segments = some params) (known : List (String → Bool))
    (agrees : List.Forall₂ (fun known segment => known segment = true) known segments) :
    couldMatch pattern known = true := by
  induction pattern generalizing segments params known with
  | nil =>
      cases segments with
      | nil =>
          cases agrees
          rfl
      | cons segment segments => cases matched
  | cons part parts ih =>
      cases part with
      | static text =>
          obtain ⟨rest, rfl, later⟩ := match_static text parts segments params matched
          cases agrees with
          | cons own others => simp only [couldMatch, own, ih rest params later _ others, Bool.and_self]
      | param name =>
          cases segments with
          | nil => cases matched
          | cons segment segments =>
              rw [matchParts] at matched
              split at matched
              · cases matched
              · obtain ⟨rest, later, _⟩ := Option.map_eq_some_iff.mp matched
                cases agrees with
                | cons own others => exact ih segments rest later _ others
      | rest name =>
          cases parts with
          | nil => rfl
          | cons next parts => cases segments <;> cases matched

def beats (first second : List PatternPart) : Bool :=
  preferred first second && !preferred second first

theorem better_chosen (found : List (Route × PathParams)) (chosen : Route × PathParams)
    (wins : ∀ other ∈ found, other = chosen ∨ beats chosen.1.pattern other.1.pattern = true)
    (best : Option (Route × PathParams))
    (before : best = some chosen ∨ chosen ∈ found ∧ ∀ other, best = some other →
      beats chosen.1.pattern other.1.pattern = true) : found.foldl better best = some chosen := by
  induction found generalizing best with
  | nil => exact before.resolve_right fun later => by cases later.1
  | cons next rest ih =>
      apply ih fun other member => wins other (List.mem_cons_of_mem _ member)
      have winsNext := wins next List.mem_cons_self
      rcases before with rfl | ⟨member, loses⟩
      · left
        rcases winsNext with rfl | beaten
        · simp [better]
        · simp only [beats, Bool.and_eq_true, Bool.not_eq_true'] at beaten
          simp [better, beaten.2]
      · by_cases same : next = chosen
        · left
          subst same
          cases best with
          | none => rfl
          | some other =>
              have beaten := loses other rfl
              simp only [beats, Bool.and_eq_true] at beaten
              simp [better, beaten.1]
        · right
          have beaten := winsNext.resolve_left same
          refine ⟨(List.mem_cons.mp member).resolve_left fun equal => same equal.symm, ?_⟩
          intro other held
          cases best with
          | none =>
              cases held
              exact beaten
          | some earlier =>
              rw [better] at held
              split at held <;> cases held
              · exact beaten
              · exact loses _ rfl

-- The router takes this route when every other one that could match is beaten by it.
theorem find_route_chosen (path : String) (route : Route) (member : route ∈ routes) (params : PathParams)
    (matched : matchParts route.pattern (segmentsOf path) = some params) (known : List (String → Bool))
    (agrees : List.Forall₂ (fun known segment => known segment = true) known (segmentsOf path))
    (wins : ∀ other ∈ routes, couldMatch other.pattern known = true →
      other = route ∨ beats route.pattern other.pattern = true) : findRoute path routes = some (route, params) := by
  unfold findRoute
  apply better_chosen
  · intro other inCandidates
    obtain ⟨candidate, inRoutes, found⟩ := List.mem_filterMap.mp inCandidates
    obtain ⟨values, itself, rfl⟩ := Option.map_eq_some_iff.mp found
    refine (wins candidate inRoutes (match_could _ _ _ itself known agrees)).imp_left ?_
    rintro rfl
    rw [matched] at itself
    cases itself
    rfl
  · refine Or.inr ⟨List.mem_filterMap.mpr ⟨route, member, by rw [matched]; rfl⟩, ?_⟩
    intro other impossible
    cases impossible

end Choice

end Moxui.Ui
