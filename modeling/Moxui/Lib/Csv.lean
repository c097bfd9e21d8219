import Mathlib.Data.List.Basic

set_option autoImplicit false

-- Comma-separated values: a grammar of files with quoted fields, for the line breaks and the plain
-- text that a reader takes, and how long a text is at least that reads as given records.
namespace Csv

structure Dialect where
  isText : Char → Bool
  breaks : List (List Char)
  plain : ∀ char, isText char = true → char ≠ ',' ∧ char ≠ '"' ∧ char ≠ '\r' ∧ char ≠ '\n'
  lines : ∀ line ∈ breaks, line = ['\n'] ∨ line = ['\r', '\n']

def doubled : List Char → List Char
  | [] => []
  | char :: rest => if char = '"' then '"' :: '"' :: doubled rest else char :: doubled rest

def quoted (value : List Char) : List Char :=
  '"' :: doubled value ++ ['"']

section Grammar

variable (dialect : Dialect)

def Quotable (value : List Char) : Prop :=
  ∀ char ∈ value, dialect.isText char = true ∨ char = ',' ∨ char = '"' ∨ char = '\r' ∨ char = '\n'

inductive Field : List Char → List Char → Prop where
  | plain (value : List Char) (text : ∀ char ∈ value, dialect.isText char = true) : Field value value
  | escaped (value : List Char) (inside : Quotable dialect value) : Field value (quoted value)

inductive Record : List (List Char) → List Char → Prop where
  | one (value chars : List Char) (field : Field dialect value chars) : Record [value] chars
  | more (value chars : List Char) (values : List (List Char)) (rest : List Char) (field : Field dialect value chars)
      (record : Record values rest) : Record (value :: values) (chars ++ ',' :: rest)

-- The last record may have a line break after it.
inductive File : List (List (List Char)) → List Char → Prop where
  | last (values : List (List Char)) (chars : List Char) (record : Record dialect values chars) : File [values] chars
  | ended (values : List (List Char)) (chars line : List Char) (record : Record dialect values chars)
      (isBreak : line ∈ dialect.breaks) : File [values] (chars ++ line)
  | more (values : List (List Char)) (chars line : List Char) (records : List (List (List Char))) (rest : List Char)
      (record : Record dialect values chars) (isBreak : line ∈ dialect.breaks) (file : File records rest) :
      File (values :: records) (chars ++ (line ++ rest))

def Reads (records : List (List (List Char))) (chars : List Char) : Prop :=
  File dialect records chars ∧ ∀ others, File dialect others chars → others = records

end Grammar

section Unique

variable {dialect : Dialect}

def AfterField (rest : List Char) : Prop :=
  ∀ char ∈ rest.head?, char = ',' ∨ char = '\r' ∨ char = '\n'

def AfterRecord (rest : List Char) : Prop :=
  ∀ char ∈ rest.head?, char = '\r' ∨ char = '\n'

theorem AfterRecord.field {rest : List Char} (after : AfterRecord rest) : AfterField rest :=
  fun char first => Or.inr (after char first)

theorem after_break (line rest : List Char) (isBreak : line ∈ dialect.breaks) : AfterRecord (line ++ rest) := by
  intro char first
  rcases dialect.lines line isBreak with rfl | rfl
  · exact Or.inr (Option.some.inj first).symm
  · exact Or.inl (Option.some.inj first).symm

theorem text_not_after (char : Char) (rest : List Char) (text : dialect.isText char = true) : ¬AfterField (char :: rest) := by
  intro after
  have plain := dialect.plain char text
  rcases after char rfl with comma | return_ | feed
  · exact plain.1 comma
  · exact plain.2.2.1 return_
  · exact plain.2.2.2 feed

theorem plain_unique (first second rest other : List Char) (firstText : ∀ char ∈ first, dialect.isText char = true)
    (secondText : ∀ char ∈ second, dialect.isText char = true) (after : AfterField rest) (afterOther : AfterField other)
    (same : first ++ rest = second ++ other) : first = second ∧ rest = other := by
  induction first generalizing second with
  | nil =>
      cases second with
      | nil => exact ⟨rfl, same⟩
      | cons char second =>
          rw [List.nil_append] at same
          rw [same] at after
          exact absurd after (text_not_after char _ (secondText char List.mem_cons_self))
  | cons char first ih =>
      cases second with
      | nil =>
          rw [List.nil_append] at same
          rw [← same] at afterOther
          exact absurd afterOther (text_not_after char _ (firstText char List.mem_cons_self))
      | cons head second =>
          obtain ⟨rfl, tails⟩ := List.cons.inj same
          obtain ⟨rfl, rests⟩ := ih second (fun c member => firstText c (List.mem_cons_of_mem _ member))
            (fun c member => secondText c (List.mem_cons_of_mem _ member)) tails
          exact ⟨rfl, rests⟩

theorem doubled_unique (first second rest other : List Char) (after : rest.head? ≠ some '"')
    (afterOther : other.head? ≠ some '"') (same : doubled first ++ '"' :: rest = doubled second ++ '"' :: other) :
    first = second ∧ rest = other := by
  induction first generalizing second with
  | nil =>
      cases second with
      | nil => exact ⟨rfl, (List.cons.inj same).2⟩
      | cons char second =>
          by_cases quote : char = '"'
          · rw [doubled, doubled, if_pos quote] at same
            have tails := (List.cons.inj same).2
            rw [tails] at after
            exact absurd rfl after
          · rw [doubled, doubled, if_neg quote] at same
            exact absurd (List.cons.inj same).1.symm quote
  | cons char first ih =>
      cases second with
      | nil =>
          by_cases quote : char = '"'
          · rw [doubled, doubled, if_pos quote] at same
            have tails := (List.cons.inj same).2
            rw [← tails] at afterOther
            exact absurd rfl afterOther
          · rw [doubled, doubled, if_neg quote] at same
            exact absurd (List.cons.inj same).1 quote
      | cons head second =>
          by_cases quote : char = '"'
          · by_cases headQuote : head = '"'
            · rw [doubled, doubled, if_pos quote, if_pos headQuote] at same
              obtain ⟨rfl, rests⟩ := ih second (List.cons.inj (List.cons.inj same).2).2
              exact ⟨by rw [quote, headQuote], rests⟩
            · rw [doubled, doubled, if_pos quote, if_neg headQuote] at same
              exact absurd (List.cons.inj same).1.symm headQuote
          · by_cases headQuote : head = '"'
            · rw [doubled, doubled, if_neg quote, if_pos headQuote] at same
              exact absurd (List.cons.inj same).1 quote
            · rw [doubled, doubled, if_neg quote, if_neg headQuote] at same
              obtain ⟨heads, tails⟩ := List.cons.inj same
              obtain ⟨rfl, rests⟩ := ih second tails
              exact ⟨by rw [heads], rests⟩

theorem AfterField.no_quote {rest : List Char} (after : AfterField rest) : rest.head? ≠ some '"' := by
  intro quote
  rcases after '"' quote with comma | return_ | feed
  · exact absurd comma (by decide)
  · exact absurd return_ (by decide)
  · exact absurd feed (by decide)

theorem plain_not_quoted (first second rest other : List Char) (text : ∀ char ∈ first, dialect.isText char = true)
    (after : AfterField rest) : first ++ rest ≠ quoted second ++ other := by
  intro same
  cases first with
  | nil =>
      rw [List.nil_append] at same
      rw [same] at after
      exact after.no_quote rfl
  | cons char first => exact (dialect.plain char (text char List.mem_cons_self)).2.1 (List.cons.inj same).1

theorem field_unique (first second chars others rest other : List Char) (field : Field dialect first chars)
    (otherField : Field dialect second others) (after : AfterField rest) (afterOther : AfterField other)
    (same : chars ++ rest = others ++ other) : first = second ∧ rest = other := by
  cases field with
  | plain text =>
      cases otherField with
      | plain otherText => exact plain_unique first second rest other text otherText after afterOther same
      | escaped _ => exact absurd same (plain_not_quoted first second rest other text after)
  | escaped _ =>
      cases otherField with
      | plain otherText => exact absurd same.symm (plain_not_quoted second first other rest otherText afterOther)
      | escaped _ =>
          rw [quoted, quoted, List.cons_append, List.cons_append, List.append_assoc, List.append_assoc] at same
          exact doubled_unique first second rest other after.no_quote afterOther.no_quote (List.cons.inj same).2

theorem after_comma (rest : List Char) : AfterField (',' :: rest) :=
  fun _ first => Or.inl (Option.some.inj first).symm

theorem comma_not_after (rest : List Char) : ¬AfterRecord (',' :: rest) := by
  intro after
  rcases after ',' rfl with return_ | feed
  · exact absurd return_ (by decide)
  · exact absurd feed (by decide)

theorem record_unique (values others : List (List Char)) (chars otherChars rest other : List Char)
    (record : Record dialect values chars) (otherRecord : Record dialect others otherChars) (after : AfterRecord rest)
    (afterOther : AfterRecord other) (same : chars ++ rest = otherChars ++ other) : values = others ∧ rest = other := by
  induction record generalizing others otherChars with
  | one value chars field =>
      cases otherRecord with
      | one second _ otherField =>
          obtain ⟨rfl, rests⟩ := field_unique _ _ _ _ _ _ field otherField after.field afterOther.field same
          exact ⟨rfl, rests⟩
      | more second secondChars seconds secondRest otherField _ =>
          rw [List.append_assoc] at same
          obtain ⟨_, rests⟩ := field_unique _ _ _ _ _ _ field otherField after.field (after_comma _) same
          rw [rests] at after
          exact absurd after (comma_not_after _)
  | more value chars values tail field _ ih =>
      rw [List.append_assoc] at same
      cases otherRecord with
      | one second _ otherField =>
          obtain ⟨_, rests⟩ := field_unique _ _ _ _ _ _ field otherField (after_comma _) afterOther.field same
          rw [← rests] at afterOther
          exact absurd afterOther (comma_not_after _)
      | more second secondChars seconds secondRest otherField laterRecord =>
          rw [List.append_assoc] at same
          obtain ⟨rfl, rests⟩ := field_unique _ _ _ _ _ _ field otherField (after_comma _) (after_comma _) same
          obtain ⟨rfl, ends⟩ := ih seconds secondRest laterRecord (List.cons.inj rests).2
          exact ⟨rfl, ends⟩

theorem record_nil (values : List (List Char)) (record : Record dialect values []) : values = [[]] := by
  generalize isNil : ([] : List Char) = chars at record
  cases record with
  | one value _ field =>
      cases field with
      | plain text => rfl
      | escaped _ => cases isNil
  | more value chars values rest _ _ => exact absurd (List.append_eq_nil_iff.mp isNil.symm).2 (List.cons_ne_nil _ _)

theorem break_ne_nil (line : List Char) (isBreak : line ∈ dialect.breaks) : line ≠ [] := by
  rcases dialect.lines line isBreak with rfl | rfl
  · exact List.cons_ne_nil _ _
  · exact List.cons_ne_nil _ _

theorem file_nil (records : List (List (List Char))) (file : File dialect records []) : records = [[[]]] := by
  generalize isNil : ([] : List Char) = chars at file
  cases file with
  | last values _ record =>
      subst isNil
      rw [record_nil values record]
  | ended values chars line _ isBreak => exact absurd (List.append_eq_nil_iff.mp isNil.symm).2 (break_ne_nil line isBreak)
  | more values chars line records rest _ isBreak _ =>
      have empty := (List.append_eq_nil_iff.mp (List.append_eq_nil_iff.mp isNil.symm).2).1
      exact absurd empty (break_ne_nil line isBreak)

theorem break_unique (first second rest other : List Char) (isFirst : first ∈ dialect.breaks) (isSecond : second ∈ dialect.breaks)
    (same : first ++ rest = second ++ other) : rest = other := by
  rcases dialect.lines first isFirst with rfl | rfl
  · rcases dialect.lines second isSecond with rfl | rfl
    · exact (List.cons.inj same).2
    · exact absurd (List.cons.inj same).1 (by decide)
  · rcases dialect.lines second isSecond with rfl | rfl
    · exact absurd (List.cons.inj same).1 (by decide)
    · exact (List.cons.inj (List.cons.inj same).2).2

theorem last_not_ended (values others : List (List Char)) (chars otherChars line rest : List Char)
    (record : Record dialect values chars) (otherRecord : Record dialect others otherChars) (isBreak : line ∈ dialect.breaks) :
    chars ≠ otherChars ++ (line ++ rest) := by
  intro same
  have atEnd : AfterRecord ([] : List Char) := nofun
  rw [← List.append_nil chars] at same
  have none := (record_unique _ _ _ _ _ _ record otherRecord atEnd (after_break line rest isBreak) same).2
  exact break_ne_nil line isBreak (List.append_eq_nil_iff.mp none.symm).1

theorem ended_unique (values others : List (List Char)) (chars otherChars line other rest otherRest : List Char)
    (record : Record dialect values chars) (otherRecord : Record dialect others otherChars) (isBreak : line ∈ dialect.breaks)
    (otherBreak : other ∈ dialect.breaks) (same : chars ++ (line ++ rest) = otherChars ++ (other ++ otherRest)) :
    values = others ∧ rest = otherRest := by
  obtain ⟨rfl, lines⟩ := record_unique _ _ _ _ _ _ record otherRecord (after_break line rest isBreak)
    (after_break other otherRest otherBreak) same
  exact ⟨rfl, break_unique line other rest otherRest isBreak otherBreak lines⟩

-- Two readings differ at most by a last record that is one empty field.
theorem file_unique (records others : List (List (List Char))) (chars : List Char) (file : File dialect records chars)
    (otherFile : File dialect others chars) :
    records = others ∨ records = others ++ [[[]]] ∨ others = records ++ [[[]]] := by
  have atEnd : AfterRecord ([] : List Char) := nofun
  induction file generalizing others with
  | last values chars record =>
      generalize isChars : chars = whole at otherFile
      cases otherFile with
      | last others _ otherRecord =>
          rw [← List.append_nil chars, ← List.append_nil whole] at isChars
          rw [(record_unique _ _ _ _ _ _ record otherRecord atEnd atEnd isChars).1]
          exact Or.inl rfl
      | ended others otherChars line otherRecord isBreak =>
          rw [← List.append_nil line] at isChars
          exact absurd isChars (last_not_ended _ _ _ _ line [] record otherRecord isBreak)
      | more others otherChars line records rest otherRecord isBreak _ =>
          exact absurd isChars (last_not_ended _ _ _ _ line rest record otherRecord isBreak)
  | ended values chars line record isBreak =>
      rw [← List.append_nil line] at otherFile
      generalize isChars : chars ++ (line ++ []) = whole at otherFile
      cases otherFile with
      | last others _ otherRecord =>
          exact absurd isChars.symm (last_not_ended _ _ _ _ line [] otherRecord record isBreak)
      | ended others otherChars other otherRecord otherBreak =>
          rw [← List.append_nil other] at isChars
          rw [(ended_unique _ _ _ _ line other [] [] record otherRecord isBreak otherBreak isChars).1]
          exact Or.inl rfl
      | more others otherChars other records rest otherRecord otherBreak later =>
          obtain ⟨rfl, nothing⟩ := ended_unique _ _ _ _ line other [] rest record otherRecord isBreak otherBreak isChars
          subst nothing
          rw [file_nil records later]
          exact Or.inr (Or.inr rfl)
  | more values chars line records rest record isBreak file ih =>
      generalize isChars : chars ++ (line ++ rest) = whole at otherFile
      cases otherFile with
      | last others _ otherRecord =>
          exact absurd isChars.symm (last_not_ended _ _ _ _ line rest otherRecord record isBreak)
      | ended others otherChars other otherRecord otherBreak =>
          rw [← List.append_nil other] at isChars
          obtain ⟨rfl, nothing⟩ := ended_unique _ _ _ _ line other rest [] record otherRecord isBreak otherBreak isChars
          subst nothing
          rw [file_nil records file]
          exact Or.inr (Or.inl rfl)
      | more others otherChars other otherRecords otherRest otherRecord otherBreak later =>
          obtain ⟨rfl, rests⟩ := ended_unique _ _ _ _ line other rest otherRest record otherRecord isBreak otherBreak isChars
          subst rests
          rcases ih otherRecords later with equal | longer | shorter
          · exact Or.inl (by rw [equal])
          · exact Or.inr (Or.inl (by rw [longer, List.cons_append]))
          · exact Or.inr (Or.inr (by rw [shorter, List.cons_append]))

end Unique

section Joining

variable {α : Type}

def join (separator : Char) : List (List Char) → List Char
  | [] => []
  | [item] => item
  | item :: next :: items => item ++ separator :: join separator (next :: items)

def joined (length : α → Nat) : List α → Nat
  | [] => 0
  | [item] => length item
  | item :: next :: items => length item + 1 + joined length (next :: items)

theorem length_join (separator : Char) (items : List (List Char)) :
    (join separator items).length = joined List.length items := by
  induction items with
  | nil => rfl
  | cons item items ih =>
      cases items with
      | nil => rfl
      | cons next items =>
          rw [join, joined, List.length_append, List.length_cons, ih]
          omega

theorem joined_le (short long : α → Nat) (items : List α) (shorter : ∀ item ∈ items, short item ≤ long item) :
    joined short items ≤ joined long items := by
  induction items with
  | nil => exact Nat.le_refl 0
  | cons item items ih =>
      obtain ⟨first, later⟩ := List.forall_mem_cons.mp shorter
      cases items with
      | nil => exact first
      | cons next items =>
          have rest := ih later
          rw [joined, joined]
          omega

theorem joined_tight (short long : α → Nat) (items : List α) (shorter : ∀ item ∈ items, short item ≤ long item)
    (tight : joined long items ≤ joined short items) : ∀ item ∈ items, long item ≤ short item := by
  induction items with
  | nil => exact nofun
  | cons item items ih =>
      obtain ⟨first, later⟩ := List.forall_mem_cons.mp shorter
      cases items with
      | nil => exact List.forall_mem_singleton.mpr tight
      | cons next items =>
          have rest := joined_le short long (next :: items) later
          rw [joined, joined] at tight
          exact List.forall_mem_cons.mpr ⟨by omega, ih later (by omega)⟩

theorem joined_snoc (length : α → Nat) (items : List α) (item : α) (some : items ≠ []) :
    joined length (items ++ [item]) = joined length items + 1 + length item := by
  induction items with
  | nil => exact absurd rfl some
  | cons first items ih =>
      cases items with
      | nil => rfl
      | cons next items =>
          have rest := ih (List.cons_ne_nil _ _)
          rw [List.cons_append] at rest ⊢
          rw [List.cons_append, joined, joined, rest]
          omega

theorem join_snoc (separator : Char) (items : List (List Char)) (item : List Char) (some : items ≠ []) :
    join separator (items ++ [item]) = join separator items ++ separator :: item := by
  induction items with
  | nil => exact absurd rfl some
  | cons first items ih =>
      cases items with
      | nil => rfl
      | cons next items =>
          have rest := ih (List.cons_ne_nil _ _)
          rw [List.cons_append] at rest ⊢
          rw [List.cons_append, join, join, rest, List.append_assoc]
          rfl

theorem joined_map {β : Type} (length : β → Nat) (write : α → β) (items : List α) :
    joined length (items.map write) = joined (length ∘ write) items := by
  induction items with
  | nil => rfl
  | cons item items ih =>
      cases items with
      | nil => rfl
      | cons next items =>
          rw [List.map_cons, List.map_cons, joined, joined, ← ih]
          rfl

end Joining

section Lengths

variable (dialect : Dialect)

def leastField (value : List Char) : Nat :=
  if value.all dialect.isText then value.length else (quoted value).length

def leastRecord (values : List (List Char)) : Nat :=
  joined (leastField dialect) values

variable {dialect}

theorem length_le_doubled (value : List Char) : value.length ≤ (doubled value).length := by
  induction value with
  | nil => exact Nat.le_refl 0
  | cons char rest ih =>
      by_cases quote : char = '"'
      · rw [doubled, if_pos quote, List.length_cons, List.length_cons, List.length_cons]
        omega
      · rw [doubled, if_neg quote, List.length_cons, List.length_cons]
        omega

theorem length_le_quoted (value : List Char) : value.length ≤ (quoted value).length := by
  have doubledLength := length_le_doubled value
  rw [quoted, List.length_append, List.length_cons]
  omega

theorem field_length (value chars : List Char) (field : Field dialect value chars) : leastField dialect value ≤ chars.length := by
  cases field with
  | plain text => exact Nat.le_of_eq (by rw [leastField, if_pos (List.all_eq_true.mpr text)])
  | escaped _ =>
      by_cases text : value.all dialect.isText = true
      · rw [leastField, if_pos text]
        exact length_le_quoted value
      · exact Nat.le_of_eq (by rw [leastField, if_neg text])

theorem record_length (values : List (List Char)) (chars : List Char) (record : Record dialect values chars) :
    leastRecord dialect values ≤ chars.length := by
  induction record with
  | one value chars field => exact field_length value chars field
  | more value chars values rest field record ih =>
      have first := field_length value chars field
      cases values with
      | nil => cases record
      | cons next values =>
          rw [leastRecord, joined, List.length_append, List.length_cons]
          rw [leastRecord] at ih
          omega

theorem mem_doubled (char : Char) (value : List Char) : char ∈ doubled value ↔ char ∈ value := by
  induction value with
  | nil => exact Iff.rfl
  | cons head rest ih =>
      by_cases quote : head = '"'
      · rw [doubled, if_pos quote, List.mem_cons, List.mem_cons, List.mem_cons, ih, quote, ← or_assoc, or_self]
      · rw [doubled, if_neg quote, List.mem_cons, List.mem_cons, ih]

theorem doubled_same (value : List Char) (none : '"' ∉ value) : doubled value = value := by
  induction value with
  | nil => rfl
  | cons head rest ih =>
      have quote : head ≠ '"' := fun same => none (same ▸ List.mem_cons_self)
      rw [doubled, if_neg quote, ih fun member => none (List.mem_cons_of_mem head member)]

theorem doubled_text (value : List Char) (text : ∀ char ∈ value, dialect.isText char = true) : doubled value = value :=
  doubled_same value fun member => (dialect.plain '"' (text '"' member)).2.1 rfl

theorem least_cases (value : List Char) :
    ((∀ char ∈ value, dialect.isText char = true) ∧ leastField dialect value = value.length) ∨
      ((∃ char ∈ value, dialect.isText char ≠ true) ∧ leastField dialect value = (doubled value).length + 2) := by
  by_cases text : value.all dialect.isText = true
  · exact Or.inl ⟨List.all_eq_true.mp text, if_pos text⟩
  · refine Or.inr ⟨?_, ?_⟩
    · rw [List.all_eq_true] at text
      simpa using text
    · rw [leastField, if_neg text, quoted, List.length_append, List.length_cons, List.length_singleton]

theorem same_short (value : List Char) : value.length ≤ leastField dialect value := by
  have doubledLength := length_le_doubled value
  rcases @least_cases dialect value with ⟨_, length⟩ | ⟨_, length⟩ <;> omega

theorem text_of_tight (value : List Char) (tight : leastField dialect value ≤ value.length) :
    ∀ char ∈ value, dialect.isText char = true := by
  have doubledLength := length_le_doubled value
  rcases @least_cases dialect value with ⟨text, _⟩ | ⟨_, length⟩
  · exact text
  · omega

section Wrapping

variable (wraps : Prop) [Decidable wraps] (value : List Char)

def wrapped : List Char :=
  if wraps then quoted value else doubled value

theorem wrapped_short (needed : wraps → ∃ char ∈ value, dialect.isText char ≠ true) :
    (wrapped wraps value).length ≤ leastField dialect value := by
  have inQuotes : (quoted value).length = (doubled value).length + 2 := by
    rw [quoted, List.length_append, List.length_cons, List.length_singleton]
  by_cases wrap : wraps
  · rw [wrapped, if_pos wrap]
    obtain ⟨char, member, special⟩ := needed wrap
    rcases @least_cases dialect value with ⟨text, _⟩ | ⟨_, length⟩
    · exact absurd (text char member) special
    · omega
  · rw [wrapped, if_neg wrap]
    rcases @least_cases dialect value with ⟨text, length⟩ | ⟨_, length⟩
    · exact Nat.le_of_eq (by rw [doubled_text value text, length])
    · omega

theorem field_wrapped_iff (quotable : Quotable dialect value) :
    Field dialect value (wrapped wraps value) ↔ wraps ∨ ∀ char ∈ value, dialect.isText char = true := by
  by_cases wrap : wraps
  · rw [wrapped, if_pos wrap]
    exact iff_of_true (.escaped value quotable) (Or.inl wrap)
  · rw [wrapped, if_neg wrap, or_iff_right wrap]
    constructor
    · intro field
      have least := field_length value (doubled value) field
      rcases @least_cases dialect value with ⟨text, _⟩ | ⟨_, length⟩
      · exact text
      · omega
    · intro text
      rw [doubled_text value text]
      exact .plain value text

theorem field_of_tight (quotable : Quotable dialect value)
    (tight : leastField dialect value ≤ (wrapped wraps value).length) : Field dialect value (wrapped wraps value) := by
  rw [field_wrapped_iff wraps value quotable]
  by_cases wrap : wraps
  · exact Or.inl wrap
  · rw [wrapped, if_neg wrap] at tight
    rcases @least_cases dialect value with ⟨text, _⟩ | ⟨_, length⟩
    · exact Or.inr text
    · omega

end Wrapping

theorem file_length (wide : Nat) (breaks : ∀ line ∈ dialect.breaks, 1 + wide ≤ line.length) (records : List (List (List Char)))
    (chars : List Char) (file : File dialect records chars) :
    joined (leastRecord dialect) records + (records.length - 1) * wide ≤ chars.length := by
  induction file with
  | last values chars record =>
      have own := record_length values chars record
      rw [List.length_singleton, Nat.sub_self, Nat.zero_mul]
      exact own
  | ended values chars line record isBreak =>
      have own := record_length values chars record
      rw [List.length_singleton, Nat.sub_self, Nat.zero_mul, List.length_append]
      exact Nat.le_trans own (Nat.le_add_right _ _)
  | more values chars line records rest record isBreak file ih =>
      have own := record_length values chars record
      have between := breaks line isBreak
      cases records with
      | nil => cases file
      | cons next records =>
          rw [List.length_cons, Nat.add_sub_cancel] at ih
          rw [joined, List.length_append, List.length_append, List.length_cons, List.length_cons, Nat.add_sub_cancel,
            Nat.succ_mul]
          omega

end Lengths

section Writing

abbrev Cell : Type :=
  List Char × List Char

def writtenRecord (row : List Cell) : List Char :=
  join ',' (row.map Prod.snd)

def written (rows : List (List Cell)) : List Char :=
  join '\n' (rows.map writtenRecord)

def recordsOf (rows : List (List Cell)) : List (List (List Char)) :=
  rows.map fun row => row.map Prod.fst

variable {dialect : Dialect}

theorem length_written (rows : List (List Cell)) :
    (written rows).length = joined (fun row : List Cell => joined (fun cell => cell.2.length) row) rows := by
  have record (row : List Cell) : (writtenRecord row).length = joined (fun cell => cell.2.length) row := by
    rw [writtenRecord, length_join, joined_map]
    rfl
  rw [written, length_join, joined_map]
  exact congrArg (fun length => joined length rows) (funext record)

theorem least_records (rows : List (List Cell)) :
    joined (leastRecord dialect) (recordsOf rows) =
      joined (fun row : List Cell => joined (fun cell => leastField dialect cell.1) row) rows := by
  rw [recordsOf, joined_map]
  refine congrArg (fun length => joined length rows) (funext fun row => ?_)
  exact joined_map (leastField dialect) Prod.fst row

theorem record_of_cells (row : List Cell) (some : row ≠ []) (fields : ∀ cell ∈ row, Field dialect cell.1 cell.2) :
    Record dialect (row.map Prod.fst) (writtenRecord row) := by
  induction row with
  | nil => exact absurd rfl some
  | cons cell row ih =>
      obtain ⟨first, later⟩ := List.forall_mem_cons.mp fields
      cases row with
      | nil => exact .one cell.1 cell.2 first
      | cons next row => exact .more cell.1 cell.2 _ _ first (ih (List.cons_ne_nil _ _) later)

theorem file_of_cells (feed : ['\n'] ∈ dialect.breaks) (rows : List (List Cell)) (some : rows ≠ [])
    (full : ∀ row ∈ rows, row ≠ []) (fields : ∀ row ∈ rows, ∀ cell ∈ row, Field dialect cell.1 cell.2) :
    File dialect (recordsOf rows) (written rows) ∧ File dialect (recordsOf rows) (written rows ++ ['\n']) := by
  induction rows with
  | nil => exact absurd rfl some
  | cons row rows ih =>
      obtain ⟨first, later⟩ := List.forall_mem_cons.mp fields
      obtain ⟨firstFull, laterFull⟩ := List.forall_mem_cons.mp full
      have record := record_of_cells row firstFull first
      cases rows with
      | nil => exact ⟨.last _ _ record, .ended _ _ _ record feed⟩
      | cons next rows =>
          obtain ⟨file, ended⟩ := ih (List.cons_ne_nil _ _) laterFull later
          have shape (tail : List Char) : written (row :: next :: rows) ++ tail =
              writtenRecord row ++ (['\n'] ++ (written (next :: rows) ++ tail)) := List.append_assoc _ _ _
          refine ⟨.more _ _ _ _ _ record feed file, ?_⟩
          rw [shape]
          exact .more _ _ _ _ _ record feed ended

theorem record_full (values : List (List Char)) (chars : List Char) (record : Record dialect values chars) : values ≠ [] := by
  cases record <;> exact List.cons_ne_nil _ _

theorem file_full (records : List (List (List Char))) (chars : List Char) (file : File dialect records chars) :
    ∀ values ∈ records, values ≠ [] := by
  induction file with
  | last values chars record => exact List.forall_mem_singleton.mpr (record_full values chars record)
  | ended values chars line record _ => exact List.forall_mem_singleton.mpr (record_full values chars record)
  | more values chars line records rest record _ _ ih => exact List.forall_mem_cons.mpr ⟨record_full values chars record, ih⟩

def Short (dialect : Dialect) (rows : List (List Cell)) : Prop :=
  ∀ row ∈ rows, ∀ cell ∈ row, cell.2.length ≤ leastField dialect cell.1

theorem written_short (rows : List (List Cell)) (short : Short dialect rows) :
    (written rows).length ≤ joined (leastRecord dialect) (recordsOf rows) := by
  rw [length_written, least_records]
  exact joined_le _ _ rows fun row member => joined_le _ _ row (short row member)

theorem wide_not_read (rows : List (List Cell)) (short : Short dialect rows) (wide : Nat) (positive : 0 < wide)
    (breaks : ∀ line ∈ dialect.breaks, 1 + wide ≤ line.length) (two : 2 ≤ rows.length) : ¬File dialect (recordsOf rows) (written rows) := by
  intro file
  have least := file_length wide breaks (recordsOf rows) (written rows) file
  have most := written_short rows short
  have count : (recordsOf rows).length = rows.length := List.length_map _
  have between : 0 < ((recordsOf rows).length - 1) * wide := Nat.mul_pos (by omega) positive
  omega

theorem cells_tight (rows : List (List Cell)) (short : Short dialect rows) (file : File dialect (recordsOf rows) (written rows)) :
    ∀ row ∈ rows, ∀ cell ∈ row, leastField dialect cell.1 ≤ cell.2.length := by
  have one : ∀ line ∈ dialect.breaks, 1 + 0 ≤ line.length := by
    intro line isBreak
    exact List.length_pos_iff.mpr (break_ne_nil line isBreak)
  have least := file_length 0 one (recordsOf rows) (written rows) file
  rw [Nat.mul_zero, Nat.add_zero, length_written, least_records] at least
  have each := joined_tight (fun row : List Cell => joined (fun cell => cell.2.length) row) _ rows
    (fun row member => joined_le _ _ row (short row member)) least
  exact fun row member => joined_tight (fun cell : Cell => cell.2.length) _ row (short row member) (each row member)

-- The one text that reads in two ways ends with a line feed before an empty last record.
theorem written_empty_last (front : List (List Cell)) (someFront : front ≠ []) (cell : Cell) (nothing : cell.2 = []) :
    written (front ++ [[cell]]) = written front ++ ['\n'] := by
  have mapped : (front ++ [[cell]]).map writtenRecord = front.map writtenRecord ++ [cell.2] := List.map_append
  rw [written, mapped, join_snoc _ _ _ (fun none => someFront (List.map_eq_nil_iff.mp none)), nothing]
  rfl

theorem empty_final (final : List Cell) (last : final.map Prod.fst = [[]]) : ∃ cell : Cell, final = [cell] ∧ cell.1 = [] := by
  cases final with
  | nil => cases last
  | cons cell rest =>
      obtain ⟨first, nothing⟩ := List.cons.inj last
      rw [List.map_eq_nil_iff] at nothing
      exact ⟨cell, by rw [nothing], first⟩

theorem empty_last_reread (rows : List (List Cell)) (short : Short dialect rows) (feed : ['\n'] ∈ dialect.breaks)
    (two : 2 ≤ rows.length) (full : ∀ row ∈ rows, row ≠ [])
    (fields : ∀ row ∈ rows, ∀ cell ∈ row, Field dialect cell.1 cell.2) (last : (recordsOf rows).getLast? = some [[]]) :
    ∃ records, recordsOf rows = records ++ [[[]]] ∧ File dialect records (written rows) := by
  have someRows : rows ≠ [] := List.ne_nil_of_length_pos (by omega)
  obtain ⟨front, final, rfl⟩ : ∃ front final, rows = front ++ [final] :=
    ⟨rows.dropLast, rows.getLast someRows, (List.dropLast_append_getLast someRows).symm⟩
  have someFront : front ≠ [] := by
    rintro rfl
    rw [List.nil_append, List.length_singleton] at two
    omega
  have records : recordsOf (front ++ [final]) = recordsOf front ++ [final.map Prod.fst] := List.map_append
  rw [records, List.getLast?_concat, Option.some.injEq] at last
  obtain ⟨cell, rfl, empty⟩ := empty_final final last
  have nothing : cell.2 = [] := by
    have bound := short [cell] (List.mem_append_right _ List.mem_cons_self) cell List.mem_cons_self
    rw [empty] at bound
    exact List.length_eq_zero_iff.mp (Nat.le_zero.mp bound)
  have other := (file_of_cells feed front someFront (fun row member => full row (List.mem_append_left _ member))
    fun row member => fields row (List.mem_append_left _ member)).2
  rw [records, last, written_empty_last front someFront cell nothing]
  exact ⟨recordsOf front, rfl, other⟩

theorem reads_iff (rows : List (List Cell)) (short : Short dialect rows) (feed : ['\n'] ∈ dialect.breaks) (two : 2 ≤ rows.length)
    (fits : ∀ row ∈ rows, ∀ cell ∈ row, leastField dialect cell.1 ≤ cell.2.length → Field dialect cell.1 cell.2) :
    Reads dialect (recordsOf rows) (written rows) ↔
      (∀ row ∈ rows, row ≠ []) ∧ (∀ row ∈ rows, ∀ cell ∈ row, Field dialect cell.1 cell.2) ∧
        (recordsOf rows).getLast? ≠ some [[]] := by
  have one : ∀ line ∈ dialect.breaks, 1 + 0 ≤ line.length := by
    intro line isBreak
    exact List.length_pos_iff.mpr (break_ne_nil line isBreak)
  have someRows : rows ≠ [] := List.ne_nil_of_length_pos (by omega)
  have someRecords : recordsOf rows ≠ [] := fun none => someRows (List.map_eq_nil_iff.mp none)
  constructor
  · rintro ⟨file, unique⟩
    have fields : ∀ row ∈ rows, ∀ cell ∈ row, Field dialect cell.1 cell.2 :=
      fun row member cell inRow => fits row member cell inRow (cells_tight rows short file row member cell inRow)
    have full : ∀ row ∈ rows, row ≠ [] := by
      intro row member none
      exact file_full _ _ file _ (List.mem_map_of_mem member) (List.map_eq_nil_iff.mpr none)
    refine ⟨full, fields, fun last => ?_⟩
    obtain ⟨records, whole, other⟩ := empty_last_reread rows short feed two full fields last
    have lengths := congrArg List.length (unique records other)
    rw [whole, List.length_append, List.length_singleton] at lengths
    omega
  · rintro ⟨full, fields, last⟩
    have file := (file_of_cells feed rows someRows full fields).1
    refine ⟨file, fun others otherFile => ?_⟩
    rcases file_unique _ _ _ file otherFile with equal | longer | shorter
    · exact equal.symm
    · rw [longer, List.getLast?_concat] at last
      exact absurd rfl last
    · -- One record more would take one line break more.
      have least := file_length 0 one _ _ otherFile
      have most := written_short rows short
      rw [shorter, Nat.mul_zero, joined_snoc _ _ _ someRecords] at least
      omega

end Writing

end Csv
