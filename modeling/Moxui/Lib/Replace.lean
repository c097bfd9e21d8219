import Moxui.Lib.Text

set_option autoImplicit false

namespace Text

def cutFrom (pattern : List Char) : Nat → List Char → List (List Char)
  | _, [] => [[]]
  | skip + 1, _ :: rest => cutFrom pattern skip rest
  | 0, char :: rest =>
      if pattern.isPrefixOf (char :: rest) then [] :: cutFrom pattern (pattern.length - 1) rest
      else (cutFrom pattern 0 rest).modifyHead (char :: ·)

def cut (pattern text : List Char) : List (List Char) :=
  cutFrom pattern 0 text

section Cut

variable (pattern replacement : List Char)

theorem replace_here (char : Char) (rest : List Char) (here : pattern <+: char :: rest) :
    replaceFrom pattern replacement 0 (char :: rest) =
      replacement ++ replaceFrom pattern replacement (pattern.length - 1) rest :=
  if_pos (List.isPrefixOf_iff_prefix.mpr here)

theorem replace_past (char : Char) (rest : List Char) (past : ¬ pattern <+: char :: rest) :
    replaceFrom pattern replacement 0 (char :: rest) = char :: replaceFrom pattern replacement 0 rest :=
  if_neg fun here => past (List.isPrefixOf_iff_prefix.mp here)

theorem cut_here (char : Char) (rest : List Char) (here : pattern <+: char :: rest) :
    cutFrom pattern 0 (char :: rest) = [] :: cutFrom pattern (pattern.length - 1) rest :=
  if_pos (List.isPrefixOf_iff_prefix.mpr here)

theorem cut_past (char : Char) (rest : List Char) (past : ¬ pattern <+: char :: rest) :
    cutFrom pattern 0 (char :: rest) = (cutFrom pattern 0 rest).modifyHead (char :: ·) :=
  if_neg fun here => past (List.isPrefixOf_iff_prefix.mp here)

theorem cut_from_nonempty (skip : Nat) (text : List Char) : cutFrom pattern skip text ≠ [] := by
  induction text generalizing skip with
  | nil => simp [cutFrom]
  | cons char rest ih =>
      cases skip with
      | succ skip => exact ih skip
      | zero =>
          by_cases here : pattern <+: char :: rest
          · simp [cut_here pattern char rest here]
          · simpa [cut_past pattern char rest here] using ih 0

theorem intercalate_prepend (char : Char) (parts : List (List Char)) (nonempty : parts ≠ []) :
    replacement.intercalate (parts.modifyHead (char :: ·)) = char :: replacement.intercalate parts := by
  cases parts with
  | nil => exact absurd rfl nonempty
  | cons first rest =>
      cases rest with
      | nil => simp
      | cons second rest => simp [List.intercalate_cons_cons]

theorem replace_from_cut (skip : Nat) (text : List Char) :
    replaceFrom pattern replacement skip text = replacement.intercalate (cutFrom pattern skip text) := by
  induction text generalizing skip with
  | nil => simp [replaceFrom, cutFrom]
  | cons char rest ih =>
      cases skip with
      | succ skip => exact ih skip
      | zero =>
          by_cases here : pattern <+: char :: rest
          · rw [replace_here pattern replacement char rest here, cut_here pattern char rest here, ih,
              List.intercalate_cons_of_ne_nil (cut_from_nonempty pattern _ rest), List.nil_append]
          · rw [replace_past pattern replacement char rest here, cut_past pattern char rest here, ih,
              intercalate_prepend replacement char _ (cut_from_nonempty pattern 0 rest)]

theorem replace_cut (text : List Char) :
    replaceFrom pattern replacement 0 text = replacement.intercalate (cut pattern text) :=
  replace_from_cut pattern replacement 0 text

theorem replace_self (skip : Nat) (text : List Char) (nonempty : pattern ≠ []) :
    replaceFrom pattern pattern skip text = text.drop skip := by
  induction text generalizing skip with
  | nil => simp [replaceFrom]
  | cons char rest ih =>
      cases skip with
      | succ skip => exact ih skip
      | zero =>
          by_cases here : pattern <+: char :: rest
          · rw [replace_here pattern pattern char rest here, ih, List.drop_zero]
            obtain ⟨after, whole⟩ := here
            cases pattern with
            | nil => exact absurd rfl nonempty
            | cons head tail =>
                obtain ⟨rfl, restEq⟩ := List.cons.inj whole
                simp [← restEq]
          · rw [replace_past pattern pattern char rest here, ih, List.drop_zero, List.drop_zero]

theorem cut_joined (text : List Char) (nonempty : pattern ≠ []) : pattern.intercalate (cut pattern text) = text := by
  rw [← replace_cut, replace_self pattern 0 text nonempty, List.drop_zero]

theorem cut_occurrence (text : List Char) (nonempty : pattern ≠ []) (occurs : pattern <:+: text) :
    2 ≤ (cut pattern text).length := by
  unfold cut
  induction text with
  | nil => exact absurd (List.infix_nil.mp occurs) nonempty
  | cons char rest ih =>
      by_cases here : pattern <+: char :: rest
      · have after := List.length_pos_of_ne_nil (cut_from_nonempty pattern (pattern.length - 1) rest)
        rw [cut_here pattern char rest here, List.length_cons]
        omega
      · have later : pattern <:+: rest := by
          rcases List.infix_cons_iff.mp occurs with start | later
          · exact absurd start here
          · exact later
        rw [cut_past pattern char rest here, List.length_modifyHead]
        exact ih later

end Cut

section Frames

variable (pattern replacement : List Char)

theorem replace_frame (head : Char) (tail frame after : List Char) (absent : head ∉ frame) :
    replaceFrom (head :: tail) replacement 0 (frame ++ after) =
      frame ++ replaceFrom (head :: tail) replacement 0 after := by
  induction frame with
  | nil => rfl
  | cons char rest ih =>
      have past : ¬ head :: tail <+: char :: (rest ++ after) := by
        intro here
        have same := (List.cons_prefix_cons.mp here).1
        exact absent (same ▸ List.mem_cons_self)
      rw [List.cons_append, replace_past (head :: tail) replacement char _ past,
        ih fun member => absent (List.mem_cons_of_mem char member), List.cons_append]

theorem prefix_before_stop (stop : Char) (text after : List Char) (absent : stop ∉ pattern) :
    pattern <+: text ++ stop :: after ↔ pattern <+: text := by
  constructor
  · intro start
    rcases List.prefix_or_prefix_of_prefix start (List.prefix_append text (stop :: after)) with short | long
    · exact short
    · obtain ⟨beyond, rfl⟩ := long
      cases beyond with
      | nil => simp
      | cons next beyond =>
          have same := (List.cons_prefix_cons.mp ((List.prefix_append_right_inj text).mp start)).1
          exact absurd (by rw [same]; simp) absent
  · exact fun short => short.trans (List.prefix_append text (stop :: after))

-- An occurrence does not reach over a character that the pattern lacks.
theorem replace_stop (stop : Char) (skip : Nat) (text after : List Char) (nonempty : pattern ≠ [])
    (absent : stop ∉ pattern) (inside : skip ≤ text.length) :
    replaceFrom pattern replacement skip (text ++ stop :: after) =
      replaceFrom pattern replacement skip text ++ stop :: replaceFrom pattern replacement 0 after := by
  induction text generalizing skip with
  | nil =>
      have still : skip = 0 := Nat.le_zero.mp inside
      subst still
      have past : ¬ pattern <+: stop :: after := by
        intro here
        have start := (prefix_before_stop pattern stop [] after absent).mp here
        exact nonempty (List.prefix_nil.mp start)
      exact replace_past pattern replacement stop after past
  | cons char rest ih =>
      cases skip with
      | succ skip => exact ih skip (Nat.le_of_succ_le_succ inside)
      | zero =>
          have same := prefix_before_stop pattern stop (char :: rest) after absent
          by_cases here : pattern <+: char :: rest
          · have short := here.length_le
            rw [List.length_cons] at short
            rw [replace_here pattern replacement char rest here, List.append_assoc,
              ← ih (pattern.length - 1) (by omega)]
            exact replace_here pattern replacement char _ (same.mpr here)
          · rw [replace_past pattern replacement char rest here, List.cons_append, List.cons_append, ← ih 0 (Nat.zero_le _)]
            exact replace_past pattern replacement char _ fun start => here (same.mp start)

end Frames

section Measure

variable {α : Type} (measure : List α → Nat)
  (additive : ∀ first second, measure (first ++ second) = measure first + measure second)

include additive

theorem measure_nil : measure [] = 0 := by
  have doubled := additive [] []
  rw [List.append_nil] at doubled
  omega

theorem measure_intercalate (replacement : List α) (parts : List (List α)) (nonempty : parts ≠ []) :
    measure (replacement.intercalate parts) = measure parts.flatten + (parts.length - 1) * measure replacement := by
  induction parts with
  | nil => exact absurd rfl nonempty
  | cons first rest ih =>
      by_cases last : rest = []
      · subst last
        simp
      · have positive := List.length_pos_of_ne_nil last
        have more : (rest.length - 1) * measure replacement + measure replacement = rest.length * measure replacement := by
          rw [← Nat.succ_mul]
          congr 1
          omega
        rw [List.intercalate_cons_of_ne_nil last, additive, additive, ih last, List.flatten_cons, additive,
          List.length_cons, Nat.add_sub_cancel, ← more]
        omega

end Measure

def occurrences (pattern text : List Char) : Nat :=
  (cut pattern text).length - 1

theorem measure_replace (measure : List Char → Nat)
    (additive : ∀ first second, measure (first ++ second) = measure first + measure second)
    (pattern replacement text : List Char) :
    measure (replaceFrom pattern replacement 0 text) =
      measure (cut pattern text).flatten + occurrences pattern text * measure replacement := by
  rw [replace_cut]
  exact measure_intercalate measure additive replacement _ (cut_from_nonempty pattern 0 text)

end Text
