import Mathlib.Data.List.Basic

set_option autoImplicit false

-- A file that several writers write to at offsets of their own. A gap before the offset is
-- filled, as a file system does.
namespace Overwrite

variable {α : Type} (fill : α)

def overwrite : List α → Nat → List α → List α
  | file, 0, chunk => chunk ++ file.drop chunk.length
  | [], offset + 1, chunk => fill :: overwrite [] offset chunk
  | item :: file, offset + 1, chunk => item :: overwrite file offset chunk

theorem overwrite_length (file : List α) (offset : Nat) (chunk : List α) :
    (overwrite fill file offset chunk).length = max file.length (offset + chunk.length) := by
  induction offset generalizing file with
  | zero =>
      simp only [overwrite, List.length_append, List.length_drop]
      omega
  | succ offset ih =>
      cases file with
      | nil =>
          rw [overwrite, List.length_cons, ih, List.length_nil]
          omega
      | cons item file =>
          rw [overwrite, List.length_cons, ih, List.length_cons]
          omega

theorem overwrite_written (file : List α) (offset : Nat) (chunk : List α) (index : Nat) (inside : index < chunk.length) :
    (overwrite fill file offset chunk)[offset + index]? = chunk[index]? := by
  induction offset generalizing file with
  | zero => rw [overwrite, Nat.zero_add, List.getElem?_append_left inside]
  | succ offset ih =>
      rw [Nat.add_right_comm]
      cases file with
      | nil => rw [overwrite, List.getElem?_cons_succ, ih]
      | cons item file => rw [overwrite, List.getElem?_cons_succ, ih]

theorem overwrite_kept (file : List α) (offset : Nat) (chunk : List α) (index : Nat) (present : index < file.length)
    (outside : index < offset ∨ offset + chunk.length ≤ index) :
    (overwrite fill file offset chunk)[index]? = file[index]? := by
  induction offset generalizing file index with
  | zero =>
      have after : chunk.length ≤ index := by omega
      rw [overwrite, List.getElem?_append_right after, List.getElem?_drop, Nat.add_sub_cancel' after]
  | succ offset ih =>
      cases file with
      | nil => cases present
      | cons item file =>
          cases index with
          | zero => rfl
          | succ index =>
              rw [overwrite, List.getElem?_cons_succ, List.getElem?_cons_succ]
              exact ih file index (by simpa using present) (by omega)

structure Agrees (content file : List α) (upTo : Nat) : Prop where
  short : file.length ≤ content.length
  covers : upTo ≤ file.length
  right : ∀ index, index < upTo → file[index]? = content[index]?

theorem agrees_empty (content : List α) : Agrees content [] 0 :=
  ⟨Nat.zero_le _, Nat.le_refl 0, fun _ inside => absurd inside (Nat.not_lt_zero _)⟩

theorem agrees_whole (content file : List α) (agrees : Agrees content file content.length) : file = content := by
  apply List.ext_getElem?
  intro index
  by_cases inside : index < content.length
  · exact agrees.right index inside
  · have sameLength : file.length = content.length := Nat.le_antisymm agrees.short agrees.covers
    rw [List.getElem?_eq_none (by omega), List.getElem?_eq_none (by omega)]

theorem agrees_self (content : List α) : Agrees content content content.length :=
  ⟨Nat.le_refl _, Nat.le_refl _, fun _ _ => rfl⟩

def chunkOf (content : List α) (offset count : Nat) : List α :=
  (content.drop offset).take count

theorem chunk_length (content : List α) (offset count : Nat) (inside : offset ≤ content.length) :
    offset + (chunkOf content offset count).length ≤ content.length := by
  simp only [chunkOf, List.length_take, List.length_drop]
  omega

theorem chunk_written (content file : List α) (offset count index : Nat) (reached : offset ≤ index)
    (within : index < offset + (chunkOf content offset count).length) :
    (overwrite fill file offset (chunkOf content offset count))[index]? = content[index]? := by
  have written := overwrite_written fill file offset (chunkOf content offset count) (index - offset) (by omega)
  rw [Nat.add_sub_cancel' reached] at written
  have limit : index - offset < count := by
    have shorter : (chunkOf content offset count).length ≤ count := List.length_take_le _ _
    omega
  rw [written, chunkOf, List.getElem?_take_of_lt limit, List.getElem?_drop, Nat.add_sub_cancel' reached]

-- Whoever writes the same content, at whatever offset, does not undo what is right.
theorem agrees_other (content file : List α) (upTo offset count : Nat) (inside : offset ≤ content.length)
    (agrees : Agrees content file upTo) :
    Agrees content (overwrite fill file offset (chunkOf content offset count)) upTo := by
  refine ⟨?_, ?_, ?_⟩
  · rw [overwrite_length]
    exact Nat.max_le.mpr ⟨agrees.short, chunk_length content offset count inside⟩
  · rw [overwrite_length]
    exact Nat.le_trans agrees.covers (Nat.le_max_left _ _)
  · intro index below
    by_cases within : offset ≤ index ∧ index < offset + (chunkOf content offset count).length
    · exact chunk_written fill content file offset count index within.1 within.2
    · rw [overwrite_kept fill file offset _ index (Nat.lt_of_lt_of_le below agrees.covers) (by omega)]
      exact agrees.right index below

-- And a writer whose own part is right goes on to more that is right.
theorem agrees_onward (content file : List α) (offset count : Nat) (agrees : Agrees content file offset) :
    Agrees content (overwrite fill file offset (chunkOf content offset count))
      (offset + (chunkOf content offset count).length) := by
  have inside : offset ≤ content.length := Nat.le_trans agrees.covers agrees.short
  have others := agrees_other fill content file offset offset count inside agrees
  refine ⟨others.short, ?_, ?_⟩
  · rw [overwrite_length]
    exact Nat.le_max_right _ _
  · intro index below
    by_cases before : index < offset
    · exact others.right index before
    · exact chunk_written fill content file offset count index (Nat.le_of_not_lt before) below

end Overwrite
