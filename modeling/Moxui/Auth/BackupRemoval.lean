import Moxui.Auth.Totp

set_option autoImplicit false

namespace Moxui.Auth

namespace Totp

def backupCodeRound (verifyPassword : String → String → Bool) (code : String) (sofar : Bool × List String)
    (hash : String) : Bool × List String :=
  if !sofar.1 && verifyPassword code hash then (true, sofar.2) else (sofar.1, sofar.2 ++ [hash])

-- `verify_backup_code` with the flag and the list that its loop carries.
def verifyBackupCodeLoop (verifyPassword : String → String → Bool) (stored : List String) (code : String) :
    Option (List String) :=
  let done := stored.foldl (backupCodeRound verifyPassword code) (false, [])
  if done.1 then some done.2 else none

end Totp

open Totp (backupCodeRound verifyBackupCodeLoop verifyBackupCode)

section Removal

variable (verifyPassword : String → String → Bool)

theorem rounds_matched (code : String) (stored kept : List String) :
    stored.foldl (backupCodeRound verifyPassword code) (true, kept) = (true, kept ++ stored) := by
  induction stored generalizing kept with
  | nil => simp
  | cons hash stored ih =>
      rw [List.foldl_cons]
      apply (ih (kept ++ [hash])).trans
      simp

theorem rounds_unmatched (code : String) (stored kept : List String) :
    stored.foldl (backupCodeRound verifyPassword code) (false, kept) =
      (stored.any (verifyPassword code), kept ++ stored.eraseP (verifyPassword code)) := by
  induction stored generalizing kept with
  | nil => simp
  | cons hash stored ih =>
      rw [List.foldl_cons]
      by_cases hit : verifyPassword code hash = true
      · have round : backupCodeRound verifyPassword code (false, kept) hash = (true, kept) := by
          simp [backupCodeRound, hit]
        rw [round, rounds_matched]
        simp [hit]
      · have round : backupCodeRound verifyPassword code (false, kept) hash = (false, kept ++ [hash]) := by
          simp [backupCodeRound, hit]
        rw [round, ih]
        simp [hit]

theorem verify_backup_code_loop_eq (stored : List String) (code : String) :
    verifyBackupCodeLoop verifyPassword stored code =
      if stored.any (verifyPassword code) then some (stored.eraseP (verifyPassword code)) else none := by
  simp [verifyBackupCodeLoop, rounds_unmatched]

-- The recursion that the sessions are modelled with is this loop.
theorem verify_backup_code_loop (stored : List String) (code : String) :
    verifyBackupCodeLoop verifyPassword stored code = verifyBackupCode verifyPassword stored code := by
  rw [verify_backup_code_loop_eq]
  induction stored with
  | nil => rfl
  | cons hash stored ih =>
      rw [verifyBackupCode, ← ih]
      by_cases hit : verifyPassword code hash = true
      · simp [hit]
      · by_cases later : stored.any (verifyPassword code) = true
        · simp [hit, later]
        · simp [hit, later]

theorem backup_code_refused_iff (stored : List String) (code : String) :
    verifyBackupCodeLoop verifyPassword stored code = none ↔ ∀ hash ∈ stored, verifyPassword code hash = false := by
  rw [verify_backup_code_loop_eq]
  simp

theorem backup_code_used_iff (stored remaining : List String) (code : String) :
    verifyBackupCodeLoop verifyPassword stored code = some remaining ↔
      ∃ before hash after, stored = before ++ hash :: after ∧ (∀ other ∈ before, verifyPassword code other = false) ∧
        verifyPassword code hash = true ∧ remaining = before ++ after := by
  rw [verify_backup_code_loop_eq]
  constructor
  · intro used
    by_cases found : stored.any (verifyPassword code) = true
    · rw [if_pos found, Option.some.injEq] at used
      obtain ⟨_, member, taken⟩ := List.any_eq_true.mp found
      obtain ⟨hash, before, after, passed, hit, split, erased⟩ := List.exists_of_eraseP member taken
      refine ⟨before, hash, after, split, ?_, hit, by rw [← used, erased]⟩
      intro other earlier
      exact Bool.eq_false_iff.mpr (passed other earlier)
    · simp [found] at used
  · intro ⟨before, hash, after, split, untaken, hit, kept⟩
    have passed : ∀ other ∈ before, ¬ verifyPassword code other = true := by
      intro other earlier
      simp [untaken other earlier]
    rw [split, kept, List.eraseP_append_right _ passed]
    simp [hit]

structure DistinctCodes (stored : List String) : Prop where
  apart : stored.Pairwise fun hash later => ∀ code, verifyPassword code hash = true → verifyPassword code later = false
  single : ∀ hash ∈ stored, ∀ code other, verifyPassword code hash = true → verifyPassword other hash = true →
    code = other

-- What is left is the list without the first hash of the code. Where the codes are distinct,
-- the code is spent and no other code is touched.
structure BackupCodeRemoved (stored : List String) (code : String) : Prop where
  refused : verifyBackupCodeLoop verifyPassword stored code = none ↔
    ∀ hash ∈ stored, verifyPassword code hash = false
  used : ∀ remaining, verifyBackupCodeLoop verifyPassword stored code = some remaining ↔
    ∃ before hash after, stored = before ++ hash :: after ∧ (∀ other ∈ before, verifyPassword code other = false) ∧
      verifyPassword code hash = true ∧ remaining = before ++ after
  spent : DistinctCodes verifyPassword stored → ∀ remaining,
    verifyBackupCodeLoop verifyPassword stored code = some remaining →
      verifyBackupCodeLoop verifyPassword remaining code = none
  others : DistinctCodes verifyPassword stored → ∀ remaining,
    verifyBackupCodeLoop verifyPassword stored code = some remaining → ∀ other, other ≠ code →
      verifyBackupCodeLoop verifyPassword remaining other =
        (verifyBackupCodeLoop verifyPassword stored other).map fun left => left.eraseP (verifyPassword code)

theorem spent_backup_code (stored remaining : List String) (code : String) (distinct : DistinctCodes verifyPassword stored)
    (used : verifyBackupCodeLoop verifyPassword stored code = some remaining) :
    verifyBackupCodeLoop verifyPassword remaining code = none := by
  obtain ⟨before, hash, after, rfl, untaken, hit, rfl⟩ := (backup_code_used_iff verifyPassword stored remaining code).mp used
  have ordered := (List.pairwise_append.mp distinct.apart).2.1
  apply (backup_code_refused_iff verifyPassword _ code).mpr
  intro other member
  rcases List.mem_append.mp member with earlier | later
  · exact untaken other earlier
  · exact List.rel_of_pairwise_cons ordered later code hit

theorem other_backup_code (stored remaining : List String) (code other : String)
    (distinct : DistinctCodes verifyPassword stored) (different : other ≠ code)
    (used : verifyBackupCodeLoop verifyPassword stored code = some remaining) :
    verifyBackupCodeLoop verifyPassword remaining other =
      (verifyBackupCodeLoop verifyPassword stored other).map fun left => left.eraseP (verifyPassword code) := by
  have separate : ∀ hash ∈ stored, ¬ verifyPassword code hash = true ∨ ¬ verifyPassword other hash = true := by
    intro hash member
    by_cases mine : verifyPassword code hash = true
    · exact Or.inr fun theirs => different (distinct.single hash member other code theirs mine)
    · exact Or.inl mine
  have erased : remaining = stored.eraseP (verifyPassword code) := by
    rw [verify_backup_code_loop_eq] at used
    by_cases found : stored.any (verifyPassword code) = true
    · rw [if_pos found, Option.some.injEq] at used
      exact used.symm
    · simp [found] at used
  have kept : (stored.eraseP (verifyPassword code)).any (verifyPassword other) = stored.any (verifyPassword other) := by
    rw [Bool.eq_iff_iff, List.any_eq_true, List.any_eq_true]
    constructor
    · intro ⟨hash, member, hit⟩
      exact ⟨hash, List.mem_of_mem_eraseP member, hit⟩
    · intro ⟨hash, member, hit⟩
      have mine : ¬ verifyPassword code hash = true := (separate hash member).resolve_right fun refused => refused hit
      exact ⟨hash, (List.mem_eraseP_of_neg mine).mpr member, hit⟩
  rw [verify_backup_code_loop_eq, verify_backup_code_loop_eq, erased, kept, List.eraseP_comm separate]
  by_cases found : stored.any (verifyPassword other) = true
  · simp [found]
  · simp [found]

theorem backup_code_removed (stored : List String) (code : String) : BackupCodeRemoved verifyPassword stored code where
  refused := backup_code_refused_iff verifyPassword stored code
  used remaining := backup_code_used_iff verifyPassword stored remaining code
  spent distinct remaining := spent_backup_code verifyPassword stored remaining code distinct
  others distinct remaining used other different :=
    other_backup_code verifyPassword stored remaining code other distinct different used

end Removal

example : verifyBackupCodeLoop (fun code hash => code == hash) ["11111111", "22222222", "22222222"] "22222222" =
    some ["11111111", "22222222"] := by decide

end Moxui.Auth
