import Moxui.Auth.Accounts
import Moxui.Auth.BackupRemoval
import Moxui.Auth.Disabled

set_option autoImplicit false

namespace Moxui.Auth

section BackupCodes

variable (libs : Libs) (config : AuthConfig)

def totpAccepted (env : Env) (user : User) (code : String) : Bool :=
  match user.totpSecret with
  | some secret => Totp.verifyTotp libs.hmacSha1 env.clock.totpAt secret code
  | none => false

def usedHash (codes : List String) (code : String) : Option String :=
  codes.find? fun hash => libs.verifyPassword code hash

theorem verify_backup_code_used (codes : List String) (code : String) :
    Totp.verifyBackupCode libs.verifyPassword codes code =
      (usedHash libs codes code).map fun _ => codes.eraseP fun hash => libs.verifyPassword code hash := by
  rw [← verify_backup_code_loop, verify_backup_code_loop_eq, usedHash]
  by_cases found : codes.any (libs.verifyPassword code) = true
  · have some : (codes.find? fun hash => libs.verifyPassword code hash).isSome = true := by
      rw [List.find?_isSome]
      exact List.any_eq_true.mp found
    obtain ⟨hash, used⟩ := Option.isSome_iff_exists.mp some
    rw [if_pos found, used]
    rfl
  · have none : (codes.find? fun hash => libs.verifyPassword code hash) = none := by
      rw [List.find?_eq_none]
      intro hash member hit
      exact found (List.any_eq_true.mpr ⟨hash, member, hit⟩)
    rw [if_neg found, none]
    rfl

structure OffersBackup (event : AuthEvent) (env : Env) (preauthToken code : String) (user : User) (hash : String) :
    Prop where
  input : event.input = .request env (.twoFactorComplete preauthToken code)
  read : accountRead libs config env event.before (.twoFactorComplete preauthToken code) = some user
  notTotp : totpAccepted libs env user code = false
  used : usedHash libs user.backupCodes code = some hash

def CompletesWith (event : AuthEvent) (username hash : String) : Prop :=
  ∃ env preauthToken code user, OffersBackup libs config event env preauthToken code user hash ∧
    user.username = username ∧ (event.output.bind mintedJwt).isSome = true

def BackupCodesSingleUse (trace : List AuthEvent) : Prop :=
  ∀ before event between other after username hash, trace = before ++ event :: (between ++ other :: after) →
    CompletesWith libs config event username hash → ¬ CompletesWith libs config other username hash

def PresentsCode (event : AuthEvent) (username hash : String) : Prop :=
  ∃ env preauthToken code user, OffersBackup libs config event env preauthToken code user hash ∧
    user.username = username ∧ (signed libs config env user).isSome = true

def CodesPresentedOnce (trace : List AuthEvent) : Prop :=
  ∀ before event between other after username hash, trace = before ++ event :: (between ++ other :: after) →
    PresentsCode libs config event username hash → ¬ PresentsCode libs config other username hash

theorem offered_code_accepted (event : AuthEvent) (env : Env) (preauthToken code : String) (user : User) (hash : String)
    (offers : OffersBackup libs config event env preauthToken code user hash) :
    accountFor libs config env event.before (.twoFactorComplete preauthToken code) = some user := by
  have accepted : accountAccepted libs env event.before user (.twoFactorComplete preauthToken code) = true := by
    change (totpAccepted libs env user code ||
      (Totp.verifyBackupCode libs.verifyPassword user.backupCodes code).isSome) = true
    rw [verify_backup_code_used, offers.used, offers.notTotp]
    rfl
  simp [accountFor, offers.read, accepted]

-- Whoever offers the code gets the session: nothing asks whether it was used before.
theorem completes_with_iff (start : AuthState) (inputs : List AuthInput) (event : AuthEvent)
    (member : event ∈ (authMachine libs config).trace start inputs) (username hash : String) :
    CompletesWith libs config event username hash ↔ PresentsCode libs config event username hash := by
  have minted : ∀ env preauthToken code user, OffersBackup libs config event env preauthToken code user hash →
      event.output.bind mintedJwt = signed libs config env user := by
    intro env preauthToken code user offers
    rw [trace_output libs config env start inputs event member _ offers.input, Option.bind_some, handle_jwt,
      offered_code_accepted libs config event env preauthToken code user hash offers, Option.bind_some]
  refine ⟨?_, ?_⟩
  · rintro ⟨env, preauthToken, code, user, offers, named, returned⟩
    rw [minted env preauthToken code user offers] at returned
    exact ⟨env, preauthToken, code, user, offers, named, returned⟩
  · rintro ⟨env, preauthToken, code, user, offers, named, signs⟩
    rw [← minted env preauthToken code user offers] at signs
    exact ⟨env, preauthToken, code, user, offers, named, signs⟩

theorem backup_codes_single_use_iff (start : AuthState) (inputs : List AuthInput) :
    BackupCodesSingleUse libs config ((authMachine libs config).trace start inputs) ↔
      CodesPresentedOnce libs config ((authMachine libs config).trace start inputs) := by
  have same := completes_with_iff libs config start inputs
  unfold BackupCodesSingleUse CodesPresentedOnce
  refine forall_congr' fun before => forall_congr' fun event => forall_congr' fun between => forall_congr' fun other =>
    forall_congr' fun after => forall_congr' fun username => forall_congr' fun hash => ?_
  refine ⟨?_, ?_⟩
  · intro once split presented again
    have first : event ∈ (authMachine libs config).trace start inputs := by simp [split]
    have second : other ∈ (authMachine libs config).trace start inputs := by simp [split]
    exact once split ((same event first username hash).mpr presented) ((same other second username hash).mpr again)
  · intro once split completed again
    have first : event ∈ (authMachine libs config).trace start inputs := by simp [split]
    have second : other ∈ (authMachine libs config).trace start inputs := by simp [split]
    exact once split ((same event first username hash).mp completed) ((same other second username hash).mp again)

end BackupCodes

-- Carol has one backup code left and uses it for two logins.
def carol : User :=
  { sampleUser "u-carol" "carol" (some "GEZDGNBVGY3TQOJQGEZDGNBVGY3TQOJQ") with
    backupCodes := ["$2a$05$CCCCCCCCCCCCCCCCCCCCC.E5YPO9kmyuRGyh0XouQYb4YMJKvyOeW"] }

def carolStart : AuthState :=
  AuthState.initial (UserStore.withUsers [carol]) none none

def carolLogins : List AuthInput :=
  [.request (sampleEnv 0 ⟨"r1", "t1"⟩) (.login "carol" "U*U"),
    .request (sampleEnv 10 ⟨"r2", "t2"⟩) (.twoFactorComplete "preauth-r1" "U*U"),
    .request (sampleEnv 20 ⟨"r3", "t3"⟩) (.login "carol" "U*U"),
    .request (sampleEnv 30 ⟨"r4", "t4"⟩) (.twoFactorComplete "preauth-r3" "U*U")]

def carolTrace : List AuthEvent :=
  (authMachine sampleLibs sampleConfig).trace carolStart carolLogins

theorem backup_code_used_twice : ¬ BackupCodesSingleUse sampleLibs sampleConfig carolTrace := by
  intro once
  refine once (carolTrace.take 1) _ [Machine.event (authMachine sampleLibs sampleConfig)
    ((authMachine sampleLibs sampleConfig).run carolStart (carolLogins.take 2)) (.request (sampleEnv 20 ⟨"r3", "t3"⟩)
      (.login "carol" "U*U"))] _ [] "carol" "$2a$05$CCCCCCCCCCCCCCCCCCCCC.E5YPO9kmyuRGyh0XouQYb4YMJKvyOeW" rfl ?_ ?_
  · exact ⟨sampleEnv 10 ⟨"r2", "t2"⟩, "preauth-r1", "U*U", carol, ⟨rfl, by decide, by decide, by decide⟩, rfl, by decide⟩
  · exact ⟨sampleEnv 30 ⟨"r4", "t4"⟩, "preauth-r3", "U*U", carol, ⟨rfl, by decide, by decide, by decide⟩, rfl, by decide⟩

end Moxui.Auth
