import Moxui.Auth.SecondFactor

set_option autoImplicit false

namespace Moxui.Auth

section Enrolment

variable (libs : Libs) (config : AuthConfig)

def VerifiedBy (event : AuthEvent) (claims : Claims) (secret : String) : Prop :=
  ∃ env code message, event.input = .request env (.twoFactorVerify claims secret code) ∧
    event.output = some (.ok (.twoFactorStatus "2fa_enabled" message))

def DisabledFor (username : String) (event : AuthEvent) : Prop :=
  ∃ env claims password message, event.input = .request env (.twoFactorDisable claims password) ∧
    claims.username = username ∧ event.output = some (.ok (.twoFactorStatus "2fa_disabled" message))

-- The user was told that 2FA is enabled with this secret, and has not disabled it since.
def FactorOn (username secret : String) (past : List AuthEvent) : Prop :=
  ∃ earlier event between claims, past = earlier ++ event :: between ∧ claims.username = username ∧
    VerifiedBy event claims secret ∧ ∀ other ∈ between, ¬ DisabledFor username other

def Presents (preauthToken : String) (event : AuthEvent) : Prop :=
  ∃ env code, event.input = .request env (.twoFactorComplete preauthToken code)

structure LoginWithFactor (trace before : List AuthEvent) (event : AuthEvent) (after : List AuthEvent) (env : Env)
    (username secret password : String) (account : User) : Prop where
  split : trace = before ++ event :: after
  on : FactorOn username secret before
  input : event.input = .request env (.login username password)
  correct : event.before.users.authenticate libs.verifyPassword username password = some account

-- The first request with the pre-auth token of that login, 2FA not having been disabled since.
def PresentedFirst (env : Env) (username : String) (after : List AuthEvent) (event : AuthEvent) : Prop :=
  Presents env.preauthToken event ∧ ∃ between rest, after = between ++ event :: rest ∧
    ∀ other ∈ between, ¬ DisabledFor username other ∧ ¬ Presents env.preauthToken other

-- It comes in time with a code of the verified secret, while an account with the id is stored
-- and claims can be signed.
structure CompletesLogin (env : Env) (username secret : String) (account : User) (after : List AuthEvent)
    (event : AuthEvent) (completionEnv : Env) (code : String) (user : User) : Prop where
  first : PresentedFirst env username after event
  input : event.input = .request completionEnv (.twoFactorComplete env.preauthToken code)
  inTime : completionEnv.clock.checkedAt ≤ timestampAdd env.clock.storedAt preauthTtlSecs
  found : event.before.users.getById account.id = some user
  signs : (signed libs config completionEnv user).isSome = true
  code : Totp.verifyTotp libs.hmacSha1 completionEnv.clock.totpAt secret code = true

def TwoFactorTakesEffect (trace : List AuthEvent) : Prop :=
  ∀ before event after env username secret password account,
    LoginWithFactor libs trace before event after env username secret password account →
    event.output = some (.ok (.twoFactorRequired env.preauthToken)) ∧
      ∀ completion completionEnv code user,
        CompletesLogin libs config env username secret account after completion completionEnv code user →
        ∃ outcome, completion.output = some outcome ∧ returnsTokens outcome = true

def HoldsKey (user : User) (secret : String) : Prop :=
  ∃ stored, user.totpSecret = some stored ∧ Totp.base32Decode stored = Totp.base32Decode secret

-- What the accounts must have stored by themselves: the flag when their user logs in, the key
-- when the login is completed.
def FactorStored (trace : List AuthEvent) : Prop :=
  ∀ before event after env username secret password account,
    LoginWithFactor libs trace before event after env username secret password account →
    account.totpEnabled = true ∧
      ∀ completion, PresentedFirst env username after completion →
        ∀ user, completion.before.users.getById account.id = some user → HoldsKey user secret

def preauthIssued (event : AuthEvent) : Option String :=
  match event.output with
  | some (.ok (.twoFactorRequired preauthToken)) => some preauthToken
  | _ => none

def FreshPreauth (trace : List AuthEvent) : Prop :=
  (trace.filterMap preauthIssued).Nodup

theorem login_preauth_other (env : Env) (username password token : String) (state : AuthState)
    (other : preauthIssued (Machine.event (authMachine libs config) state (.request env (.login username password))) ≠
      some token) :
    (login libs config env username password state).1.preauth.lookup token = state.preauth.lookup token := by
  cases accepted : state.users.authenticate libs.verifyPassword username password with
  | none => simp only [login, accepted]
  | some user =>
      cases factor : user.totpEnabled with
      | false =>
          simp only [login, accepted, factor, Bool.false_eq_true, if_false]
          rw [issue_session_preauth]
      | true =>
          have output : (Machine.event (authMachine libs config) state (.request env (.login username password))).output =
              some (.ok (.twoFactorRequired env.preauthToken)) := by
            simp only [Machine.event, authMachine, authStep, handle, login, accepted, factor, if_true]
          simp only [preauthIssued, output, ne_eq, Option.some.injEq] at other
          simp only [login, accepted, factor, if_true, PreAuthStore.issue]
          rw [Table.lookup_insert_eq, if_neg (fun same => other same.symm)]

theorem handle_preauth_lookup (env : Env) (state : AuthState) (request : AuthRequest) (token : String)
    (kept : changesPreauth request = false) :
    (authStep libs config state (.request env request)).1.preauth.lookup token = state.preauth.lookup token :=
  congrArg (AList.lookup token) ((handle_frame libs config env state request).preauth kept)

theorem step_preauth_kept (state : AuthState) (input : AuthInput) (token : String)
    (unused : ¬ Presents token (Machine.event (authMachine libs config) state input))
    (other : preauthIssued (Machine.event (authMachine libs config) state input) ≠ some token) :
    (authStep libs config state input).1.preauth.lookup token = state.preauth.lookup token := by
  cases input with
  | rehashUsers order => rfl
  | rehashTokens order => rfl
  | request env request =>
      cases request with
      | login username password => exact login_preauth_other libs config env username password token state other
      | twoFactorComplete presented code =>
          have differs : token ≠ presented := by
            rintro rfl
            exact unused ⟨env, code, rfl⟩
          have frame := PreAuthStore.lookup_consume_other presented token env.clock.checkedAt state.preauth differs
          rw [← frame]
          have after : (twoFactorComplete libs config env presented code state).1.preauth =
              (PreAuthStore.consume presented env.clock.checkedAt state.preauth).1 := by
            simp only [twoFactorComplete]
            split
            · rfl
            · split
              · rfl
              · split
                · rw [issue_session_preauth]
                · rfl
          simp only [authStep, handle, after]
      | _ => exact handle_preauth_lookup libs config env state _ token rfl

theorem run_preauth_kept (state : AuthState) (inputs : List AuthInput) (token : String)
    (untouched : ∀ event ∈ (authMachine libs config).trace state inputs,
      ¬ Presents token event ∧ preauthIssued event ≠ some token) :
    ((authMachine libs config).run state inputs).preauth.lookup token = state.preauth.lookup token := by
  induction inputs generalizing state with
  | nil => rfl
  | cons input inputs ih =>
      obtain ⟨unused, other⟩ := untouched _ List.mem_cons_self
      have rest := ih ((authMachine libs config).step state input).1
        (fun event member => untouched event (List.mem_cons_of_mem _ member))
      exact rest.trans (step_preauth_kept libs config state input token unused other)

theorem login_output (env : Env) (state : AuthState) (username password : String) (account : User)
    (correct : state.users.authenticate libs.verifyPassword username password = some account) :
    (login libs config env username password state).2 = .ok (.twoFactorRequired env.preauthToken) ↔
      account.totpEnabled = true := by
  cases factor : account.totpEnabled with
  | true => simp [login, correct, factor]
  | false =>
      simp only [login, correct, factor, Bool.false_eq_true, if_false, iff_false]
      intro answered
      simp only [issueSession] at answered
      split at answered <;> cases answered

theorem login_session (env : Env) (state : AuthState) (username password : String) (account : User)
    (correct : state.users.authenticate libs.verifyPassword username password = some account)
    (factor : account.totpEnabled = true) :
    (login libs config env username password state).1.preauth.lookup env.preauthToken =
      some { userId := account.id, username := account.username
             expiresAt := timestampAdd env.clock.storedAt preauthTtlSecs, consumed := false } := by
  simp [login, correct, factor, PreAuthStore.issue]

theorem completion_reads (env : Env) (state : AuthState) (token code : String) (session : PreAuthSession) (user : User)
    (pending : state.preauth.lookup token = some session) (unconsumed : session.consumed = false)
    (inTime : env.clock.checkedAt ≤ session.expiresAt) (found : state.users.getById session.userId = some user) :
    accountRead libs config env state (.twoFactorComplete token code) = some user := by
  have late : ¬ session.expiresAt < env.clock.checkedAt := by omega
  simp [accountRead, PreAuthStore.consume, pending, unconsumed, late, found]

theorem fresh_preauth_after (before after : List AuthEvent) (event : AuthEvent) (token : String)
    (fresh : FreshPreauth (before ++ event :: after)) (issued : preauthIssued event = some token) :
    ∀ other ∈ after, preauthIssued other ≠ some token := by
  intro other member same
  have tail : (preauthIssued event).toList ++ after.filterMap preauthIssued =
      (event :: after).filterMap preauthIssued := by
    simp [issued]
  have nodup : ((event :: after).filterMap preauthIssued).Nodup := by
    rw [FreshPreauth, List.filterMap_append] at fresh
    exact fresh.of_append_right
  rw [← tail, issued, Option.toList_some, List.singleton_append, List.nodup_cons] at nodup
  exact nodup.1 (List.mem_filterMap.mpr ⟨other, member, same⟩)

theorem completion_returns_iff (start : AuthState) (inputs : List AuthInput)
    (fresh : FreshPreauth ((authMachine libs config).trace start inputs)) (before : List AuthEvent)
    (event : AuthEvent) (after : List AuthEvent) (env : Env) (username secret password : String) (account : User)
    (login : LoginWithFactor libs ((authMachine libs config).trace start inputs) before event after env username
      secret password account)
    (factor : account.totpEnabled = true) (completion : AuthEvent) (completionEnv : Env) (code : String) (user : User)
    (completes : CompletesLogin libs config env username secret account after completion completionEnv code user) :
    (∃ outcome, completion.output = some outcome ∧ returnsTokens outcome = true) ↔
      secondFactorAccepted libs completionEnv user code = true := by
  obtain ⟨loginInputs, input, afterInputs, _, rfl, rfl, rfl⟩ := Machine.trace_split _ _ _ _ _ _ login.split
  have inputEq : input = .request env (.login username password) := login.input
  subst input
  obtain ⟨_, between, rest, split, untouched⟩ := completes.first
  obtain ⟨betweenInputs, last, restInputs, _, rfl, rfl, rfl⟩ := Machine.trace_split _ _ _ _ _ _ split
  have lastEq : last = .request completionEnv (.twoFactorComplete env.preauthToken code) := completes.input
  subst last
  have asked : (handle libs config env ((authMachine libs config).run start loginInputs)
      (.login username password)).2 = .ok (.twoFactorRequired env.preauthToken) :=
    (login_output libs config env _ username password account login.correct).mpr factor
  have issued : preauthIssued (Machine.event (authMachine libs config)
      ((authMachine libs config).run start loginInputs) (.request env (.login username password))) =
      some env.preauthToken := by
    simp only [preauthIssued, event_output, asked]
  have others := fresh_preauth_after _ _ _ env.preauthToken (login.split ▸ fresh) issued
  have kept := run_preauth_kept libs config _ betweenInputs env.preauthToken (fun other member =>
    ⟨(untouched other member).2, others other (by rw [split]; exact List.mem_append_left _ member)⟩)
  have entered : ((authMachine libs config).run start (loginInputs ++ [.request env (.login username password)])).preauth.lookup
      env.preauthToken = some
        { userId := account.id, username := account.username
          expiresAt := timestampAdd env.clock.storedAt preauthTtlSecs, consumed := false } := by
    rw [Machine.run_snoc]
    exact login_session libs config env _ username password account login.correct factor
  have read := completion_reads libs config completionEnv _ env.preauthToken code _ user (kept.trans entered) rfl
    completes.inTime completes.found
  have returns := returns_tokens_iff libs config completionEnv _ _ user read
  rw [event_output]
  simp only [Option.some.injEq, exists_eq_left', returns, completes.signs, and_true]
  exact Iff.rfl

theorem key_accepted (env : Env) (user : User) (secret code : String) (holds : HoldsKey user secret)
    (verified : Totp.verifyTotp libs.hmacSha1 env.clock.totpAt secret code = true) :
    secondFactorAccepted libs env user code = true := by
  obtain ⟨stored, present, sameKey⟩ := holds
  have accepted : Totp.verifyTotp libs.hmacSha1 env.clock.totpAt stored code = true := by
    unfold Totp.verifyTotp at verified ⊢
    rw [sameKey]
    exact verified
  unfold secondFactorAccepted
  rw [present]
  exact Bool.or_eq_true_iff.mpr (Or.inl accepted)

theorem two_factor_takes_effect (start : AuthState) (inputs : List AuthInput)
    (fresh : FreshPreauth ((authMachine libs config).trace start inputs))
    (stored : FactorStored libs ((authMachine libs config).trace start inputs)) :
    TwoFactorTakesEffect libs config ((authMachine libs config).trace start inputs) := by
  intro before event after env username secret password account login
  obtain ⟨factor, holds⟩ := stored before event after env username secret password account login
  have member : event ∈ (authMachine libs config).trace start inputs := by
    rw [login.split]
    exact List.mem_append_right _ List.mem_cons_self
  constructor
  · rw [trace_output libs config env start inputs event member _ login.input, Option.some.injEq]
    exact (login_output libs config env event.before username password account login.correct).mpr factor
  · intro completion completionEnv code user completes
    have key := holds completion completes.first user completes.found
    exact (completion_returns_iff libs config start inputs fresh before event after env username secret password account
      login factor completion completionEnv code user completes).mpr
      (key_accepted libs completionEnv user secret code key completes.code)

end Enrolment

def aliceSecret : String :=
  "GEZDGNBVGY3TQOJQGEZDGNBVGY3TQOJQ"

def enrolledClaims : Claims :=
  { sub := "u-alice", username := "alice", role := "operator", iat := 0, exp := 3600 }

def verifiedRun : List AuthInput :=
  [.request (sampleEnv 59 ⟨"r1", "t1"⟩) (.twoFactorVerify enrolledClaims aliceSecret "287082"),
    .request (sampleEnv 60 ⟨"r2", "t2"⟩) (.login "alice" "U*U"),
    .request (sampleEnv 61 ⟨"r3", "t3"⟩) (.twoFactorComplete "preauth-r2" "287082")]

def verifiedTrace : List AuthEvent :=
  (authMachine sampleLibs sampleConfig).trace enrolledStart verifiedRun

theorem verified_factor_stored : FactorStored sampleLibs verifiedTrace := by
  intro before event after env username secret password account login
  have inTrace : event ∈ verifiedTrace := by
    rw [login.split]
    exact List.mem_append_right _ List.mem_cons_self
  have isAlice : account = enrolledAlice := by
    have input := login.input
    have correct := login.correct
    simp only [verifiedTrace, verifiedRun, Machine.trace, List.mem_cons, List.not_mem_nil, or_false] at inTrace
    rcases inTrace with rfl | rfl | rfl
    · cases input
    · cases input
      exact (Option.some.inj correct).symm
    · cases input
  subst account
  obtain ⟨earlier, verifying, between, claims, isBefore, _, ⟨verifyEnv, code, message, asked, _⟩, _⟩ := login.on
  have isSecret : secret = aliceSecret := by
    have inTrace : verifying ∈ verifiedTrace := by
      rw [login.split, isBefore]
      simp
    simp only [verifiedTrace, verifiedRun, Machine.trace, List.mem_cons, List.not_mem_nil, or_false] at inTrace
    rcases inTrace with rfl | rfl | rfl
    · cases asked
      rfl
    · cases asked
    · cases asked
  refine ⟨rfl, ?_⟩
  rintro completion ⟨⟨completionEnv, presented, input⟩, waiting, rest, isAfter, _⟩ user found
  have inTrace : completion ∈ verifiedTrace := by
    rw [login.split, isAfter]
    simp
  simp only [verifiedTrace, verifiedRun, Machine.trace, List.mem_cons, List.not_mem_nil, or_false] at inTrace
  rcases inTrace with rfl | rfl | rfl
  · cases input
  · cases input
  · have isAlice : some enrolledAlice = some user := found
    cases isAlice
    exact ⟨aliceSecret, rfl, by rw [isSecret]⟩

theorem verified_factor_asked_for :
    (∃ before event after env, LoginWithFactor sampleLibs verifiedTrace before event after env "alice" aliceSecret
        "U*U" enrolledAlice) ∧
      (verifiedTrace.map fun event => event.output.map returnsTokens) = [some false, some false, some true] ∧
        TwoFactorTakesEffect sampleLibs sampleConfig verifiedTrace := by
  refine ⟨⟨[_], _, [_], sampleEnv 60 ⟨"r2", "t2"⟩, rfl, ?_, rfl, by decide⟩, by decide,
    two_factor_takes_effect sampleLibs sampleConfig enrolledStart verifiedRun (by unfold FreshPreauth; decide)
      verified_factor_stored⟩
  exact ⟨[], _, [], enrolledClaims, rfl, rfl,
    ⟨_, _, some "Two-factor authentication is now active. Save your backup codes.", rfl, by decide⟩, by simp⟩

def bob : User :=
  sampleUser "u-bob" "bob" none

def bobClaims : Claims :=
  { sub := "u-bob", username := "bob", role := "operator", iat := 0, exp := 3600 }

def bobStart : AuthState :=
  AuthState.initial (UserStore.withUsers [bob]) none none

-- Bob verifies a code, is told that 2FA is active, and logs in with his password alone.
def bobRun : List AuthInput :=
  [.request (sampleEnv 59 ⟨"r1", "t1"⟩) (.twoFactorVerify bobClaims "GEZDGNBVGY3TQOJQGEZDGNBVGY3TQOJQ" "287082"),
    .request (sampleEnv 60 ⟨"r2", "t2"⟩) (.login "bob" "U*U")]

theorem verified_factor_not_asked_for :
    ¬ TwoFactorTakesEffect sampleLibs sampleConfig ((authMachine sampleLibs sampleConfig).trace bobStart bobRun) := by
  intro effect
  have login : LoginWithFactor sampleLibs ((authMachine sampleLibs sampleConfig).trace bobStart bobRun)
      [Machine.event (authMachine sampleLibs sampleConfig) bobStart (.request (sampleEnv 59 ⟨"r1", "t1"⟩)
        (.twoFactorVerify bobClaims "GEZDGNBVGY3TQOJQGEZDGNBVGY3TQOJQ" "287082"))]
      (Machine.event (authMachine sampleLibs sampleConfig) bobStart
        (.request (sampleEnv 60 ⟨"r2", "t2"⟩) (.login "bob" "U*U"))) []
      (sampleEnv 60 ⟨"r2", "t2"⟩) "bob" "GEZDGNBVGY3TQOJQGEZDGNBVGY3TQOJQ" "U*U" bob :=
    { split := rfl
      on := ⟨[], _, [], bobClaims, rfl, rfl, ⟨_, _, some "Two-factor authentication is now active. Save your backup codes.",
        rfl, by decide⟩, by simp⟩
      input := rfl
      correct := by decide }
  have asked := (effect _ _ _ _ _ _ _ _ login).1
  revert asked
  decide

end Moxui.Auth
