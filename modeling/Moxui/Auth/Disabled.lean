import Moxui.Auth.Sessions

set_option autoImplicit false

namespace Moxui.Auth

section Disabled

variable (libs : Libs) (config : AuthConfig)

def returnsTokens (outcome : Outcome) : Bool :=
  (mintedJwt outcome).isSome || (mintedRefresh outcome).isSome

def NoTokenForDisabled (trace : List AuthEvent) : Prop :=
  ∀ event ∈ trace, ∀ env request outcome user, event.input = .request env request → event.output = some outcome →
    returnsTokens outcome = true → accountRead libs config env event.before request = some user →
    user.enabled = true

def flagUnread : AuthRequest → Bool
  | .refresh _ => true
  | .twoFactorComplete _ _ => true
  | .loginComplete _ _ => true
  | _ => false

def EnabledWhenUnread (trace : List AuthEvent) : Prop :=
  ∀ event ∈ trace, ∀ env request user, event.input = .request env request → flagUnread request = true →
    accountRead libs config env event.before request = some user →
    accountAccepted libs env event.before user request = true → (signed libs config env user).isSome = true →
    user.enabled = true

theorem returns_tokens_iff (env : Env) (state : AuthState) (request : AuthRequest) (user : User)
    (read : accountRead libs config env state request = some user) :
    returnsTokens (handle libs config env state request).2 = true ↔
      accountAccepted libs env state user request = true ∧ (signed libs config env user).isSome = true := by
  rw [returnsTokens, minted_refresh_jwt, Bool.or_self, handle_jwt]
  simp only [accountFor, read]
  cases accountAccepted libs env state user request <;> simp

theorem accepted_enabled (env : Env) (state : AuthState) (request : AuthRequest) (user : User)
    (checked : flagUnread request = false) (accepted : accountAccepted libs env state user request = true) :
    user.enabled = true := by
  cases request with
  | login username password =>
      simp only [accountAccepted, Bool.and_eq_true] at accepted
      exact accepted.1.1
  | ldapLogin username password => exact accepted
  | oidcCallback stateKey code returned => exact accepted
  | refresh refreshToken => cases checked
  | twoFactorComplete preauthToken code => cases checked
  | loginComplete username credential => cases checked
  | _ => cases accepted

theorem no_token_for_disabled_iff (start : AuthState) (inputs : List AuthInput) :
    NoTokenForDisabled libs config ((authMachine libs config).trace start inputs) ↔
      EnabledWhenUnread libs config ((authMachine libs config).trace start inputs) := by
  constructor
  · intro safe event member env request user input _ read accepted signs
    have output := trace_output libs config env start inputs event member request input
    have returns := (returns_tokens_iff libs config env event.before request user read).mpr ⟨accepted, signs⟩
    exact safe event member env request _ user input output returns read
  · intro enabled event member env request outcome user input output returns read
    rw [trace_output libs config env start inputs event member request input, Option.some.injEq] at output
    subst outcome
    obtain ⟨accepted, signs⟩ := (returns_tokens_iff libs config env event.before request user read).mp returns
    cases unread : flagUnread request with
    | true => exact enabled event member env request user input unread read accepted signs
    | false => exact accepted_enabled libs env event.before request user unread accepted

end Disabled

-- Alice logs in, an admin disables her account, she refreshes.
def disabledStart : AuthState :=
  AuthState.initial (UserStore.withUsers [sampleUser "u-alice" "alice" none]) none none

def disableAlice : UpdateUserRequest :=
  { displayName := none, email := none, role := none, password := none, enabled := some false }

def disabledRun : List AuthInput :=
  [.request (sampleEnv 0 ⟨"r1", "t1"⟩) (.login "alice" "U*U"),
    .request (sampleEnv 5 ⟨"r2", "t2"⟩) (.updateUser adminClaims "alice" disableAlice),
    .request (sampleEnv 10 ⟨"r3", "t3"⟩) (.refresh "t1")]

theorem refresh_for_disabled_account :
    ¬ NoTokenForDisabled sampleLibs sampleConfig ((authMachine sampleLibs sampleConfig).trace disabledStart disabledRun) := by
  intro safe
  have enabled := safe _ (List.mem_of_getElem? (i := 2) rfl) _ _ _
    { sampleUser "u-alice" "alice" none with enabled := false } rfl rfl (by decide) (by decide)
  cases enabled

end Moxui.Auth
