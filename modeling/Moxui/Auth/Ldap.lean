import Moxui.Lib.Dialogue
import Moxui.Lib.Table
import Moxui.Lib.Text

set_option autoImplicit false

namespace Moxui.Auth

structure LdapConfig where
  enabled : Bool
  url : Option String
  baseDn : Option String
  bindDn : Option String
  bindPassword : Option String
  userFilter : String
  usernameAttr : String
  displaynameAttr : String
  emailAttr : String
  defaultRole : String
  autoCreate : Bool

structure LdapUserInfo where
  dn : String
  username : String
  displayName : String
  email : String
deriving DecidableEq, Repr

structure SearchEntry where
  dn : String
  attrs : Table String (List String)

inductive LdapCall where
  | connect (url : String) (noTlsVerify : Bool)
  | simpleBind (dn password : String)
  | search (baseDn filter : String) (attrs : List String)
  | unbind

-- `none` is a transport failure. What the server answers comes with its result code, which
-- is 0 for success: a bind it refuses is `some 49`, not `none`.
abbrev LdapAnswer : LdapCall → Type
  | .connect _ _ => Bool
  | .simpleBind _ _ => Option Nat
  | .search _ _ _ => Option (List SearchEntry × Nat)
  | .unbind => Bool

abbrev LdapDialogue := Dialogue LdapCall LdapAnswer

abbrev Directory := Dialogue.Oracle LdapCall LdapAnswer

abbrev LdapExchange := Dialogue.Exchange LdapCall LdapAnswer

def ldapUserId (username : String) : String :=
  "ldap-" ++ username

def firstAttr (entry : SearchEntry) (attr : String) : Option String :=
  (entry.attrs.lookup attr).bind List.head?

def ldapUserInfo (config : LdapConfig) (username : String) (entry : SearchEntry) : LdapUserInfo :=
  let usernameVal := (firstAttr entry config.usernameAttr).getD username
  { dn := entry.dn
    username := usernameVal
    displayName := (firstAttr entry config.displaynameAttr).getD usernameVal
    email := (firstAttr entry config.emailAttr).getD "" }

-- Steps 1 to 4: connect, bind as the service account, search, extract the attributes.
def locateUser (config : LdapConfig) (username : String) : LdapDialogue (Option LdapUserInfo) :=
  match config.url, config.baseDn, config.bindDn, config.bindPassword with
  | some url, some baseDn, some bindDn, some bindPassword =>
      .ask (.connect url (!Text.startsWith url "ldaps://")) fun (connected : Bool) =>
        if connected then
          .ask (.simpleBind bindDn bindPassword) fun (bound : Option Nat) =>
            match bound with
            | none => .done none
            | some _ =>
                .ask (.search baseDn (Text.replaceAll "{username}" username config.userFilter)
                  [config.usernameAttr, config.displaynameAttr, config.emailAttr])
                  fun (found : Option (List SearchEntry × Nat)) =>
                    match found with
                    | some (entry :: _, _) => .done (some (ldapUserInfo config username entry))
                    | _ => .done none
        else .done none
  | _, _, _, _ => .done none

-- Step 5 looks only at whether the re-bind was answered, not at the answer.
def rebind (password : String) : Option LdapUserInfo → LdapDialogue (Option LdapUserInfo)
  | none => .done none
  | some info =>
      .ask (.simpleBind info.dn password) fun (bound : Option Nat) =>
        match bound with
        | none => .done none
        | some _ => .ask .unbind fun _ => .done (some info)

def verifyLdapCredentials (config : LdapConfig) (username password : String) :
    LdapDialogue (Option LdapUserInfo) :=
  (locateUser config username).bind (rebind password)

section Acceptance

variable (directory : Directory) (config : LdapConfig) (username password : String)

def ldapTranscript : List LdapExchange :=
  (Dialogue.run directory [] (verifyLdapCredentials config username password)).1

def ldapResult : Option LdapUserInfo :=
  (Dialogue.run directory [] (verifyLdapCredentials config username password)).2

-- A user is accepted only with a password, and only if the last bind of the dialogue was
-- the one as this user and its result code was success.
def AcceptsOnlyBound : Prop :=
  ∀ info, ldapResult directory config username password = some info →
    password ≠ "" ∧ ∃ past unbound, ldapTranscript directory config username password =
      past ++ [⟨.simpleBind info.dn password, some 0⟩, ⟨.unbind, unbound⟩]

def rebindAnswer : Option (Option Nat) :=
  let located := Dialogue.run directory [] (locateUser config username)
  located.2.map fun info => directory located.1 (.simpleBind info.dn password)

theorem verify_run : Dialogue.run directory [] (verifyLdapCredentials config username password) =
    Dialogue.run directory (Dialogue.run directory [] (locateUser config username)).1
      (rebind password (Dialogue.run directory [] (locateUser config username)).2) :=
  Dialogue.run_bind directory [] (locateUser config username) (rebind password)

theorem rebind_run_answered (past : List LdapExchange) (info : LdapUserInfo) (rc : Nat)
    (answer : directory past (.simpleBind info.dn password) = some rc) :
    ∃ unbound, Dialogue.run directory past (rebind password (some info)) =
      (past ++ [⟨.simpleBind info.dn password, some rc⟩, ⟨.unbind, unbound⟩], some info) := by
  refine ⟨directory (past ++ [⟨.simpleBind info.dn password, some rc⟩]) .unbind, ?_⟩
  simp only [rebind, Dialogue.run_ask, answer, Dialogue.run_done, List.append_assoc, List.cons_append,
    List.nil_append]

theorem rebind_run_failed (past : List LdapExchange) (info : LdapUserInfo)
    (answer : directory past (.simpleBind info.dn password) = none) :
    (Dialogue.run directory past (rebind password (some info))).2 = none := by
  simp only [rebind, Dialogue.run_ask, answer, Dialogue.run_done]

theorem verify_answered (rc : Nat) (answer : rebindAnswer directory config username password = some (some rc)) :
    ∃ info past unbound, ldapResult directory config username password = some info ∧
      ldapTranscript directory config username password =
        past ++ [⟨.simpleBind info.dn password, some rc⟩, ⟨.unbind, unbound⟩] := by
  have whole := verify_run directory config username password
  simp only [ldapResult, ldapTranscript, rebindAnswer, whole] at answer ⊢
  revert answer
  generalize Dialogue.run directory [] (locateUser config username) = located
  obtain ⟨past, found⟩ := located
  cases found with
  | none => simp
  | some info =>
      intro answer
      simp only [Option.map_some, Option.some.injEq] at answer
      obtain ⟨unbound, accepted⟩ := rebind_run_answered directory password past info rc answer
      exact ⟨info, past, unbound, by rw [accepted], by rw [accepted]⟩

theorem verify_unanswered (silent : ∀ rc, rebindAnswer directory config username password ≠ some (some rc)) :
    ldapResult directory config username password = none := by
  have whole := verify_run directory config username password
  simp only [ldapResult, rebindAnswer, whole] at silent ⊢
  revert silent
  generalize Dialogue.run directory [] (locateUser config username) = located
  obtain ⟨past, found⟩ := located
  cases found with
  | none => simp [rebind]
  | some info =>
      intro silent
      cases answer : directory past (.simpleBind info.dn password) with
      | none => exact rebind_run_failed directory password past info answer
      | some rc => simp [answer] at silent

theorem accepted_only_bound_rebind (rc : Nat)
    (answer : rebindAnswer directory config username password = some (some rc))
    (accepts : AcceptsOnlyBound directory config username password) : rc = 0 ∧ password ≠ "" := by
  obtain ⟨info, past, unbound, accepted, said⟩ := verify_answered directory config username password rc answer
  obtain ⟨nonempty, earlier, closing, transcriptEq⟩ := accepts info accepted
  have ends := List.append_inj_right' (said.symm.trans transcriptEq) rfl
  simp only [List.cons.injEq, Sigma.mk.injEq, heq_eq_eq, true_and, Option.some.injEq] at ends
  exact ⟨ends.1, nonempty⟩

theorem ldap_acceptance_iff : AcceptsOnlyBound directory config username password ↔
    ∀ rc, rebindAnswer directory config username password = some (some rc) → rc = 0 ∧ password ≠ "" := by
  constructor
  · exact fun accepts rc answer => accepted_only_bound_rebind directory config username password rc answer accepts
  · intro honest info accepted
    by_cases silent : ∀ rc, rebindAnswer directory config username password ≠ some (some rc)
    · rw [verify_unanswered directory config username password silent] at accepted
      cases accepted
    · obtain ⟨rc, answer⟩ := not_forall_not.mp silent
      obtain ⟨success, nonempty⟩ := honest rc answer
      obtain ⟨found, past, unbound, result, said⟩ :=
        verify_answered directory config username password rc answer
      rw [accepted, Option.some.injEq] at result
      subst found
      exact ⟨nonempty, past, unbound, by rw [said, success]⟩

end Acceptance

def sampleLdapConfig : LdapConfig :=
  { enabled := true, url := some "ldap://dc01.example.com:389", baseDn := some "dc=example,dc=com"
    bindDn := some "cn=svc,dc=example,dc=com", bindPassword := some "svc-secret"
    userFilter := "(&(objectClass=person)(uid={username}))", usernameAttr := "uid"
    displaynameAttr := "displayName", emailAttr := "mail", defaultRole := "viewer", autoCreate := true }

-- A directory in working order: it knows alice and answers 49 to every password but hers.
def sampleDirectory : Directory := fun _ call =>
  match call with
  | .connect _ _ => true
  | .simpleBind dn password =>
      if dn = "cn=svc,dc=example,dc=com" ∧ password = "svc-secret" then some 0
      else if dn = "uid=alice,dc=example,dc=com" ∧ password = "correct" then some 0
      else some 49
  | .search _ filter _ =>
      if filter = "(&(objectClass=person)(uid=alice))" then some ([⟨"uid=alice,dc=example,dc=com", ∅⟩], 0)
      else some ([], 0)
  | .unbind => true

theorem wrong_ldap_password_accepted :
    ldapResult sampleDirectory sampleLdapConfig "alice" "wrong" =
        some ⟨"uid=alice,dc=example,dc=com", "alice", "alice", ""⟩ ∧
      rebindAnswer sampleDirectory sampleLdapConfig "alice" "wrong" = some (some 49) ∧
      ¬ AcceptsOnlyBound sampleDirectory sampleLdapConfig "alice" "wrong" := by
  have accepted : ldapResult sampleDirectory sampleLdapConfig "alice" "wrong" =
      some ⟨"uid=alice,dc=example,dc=com", "alice", "alice", ""⟩ := by decide
  have refused : rebindAnswer sampleDirectory sampleLdapConfig "alice" "wrong" = some (some 49) := by decide
  refine ⟨accepted, refused, ?_⟩
  intro bound
  have success := accepted_only_bound_rebind sampleDirectory sampleLdapConfig "alice" "wrong" 49 refused bound
  exact absurd success.1 (by decide)

end Moxui.Auth
