import Moxui.Lib.Text
import Moxui.Api.VncSessions
import Moxui.Auth.Vnc

set_option autoImplicit false

namespace Moxui.Api

open Moxui.Auth (Claims VncCrypto VncTokenClaims)

def vncClaims (now : UInt64) (subject : String) : VncTokenClaims :=
  { sub := subject, iat := now, exp := now + UInt64.ofNat vncTokenTtlSecs }

def ApiLibs.withVnc (crypto : VncCrypto) (now : UInt64) (libs : ApiLibs) : ApiLibs :=
  { libs with
    mintVncToken := fun secret subject => Auth.mintVncToken crypto secret (vncClaims now subject)
    verifyVncToken := fun secret token => (Auth.verifyVncToken crypto now secret token).map (·.sub) }

def handedOut (response : Response) : Option String :=
  match response.body with
  | .json value =>
      match value.get "vnc_token" with
      | some (.str token) => some token
      | _ => none
  | _ => none

-- What ends the cluster of `path` is what begins the node of `other`.
def Shifted (path other : VmPath) : Prop :=
  path.vmid = other.vmid ∧
    ∃ moved, other.cluster = path.cluster ++ ":" ++ moved ∧ path.node = moved ++ ":" ++ other.node

theorem digits_only (vmid : UInt32) : ':' ∉ (toString vmid).toList := by
  intro member
  have byte : (58 : UInt8) ∈ Text.bytes (toString vmid.toNat) :=
    List.mem_flatMap.mpr ⟨':', member, by decide⟩
  exact absurd (Text.decimal_bytes vmid.toNat 58 byte).2 (by decide)

theorem vmid_text_injective (first second : UInt32) (same : toString first = toString second) : first = second :=
  UInt32.toNat_inj.mp (Text.decimal_injective _ _ same)

theorem colon_joined (first second : String) :
    (first ++ ":" ++ second).toList = first.toList ++ ':' :: second.toList := by
  simp [String.toList_append]

theorem subject_text (path : VmPath) :
    (vncSubject path).toList =
      "vnc:".toList ++ ((path.cluster.toList ++ ':' :: path.node.toList) ++ ':' :: (toString path.vmid).toList) := by
  simp [vncSubject, String.toList_append]

theorem joined_same (first second rest other : String) :
    first.toList ++ ':' :: rest.toList = second.toList ++ ':' :: other.toList ↔
      (first = second ∧ rest = other) ∨
      (∃ moved, second = first ++ ":" ++ moved ∧ rest = moved ++ ":" ++ other) ∨
      ∃ moved, first = second ++ ":" ++ moved ∧ other = moved ++ ":" ++ rest := by
  have moved (longer shorter middle : String) :
      longer.toList = shorter.toList ++ ':' :: middle.toList ↔ longer = shorter ++ ":" ++ middle := by
    rw [← colon_joined, String.toList_inj]
  rw [Text.shifted_separator]
  refine or_congr (and_congr String.toList_inj String.toList_inj) (or_congr ?_ ?_)
  · refine ⟨?_, ?_⟩
    · rintro ⟨chars, secondIs, restIs⟩
      refine ⟨String.ofList chars, (moved _ _ _).mp ?_, (moved _ _ _).mp ?_⟩
      · rw [secondIs, String.toList_ofList]
      · rw [restIs, String.toList_ofList]
    · rintro ⟨middle, secondIs, restIs⟩
      exact ⟨middle.toList, (moved _ _ _).mpr secondIs, (moved _ _ _).mpr restIs⟩
  · refine ⟨?_, ?_⟩
    · rintro ⟨chars, firstIs, otherIs⟩
      refine ⟨String.ofList chars, (moved _ _ _).mp ?_, (moved _ _ _).mp ?_⟩
      · rw [firstIs, String.toList_ofList]
      · rw [otherIs, String.toList_ofList]
    · rintro ⟨middle, firstIs, otherIs⟩
      exact ⟨middle.toList, (moved _ _ _).mpr firstIs, (moved _ _ _).mpr otherIs⟩

-- The number at the end has no colon, so a subject is read from there.
theorem vnc_subject_same (first second : VmPath) :
    vncSubject first = vncSubject second ↔ first = second ∨ Shifted first second ∨ Shifted second first := by
  rw [← String.toList_inj, subject_text, subject_text, List.append_cancel_left_eq,
    Text.last_separator ':' _ _ _ _ (digits_only _) (digits_only _), joined_same, String.toList_inj]
  obtain ⟨cluster, node, vmid⟩ := first
  obtain ⟨otherCluster, otherNode, otherVmid⟩ := second
  simp only [VmPath.mk.injEq, Shifted]
  refine ⟨?_, ?_⟩
  · rintro ⟨⟨sameCluster, sameNode⟩ | shifted | shifted, sameText⟩
    · exact Or.inl ⟨sameCluster, sameNode, vmid_text_injective _ _ sameText⟩
    · exact Or.inr (Or.inl ⟨vmid_text_injective _ _ sameText, shifted⟩)
    · exact Or.inr (Or.inr ⟨(vmid_text_injective _ _ sameText).symm, shifted⟩)
  · rintro (⟨sameCluster, sameNode, sameVmid⟩ | ⟨sameVmid, shifted⟩ | ⟨sameVmid, shifted⟩)
    · exact ⟨Or.inl ⟨sameCluster, sameNode⟩, by rw [sameVmid]⟩
    · exact ⟨Or.inr (Or.inl shifted), by rw [sameVmid]⟩
    · exact ⟨Or.inr (Or.inr shifted), by rw [sameVmid]⟩

theorem shifted_differs (path other : VmPath) (shifted : Shifted path other) : path ≠ other := by
  rintro rfl
  obtain ⟨_, moved, longer, _⟩ := shifted
  have lengths := congrArg (fun text => text.toList.length) longer
  simp [String.toList_append] at lengths

theorem same_only_equal_iff (first second : VmPath) :
    (vncSubject first = vncSubject second ↔ first = second) ↔ ¬ (Shifted first second ∨ Shifted second first) := by
  rw [vnc_subject_same]
  refine ⟨?_, ?_⟩
  · intro injective shifted
    have same := injective.mp (Or.inr shifted)
    rcases shifted with forward | backward
    · exact shifted_differs first second forward same
    · exact shifted_differs second first backward same.symm
  · intro unshifted
    exact or_iff_left unshifted

section Tokens

variable {ρ : Type} (crypto : VncCrypto) (libs : ApiLibs)

def ticketResponse (now : UInt64) (entry : Entry) (oracle : Dialogue.Oracle Upstream Answer) (state : AppState ρ) :
    Response :=
  (Dialogue.run oracle [] (runCommand (fun entry => vncTicketHandler (libs.withVnc crypto now) entry) entry state)).2.2

theorem refusal_hands_nothing (entry : Entry) (refusal : Response) (refused : authContext entry = .error refusal) :
    handedOut refusal = none := by
  cases claims : entry.request.claims with
  | none =>
      rw [authContext, AuthContext.fromRequestParts, claims] at refused
      cases refused
      rfl
  | some found =>
      rw [authContext, AuthContext.fromRequestParts, claims] at refused
      cases refused

theorem handed_out_minted (now : UInt64) (entry : Entry) (oracle : Dialogue.Oracle Upstream Answer) (state : AppState ρ)
    (path : VmPath) (secret : List UInt8) (token : String) (named : vmPath libs entry = .ok path)
    (configured : state.vncSecret = some secret)
    (handed : handedOut (ticketResponse crypto libs now entry oracle state) = some token) :
    Auth.mintVncToken crypto secret (vncClaims now (vncSubject path)) = .ok token := by
  have samePath : vmPath (libs.withVnc crypto now) entry = .ok path := named
  cases read : vncTicketHandler (libs.withVnc crypto now) entry state with
  | error response =>
      cases authenticated : authContext entry with
      | error refusal =>
          simp only [vncTicketHandler, authenticated, bind, Except.bind] at read
          cases read
          simp only [ticketResponse, runCommand, vncTicketHandler, authenticated, bind, Except.bind, Dialogue.run_done,
            refusal_hands_nothing entry response authenticated] at handed
          cases handed
      | ok auth =>
          simp only [vncTicketHandler, authenticated, samePath, bind, Except.bind] at read
          cases read
  | ok command =>
      simp only [ticketResponse, runCommand, read] at handed
      obtain ⟨auth, _, afterAuth⟩ := except_bind_ok _ _ _ read
      obtain ⟨found, isPath, isCommand⟩ := except_bind_ok _ _ _ afterAuth
      cases samePath.symm.trans isPath
      rcases command_result command state oracle with ⟨error, failing⟩ | ⟨call, data, called, finished, _⟩
      · rw [failing] at handed
        cases handed
      · rw [finished] at handed
        cases isCommand
        have mints : (libs.withVnc crypto now).mintVncToken (state.vncSecret.getD []) (vncSubject path) =
            Auth.mintVncToken crypto secret (vncClaims now (vncSubject path)) := by
          rw [configured]
          rfl
        cases minted : Auth.mintVncToken crypto secret (vncClaims now (vncSubject path)) with
        | error error =>
            rw [mints, minted] at called
            cases called
        | ok made =>
            simp only [mints, minted] at handed
            cases handed
            rfl

def consoleCommand (tryAcquire : String → AppState ρ → AppState ρ × Bool) (path : VmPath) (upgrade : Response)
    (checks : Except AppError Unit) : Command ρ :=
  { cluster := path.cluster
    checks := checks
    missing := .notFound ("cluster " ++ path.cluster)
    call := .ok (.vncProxy path.node path.vmid)
    finish := fun _ state =>
      let admitted := tryAcquire (path.cluster ++ ":" ++ path.node ++ ":" ++ toString path.vmid) state
      if admitted.2 then (admitted.1, upgrade)
      else failed admitted.1 (.tooManyRequests "too many concurrent VNC sessions for this VM") }

theorem console_reads (tryAcquire : String → AppState ρ → AppState ρ × Bool) (now : UInt64) (entry : Entry)
    (state : AppState ρ) (path : VmPath) (secret : List UInt8) (token : String) (upgrade : Response)
    (named : vmPath libs entry = .ok path) (carried : libs.vncWsQuery entry.request = .ok token)
    (upgrades : libs.webSocketUpgrade entry.request = .ok upgrade) (configured : state.vncSecret = some secret)
    (claims : VncTokenClaims) (verified : Auth.verifyVncToken crypto now secret token = .ok claims) :
    vncWsHandler (libs.withVnc crypto now) entry tryAcquire state =
      .ok (consoleCommand tryAcquire path upgrade
        (if claims.sub = vncSubject path then .ok () else .error (.unauthorized "vnc token subject mismatch"))) := by
  have samePath : vmPath (libs.withVnc crypto now) entry = .ok path := named
  have sameToken : (libs.withVnc crypto now).vncWsQuery entry.request = .ok token := carried
  have sameUpgrade : (libs.withVnc crypto now).webSocketUpgrade entry.request = .ok upgrade := upgrades
  have accepts : (libs.withVnc crypto now).verifyVncToken secret token = .ok claims.sub := by
    simp only [ApiLibs.withVnc, verified, Except.map]
  simp only [vncWsHandler, samePath, sameToken, sameUpgrade, configured, accepts, bind, Except.bind, consoleCommand]

theorem console_checks (tryAcquire : String → AppState ρ → AppState ρ × Bool) (now : UInt64) (entry : Entry)
    (state : AppState ρ) (path : VmPath) (secret : List UInt8) (token : String) (command : Command ρ)
    (named : vmPath libs entry = .ok path) (carried : libs.vncWsQuery entry.request = .ok token)
    (configured : state.vncSecret = some secret)
    (read : vncWsHandler (libs.withVnc crypto now) entry tryAcquire state = .ok command) (claims : VncTokenClaims)
    (verified : Auth.verifyVncToken crypto now secret token = .ok claims) :
    command.checks = .ok () ↔ claims.sub = vncSubject path := by
  obtain ⟨found, _, afterPath⟩ := except_bind_ok _ _ _ read
  obtain ⟨sent, _, afterToken⟩ := except_bind_ok _ _ _ afterPath
  obtain ⟨upgrade, upgrades, _⟩ := except_bind_ok _ _ _ afterToken
  have reads := console_reads crypto libs tryAcquire now entry state path secret token upgrade named carried upgrades
    configured claims verified
  cases reads.symm.trans read
  by_cases same : claims.sub = vncSubject path
  · simp only [consoleCommand, same, if_true]
  · simp only [consoleCommand, same, if_false, reduceCtorEq]

end Tokens

structure VncUse (crypto : VncCrypto) (libs : ApiLibs) (ρ : Type) where
  secret : List UInt8
  first : VmPath
  second : VmPath
  minted : UInt64
  checked : UInt64
  token : String
  ticket : Entry
  console : Entry
  before : AppState ρ
  after : AppState ρ
  oracle : Dialogue.Oracle Upstream Answer
  tryAcquire : String → AppState ρ → AppState ρ × Bool
  command : Command ρ
  firstPath : vmPath libs ticket = .ok first
  secondPath : vmPath libs console = .ok second
  mintsWith : before.vncSecret = some secret
  checksWith : after.vncSecret = some secret
  handed : handedOut (ticketResponse crypto libs minted ticket oracle before) = some token
  carried : libs.vncWsQuery console.request = .ok token
  fresh : checked < minted + 300
  read : vncWsHandler (libs.withVnc crypto checked) console tryAcquire after = .ok command

def VncUse.Bound {crypto : VncCrypto} {libs : ApiLibs} {ρ : Type} (use : VncUse crypto libs ρ) : Prop :=
  use.command.checks = .ok () ↔ use.first = use.second

theorem vnc_token_bound_iff (crypto : VncCrypto) (readsBack : crypto.ReadsBack) (libs : ApiLibs) (ρ : Type)
    (use : VncUse crypto libs ρ) :
    use.Bound ↔ ¬ (Shifted use.first use.second ∨ Shifted use.second use.first) := by
  have made := handed_out_minted crypto libs use.minted use.ticket use.oracle use.before use.first use.secret use.token
    use.firstPath use.mintsWith use.handed
  have alive : ¬ (vncClaims use.minted (vncSubject use.first)).exp ≤ use.checked := by
    simpa [vncClaims, vncTokenTtlSecs] using use.fresh
  have verified := Auth.verify_minted crypto readsBack use.checked use.secret _ use.token made
  rw [if_neg alive] at verified
  have checks := console_checks crypto libs use.tryAcquire use.checked use.console use.after use.second use.secret
    use.token use.command use.secondPath use.carried use.checksWith use.read _ verified
  exact (iff_congr checks Iff.rfl).trans (same_only_equal_iff use.first use.second)

def vncKey : List UInt8 :=
  Text.bytes "0123456789abcdef0123456789abcdef"

def regionClaims : VncTokenClaims :=
  ⟨"vnc:prod:eu:pve1:100", 1000, 1300⟩

def regionPayload : List UInt8 :=
  Text.bytes "\x7b\"sub\":\"vnc:prod:eu:pve1:100\",\"iat\":1000,\"exp\":1300\x7d"

def regionTag : List UInt8 :=
  [84, 203, 30, 2, 149, 244, 225, 122, 197, 155, 104, 114, 231, 227, 171, 174, 72, 91, 134, 63, 232, 167, 0, 109, 235, 20,
    207, 231, 20, 99, 20, 183]

-- eyJzdWIiOiJ2bmM6cHJvZDpldTpwdmUxOjEwMCIsImlhdCI6MTAwMCwiZXhwIjoxMzAwfQ.VMseApX04XrFm2hy5-Orrkhbhj_opwBt6xTP5xRjFLc
def regionToken : String :=
  Base64.encode regionPayload ++ "." ++ Base64.encode regionTag

def regionCrypto : VncCrypto :=
  { hmacSha256 := fun key payload =>
      if key = vncKey ∧ payload = regionPayload then .ok regionTag else .error "InvalidLength"
    toVec := fun claims => if claims = regionClaims then .ok regionPayload else .error "key must be a string"
    fromSlice := fun payload => if payload = regionPayload then .ok regionClaims else .error "expected value" }

theorem region_reads_back : regionCrypto.ReadsBack := by
  refine ⟨?_⟩
  intro claims payload written
  by_cases same : claims = regionClaims
  · simp only [regionCrypto, same, if_true, Except.ok.injEq] at written
    simp only [regionCrypto, ← written, if_true, same]
  · simp only [regionCrypto, same, if_false, reduceCtorEq] at written

def regionLibs : ApiLibs :=
  { bareLibs with
    vncWsQuery := fun _ => .ok regionToken
    webSocketUpgrade := fun _ => .ok (textResponse 101 "") }

-- Cluster names are free text in the configuration.
def regionServer : AppState Unit :=
  { twoClusters with
    clients := [⟨"prod", "https://prod.local:8006"⟩, ⟨"prod:eu", "https://eu.prod.local:8006"⟩]
    vncSecret := some vncKey }

def bobClaims : Claims :=
  { sub := "u-bob", username := "bob", role := "operator", iat := 900, exp := 1800 }

def regionTicket : Entry :=
  ⟨.vncTicketHandler, [("cluster", "prod:eu"), ("node", "pve1"), ("vmid", "100")],
    { method := .post, path := "/api/v1/vms/prod:eu/pve1/100/vnc/ticket", query := none, headers := [], body := []
      claims := some bobClaims }⟩

def otherConsole : Entry :=
  ⟨.vncWsHandler, [("cluster", "prod"), ("node", "eu:pve1"), ("vmid", "100")],
    { method := .get, path := "/api/v1/vms/prod/eu:pve1/100/vnc/ws", query := some ("vnc_token=" ++ regionToken)
      headers := [], body := [], claims := none }⟩

def vncPort : Dialogue.Oracle Upstream Answer :=
  fun _ _ => .ok (.obj [("port", .nat 5900), ("ticket", .str "t")])

def admitConsole (_key : String) (state : AppState Unit) : AppState Unit × Bool :=
  (state, true)

def otherVm : VmPath :=
  ⟨"prod", "eu:pve1", 100⟩

def otherCommand : Command Unit :=
  consoleCommand admitConsole otherVm (textResponse 101 "") (.ok ())

theorem region_minted : Auth.mintVncToken regionCrypto vncKey (vncClaims 1000 "vnc:prod:eu:pve1:100") = .ok regionToken := by
  have written : regionCrypto.toVec (vncClaims 1000 "vnc:prod:eu:pve1:100") = .ok regionPayload := by
    have same : vncClaims 1000 "vnc:prod:eu:pve1:100" = regionClaims := by decide
    rw [same]
    simp only [regionCrypto, if_true]
  have signed : regionCrypto.hmacSha256 vncKey regionPayload = .ok regionTag := by
    simp only [regionCrypto, and_self, if_true]
  simp only [Auth.mintVncToken, Auth.vncTag, written, signed, Except.mapError, bind, Except.bind, regionToken]

theorem region_handed :
    handedOut (ticketResponse regionCrypto regionLibs 1000 regionTicket vncPort regionServer) = some regionToken := by
  have named : vmPath (regionLibs.withVnc regionCrypto 1000) regionTicket = .ok ⟨"prod:eu", "pve1", 100⟩ := rfl
  have mints : (regionLibs.withVnc regionCrypto 1000).mintVncToken (regionServer.vncSecret.getD [])
      (vncSubject ⟨"prod:eu", "pve1", 100⟩) = .ok regionToken := region_minted
  have operator : authContext regionTicket = .ok ⟨bobClaims⟩ := rfl
  simp only [ticketResponse, runCommand, vncTicketHandler, operator, named, mints, bind, Except.bind]
  rfl

theorem other_console_reads :
    vncWsHandler (regionLibs.withVnc regionCrypto 1100) otherConsole admitConsole regionServer = .ok otherCommand := by
  have accepted := Auth.verify_minted regionCrypto region_reads_back 1100 vncKey _ regionToken region_minted
  rw [if_neg (by decide)] at accepted
  have reads := console_reads regionCrypto regionLibs admitConsole 1100 otherConsole regionServer otherVm vncKey
    regionToken (textResponse 101 "") rfl rfl rfl rfl _ accepted
  rwa [if_pos (by decide)] at reads

def shiftedUse : VncUse regionCrypto regionLibs Unit :=
  { secret := vncKey
    first := ⟨"prod:eu", "pve1", 100⟩
    second := otherVm
    minted := 1000
    checked := 1100
    token := regionToken
    ticket := regionTicket
    console := otherConsole
    before := regionServer
    after := regionServer
    oracle := vncPort
    tryAcquire := admitConsole
    command := otherCommand
    firstPath := rfl
    secondPath := rfl
    mintsWith := rfl
    checksWith := rfl
    handed := region_handed
    carried := rfl
    fresh := by decide
    read := other_console_reads }

theorem token_of_other_vm : ¬ ∀ use : VncUse regionCrypto regionLibs Unit, use.Bound := by
  intro bound
  have same : shiftedUse.first = shiftedUse.second := (bound shiftedUse).mp rfl
  have names := congrArg VmPath.cluster same
  exact absurd names (by decide)

theorem shifted_token_bound_iff :
    shiftedUse.Bound ↔
      ¬ (Shifted shiftedUse.first shiftedUse.second ∨ Shifted shiftedUse.second shiftedUse.first) :=
  vnc_token_bound_iff regionCrypto region_reads_back regionLibs Unit shiftedUse

end Moxui.Api
