import Moxui.Auth.Handlers

set_option autoImplicit false

namespace Moxui.Auth

inductive ClaimValue where
  | text (value : String)
  | number (value : Int)
deriving DecidableEq, Repr

abbrev Payload : Type :=
  List (String × ClaimValue)

def Claims.serialize (claims : Claims) : Payload :=
  [("sub", .text claims.sub), ("username", .text claims.username), ("role", .text claims.role),
    ("iat", .number claims.iat), ("exp", .number claims.exp)]

def textClaim (payload : Payload) (name : String) : Except String String :=
  match payload.lookup name with
  | some (.text value) => .ok value
  | some (.number _) => .error ("invalid type for " ++ name)
  | none => .error ("missing field " ++ name)

def numberClaim (payload : Payload) (name : String) : Except String Int :=
  match payload.lookup name with
  | some (.number value) => .ok value
  | some (.text _) => .error ("invalid type for " ++ name)
  | none => .error ("missing field " ++ name)

def Claims.deserialize (payload : Payload) : Except String Claims := do
  let sub ← textClaim payload "sub"
  let username ← textClaim payload "username"
  let role ← textClaim payload "role"
  let iat ← numberClaim payload "iat"
  let exp ← numberClaim payload "exp"
  .ok { sub := sub, username := username, role := role, iat := iat, exp := exp }

structure Validation where
  requiredSpecClaims : List String
  leeway : Nat
  validateExp : Bool
  validateNbf : Bool
  validateAud : Bool
  issuer : Option (List String)
  audience : Option (List String)
deriving DecidableEq, Repr

namespace Validation

def new : Validation :=
  { requiredSpecClaims := ["exp"], leeway := 60, validateExp := true, validateNbf := false, validateAud := true
    issuer := none, audience := none }

def setIssuer (issuers : List String) (validation : Validation) : Validation :=
  { validation with issuer := some issuers }

def setAudience (audiences : List String) (validation : Validation) : Validation :=
  { validation with audience := some audiences }

end Validation

-- The functions of jsonwebtoken that the service calls. `κ` are the RSA key pairs; the time is
-- in seconds since 1970.
structure JsonWebToken (κ : Type) where
  encode : κ → Payload → Except String String
  verifySignature : κ → String → Except String Payload
  validate : Payload → Validation → Nat → Except String Unit

-- What its documentation says about them, as far as the service relies on it.
structure Documented {κ : Type} (library : JsonWebToken κ) : Prop where
  signed : ∀ key payload token, library.encode key payload = .ok token → library.verifySignature key token = .ok payload
  absent : ∀ payload validation now, payload.lookup "iss" = none → payload.lookup "aud" = none →
    library.validate payload validation now =
      library.validate payload { validation with issuer := none, audience := none } now
  expiry : ∀ payload exp now, payload.lookup "exp" = some (.number exp) → payload.lookup "iss" = none →
    payload.lookup "aud" = none →
    (library.validate payload .new now = .ok () ↔ 0 ≤ exp ∧ (now : Int) - Validation.new.leeway ≤ exp)

structure JwtService (κ : Type) where
  key : κ
  validation : Validation
  issuer : String
  audience : String

namespace JwtService

variable {κ : Type} (library : JsonWebToken κ)

def new (key : κ) (issuer audience : String) : JwtService κ :=
  { key := key, validation := (Validation.new.setIssuer [issuer]).setAudience [audience], issuer := issuer
    audience := audience }

def encode (service : JwtService κ) (claims : Claims) : Except String String :=
  library.encode service.key claims.serialize

def decode (service : JwtService κ) (now : Nat) (token : String) : Except String Claims := do
  let payload ← library.verifySignature service.key token
  let claims ← Claims.deserialize payload
  library.validate payload service.validation now
  .ok claims

def Unexpired (claims : Claims) (now : Nat) : Prop :=
  (now : Int) ≤ claims.exp

-- What the claim asks of a token that the first service encoded.
def Separated (own other : JwtService κ) (claims : Claims) (now : Nat) (token : String) : Prop :=
  (∃ reason, other.decode library now token = .error reason) ∧
    (Unexpired claims now → own.decode library now token = .ok claims)

def LongExpired (claims : Claims) (now : Nat) : Prop :=
  claims.exp < 0 ∨ claims.exp < (now : Int) - Validation.new.leeway

theorem validated_iff (documented : Documented library) (key : κ) (issuer audience : String) (claims : Claims)
    (now : Nat) : library.validate claims.serialize (new key issuer audience).validation now = .ok () ↔
      ¬ LongExpired claims now := by
  rw [documented.absent claims.serialize _ now rfl rfl]
  refine (documented.expiry claims.serialize claims.exp now rfl rfl rfl).trans ?_
  rw [LongExpired, not_or, Int.not_lt, Int.not_lt]

theorem decode_issued (documented : Documented library) (key : κ) (issuer audience : String) (claims : Claims)
    (token : String) (issued : library.encode key claims.serialize = .ok token) (now : Nat) :
    (new key issuer audience).decode library now token =
      (library.validate claims.serialize (new key issuer audience).validation now).map fun _ => claims := by
  have read : library.verifySignature (new key issuer audience).key token = .ok claims.serialize :=
    documented.signed key claims.serialize token issued
  have bound : (new key issuer audience).decode library now token =
      (library.validate claims.serialize (new key issuer audience).validation now).bind fun _ => .ok claims := by
    unfold decode
    rw [read]
    rfl
  rw [bound]
  cases library.validate claims.serialize (new key issuer audience).validation now with
  | error reason => rfl
  | ok valid => rfl

theorem decodes_iff (documented : Documented library) (key : κ) (issuer audience : String) (claims : Claims)
    (token : String) (issued : library.encode key claims.serialize = .ok token) (now : Nat) :
    (new key issuer audience).decode library now token = .ok claims ↔ ¬ LongExpired claims now := by
  rw [decode_issued library documented key issuer audience claims token issued,
    ← validated_iff library documented key issuer audience claims now]
  cases library.validate claims.serialize (new key issuer audience).validation now with
  | error reason => simp [Except.map]
  | ok valid => simp [Except.map]

theorem rejected_iff (documented : Documented library) (key : κ) (issuer audience : String) (claims : Claims)
    (token : String) (issued : library.encode key claims.serialize = .ok token) (now : Nat) :
    (∃ reason, (new key issuer audience).decode library now token = .error reason) ↔ LongExpired claims now := by
  have accepted := decodes_iff library documented key issuer audience claims token issued now
  have decoded := decode_issued library documented key issuer audience claims token issued now
  rw [← not_iff_not, ← accepted, decoded]
  cases library.validate claims.serialize (new key issuer audience).validation now with
  | error reason => simp [Except.map]
  | ok valid => simp [Except.map]

theorem deployments_separated_iff (documented : Documented library) (key : κ)
    (issuer audience otherIssuer otherAudience : String) (claims : Claims) (now : Nat) (token : String)
    (issued : (new key issuer audience).encode library claims = .ok token) :
    Separated library (new key issuer audience) (new key otherIssuer otherAudience) claims now token ↔
      LongExpired claims now := by
  rw [Separated, rejected_iff library documented key otherIssuer otherAudience claims token issued]
  refine ⟨And.left, fun expired => ⟨expired, fun unexpired => ?_⟩⟩
  unfold Unexpired at unexpired
  rcases expired with negative | past
  · omega
  · have leeway : Validation.new.leeway = 60 := rfl
    omega

def aliceClaims : Claims :=
  { sub := "u-alice", username := "alice", role := "admin", iat := 1700000000, exp := 1700003600 }

def sampleLibrary : JsonWebToken Unit :=
  { encode := fun _ payload => if payload = aliceClaims.serialize then .ok "header.alice.signature" else .error "not signed"
    verifySignature := fun _ token =>
      if token = "header.alice.signature" then .ok aliceClaims.serialize else .error "InvalidSignature"
    validate := fun payload validation now =>
      match payload.lookup "exp" with
      | some (.number exp) =>
          if 0 ≤ exp ∧ (now : Int) - validation.leeway ≤ exp then .ok () else .error "ExpiredSignature"
      | _ => .error "MissingRequiredClaim" }

theorem sample_documented : Documented sampleLibrary := by
  refine ⟨?_, ?_, ?_⟩
  · intro key payload token encoded
    by_cases alice : payload = aliceClaims.serialize
    · subst alice
      cases encoded
      rfl
    · simp [sampleLibrary, alice] at encoded
  · intro payload validation now _ _
    rfl
  · intro payload exp now present _ _
    simp only [sampleLibrary, present]
    split
    · next live => simpa using live
    · next past => simpa using past

theorem expired_token_separated :
    Separated sampleLibrary (new () "moxui" "moxui-clients") (new () "moxui-lab" "moxui-clients") aliceClaims 1700003661
      "header.alice.signature" :=
  (deployments_separated_iff sampleLibrary sample_documented () "moxui" "moxui-clients" "moxui-lab" "moxui-clients"
    aliceClaims 1700003661 "header.alice.signature" rfl).mpr (Or.inr (by decide))

theorem token_accepted_elsewhere :
    (new () "moxui" "moxui-clients").encode sampleLibrary aliceClaims = .ok "header.alice.signature" ∧
      (new () "moxui-lab" "lab-clients").decode sampleLibrary 1700000060 "header.alice.signature" = .ok aliceClaims ∧
      ¬ Separated sampleLibrary (new () "moxui" "moxui-clients") (new () "moxui-lab" "lab-clients") aliceClaims 1700000060
        "header.alice.signature" := by
  have accepted : (new () "moxui-lab" "lab-clients").decode sampleLibrary 1700000060 "header.alice.signature" =
      .ok aliceClaims := rfl
  refine ⟨rfl, accepted, ?_⟩
  rintro ⟨⟨reason, rejected⟩, _⟩
  rw [accepted] at rejected
  cases rejected

end JwtService

end Moxui.Auth
