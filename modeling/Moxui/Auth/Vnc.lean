import Moxui.Api.Pipeline
import Moxui.Lib.Base64

set_option autoImplicit false

namespace Moxui.Auth

open Moxui.Api (AppError)

structure VncTokenClaims where
  sub : String
  iat : UInt64
  exp : UInt64
deriving DecidableEq, Repr

structure VncCrypto where
  hmacSha256 : List UInt8 → List UInt8 → Except String (List UInt8)
  toVec : VncTokenClaims → Except String (List UInt8)
  fromSlice : List UInt8 → Except String VncTokenClaims

structure VncCrypto.ReadsBack (crypto : VncCrypto) : Prop where
  json : ∀ claims payload, crypto.toVec claims = .ok payload → crypto.fromSlice payload = .ok claims

def vncMalformed : AppError :=
  .unauthorized "vnc token malformed"

section Tokens

variable (crypto : VncCrypto)

def vncTag (secret payload : List UInt8) : Except AppError (List UInt8) :=
  (crypto.hmacSha256 secret payload).mapError fun reason => .internal ("vnc token hmac key: " ++ reason)

def mintVncToken (secret : List UInt8) (claims : VncTokenClaims) : Except AppError String := do
  let payload ← (crypto.toVec claims).mapError fun reason => AppError.internal ("vnc token serialize: " ++ reason)
  let tag ← vncTag crypto secret payload
  .ok (Base64.encode payload ++ "." ++ Base64.encode tag)

def vncBytes (text : String) : Except AppError (List UInt8) :=
  match Base64.decode text with
  | some bytes => .ok bytes
  | none => .error vncMalformed

def verifyVncToken (now : UInt64) (secret : List UInt8) (token : String) : Except AppError VncTokenClaims :=
  match Text.splitOnce '.' token with
  | none => .error vncMalformed
  | some (first, second) => do
      let payload ← vncBytes first
      let tag ← vncBytes second
      let expected ← vncTag crypto secret payload
      if tag = expected then
        let claims ← (crypto.fromSlice payload).mapError fun _ => AppError.unauthorized "vnc token claims invalid"
        if claims.exp ≤ now then .error (.unauthorized "vnc token expired") else .ok claims
      else .error (.unauthorized "vnc token signature mismatch")

theorem dotless (bytes : List UInt8) : '.' ∉ (Base64.encode bytes).toList := by
  intro member
  have listed := Base64.encode_alphabet bytes '.' member
  revert listed
  decide +kernel

theorem verify_minted (readsBack : crypto.ReadsBack) (now : UInt64) (secret : List UInt8) (claims : VncTokenClaims)
    (token : String) (minted : mintVncToken crypto secret claims = .ok token) :
    verifyVncToken crypto now secret token =
      if claims.exp ≤ now then .error (.unauthorized "vnc token expired") else .ok claims := by
  unfold mintVncToken at minted
  cases written : crypto.toVec claims with
  | error reason =>
      rw [written] at minted
      cases minted
  | ok payload =>
      cases signed : vncTag crypto secret payload with
      | error error =>
          simp only [written, Except.mapError, signed, bind, Except.bind] at minted
          cases minted
      | ok tag =>
          simp only [written, Except.mapError, signed, bind, Except.bind, Except.ok.injEq] at minted
          have split : Text.splitOnce '.' token = some (Base64.encode payload, Base64.encode tag) := by
            rw [← minted]
            exact Text.split_once_joined '.' _ _ (dotless payload)
          have first : vncBytes (Base64.encode payload) = .ok payload := by
            rw [vncBytes, Base64.decode_encode]
          have second : vncBytes (Base64.encode tag) = .ok tag := by
            rw [vncBytes, Base64.decode_encode]
          simp only [verifyVncToken, split, first, second, signed, readsBack.json claims payload written, bind, Except.bind,
            Except.mapError, if_true]

end Tokens

end Moxui.Auth
