import Moxui.Auth.Refresh
import Moxui.Lib.Text

set_option autoImplicit false

namespace Moxui.Auth

namespace Totp

abbrev HmacSha1 := List UInt8 → List UInt8 → Fin 20 → UInt8

def alphabet : List UInt8 :=
  Text.bytes "ABCDEFGHIJKLMNOPQRSTUVWXYZ234567"

def isAsciiLowercase (byte : UInt8) : Bool :=
  decide (97 ≤ byte ∧ byte ≤ 122)

def toAsciiUppercase (byte : UInt8) : UInt8 :=
  if isAsciiLowercase byte then byte - 32 else byte

def base32Index (byte : UInt8) : Option Nat :=
  alphabet.findIdx? fun letter => letter == toAsciiUppercase byte

-- `buffer` is the u64 shift register, `bits` how many of its low bits are not yet written.
def base32DecodeFrom (buffer : UInt64) (bits : Nat) : List UInt8 → Option (List UInt8)
  | [] => some []
  | byte :: rest =>
      match base32Index byte with
      | none => none
      | some index =>
          let shifted := buffer <<< 5 ||| UInt64.ofNat index
          if bits + 5 ≥ 8 then
            (base32DecodeFrom shifted (bits - 3) rest).map fun out =>
              (shifted >>> UInt64.ofNat (bits - 3)).toUInt8 :: out
          else base32DecodeFrom shifted (bits + 5) rest

def base32Decode (text : String) : Option (List UInt8) :=
  base32DecodeFrom 0 0 (Text.bytes text)

def beBytes (counter : UInt64) : List UInt8 :=
  [56, 48, 40, 32, 24, 16, 8, 0].map fun shift : UInt64 => (counter >>> shift).toUInt8

theorem truncation_offset_lt (digest : Fin 20 → UInt8) (step : Nat) (small : step < 4) :
    (digest 19 &&& 0x0f).toNat + step < 20 := by
  have masked : (digest 19 &&& 0x0f).toNat ≤ 15 := by
    rw [UInt8.toNat_and]
    exact Nat.and_le_right
  omega

-- Dynamic truncation: 31 bits of the digest at the offset its last byte names.
def truncate (digest : Fin 20 → UInt8) : UInt32 :=
  let byteAt (step : Nat) (small : step < 4) : UInt32 :=
    (digest ⟨(digest 19 &&& 0x0f).toNat + step, truncation_offset_lt digest step small⟩).toUInt32
  (byteAt 0 (by decide) &&& 0x7f) <<< 24 ||| byteAt 1 (by decide) <<< 16 ||| byteAt 2 (by decide) <<< 8 |||
    byteAt 3 (by decide)

def sixDigits (code : Nat) : String :=
  let digits := toString code
  String.ofList (List.replicate (6 - digits.length) '0') ++ digits

def computeTotp (hmacSha1 : HmacSha1) (secret : List UInt8) (counter : UInt64) : String :=
  sixDigits ((truncate (hmacSha1 secret (beBytes counter))).toNat % 1000000)

-- The counters from one window before to one window after; `now` is the u64 of seconds.
def window (now : Nat) : List Nat :=
  let counter := now / 30
  List.range' (counter - 1) (counter + 1 - (counter - 1) + 1)

def verifyTotp (hmacSha1 : HmacSha1) (now : Nat) (secretB32 code : String) : Bool :=
  match base32Decode secretB32 with
  | none => false
  | some secret => (window now).any fun counter => computeTotp hmacSha1 secret (UInt64.ofNat counter) == code

def isUrlPlain (byte : UInt8) : Bool :=
  (Text.bytes "ABCDEFGHIJKLMNOPQRSTUVWXYZabcdefghijklmnopqrstuvwxyz0123456789-._~:").contains byte

def urlEncode (text : String) : String :=
  String.ofList ((Text.bytes text).flatMap fun byte =>
    if isUrlPlain byte then [Char.ofNat byte.toNat] else '%' :: Text.hexByte byte)

def totpUrl (issuer username secret : String) : String :=
  "otpauth://totp/" ++ urlEncode (issuer ++ ":" ++ username) ++ "?secret=" ++ urlEncode secret ++
    "&issuer=" ++ urlEncode issuer ++ "&algorithm=SHA1&digits=6&period=30"

-- `verify_backup_code`: the hashes that remain when the first one matching the code is used.
def verifyBackupCode (verifyPassword : String → String → Bool) (stored : List String) (code : String) :
    Option (List String) :=
  match stored with
  | [] => none
  | hash :: rest =>
      if verifyPassword code hash then some rest
      else (verifyBackupCode verifyPassword rest code).map fun remaining => hash :: remaining

end Totp

def preauthTtlSecs : Int := 300

structure PreAuthSession where
  userId : String
  username : String
  expiresAt : Int
  consumed : Bool
deriving DecidableEq, Repr

abbrev PreAuthStore := Table String PreAuthSession

namespace PreAuthStore

def issue (userId username token : String) (now : Int) (store : PreAuthStore) : PreAuthStore :=
  store.insert token
    { userId := userId, username := username, expiresAt := timestampAdd now preauthTtlSecs, consumed := false }

def consume (token : String) (now : Int) (store : PreAuthStore) : PreAuthStore × Option PreAuthSession :=
  match store.lookup token with
  | none => (store, none)
  | some session =>
      if session.expiresAt < now || session.consumed then (store.erase token, none)
      else (store.erase token, some { session with consumed := true })

def unexpired (now : Int) (session : PreAuthSession) : Bool :=
  decide (session.expiresAt ≥ now) && !session.consumed

-- The second part is the number of sessions that were removed.
def purgeExpired (now : Int) (store : PreAuthStore) : PreAuthStore × Nat :=
  let kept := Table.retain (unexpired now) store
  (kept, store.entries.length - kept.entries.length)

theorem lookup_consume_other (token found : String) (now : Int) (store : PreAuthStore) (other : found ≠ token) :
    (consume token now store).1.lookup found = store.lookup found := by
  have frame := Table.lookup_erase_eq token found store
  rw [if_neg other] at frame
  simp only [consume]
  split
  · rfl
  · split
    · exact frame
    · exact frame

end PreAuthStore

end Moxui.Auth
