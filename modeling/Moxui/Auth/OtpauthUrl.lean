import Moxui.Auth.Totp
import Moxui.Lib.Percent

set_option autoImplicit false

namespace Moxui.Auth

open Percent (Bytes)

namespace Totp

structure OtpauthUrl where
  label : Bytes
  params : List (Bytes × Bytes)
deriving DecidableEq, Repr

def otpauthStart : Bytes :=
  Text.bytes "otpauth://totp/"

def readParam (piece : Bytes) : Option (Bytes × Bytes) :=
  match piece.splitOnP (· == 61) with
  | [name, value] => some (Percent.decode name, Percent.decode value)
  | _ => none

-- How an authenticator reads the address: split at `?`, `&` and `=`, then decoded.
def readOtpauth (url : Bytes) : Option OtpauthUrl :=
  match url.splitOnP (· == 63) with
  | [front, query] =>
      if otpauthStart.isPrefixOf front then
        ((query.splitOnP (· == 38)).mapM readParam).map fun params =>
          { label := Percent.decode (front.drop otpauthStart.length), params := params }
      else none
  | _ => none

end Totp

open Totp

def mustEncode (byte : UInt8) : Bool :=
  !isUrlPlain byte

def separates (byte : UInt8) : Bool :=
  byte == 63 || byte == 38 || byte == 61

theorem plain_byte (byte : UInt8) (plain : isUrlPlain byte = true) : byte < 128 ∧ separates byte = false := by
  have all : (Text.bytes "ABCDEFGHIJKLMNOPQRSTUVWXYZabcdefghijklmnopqrstuvwxyz0123456789-._~:").all
      (fun byte => decide (byte < 128) && !separates byte) = true := by
    decide +kernel
  simpa using List.all_eq_true.mp all byte (List.contains_iff_mem.mp plain)

theorem hex_digit_byte (value : UInt8) (small : value.toNat < 16) :
    Text.hexDigit value.toNat = Char.ofNat (Percent.hexDigit value).toNat ∧ Percent.hexDigit value < 128 ∧
      separates (Percent.hexDigit value) = false := by
  have all : ∀ value : Fin 16, Text.hexDigit value = Char.ofNat (Percent.hexDigit (UInt8.ofNat value)).toNat ∧
      Percent.hexDigit (UInt8.ofNat value) < 128 ∧ separates (Percent.hexDigit (UInt8.ofNat value)) = false := by
    decide +kernel
  have digit := all ⟨value.toNat, small⟩
  rwa [UInt8.ofNat_toNat] at digit

theorem escaped_byte (byte : UInt8) :
    '%' :: Text.hexByte byte = (Percent.escape byte).map (fun byte => Char.ofNat byte.toNat) ∧
      ∀ other ∈ Percent.escape byte, other < 128 ∧ separates other = false := by
  have high : (byte / 16).toNat = byte.toNat / 16 := UInt8.toNat_div byte 16
  have low : (byte % 16).toNat = byte.toNat % 16 := UInt8.toNat_mod byte 16
  have size := byte.toNat_lt
  obtain ⟨highChar, highPlain⟩ := hex_digit_byte (byte / 16) (by omega)
  obtain ⟨lowChar, lowPlain⟩ := hex_digit_byte (byte % 16) (by omega)
  rw [high] at highChar
  rw [low] at lowChar
  constructor
  · rw [Text.hexByte, highChar, lowChar]
    rfl
  · simp only [Percent.escape, List.mem_cons, List.not_mem_nil, or_false, forall_eq_or_imp, forall_eq]
    exact ⟨by decide, highPlain, lowPlain⟩

theorem written_byte (byte : UInt8) :
    ((if isUrlPlain byte then [Char.ofNat byte.toNat] else '%' :: Text.hexByte byte) =
      (if mustEncode byte then Percent.escape byte else [byte]).map fun byte => Char.ofNat byte.toNat) ∧
    ∀ other ∈ (if mustEncode byte then Percent.escape byte else [byte]), other < 128 ∧ separates other = false := by
  by_cases plain : isUrlPlain byte = true
  · simpa [mustEncode, plain] using plain_byte byte plain
  · simpa only [mustEncode, plain, Bool.not_false, Bool.false_eq_true, if_true, if_false] using escaped_byte byte

theorem encoded_plain (text : String) :
    ∀ byte ∈ Percent.encode mustEncode (Text.bytes text), byte < 128 ∧ separates byte = false := by
  intro byte member
  obtain ⟨origin, _, written⟩ := List.mem_flatMap.mp member
  exact (written_byte origin).2 byte written

theorem url_encode_bytes (text : String) : Text.bytes (urlEncode text) = Percent.encode mustEncode (Text.bytes text) := by
  have ascii := Text.ascii_bytes (Percent.encode mustEncode (Text.bytes text)) fun byte member =>
    (encoded_plain text byte member).1
  have chars : ((Text.bytes text).flatMap fun byte =>
      if isUrlPlain byte then [Char.ofNat byte.toNat] else '%' :: Text.hexByte byte) =
        (Percent.encode mustEncode (Text.bytes text)).map fun byte => Char.ofNat byte.toNat := by
    rw [Percent.encode, List.map_flatMap]
    exact congrArg (fun write => (Text.bytes text).flatMap write) (funext fun byte => (written_byte byte).1)
  rw [urlEncode, chars, ascii]

theorem url_encode_separates (text : String) : ∀ byte ∈ Text.bytes (urlEncode text), separates byte = false := by
  rw [url_encode_bytes]
  exact fun byte member => (encoded_plain text byte member).2

theorem decode_url_encode (text : String) : Percent.decode (Text.bytes (urlEncode text)) = Text.bytes text := by
  rw [url_encode_bytes]
  exact Percent.decode_encode_self mustEncode (by decide +kernel) (Text.bytes text)

def WrittenPlain (text : Bytes) : Prop :=
  ∀ byte ∈ text, separates byte = false

instance (text : Bytes) : Decidable (WrittenPlain text) :=
  List.decidableBAll _ text

theorem secret_plain : WrittenPlain (Text.bytes "secret") := by
  decide +kernel

theorem issuer_plain : WrittenPlain (Text.bytes "issuer") := by
  decide +kernel

theorem separates_apart (byte separator : UInt8) (plain : separates byte = false) (known : separates separator = true) :
    (byte == separator) = false := by
  by_cases same : byte = separator
  · rw [same, known] at plain
    cases plain
  · simp [same]

theorem split_plain (separator : UInt8) (known : separates separator = true) (text : Bytes) (plain : WrittenPlain text) :
    text.splitOnP (· == separator) = [text] :=
  List.splitOnP_eq_singleton fun byte member => separates_apart byte separator (plain byte member) known

theorem split_first (separator : UInt8) (text rest : Bytes) (apart : ∀ byte ∈ text, (byte == separator) = false) :
    (text ++ separator :: rest).splitOnP (· == separator) = text :: rest.splitOnP (· == separator) := by
  rw [List.splitOnP_append_cons (p := (· == separator)) text rest (beq_self_eq_true separator),
    List.splitOnP_eq_singleton apart]
  rfl

theorem read_param_written (name : Bytes) (value : String) (plain : WrittenPlain name)
    (unescaped : Percent.hasEscape name = false) :
    readParam (name ++ 61 :: Text.bytes (urlEncode value)) = some (name, Text.bytes value) := by
  have whole := split_plain 61 (by decide) (Text.bytes (urlEncode value)) (url_encode_separates value)
  simp only [readParam, split_first 61 name _ fun byte member => separates_apart byte 61 (plain byte member) (by decide), whole, decode_url_encode,
    Percent.decode_of_no_escape name unescaped]

def paramText (name : Bytes) (value : String) : Bytes :=
  name ++ 61 :: Text.bytes (urlEncode value)

theorem param_text_apart (name : Bytes) (value : String) (plain : WrittenPlain name) :
    ∀ byte ∈ paramText name value, (byte == 38) = false ∧ (byte == 63) = false := by
  intro byte member
  rcases List.mem_append.mp member with inName | later
  · exact ⟨separates_apart byte 38 (plain byte inName) (by decide), separates_apart byte 63 (plain byte inName) (by decide)⟩
  · rcases List.mem_cons.mp later with rfl | inValue
    · decide
    · have apart := url_encode_separates value byte inValue
      exact ⟨separates_apart byte 38 apart (by decide), separates_apart byte 63 apart (by decide)⟩

def totpLabel (issuer username : String) : String :=
  issuer ++ ":" ++ username

def fixedParams : List (Bytes × Bytes) :=
  [(Text.bytes "algorithm", Text.bytes "SHA1"), (Text.bytes "digits", Text.bytes "6"),
    (Text.bytes "period", Text.bytes "30")]

theorem read_fixed_params :
    ((Text.bytes "algorithm=SHA1&digits=6&period=30").splitOnP (· == 38)).mapM readParam = some fixedParams := by
  decide +kernel

theorem totp_url_bytes (issuer username secret : String) :
    Text.bytes (totpUrl issuer username secret) =
      (otpauthStart ++ Text.bytes (urlEncode (totpLabel issuer username))) ++ 63 ::
        (paramText (Text.bytes "secret") secret ++ 38 :: (paramText (Text.bytes "issuer") issuer ++ 38 ::
          Text.bytes "algorithm=SHA1&digits=6&period=30")) := by
  have secretText : Text.bytes "?secret=" = 63 :: (Text.bytes "secret" ++ [61]) := by decide +kernel
  have issuerText : Text.bytes "&issuer=" = 38 :: (Text.bytes "issuer" ++ [61]) := by decide +kernel
  have fixedText : Text.bytes "&algorithm=SHA1&digits=6&period=30" =
      38 :: Text.bytes "algorithm=SHA1&digits=6&period=30" := by decide +kernel
  unfold totpUrl
  simp only [Text.bytes_append, secretText, issuerText, fixedText, paramText, otpauthStart, totpLabel, List.append_assoc,
    List.cons_append, List.nil_append]

theorem totp_url_split (issuer username secret : String) :
    (Text.bytes (totpUrl issuer username secret)).splitOnP (· == 63) =
      [otpauthStart ++ Text.bytes (urlEncode (totpLabel issuer username)),
        paramText (Text.bytes "secret") secret ++ 38 :: (paramText (Text.bytes "issuer") issuer ++ 38 ::
          Text.bytes "algorithm=SHA1&digits=6&period=30")] := by
  have front : ∀ byte ∈ otpauthStart ++ Text.bytes (urlEncode (totpLabel issuer username)), (byte == 63) = false := by
    have start : WrittenPlain otpauthStart := by decide +kernel
    intro byte member
    rcases List.mem_append.mp member with inStart | inLabel
    · exact separates_apart byte 63 (start byte inStart) (by decide)
    · exact separates_apart byte 63 (url_encode_separates _ byte inLabel) (by decide)
  have query : ∀ byte ∈ paramText (Text.bytes "secret") secret ++ 38 :: (paramText (Text.bytes "issuer") issuer ++ 38 ::
      Text.bytes "algorithm=SHA1&digits=6&period=30"), (byte == 63) = false := by
    have fixed : (Text.bytes "algorithm=SHA1&digits=6&period=30").all (· != 63) = true := by decide +kernel
    have secretPart := param_text_apart _ secret secret_plain
    have issuerPart := param_text_apart _ issuer issuer_plain
    intro byte member
    simp only [List.mem_append, List.mem_cons] at member
    rcases member with inSecret | rfl | inIssuer | rfl | inFixed
    · exact (secretPart byte inSecret).2
    · decide
    · exact (issuerPart byte inIssuer).2
    · decide
    · simpa using List.all_eq_true.mp fixed byte inFixed
  rw [totp_url_bytes, split_first 63 _ _ front, List.splitOnP_eq_singleton query]

theorem read_totp_url (issuer username secret : String) :
    readOtpauth (Text.bytes (totpUrl issuer username secret)) =
      some { label := Text.bytes (totpLabel issuer username)
             params := (Text.bytes "secret", Text.bytes secret) :: (Text.bytes "issuer", Text.bytes issuer) :: fixedParams } := by
  have secretPart := param_text_apart _ secret secret_plain
  have issuerPart := param_text_apart _ issuer issuer_plain
  have started : otpauthStart.isPrefixOf (otpauthStart ++ Text.bytes (urlEncode (totpLabel issuer username))) = true := by
    simp
  have label : Percent.decode ((otpauthStart ++ Text.bytes (urlEncode (totpLabel issuer username))).drop
      otpauthStart.length) = Text.bytes (totpLabel issuer username) := by
    rw [List.drop_left, decode_url_encode]
  have params : ((paramText (Text.bytes "secret") secret ++ 38 :: (paramText (Text.bytes "issuer") issuer ++ 38 ::
      Text.bytes "algorithm=SHA1&digits=6&period=30")).splitOnP (· == 38)).mapM readParam =
        some ((Text.bytes "secret", Text.bytes secret) :: (Text.bytes "issuer", Text.bytes issuer) :: fixedParams) := by
    rw [split_first 38 _ _ fun byte member => (secretPart byte member).1,
      split_first 38 _ _ fun byte member => (issuerPart byte member).1, List.mapM_cons, List.mapM_cons, read_fixed_params,
      paramText, paramText, read_param_written _ secret secret_plain (by decide +kernel),
      read_param_written _ issuer issuer_plain (by decide +kernel)]
    rfl
  simp only [readOtpauth, totp_url_split, started, if_true, params, label, Option.map_some]

-- Nothing in a field is taken for a separator, and the fields are read back as they are.
theorem totp_url_faithful (issuer username secret : String) :
    readOtpauth (Text.bytes (totpUrl issuer username secret)) =
      some { label := Text.bytes (totpLabel issuer username)
             params := (Text.bytes "secret", Text.bytes secret) :: (Text.bytes "issuer", Text.bytes issuer) :: fixedParams } ∧
    ∀ otherIssuer otherUsername otherSecret,
      totpUrl issuer username secret = totpUrl otherIssuer otherUsername otherSecret ↔
        issuer = otherIssuer ∧ username = otherUsername ∧ secret = otherSecret := by
  refine ⟨read_totp_url issuer username secret, ?_⟩
  intro otherIssuer otherUsername otherSecret
  constructor
  · intro same
    have read := congrArg (fun url => readOtpauth (Text.bytes url)) same
    simp only [read_totp_url, Option.some.injEq, OtpauthUrl.mk.injEq, List.cons.injEq, Prod.mk.injEq, true_and,
      and_true] at read
    obtain ⟨label, sameSecret, sameIssuer⟩ := read
    have issuers := Text.bytes_injective issuer otherIssuer sameIssuer
    have labels := Text.bytes_injective _ _ label
    rw [totpLabel, totpLabel, issuers, String.append_right_inj] at labels
    exact ⟨issuers, labels, Text.bytes_injective secret otherSecret sameSecret⟩
  · intro ⟨sameIssuer, sameUsername, sameSecret⟩
    rw [sameIssuer, sameUsername, sameSecret]

end Moxui.Auth
