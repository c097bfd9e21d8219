import Mathlib.Data.List.DropRight
import Moxui.Lib.Percent

set_option autoImplicit false

-- URLs of the schemes `http` and `https` as the URL Standard parses and serializes them. The
-- authority is kept as text: host names, ports and credentials are not taken apart.
structure Url where
  scheme : Percent.Bytes
  authority : Percent.Bytes
  path : List Percent.Bytes
  query : Option Percent.Bytes
  fragment : Option Percent.Bytes
  deriving Repr, DecidableEq

namespace Url

open Percent

-- A backslash separates path segments just as a slash does.
def slash (byte : UInt8) : Bool :=
  byte == 47 || byte == 92

def endsPath (byte : UInt8) : Bool :=
  byte == 63 || byte == 35

-- A C0 control or a space.
def edge (byte : UInt8) : Bool :=
  byte ≤ 32

def tabOrNewline (byte : UInt8) : Bool :=
  byte == 9 || byte == 10 || byte == 13

def tidy (text : Bytes) : Bytes :=
  (text.rdropWhile edge).filter fun byte => !tabOrNewline byte

def clean (input : Bytes) : Bytes :=
  tidy (input.dropWhile edge)

def lower (byte : UInt8) : UInt8 :=
  if 65 ≤ byte && byte ≤ 90 then byte + 32 else byte

-- "." and "%2e"
def singleDot (segment : Bytes) : Bool :=
  segment.map lower ∈ [[46], [37, 50, 101]]

-- "..", ".%2e", "%2e." and "%2e%2e"
def doubleDot (segment : Bytes) : Bool :=
  segment.map lower ∈ [[46, 46], [46, 37, 50, 101], [37, 50, 101, 46], [37, 50, 101, 37, 50, 101]]

def controlOrHigh (byte : UInt8) : Bool :=
  byte ≤ 31 || 127 ≤ byte

-- space " # < > ? ^ { } and the backquote
def inPathSet (byte : UInt8) : Bool :=
  controlOrHigh byte || byte ∈ [32, 34, 35, 60, 62, 63, 94, 96, 123, 125]

-- space " # < > and the single quote
def inQuerySet (byte : UInt8) : Bool :=
  controlOrHigh byte || byte ∈ [32, 34, 35, 39, 60, 62]

-- space " < > and the backquote
def inFragmentSet (byte : UInt8) : Bool :=
  controlOrHigh byte || byte ∈ [32, 34, 60, 62, 96]

-- `kept` are the segments so far, the last one first.
def normalize : List Bytes → List Bytes → List Bytes
  | kept, [] => kept.reverse
  | kept, [last] =>
      if doubleDot last then ([] :: kept.tail).reverse
      else if singleDot last then ([] :: kept).reverse
      else (encode inPathSet last :: kept).reverse
  | kept, segment :: next :: rest =>
      if doubleDot segment then normalize kept.tail (next :: rest)
      else if singleDot segment then normalize kept (next :: rest)
      else normalize (encode inPathSet segment :: kept) (next :: rest)

def pathText (text : Bytes) : Bytes :=
  text.takeWhile fun byte => !endsPath byte

def afterPath (text : Bytes) : Bytes :=
  text.dropWhile fun byte => !endsPath byte

def queryOf : Bytes → Option Bytes
  | 63 :: rest => some (encode inQuerySet (rest.takeWhile (· != 35)))
  | _ => none

def fragmentOf (text : Bytes) : Option Bytes :=
  match text.dropWhile (· != 35) with
  | 35 :: rest => some (encode inFragmentSet rest)
  | _ => none

def segmentsOf (text : Bytes) : List Bytes :=
  normalize [] (text.splitOnP slash)

def authorityByte (byte : UInt8) : Bool :=
  !(slash byte || endsPath byte)

def parseAfterScheme (scheme text : Bytes) : Option Url :=
  let body := text.dropWhile slash
  let authority := body.takeWhile authorityByte
  let rest := body.dropWhile authorityByte
  if authority.isEmpty then none
  else some
    { scheme := scheme, authority := authority, path := segmentsOf ((pathText rest).drop 1)
      query := queryOf (afterPath rest), fragment := fragmentOf (afterPath rest) }

def schemes : List Bytes :=
  [[104, 116, 116, 112], [104, 116, 116, 112, 115]]

def parse (input : Bytes) : Option Url :=
  let text := clean input
  let scheme := (text.takeWhile (· != 58)).map lower
  match text.dropWhile (· != 58) with
  | _ :: rest => if scheme ∈ schemes then parseAfterScheme scheme rest else none
  | [] => none

def plusToSpace (byte : UInt8) : UInt8 :=
  if byte = 43 then 32 else byte

def formDecode (text : Bytes) : Bytes :=
  decode (text.map plusToSpace)

def formPair (piece : Bytes) : Bytes × Bytes :=
  (formDecode (piece.takeWhile (· != 61)), formDecode ((piece.dropWhile (· != 61)).drop 1))

-- The pairs of an `application/x-www-form-urlencoded` query.
def formPairs (query : Bytes) : List (Bytes × Bytes) :=
  ((query.splitOnP (· == 38)).filter (· ≠ [])).map formPair

def segments (url : Url) : List Bytes :=
  url.path.map decode

def pairs (url : Url) : List (Bytes × Bytes) :=
  match url.query with
  | some query => formPairs query
  | none => []

end Url
