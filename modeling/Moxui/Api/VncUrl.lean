import Moxui.Lib.HttpUri
import Moxui.Lib.Text

set_option autoImplicit false

namespace Moxui.Api

open Percent (Bytes)

structure VncProxyTicket where
  ticket : String
  port : UInt16
  upid : String
deriving DecidableEq, Repr

def wsScheme (hostUrl : String) : String :=
  if Text.startsWith hostUrl "https" then "wss" else "ws"

def wsHost (hostUrl : String) : String :=
  Text.trimEndMatches '/' (Text.trimStartPattern "http://" (Text.trimStartPattern "https://" hostUrl))

def wsUrl (hostUrl node : String) (vmid : UInt32) (upstream : VncProxyTicket) : String :=
  wsScheme hostUrl ++ "://" ++ wsHost hostUrl ++ "/api2/json/nodes/" ++ node ++ "/qemu/" ++ toString vmid ++
    "/vncwebsocket?port=" ++ toString upstream.port ++ "&vncticket=" ++ upstream.ticket

def wsParams (upstream : VncProxyTicket) : List (Bytes × Bytes) :=
  [(Text.bytes "port", Text.bytes (toString upstream.port)), (Text.bytes "vncticket", Text.bytes upstream.ticket)]

def Unmarked (text : String) : Prop :=
  63 ∉ Text.bytes text ∧ 35 ∉ Text.bytes text

instance (text : String) : Decidable (Unmarked text) :=
  inferInstanceAs (Decidable (63 ∉ Text.bytes text ∧ 35 ∉ Text.bytes text))

-- The parameters of an address as the WebSocket client parses it; `accepts` is the check that
-- the parser makes of the host and port.
def wsRead (accepts : Bytes → Bool) (address : String) : Option (List (Bytes × Bytes)) :=
  (HttpUri.parse accepts (Text.bytes address)).map HttpUri.pairs

-- Host, node and ticket are such that a URI takes them as they are, and that the ticket is
-- the same when its escapes and plus signs are read.
structure ReadAsWritten (accepts : Bytes → Bool) (hostUrl node : String) (upstream : VncProxyTicket) : Prop where
  authority : accepts ((Text.bytes (wsHost hostUrl)).takeWhile (· != 47)) = true
  host : Unmarked (wsHost hostUrl)
  hostPath : ∀ byte ∈ (Text.bytes (wsHost hostUrl)).dropWhile (· != 47), HttpUri.pathByte byte = true
  node : ∀ byte ∈ Text.bytes node, HttpUri.pathByte byte = true
  plain : Url.PlainParam (Text.bytes upstream.ticket)
  ticket : ∀ byte ∈ Text.bytes upstream.ticket, HttpUri.queryByte byte = true

def wsStart (hostUrl node : String) (vmid : UInt32) : String :=
  wsHost hostUrl ++ "/api2/json/nodes/" ++ node ++ "/qemu/" ++ toString vmid ++ "/vncwebsocket"

-- A `#` in the host or the node cuts off the query, and a query that spells the two parameters
-- stands before it.
def SpelledInFront (accepts : Bytes → Bool) (hostUrl node : String) (vmid : UInt32) (upstream : VncProxyTicket) : Prop :=
  35 ∈ Text.bytes (wsStart hostUrl node vmid) ∧ HttpUri.Accepted accepts (Text.bytes (wsStart hostUrl node vmid)) ∧
    Url.queryPairs (Text.bytes (wsStart hostUrl node vmid)) = wsParams upstream

def wsQuery (upstream : VncProxyTicket) : Bytes :=
  Url.twoParams (Text.bytes "port") (Text.bytes (toString upstream.port)) (Text.bytes "vncticket")
    (Text.bytes upstream.ticket)

theorem ws_url_bytes (hostUrl node : String) (vmid : UInt32) (upstream : VncProxyTicket) :
    Text.bytes (wsUrl hostUrl node vmid upstream) = Text.bytes (wsScheme hostUrl) ++ 58 :: 47 :: 47 ::
      (Text.bytes (wsStart hostUrl node vmid) ++ 63 :: wsQuery upstream) := by
  have separator : Text.bytes "://" = [58, 47, 47] := by decide
  have portText : Text.bytes "/vncwebsocket?port=" = Text.bytes "/vncwebsocket" ++ 63 :: (Text.bytes "port" ++ [61]) := by
    decide +kernel
  have ticketText : Text.bytes "&vncticket=" = 38 :: (Text.bytes "vncticket" ++ [61]) := by decide +kernel
  unfold wsUrl wsStart wsQuery Url.twoParams
  simp only [Text.bytes_append, separator, portText, ticketText, List.append_assoc, List.cons_append, List.nil_append]

theorem decimal_apart (value : Nat) (byte : UInt8) (apart : ¬ (48 ≤ byte ∧ byte ≤ 57)) : byte ∉ Text.bytes (toString value) :=
  fun member => apart (Text.decimal_bytes value byte member)

theorem ws_scheme_plain (hostUrl : String) : ∀ byte ∈ Text.bytes (wsScheme hostUrl), byte ≠ 58 := by
  unfold wsScheme
  by_cases secure : Text.startsWith hostUrl "https" = true
  · rw [if_pos secure]
    decide +kernel
  · rw [if_neg secure]
    decide +kernel

theorem unmarked_append_iff (first second : String) : Unmarked (first ++ second) ↔ Unmarked first ∧ Unmarked second := by
  unfold Unmarked
  rw [Text.bytes_append, List.mem_append, List.mem_append, not_or, not_or, and_and_and_comm]

theorem ws_start_unmarked_iff (hostUrl node : String) (vmid : UInt32) :
    Unmarked (wsStart hostUrl node vmid) ↔ Unmarked (wsHost hostUrl) ∧ Unmarked node := by
  have digits : Unmarked (toString vmid) :=
    ⟨decimal_apart vmid.toNat 63 (by decide), decimal_apart vmid.toNat 35 (by decide)⟩
  have nodes : Unmarked "/api2/json/nodes/" := by decide
  have machines : Unmarked "/qemu/" := by decide
  have socket : Unmarked "/vncwebsocket" := by decide
  unfold wsStart
  simp only [unmarked_append_iff, digits, nodes, machines, socket, and_true]

theorem decimal_param (value : Nat) : Url.PlainParam (Text.bytes (toString value)) := by
  have apart : ∀ byte ∈ Text.bytes (toString value), 48 ≤ byte ∧ byte ≤ 57 := Text.decimal_bytes value
  constructor
  · intro byte member
    have digit := apart byte member
    refine ⟨?_, ?_, ?_⟩
    all_goals
      rintro rfl
      exact absurd digit (by decide)
  · apply Url.no_escape_of_no_percent
    intro byte member
    rintro rfl
    exact absurd (apart 37 member) (by decide)

theorem digit_taken (value : Nat) :
    ∀ byte ∈ Text.bytes (toString value), HttpUri.pathByte byte = true ∧ HttpUri.queryByte byte = true := by
  have each : ∀ value : Fin 256, 48 ≤ UInt8.ofFin value ∧ UInt8.ofFin value ≤ 57 →
      HttpUri.pathByte (UInt8.ofFin value) = true ∧ HttpUri.queryByte (UInt8.ofFin value) = true := by decide +kernel
  intro byte member
  exact each byte.toFin (Text.decimal_bytes value byte member)

theorem path_bytes_unmarked (text : String) (taken : ∀ byte ∈ Text.bytes text, HttpUri.pathByte byte = true) :
    Unmarked text := by
  refine ⟨fun mark => ?_, fun hash => ?_⟩
  · exact absurd (taken 63 mark) (by decide)
  · exact absurd (taken 35 hash) (by decide)

theorem node_path_taken_iff (node : String) (vmid : UInt32) :
    (∀ byte ∈ Text.bytes ("api2/json/nodes/" ++ node ++ "/qemu/" ++ toString vmid ++ "/vncwebsocket"),
        HttpUri.pathByte byte = true) ↔ ∀ byte ∈ Text.bytes node, HttpUri.pathByte byte = true := by
  have fixed : ∀ word ∈ ["api2/json/nodes/", "/qemu/", "/vncwebsocket"], ∀ byte ∈ Text.bytes word,
      HttpUri.pathByte byte = true := by decide +kernel
  have nodes := fixed "api2/json/nodes/" (by decide)
  have machines := fixed "/qemu/" (by decide)
  have socket := fixed "/vncwebsocket" (by decide)
  have digits : ∀ byte ∈ Text.bytes (toString vmid), HttpUri.pathByte byte = true := fun byte member =>
    (digit_taken vmid.toNat byte member).1
  simp only [Text.bytes_append, List.forall_mem_append]
  exact ⟨fun all => all.1.1.1.2, fun taken => ⟨⟨⟨⟨nodes, taken⟩, machines⟩, digits⟩, socket⟩⟩

theorem query_taken_iff (upstream : VncProxyTicket) :
    (∀ byte ∈ wsQuery upstream, HttpUri.queryByte byte = true) ↔
      ∀ byte ∈ Text.bytes upstream.ticket, HttpUri.queryByte byte = true := by
  have port : ∀ byte ∈ Text.bytes "port", HttpUri.queryByte byte = true := by decide +kernel
  have digits : ∀ byte ∈ Text.bytes (toString upstream.port), HttpUri.queryByte byte = true := fun byte member =>
    (digit_taken upstream.port.toNat byte member).2
  have key : ∀ byte ∈ Text.bytes "vncticket", HttpUri.queryByte byte = true := by decide +kernel
  have equals : HttpUri.queryByte 61 = true := by decide
  have ampersand : HttpUri.queryByte 38 = true := by decide
  simp only [wsQuery, Url.twoParams, List.forall_mem_append, List.forall_mem_cons]
  exact ⟨fun all => all.2.2.2.2, fun taken => ⟨⟨port, equals, digits⟩, ampersand, key, equals, taken⟩⟩

theorem query_unhashed (upstream : VncProxyTicket) (plain : Url.PlainParam (Text.bytes upstream.ticket)) :
    35 ∉ wsQuery upstream := by
  have port : 35 ∉ Text.bytes "port" := by decide
  have digits := decimal_apart upstream.port.toNat 35 (by decide)
  have key : 35 ∉ Text.bytes "vncticket" := by decide
  have ticket : 35 ∉ Text.bytes upstream.ticket := fun hash => (plain.bytes 35 hash).1 rfl
  have equals : (35 : UInt8) ≠ 61 := by decide
  have ampersand : (35 : UInt8) ≠ 38 := by decide
  simp only [wsQuery, Url.twoParams, List.mem_append, List.mem_cons, not_or]
  exact ⟨⟨port, equals, digits⟩, ampersand, key, equals, ticket⟩

theorem start_bytes (hostUrl node : String) (vmid : UInt32) : Text.bytes (wsStart hostUrl node vmid) =
    Text.bytes (wsHost hostUrl) ++ 47 ::
      Text.bytes ("api2/json/nodes/" ++ node ++ "/qemu/" ++ toString vmid ++ "/vncwebsocket") := by
  have slash : Text.bytes "/api2/json/nodes/" = 47 :: Text.bytes "api2/json/nodes/" := by decide
  unfold wsStart
  simp only [Text.bytes_append, slash, List.append_assoc, List.cons_append]

theorem start_accepted_iff (accepts : Bytes → Bool) (hostUrl node : String) (vmid : UInt32) (upstream : VncProxyTicket)
    (host : Unmarked (wsHost hostUrl)) (plainNode : Unmarked node)
    (plain : Url.PlainParam (Text.bytes upstream.ticket)) :
    HttpUri.Accepted accepts (Text.bytes (wsStart hostUrl node vmid) ++ 63 :: wsQuery upstream) ↔
      ReadAsWritten accepts hostUrl node upstream := by
  have path : Unmarked ("api2/json/nodes/" ++ node ++ "/qemu/" ++ toString vmid ++ "/vncwebsocket") := by
    have start := (ws_start_unmarked_iff hostUrl node vmid).mpr ⟨host, plainNode⟩
    rw [Unmarked, start_bytes] at start
    exact ⟨fun mark => start.1 (List.mem_append_right _ (List.mem_cons_of_mem 47 mark)),
      fun hash => start.2 (List.mem_append_right _ (List.mem_cons_of_mem 47 hash))⟩
  rw [start_bytes, HttpUri.accepted_written_iff accepts _ _ _ host path (query_unhashed upstream plain),
    node_path_taken_iff, query_taken_iff]
  exact ⟨fun taken => ⟨taken.1, host, taken.2.1, taken.2.2.1, plain, taken.2.2.2⟩,
    fun read => ⟨read.authority, read.hostPath, read.node, read.ticket⟩⟩

theorem ws_url_params_iff (accepts : Bytes → Bool) (hostUrl node : String) (vmid : UInt32) (upstream : VncProxyTicket) :
    wsRead accepts (wsUrl hostUrl node vmid upstream) = some (wsParams upstream) ↔
      (Text.bytes (wsUrl hostUrl node vmid upstream)).length ≤ HttpUri.maxLength ∧
        (ReadAsWritten accepts hostUrl node upstream ∨ SpelledInFront accepts hostUrl node vmid upstream) := by
  have written := Url.query_pairs_written_iff (Text.bytes "port") (Text.bytes (toString upstream.port))
    (Text.bytes "vncticket") (Text.bytes upstream.ticket) (Text.bytes (wsStart hostUrl node vmid)) (by decide)
    (decimal_param upstream.port.toNat) (by decide)
    ⟨by decide, decimal_apart upstream.port.toNat 63 (by decide)⟩
  change Url.queryPairs (_ ++ 63 :: wsQuery upstream) = wsParams upstream ↔ _ at written
  rw [wsRead, ws_url_bytes, HttpUri.parse_pairs_iff accepts _ _ (ws_scheme_plain hostUrl), written]
  refine and_congr_right fun _ => ?_
  constructor
  · rintro ⟨taken, ⟨noMark, noHash, plain⟩ | ⟨hash, spelled⟩⟩
    · obtain ⟨host, plainNode⟩ := (ws_start_unmarked_iff hostUrl node vmid).mp ⟨noMark, noHash⟩
      exact Or.inl ((start_accepted_iff accepts hostUrl node vmid upstream host plainNode plain).mp taken)
    · exact Or.inr ⟨hash, (HttpUri.accepted_hash_iff accepts _ _ hash).mp taken, spelled⟩
  · rintro (read | ⟨hash, taken, spelled⟩)
    · have plainNode := path_bytes_unmarked node read.node
      obtain ⟨noMark, noHash⟩ := (ws_start_unmarked_iff hostUrl node vmid).mpr ⟨read.host, plainNode⟩
      exact ⟨(start_accepted_iff accepts hostUrl node vmid upstream read.host plainNode read.plain).mpr read,
        Or.inl ⟨noMark, noHash, read.plain⟩⟩
    · exact ⟨(HttpUri.accepted_hash_iff accepts _ _ hash).mpr taken, Or.inr ⟨hash, spelled⟩⟩

def plusTicket : VncProxyTicket :=
  { ticket := "PVEVNC:66A1B2C3::q+7/w==", port := 5900, upid := "UPID:pve1:00001A2B:00C0FFEE:66A1B2C3:vncproxy:100:root@pam:" }

def pveHost (authority : Bytes) : Bool :=
  authority == Text.bytes "pve1.local:8006"

theorem plus_in_ticket_lost :
    wsRead pveHost (wsUrl "https://pve1.local:8006" "pve1" 100 plusTicket) =
        some [(Text.bytes "port", Text.bytes "5900"), (Text.bytes "vncticket", Text.bytes "PVEVNC:66A1B2C3::q 7/w==")] ∧
      wsRead pveHost (wsUrl "https://pve1.local:8006" "pve1" 100 plusTicket) ≠ some (wsParams plusTicket) := by
  have read : wsRead pveHost (wsUrl "https://pve1.local:8006" "pve1" 100 plusTicket) =
      some [(Text.bytes "port", Text.bytes "5900"), (Text.bytes "vncticket", Text.bytes "PVEVNC:66A1B2C3::q 7/w==")] := by
    decide +kernel
  refine ⟨read, ?_⟩
  rw [read]
  decide +kernel

end Moxui.Api
