import Moxui.Ui.ServerPaths
import Moxui.Ui.Page

set_option autoImplicit false

namespace Moxui.Ui

open Moxui.Api
open Percent (Bytes)
open Url (PlainSegment trimmed)

inductive OfferedAction where
  | start
  | shutdown
  | stop
  | reboot
  | delete
deriving DecidableEq, Repr

def OfferedAction.name : OfferedAction → String
  | .start => "start"
  | .shutdown => "shutdown"
  | .stop => "stop"
  | .reboot => "reboot"
  | .delete => "delete"

-- The requests whose path the page fills in with names, under the functions that make them.
inductive PageCall where
  | fetchVmDetail (cluster : String) (vmid : UInt32)
  | fetchVmConfig (cluster node : String) (vmid : UInt32)
  | confirmVmAction (cluster node : String) (vmid : UInt32) (action : OfferedAction)
  | confirmMigrate (cluster node : String) (vmid : UInt32)
  | saveHaGroup (cluster group : String)
  | deleteHaGroup (cluster group : String)
deriving DecidableEq, Repr

namespace PageCall

def path : PageCall → String
  | fetchVmDetail cluster vmid => "/api/v1/vms/" ++ cluster ++ "/" ++ toString vmid
  | fetchVmConfig cluster node vmid => "/api/v1/vms/" ++ cluster ++ "/" ++ node ++ "/" ++ toString vmid ++ "/config"
  | confirmVmAction cluster node vmid action =>
      "/api/v1/vms/" ++ cluster ++ "/" ++ node ++ "/" ++ toString vmid ++ "/" ++ action.name
  | confirmMigrate cluster node vmid => "/api/v1/vms/" ++ cluster ++ "/" ++ node ++ "/" ++ toString vmid ++ "/migrate"
  | saveHaGroup cluster group => "/api/v1/hagroups/" ++ cluster ++ "/" ++ group
  | deleteHaGroup cluster group => "/api/v1/hagroups/" ++ cluster ++ "/" ++ group

def method : PageCall → HttpMethod
  | fetchVmDetail _ _ | fetchVmConfig _ _ _ => .get
  | confirmVmAction _ _ _ _ | confirmMigrate _ _ _ | saveHaGroup _ _ => .post
  | deleteHaGroup _ _ => .delete

def handler : PageCall → Handler
  | fetchVmDetail _ _ => .vmDetail
  | fetchVmConfig _ _ _ => .vmConfigHandler
  | confirmVmAction _ _ _ _ => .vmActionHandler
  | confirmMigrate _ _ _ => .migrateVmHandler
  | saveHaGroup _ _ => .createHaGroup
  | deleteHaGroup _ _ => .deleteHaGroup

def values : PageCall → List String
  | fetchVmDetail cluster vmid => [cluster, toString vmid]
  | fetchVmConfig cluster node vmid => [cluster, node, toString vmid]
  | confirmVmAction cluster node vmid action => [cluster, node, toString vmid, action.name]
  | confirmMigrate cluster node vmid => [cluster, node, toString vmid]
  | saveHaGroup cluster group => [cluster, group]
  | deleteHaGroup cluster group => [cluster, group]

def pattern : PageCall → List PatternPart
  | fetchVmDetail _ _ => v1 [lit "vms", arg "cluster", arg "vmid"]
  | fetchVmConfig _ _ _ => v1 [lit "vms", arg "cluster", arg "node", arg "vmid", lit "config"]
  | confirmVmAction _ _ _ _ => v1 [lit "vms", arg "cluster", arg "node", arg "vmid", arg "action"]
  | confirmMigrate _ _ _ => v1 [lit "vms", arg "cluster", arg "node", arg "vmid", lit "migrate"]
  | saveHaGroup _ _ | deleteHaGroup _ _ => v1 [lit "hagroups", arg "cluster", arg "group"]

-- The names that stand in the path, and the one that ends it.
def names : PageCall → List String
  | fetchVmDetail cluster _ => [cluster]
  | fetchVmConfig cluster node _ | confirmVmAction cluster node _ _ | confirmMigrate cluster node _ => [cluster, node]
  | saveHaGroup cluster group | deleteHaGroup cluster group => [cluster, group]

def lastName : PageCall → Option String
  | saveHaGroup _ group | deleteHaGroup _ group => some group
  | _ => none

theorem vms_prefix (rest : String) :
    "/api/v1/vms/" ++ rest = "/" ++ ("api" ++ ("/" ++ ("v1" ++ ("/" ++ ("vms" ++ ("/" ++ rest)))))) := by
  have literal : "/api/v1/vms/" = "/" ++ ("api" ++ ("/" ++ ("v1" ++ ("/" ++ ("vms" ++ "/"))))) := rfl
  rw [literal]
  simp only [String.append_assoc]

theorem ha_groups_prefix (rest : String) :
    "/api/v1/hagroups/" ++ rest = "/" ++ ("api" ++ ("/" ++ ("v1" ++ ("/" ++ ("hagroups" ++ ("/" ++ rest)))))) := by
  have literal : "/api/v1/hagroups/" = "/" ++ ("api" ++ ("/" ++ ("v1" ++ ("/" ++ ("hagroups" ++ "/"))))) := rfl
  rw [literal]
  simp only [String.append_assoc]

theorem path_template (call : PageCall) : call.path = templatePath call.pattern call.values := by
  have config : "/config" = "/" ++ "config" := rfl
  have migrate : "/migrate" = "/" ++ "migrate" := rfl
  cases call with
  | fetchVmDetail cluster vmid =>
      change "/api/v1/vms/" ++ cluster ++ "/" ++ toString vmid = _
      simp only [String.append_assoc, vms_prefix]
      rfl
  | fetchVmConfig cluster node vmid =>
      change "/api/v1/vms/" ++ cluster ++ "/" ++ node ++ "/" ++ toString vmid ++ "/config" = _
      simp only [String.append_assoc, vms_prefix, config]
      rfl
  | confirmVmAction cluster node vmid action =>
      change "/api/v1/vms/" ++ cluster ++ "/" ++ node ++ "/" ++ toString vmid ++ "/" ++ action.name = _
      simp only [String.append_assoc, vms_prefix]
      rfl
  | confirmMigrate cluster node vmid =>
      change "/api/v1/vms/" ++ cluster ++ "/" ++ node ++ "/" ++ toString vmid ++ "/migrate" = _
      simp only [String.append_assoc, vms_prefix, migrate]
      rfl
  | saveHaGroup cluster group =>
      change "/api/v1/hagroups/" ++ cluster ++ "/" ++ group = _
      simp only [String.append_assoc, ha_groups_prefix]
      rfl
  | deleteHaGroup cluster group =>
      change "/api/v1/hagroups/" ++ cluster ++ "/" ++ group = _
      simp only [String.append_assoc, ha_groups_prefix]
      rfl

-- What the router can tell about the segments of the path before it looks at the names.
def known : PageCall → List (String → Bool)
  | fetchVmDetail _ _ => [(· == "api"), (· == "v1"), (· == "vms"), fun _ => true, digits]
  | fetchVmConfig _ _ _ =>
      [(· == "api"), (· == "v1"), (· == "vms"), fun _ => true, fun _ => true, digits, (· == "config")]
  | confirmVmAction _ _ _ action =>
      [(· == "api"), (· == "v1"), (· == "vms"), fun _ => true, fun _ => true, digits, (· == action.name)]
  | confirmMigrate _ _ _ =>
      [(· == "api"), (· == "v1"), (· == "vms"), fun _ => true, fun _ => true, digits, (· == "migrate")]
  | saveHaGroup _ _ | deleteHaGroup _ _ => [(· == "api"), (· == "v1"), (· == "hagroups"), fun _ => true, fun _ => true]
where
  digits (text : String) : Bool :=
    text.toList.all Char.isDigit

def routed (pattern : List PatternPart) (known : List (String → Bool)) (method : HttpMethod) (handler : Handler) : Bool :=
  routes.any fun route =>
    route.pattern == pattern && methodHandler route.methods method == some handler &&
      routes.all fun other => !couldMatch other.pattern known || other == route || beats route.pattern other.pattern

theorem call_routed (call : PageCall) : routed call.pattern call.known call.method call.handler = true := by
  cases call with
  | confirmVmAction cluster node vmid action =>
      dsimp only [pattern, known, method, handler]
      cases action <;> decide +kernel
  | _ =>
      dsimp only [pattern, known, method, handler]
      decide +kernel

theorem routed_route (pattern : List PatternPart) (known : List (String → Bool)) (method : HttpMethod)
    (handler : Handler) (chosen : routed pattern known method handler = true) :
    ∃ route ∈ routes, route.pattern = pattern ∧ methodHandler route.methods method = some handler ∧
      ∀ other ∈ routes, couldMatch other.pattern known = true →
        other = route ∨ beats route.pattern other.pattern = true := by
  obtain ⟨route, member, holds⟩ := List.any_eq_true.mp chosen
  simp only [Bool.and_eq_true, beq_iff_eq, List.all_eq_true, Bool.or_eq_true, Bool.not_eq_true'] at holds
  obtain ⟨⟨same, answers⟩, wins⟩ := holds
  refine ⟨route, member, same, answers, ?_⟩
  intro other inRoutes could
  rcases wins other inRoutes with (impossible | equal) | beaten
  · rw [could] at impossible
    cases impossible
  · exact Or.inl equal
  · exact Or.inr beaten

theorem handler_pattern (call : PageCall) (route : Route) (member : route ∈ routes) (method : HttpMethod)
    (answers : methodHandler route.methods method = some call.handler) : route.pattern = call.pattern := by
  have listed := method_handler_member _ _ _ answers
  have only : (routes.all fun route =>
      !(route.methods.map fun method => method.2).contains call.handler || route.pattern == call.pattern) = true := by
    cases call <;> dsimp only [pattern, handler] <;> decide +kernel
  have own := List.all_eq_true.mp only route member
  simp only [Bool.or_eq_true, Bool.not_eq_true', beq_iff_eq] at own
  refine own.resolve_left ?_
  rw [Bool.not_eq_false, List.contains_iff_mem]
  exact listed

theorem pattern_fixed (call : PageCall) : FixedLiterals call.pattern := by
  obtain ⟨route, member, same, _⟩ := routed_route _ _ _ _ call.call_routed
  rw [← same]
  exact routes_fixed route member

theorem pattern_restless (call : PageCall) : restless call.pattern = true := by
  cases call <;> rfl

theorem values_fit (call : PageCall) : call.values.length = arity call.pattern := by
  cases call <;> rfl

theorem pattern_nonempty (call : PageCall) : call.pattern ≠ [] := by
  cases call <;> exact List.cons_ne_nil _ _

theorem decimal_fixed (value : Nat) : Fixed (toString value) where
  plain := (Url.plain_digits _ (Text.decimal_bytes value)).1
  trimmed := (Url.plain_digits _ (Text.decimal_bytes value)).2
  kept := by
    have spared : ∀ byte : Fin 256, 48 ≤ UInt8.ofFin byte → UInt8.ofFin byte ≤ 57 →
        Url.inPathSet (UInt8.ofFin byte) = false := by decide +kernel
    have each : ∀ bytes : Bytes, (∀ byte ∈ bytes, 48 ≤ byte ∧ byte ≤ 57) → Percent.encode Url.inPathSet bytes = bytes := by
      intro bytes all
      induction bytes with
      | nil => rfl
      | cons byte rest ih =>
          have own := all byte List.mem_cons_self
          have kept := spared byte.toFin own.1 own.2
          have later := ih fun other member => all other (List.mem_cons_of_mem _ member)
          rw [Percent.encode, List.flatMap_cons, ← Percent.encode, later]
          simp only [show Url.inPathSet byte = false from kept, Bool.false_eq_true, if_false, List.singleton_append]
    exact each _ (Text.decimal_bytes value)

theorem decimal_digits (value : Nat) : known.digits (toString value) = true := by
  rw [known.digits, List.all_eq_true, Nat.toString_eq_repr, Nat.toList_repr]
  exact fun char member => Nat.isDigit_of_mem_toDigits (by omega) (by omega) member

theorem action_fixed (action : OfferedAction) : Fixed action.name := by
  cases action <;> decide +kernel

def wireText (value : String) : String :=
  asciiText (Percent.encode Url.inPathSet (Text.bytes value))

theorem sent_known (call : PageCall) : List.Forall₂ (fun known segment => known segment = true) call.known
    ((filled call.pattern call.values).map wireText) := by
  have api : wireText "api" = "api" := fixed_text _ (by decide +kernel)
  have version : wireText "v1" = "v1" := fixed_text _ (by decide +kernel)
  have vms : wireText "vms" = "vms" := fixed_text _ (by decide +kernel)
  have groups : wireText "hagroups" = "hagroups" := fixed_text _ (by decide +kernel)
  have config : wireText "config" = "config" := fixed_text _ (by decide +kernel)
  have migrate : wireText "migrate" = "migrate" := fixed_text _ (by decide +kernel)
  have number : ∀ vmid : UInt32, known.digits (wireText (toString vmid)) = true := by
    intro vmid
    rw [wireText, Proxmox.ProxmoxCall.vmid_text, fixed_text _ (decimal_fixed vmid.toNat)]
    exact decimal_digits vmid.toNat
  cases call with
  | confirmVmAction cluster node vmid action =>
      have named : wireText action.name = action.name := fixed_text _ (action_fixed action)
      simp [known, pattern, values, v1, lit, arg, filled, api, version, vms, number, named]
  | _ => simp [known, pattern, values, v1, lit, arg, filled, api, version, vms, groups, config, migrate, number]

-- The request gets to its handler, which reads the values that the page has written.
def Reaches (origin : Url.Origin) (call : PageCall) : Prop :=
  ∃ target route params, requestTarget origin call.path = some target ∧
    findRoute target routes = some (route, params) ∧
    methodHandler route.methods call.method = some call.handler ∧
    (params.mapM fun param => percentText param.2) = some call.values

-- The names come through the path; the one that ends it may not be empty or trimmed.
structure Clean (call : PageCall) : Prop where
  names : ∀ name ∈ call.names, PlainSegment (Text.bytes name)
  last : ∀ name, call.lastName = some name → name ≠ "" ∧ trimmed (Text.bytes name)

theorem vmid_plain (vmid : UInt32) : PlainSegment (Text.bytes (toString vmid)) := by
  rw [Proxmox.ProxmoxCall.vmid_text]
  exact (decimal_fixed vmid.toNat).plain

theorem vmid_finished (vmid : UInt32) : toString vmid ≠ "" ∧ trimmed (Text.bytes (toString vmid)) := by
  rw [Proxmox.ProxmoxCall.vmid_text]
  refine ⟨?_, (decimal_fixed vmid.toNat).trimmed⟩
  intro blank
  have chars := congrArg String.toList blank
  rw [Nat.toString_eq_repr, Nat.toList_repr] at chars
  exact Nat.toDigits_ne_nil chars

theorem action_finished (action : OfferedAction) : action.name ≠ "" ∧ trimmed (Text.bytes action.name) := by
  refine ⟨?_, (action_fixed action).trimmed⟩
  cases action <;> decide

theorem clean_iff (call : PageCall) : call.Clean ↔
    (∀ value ∈ call.values, PlainSegment (Text.bytes value)) ∧ Finished call.pattern call.values := by
  have split : call.Clean ↔ (∀ name ∈ call.names, PlainSegment (Text.bytes name)) ∧
      ∀ name, call.lastName = some name → name ≠ "" ∧ trimmed (Text.bytes name) :=
    ⟨fun clean => ⟨clean.names, clean.last⟩, fun both => ⟨both.1, both.2⟩⟩
  rw [split]
  cases call with
  | fetchVmDetail cluster vmid =>
      have ends := vmid_finished vmid
      simp [names, lastName, values, pattern, Finished, v1, lit, arg, vmid_plain, ends]
  | fetchVmConfig cluster node vmid => simp [names, lastName, values, pattern, Finished, v1, lit, arg, vmid_plain]
  | confirmVmAction cluster node vmid action =>
      have ends := action_finished action
      simp [names, lastName, values, pattern, Finished, v1, lit, arg, vmid_plain, (action_fixed action).plain, ends]
  | confirmMigrate cluster node vmid => simp [names, lastName, values, pattern, Finished, v1, lit, arg, vmid_plain]
  | saveHaGroup cluster group => simp [names, lastName, values, pattern, Finished, v1, lit, arg]
  | deleteHaGroup cluster group => simp [names, lastName, values, pattern, Finished, v1, lit, arg]

theorem reaches_arrives (origin : Url.Origin) (call : PageCall) (reaches : Reaches origin call) :
    Arrives origin call.pattern call.values := by
  obtain ⟨target, route, params, sent, found, answers, read⟩ := reaches
  obtain ⟨member, matched⟩ := find_route_some _ _ _ _ found
  rw [call.handler_pattern route member call.method answers] at matched
  rw [Arrives, ← path_template, sent, Option.bind_some, readParams, readSegments, matched, Option.bind_some, read]

theorem arrives_reaches (origin : Url.Origin) (call : PageCall)
    (plain : ∀ value ∈ call.values, PlainSegment (Text.bytes value)) (finished : Finished call.pattern call.values)
    (arrives : Arrives origin call.pattern call.values) : Reaches origin call := by
  obtain ⟨route, member, same, answers, wins⟩ := routed_route _ _ _ _ call.call_routed
  have sent := template_sent origin call.pattern call.values
  have segments := plain_sent call.pattern call.values call.pattern_nonempty call.pattern_restless call.pattern_fixed
    call.values_fit plain finished
  rw [Arrives, sent, Option.bind_some, readParams, readSegments, sent_segments, Option.bind_eq_some_iff] at arrives
  obtain ⟨params, matched, read⟩ := arrives
  refine ⟨_, route, params, (congrArg _ call.path_template).trans sent, ?_, answers, read⟩
  apply find_route_chosen _ route member params _ call.known _ (same ▸ wins)
  · rw [sent_segments, same, matched]
  · rw [sent_segments, segments, List.map_map, List.map_map]
    exact call.sent_known

theorem clean_reaches (origin : Url.Origin) (call : PageCall) (clean : call.Clean) : Reaches origin call := by
  have both := (clean_iff call).mp clean
  have arrives := template_arrives_iff origin call.pattern call.values call.pattern_nonempty call.pattern_restless
    call.pattern_fixed call.values_fit
  exact arrives_reaches origin call both.1 both.2 (arrives.mpr both)

theorem page_call_reaches_iff (origin : Url.Origin) (call : PageCall) : Reaches origin call ↔ call.Clean := by
  have arrives := template_arrives_iff origin call.pattern call.values call.pattern_nonempty call.pattern_restless
    call.pattern_fixed call.values_fit
  refine ⟨?_, clean_reaches origin call⟩
  intro reaches
  rw [clean_iff]
  exact arrives.mp (reaches_arrives origin call reaches)

end PageCall

end Moxui.Ui
