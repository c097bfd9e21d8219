import Mathlib.Data.Set.Basic
import Moxui.Proxmox.Endpoints

set_option autoImplicit false

namespace Moxui.Proxmox

open Url (PlainSegment PlainValue PlainKey trimmed)

-- The configured URL of a cluster: an origin, and maybe the path of a reverse proxy.
structure ClusterUrl where
  text : String
  origin : Url.Origin
  basePath : List String
  shape : Text.bytes (Text.trimEndMatches '/' text) = origin.text ++ basePath.flatMap fun segment => 47 :: Text.bytes segment
  plain : ∀ segment ∈ basePath, PlainSegment (Text.bytes segment)

inductive Kind where
  | fixed
  | number
  | supplied
deriving DecidableEq, Repr

def Piece.kind : Piece → Kind
  | fixed _ => .fixed
  | number _ => .number
  | supplied _ => .supplied

theorem piece_determined (first second : Piece) (kind : first.kind = second.kind) (text : first.text = second.text) :
    first = second := by
  cases first with
  | fixed word => cases second with
    | fixed other => exact congrArg Piece.fixed text
    | number other => cases kind
    | supplied other => cases kind
  | number value => cases second with
    | fixed other => cases kind
    | number other =>
        have same : value = other := Text.decimal_injective value other text
        rw [same]
    | supplied other => cases kind
  | supplied text => cases second with
    | fixed other => cases kind
    | number other => cases kind
    | supplied other => exact congrArg Piece.supplied (by assumption)

def itemAfter (word : String) : Kind :=
  if word ∈ ["nodes", "tasks", "storage", "snapshot", "content", "groups"] then .supplied
  else if word ∈ ["qemu", "lxc", "replication"] then .number
  else .fixed

def recognise : List String → List (Kind × String)
  | [] => []
  | [word] => [(.fixed, word)]
  | word :: next :: rest =>
      match itemAfter word with
      | .fixed => (.fixed, word) :: recognise (next :: rest)
      | kind => (.fixed, word) :: (kind, next) :: recognise rest

namespace ProxmoxCall

theorem recognise_segments (call : ProxmoxCall) :
    recognise call.segments = call.endpoint.map fun piece => (piece.kind, piece.text) := by
  cases call <;> rfl

theorem endpoint_determined (first second : ProxmoxCall) (same : first.segments = second.segments) :
    first.endpoint = second.endpoint := by
  have recognised := congrArg recognise same
  rw [recognise_segments, recognise_segments] at recognised
  have injective : Function.Injective fun piece : Piece => (piece.kind, piece.text) := by
    intro one other equal
    rw [Prod.mk.injEq] at equal
    exact piece_determined one other equal.1 equal.2
  exact injective.list_map recognised

def words : List String :=
  ["version", "cluster", "resources", "storage", "network", "status", "config", "options", "log", "tasks", "ceph", "pool",
    "firewall", "rules", "sdn", "zones", "vnets", "ha", "groups", "replication", "nodes", "qemu", "lxc", "rrddata",
    "snapshot", "current", "content", "migrate", "clone", "rollback", "backup", "resize", "template", "sendkey",
    "vncproxy", "upload", "start", "stop", "shutdown", "reboot", "reset", "suspend", "resume"]

theorem words_plain : ∀ word ∈ words, PlainSegment (Text.bytes word) ∧ trimmed (Text.bytes word) := by
  decide +kernel

def wordKnown : Piece → Bool
  | .fixed word => decide (word ∈ words)
  | _ => true

theorem words_known (call : ProxmoxCall) : call.endpoint.all wordKnown = true := by
  cases call with
  | vmAction node vmid action => cases action <;> rfl
  | lxcAction node vmid action params => cases action <;> rfl
  | _ => rfl

theorem starts_with_word (call : ProxmoxCall) : ∃ word rest, call.endpoint = .fixed word :: rest := by
  cases call <;> exact ⟨_, _, rfl⟩

theorem fixed_known (call : ProxmoxCall) (word : String) (member : .fixed word ∈ call.endpoint) : word ∈ words := by
  have known := List.all_eq_true.mp call.words_known (.fixed word) member
  exact of_decide_eq_true known

-- What the strings of a call must be like for its URL to be the one its endpoint names.
structure SafeStrings (call : ProxmoxCall) : Prop where
  segments : ∀ text, .supplied text ∈ call.endpoint → PlainSegment (Text.bytes text)
  last : ∀ text, call.query = none → call.endpoint.getLast? = some (.supplied text) → trimmed (Text.bytes text)
  value : ∀ pair, call.query = some pair → PlainValue (Text.bytes pair.2)

theorem piece_plain (call : ProxmoxCall) (piece : Piece) (member : piece ∈ call.endpoint)
    (supplied : ∀ text, piece = .supplied text → PlainSegment (Text.bytes text)) :
    PlainSegment (Text.bytes piece.text) := by
  cases piece with
  | fixed word => exact (words_plain word (call.fixed_known word member)).1
  | number value => exact (Url.plain_digits _ (Text.decimal_bytes value)).1
  | supplied text => exact supplied text rfl

theorem piece_trimmed (call : ProxmoxCall) (piece : Piece) (member : piece ∈ call.endpoint)
    (supplied : ∀ text, piece = .supplied text → trimmed (Text.bytes text)) : trimmed (Text.bytes piece.text) := by
  cases piece with
  | fixed word => exact (words_plain word (call.fixed_known word member)).2
  | number value => exact (Url.plain_digits _ (Text.decimal_bytes value)).2
  | supplied text => exact supplied text rfl

def queryBytes (call : ProxmoxCall) : Option (List UInt8 × List UInt8) :=
  call.query.map fun pair => (Text.bytes pair.1, Text.bytes pair.2)

theorem query_key (call : ProxmoxCall) (pair : String × String) (found : call.query = some pair) :
    pair.1 = "type" ∨ pair.1 = "timeframe" := by
  cases call with
  | listResources => exact Or.inl (by rw [← Option.some.inj found])
  | vmRrddata node vmid timeframe => exact Or.inr (by rw [← Option.some.inj found])
  | _ => cases found

theorem query_key_plain (call : ProxmoxCall) (pair : List UInt8 × List UInt8) (found : call.queryBytes = some pair) :
    PlainKey pair.1 := by
  obtain ⟨text, present, rfl⟩ := Option.map_eq_some_iff.mp found
  have plainKeys : ∀ key ∈ ["type", "timeframe"], PlainKey (Text.bytes key) := by decide +kernel
  apply plainKeys text.1
  simpa using call.query_key text present

theorem bytes_spelled (segments : List String) :
    Text.bytes (spelled segments) = Url.join (segments.map Text.bytes) := by
  induction segments with
  | nil => rfl
  | cons first rest ih =>
      cases rest with
      | nil => simp [spelled, Url.join]
      | cons second rest =>
          have slash : Text.bytes "/" = [47] := by decide
          rw [List.map_cons, List.map_cons, Url.join_cons, ← List.map_cons, ← ih]
          simp [spelled, slash]

theorem path_written (call : ProxmoxCall) :
    Text.bytes call.path = Url.written (call.segments.map Text.bytes) (Url.queryText call.queryBytes) := by
  rw [path_spelled, Text.bytes_append, bytes_spelled, queryBytes]
  cases call.query with
  | none => simp [spelledQuery, Url.queryText, Url.written, Text.bytes]
  | some pair =>
      have mark : Text.bytes "?" = [63] := by decide
      have equals : Text.bytes "=" = [61] := by decide
      simp [spelledQuery, Url.queryText, Url.written, mark, equals]

theorem path_not_trimmed (call : ProxmoxCall) : Text.trimStartMatches '/' call.path = call.path := by
  obtain ⟨word, rest, starts⟩ := call.starts_with_word
  have known := call.fixed_known word (by rw [starts]; exact List.mem_cons_self)
  have kept : ∀ word ∈ words, word.toList.dropWhile (· == '/') = word.toList ∧ word.toList.isEmpty = false := by decide
  obtain ⟨whole, nonempty⟩ := kept word known
  have split : ∃ more, call.path = word ++ more := by
    rw [path_spelled, segments, starts]
    cases rest with
    | nil => exact ⟨spelledQuery call.query, rfl⟩
    | cons next rest => exact ⟨_, by rw [List.map_cons, List.map_cons, spelled, String.append_assoc, Piece.text]; exact List.cons_ne_nil _ _⟩
  obtain ⟨more, splitEq⟩ := split
  rw [Text.trimStartMatches, splitEq, String.toList_append, List.dropWhile_append, whole, nonempty]
  simp

end ProxmoxCall

def target (cluster : ClusterUrl) (call : ProxmoxCall) : Option Url :=
  Url.parse (Text.bytes (buildUrl cluster.text call.path))

def expectedPath (cluster : ClusterUrl) (call : ProxmoxCall) : List (List UInt8) :=
  (cluster.basePath ++ ["api2", "json"] ++ call.segments).map Text.bytes

-- The URL of the call, parsed, has the segments of its endpoint with each supplied string in
-- its own segment, and the query of its endpoint.
def AddressesItself (cluster : ClusterUrl) (call : ProxmoxCall) : Prop :=
  ∃ url, target cluster call = some url ∧
    Url.Addresses cluster.origin (expectedPath cluster call) call.queryBytes.toList url

structure PathIntegrity (cluster : ClusterUrl) (calls : Set ProxmoxCall) : Prop where
  whole : ∀ call ∈ calls, AddressesItself cluster call
  apart : ∀ first ∈ calls, ∀ second ∈ calls, target cluster first = target cluster second →
    first.endpoint = second.endpoint ∧ first.query = second.query

theorem url_written (cluster : ClusterUrl) (call : ProxmoxCall) :
    Text.bytes (buildUrl cluster.text call.path) =
      cluster.origin.text ++ 47 :: Url.written (expectedPath cluster call) (Url.queryText call.queryBytes) := by
  have middle : Text.bytes "/api2/json/" = 47 :: (Text.bytes "api2" ++ 47 :: (Text.bytes "json" ++ [47])) := by decide
  have nonempty : call.segments.map Text.bytes ≠ [] := by
    obtain ⟨word, rest, starts⟩ := call.starts_with_word
    simp [ProxmoxCall.segments, starts]
  have joined : (cluster.basePath.flatMap fun segment => 47 :: Text.bytes segment) ++
      (47 :: (Text.bytes "api2" ++ 47 :: (Text.bytes "json" ++ 47 :: Url.join (call.segments.map Text.bytes)))) =
      47 :: Url.join (expectedPath cluster call) := by
    have base := Url.join_append ((cluster.basePath ++ ["api2", "json"]).map Text.bytes) _ nonempty
    rw [expectedPath, List.map_append, ← base]
    simp [List.flatMap_map]
  rw [buildUrl, call.path_not_trimmed, Text.bytes_append, Text.bytes_append, cluster.shape, middle, call.path_written]
  cases Url.queryText call.queryBytes with
  | none =>
      simp only [Url.written, List.append_assoc, List.cons_append, List.nil_append]
      rw [joined]
  | some text =>
      have extended := congrArg (fun path => cluster.origin.text ++ (path ++ 63 :: text)) joined
      simpa [Url.written] using extended

theorem expected_nonempty (cluster : ClusterUrl) (call : ProxmoxCall) : expectedPath cluster call ≠ [] := by
  simp [expectedPath]

theorem expected_plain_iff (cluster : ClusterUrl) (call : ProxmoxCall) :
    (∀ segment ∈ expectedPath cluster call, PlainSegment segment) ↔
      ∀ text, .supplied text ∈ call.endpoint → PlainSegment (Text.bytes text) := by
  constructor
  · intro plain text member
    apply plain
    have inSegments : text ∈ call.segments := List.mem_map.mpr ⟨.supplied text, member, rfl⟩
    exact List.mem_map.mpr ⟨text, List.mem_append_right _ inSegments, rfl⟩
  · intro supplied segment member
    obtain ⟨text, inPath, rfl⟩ := List.mem_map.mp member
    rcases List.mem_append.mp inPath with inFront | inSegments
    · rcases List.mem_append.mp inFront with inBase | inApi
      · exact cluster.plain text inBase
      · have apiPlain : ∀ text ∈ ["api2", "json"], PlainSegment (Text.bytes text) := by
          decide +kernel
        exact apiPlain text inApi
    · obtain ⟨piece, found, rfl⟩ := List.mem_map.mp inSegments
      refine call.piece_plain piece found ?_
      rintro text rfl
      exact supplied text found

theorem expected_last (cluster : ClusterUrl) (call : ProxmoxCall) (piece : Piece)
    (last : call.endpoint.getLast? = some piece) :
    (expectedPath cluster call).getLast (expected_nonempty cluster call) = Text.bytes piece.text := by
  have found : (expectedPath cluster call).getLast? = some (Text.bytes piece.text) := by
    rw [expectedPath, List.getLast?_map, List.getLast?_append, ProxmoxCall.segments, List.getLast?_map, last]
    rfl
  rw [List.getLast?_eq_some_getLast (expected_nonempty cluster call), Option.some.injEq] at found
  exact found

theorem expected_closed_iff (cluster : ClusterUrl) (call : ProxmoxCall) :
    Url.Closed (expectedPath cluster call) (Url.queryText call.queryBytes) ↔
      ∀ text, call.query = none → call.endpoint.getLast? = some (.supplied text) → trimmed (Text.bytes text) := by
  have noQuery : Url.queryText call.queryBytes = none ↔ call.query = none := by
    simp [Url.queryText, ProxmoxCall.queryBytes]
  rw [Url.Closed, noQuery, Url.trimmed_join_iff _ (expected_nonempty cluster call)]
  constructor
  · intro closed text absent last
    have whole := closed absent
    rw [expected_last cluster call _ last] at whole
    exact whole
  · intro supplied absent
    obtain ⟨word, rest, starts⟩ := call.starts_with_word
    have nonempty : call.endpoint ≠ [] := by simp [starts]
    have last := List.getLast?_eq_some_getLast nonempty
    rw [expected_last cluster call _ last]
    refine call.piece_trimmed _ (List.getLast_mem nonempty) ?_
    intro text same
    exact supplied text absent (by rw [last, same])

theorem values_plain_iff (call : ProxmoxCall) :
    (∀ pair, call.queryBytes = some pair → PlainValue pair.2) ↔
      ∀ pair, call.query = some pair → PlainValue (Text.bytes pair.2) := by
  simp only [ProxmoxCall.queryBytes, Option.map_eq_some_iff]
  constructor
  · intro values pair found
    exact values _ ⟨pair, found, rfl⟩
  · rintro values _ ⟨pair, found, rfl⟩
    exact values pair found

theorem addresses_itself_iff (cluster : ClusterUrl) (call : ProxmoxCall) :
    AddressesItself cluster call ↔ call.SafeStrings := by
  have written := Url.addresses_written_iff cluster.origin (expectedPath cluster call) (expected_nonempty cluster call)
    call.queryBytes call.query_key_plain
  rw [AddressesItself, target, url_written, written, expected_plain_iff, expected_closed_iff, values_plain_iff]
  constructor
  · rintro ⟨segments, last, value⟩
    exact ⟨segments, last, value⟩
  · rintro ⟨segments, last, value⟩
    exact ⟨segments, last, value⟩

theorem bytes_list_injective : Function.Injective (List.map Text.bytes) :=
  Function.Injective.list_map Text.bytes_injective

theorem addresses_apart (cluster : ClusterUrl) (first second : ProxmoxCall) (firstOwn : AddressesItself cluster first)
    (secondOwn : AddressesItself cluster second) (same : target cluster first = target cluster second) :
    first.endpoint = second.endpoint ∧ first.query = second.query := by
  obtain ⟨url, parsed, addresses⟩ := firstOwn
  obtain ⟨other, parsedOther, addressesOther⟩ := secondOwn
  rw [parsed, parsedOther, Option.some.injEq] at same
  subst same
  have paths := addresses.segments.symm.trans addressesOther.segments
  have pairs := addresses.pairs.symm.trans addressesOther.pairs
  have sameSegments := List.append_cancel_left (bytes_list_injective paths)
  refine ⟨ProxmoxCall.endpoint_determined first second sameSegments, ?_⟩
  have sameQuery : first.queryBytes = second.queryBytes := by simpa using congrArg List.head? pairs
  have injective : Function.Injective fun pair : String × String => (Text.bytes pair.1, Text.bytes pair.2) := by
    intro one two equal
    rw [Prod.mk.injEq] at equal
    exact Prod.ext (Text.bytes_injective _ _ equal.1) (Text.bytes_injective _ _ equal.2)
  exact Option.map_injective injective sameQuery

theorem path_integrity_iff (cluster : ClusterUrl) (calls : Set ProxmoxCall) :
    PathIntegrity cluster calls ↔ ∀ call ∈ calls, call.SafeStrings := by
  constructor
  · intro integrity call member
    exact (addresses_itself_iff cluster call).mp (integrity.whole call member)
  · intro safe
    have whole : ∀ call ∈ calls, AddressesItself cluster call := fun call member =>
      (addresses_itself_iff cluster call).mpr (safe call member)
    exact ⟨whole, fun first inFirst second inSecond same =>
      addresses_apart cluster first second (whole first inFirst) (whole second inSecond) same⟩

def sampleCluster : ClusterUrl :=
  { text := "https://pve11.local:8006/"
    origin :=
      { scheme := Text.bytes "https", authority := Text.bytes "pve11.local:8006", known := by decide, named := by decide
        plain := by decide +kernel }
    basePath := []
    shape := by decide
    plain := by decide }

-- Deleting the task "../qemu/100" deletes the virtual machine 100.
theorem task_delete_reaches_vm :
    target sampleCluster (.taskDelete "pve11" "../qemu/100") =
        target sampleCluster (.deleteVm "pve11" 100 false false false) ∧
      (ProxmoxCall.taskDelete "pve11" "../qemu/100").method = (ProxmoxCall.deleteVm "pve11" 100 false false false).method ∧
      ¬ PathIntegrity sampleCluster Set.univ := by
  have same : target sampleCluster (.taskDelete "pve11" "../qemu/100") =
      target sampleCluster (.deleteVm "pve11" 100 false false false) := by decide +kernel
  refine ⟨same, rfl, fun integrity => ?_⟩
  have endpoints := (integrity.apart _ (Set.mem_univ _) _ (Set.mem_univ _) same).1
  revert endpoints
  decide

end Moxui.Proxmox
