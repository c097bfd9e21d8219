import Moxui.Api.ClusterIsolation

set_option autoImplicit false

namespace Moxui.Api

open Moxui.Auth (Claims UserStore)

theorem percent_text_some (raw name : String) :
    percentText raw = some name ↔ Text.bytes name = Percent.decode (Text.bytes raw) := by
  have array : ∀ bytes : List UInt8, (⟨bytes.toArray⟩ : ByteArray) = bytes.toByteArray := by
    intro bytes
    exact ByteArray.ext List.data_toByteArray.symm
  unfold percentText String.fromUTF8?
  rw [array]
  refine ⟨?_, ?_⟩
  · intro read
    split at read
    · have bytes : (Percent.decode (Text.bytes raw)).toByteArray = name.toByteArray :=
        congrArg String.toByteArray (Option.some.inj read)
      rw [Text.to_byte_array name] at bytes
      have lists := congrArg (fun bytes : ByteArray => bytes.data.toList) bytes
      simpa only [List.toList_data_toByteArray] using lists.symm
    · cases read
  · intro bytes
    rw [← bytes, ← Text.to_byte_array]
    simp [String.isValidUTF8, String.fromUTF8]

theorem percent_text_plain (raw : String) (plain : Percent.hasEscape (Text.bytes raw) = false) :
    percentText raw = some raw :=
  (percent_text_some raw raw).mpr (Percent.decode_of_no_escape _ plain).symm

theorem percent_text_fixed (raw : String) (fixed : percentText raw = some raw) :
    Percent.hasEscape (Text.bytes raw) = false := by
  apply Percent.has_escape_of_length
  rw [← (percent_text_some raw raw).mp fixed]

-- What the check takes from a path: the fourth of the segments that are not empty.
def checkedSegment (segments : List String) : Option String :=
  match segments.filter (· ≠ "") with
  | "api" :: "v1" :: _ :: cluster :: _ => some cluster
  | _ => none

theorem extract_cluster_segments (path : String) (nonempty : segmentsOf path ≠ []) :
    extractClusterFromPath path = checkedSegment (segmentsOf path) := by
  unfold segmentsOf at nonempty ⊢
  split at nonempty
  · next rest pieces =>
      have kept : (rest.map String.ofList).filter (· ≠ "") = (([] :: rest).filter (· ≠ [])).map String.ofList := by
        rw [List.filter_map, List.filter_cons_of_neg (by simp)]
        congr 1
        exact List.filter_congr fun piece _ => by simp
      unfold extractClusterFromPath checkedSegment
      rewrite [pieces, kept]
      rfl
  · exact absurd rfl nonempty

def clusterStandsFourth : List PatternPart → Bool
  | .static first :: .static second :: .static resource :: .param name :: _ =>
      first == "api" && second == "v1" && resource != "" && name == "cluster"
  | _ => false

theorem scoped_pattern (route : Route) (isScoped : route ∈ clusterScopedRoutes) :
    clusterStandsFourth route.pattern = true := by
  have all : ∀ route ∈ clusterScopedRoutes, clusterStandsFourth route.pattern = true := by decide
  exact all route isScoped

theorem match_static (text : String) (parts : List PatternPart) (segments : List String) (params : PathParams)
    (matched : matchParts (.static text :: parts) segments = some params) :
    ∃ rest, segments = text :: rest ∧ matchParts parts rest = some params := by
  cases segments with
  | nil => cases matched
  | cons segment rest =>
      rw [matchParts] at matched
      by_cases same : text = segment
      · rw [if_pos same] at matched
        exact ⟨rest, by rw [same], matched⟩
      · rw [if_neg same] at matched
        cases matched

theorem match_param (name : String) (parts : List PatternPart) (segments : List String) (params : PathParams)
    (matched : matchParts (.param name :: parts) segments = some params) :
    ∃ raw rest others, segments = raw :: rest ∧ params = (name, raw) :: others := by
  cases segments with
  | nil => cases matched
  | cons segment rest =>
      rw [matchParts] at matched
      split at matched
      · cases matched
      · obtain ⟨others, _, whole⟩ := Option.map_eq_some_iff.mp matched
        exact ⟨segment, rest, others, rfl, whole.symm⟩

theorem fourth_segment (pattern : List PatternPart) (segments : List String) (params : PathParams)
    (fourth : clusterStandsFourth pattern = true) (matched : matchParts pattern segments = some params) :
    ∃ resource raw rest others, resource ≠ "" ∧ segments = "api" :: "v1" :: resource :: raw :: rest ∧
      params = ("cluster", raw) :: others := by
  unfold clusterStandsFourth at fourth
  split at fourth
  · next first second resource name parts =>
      simp only [Bool.and_eq_true, beq_iff_eq, bne_iff_ne] at fourth
      obtain ⟨⟨⟨rfl, rfl⟩, nonempty⟩, rfl⟩ := fourth
      obtain ⟨_, rfl, afterApi⟩ := match_static _ _ _ _ matched
      obtain ⟨_, rfl, afterVersion⟩ := match_static _ _ _ _ afterApi
      obtain ⟨_, rfl, afterResource⟩ := match_static _ _ _ _ afterVersion
      obtain ⟨raw, rest, others, rfl, whole⟩ := match_param _ _ _ _ afterResource
      exact ⟨resource, raw, rest, others, nonempty, rfl, whole⟩
  · cases fourth

section Checked

variable (request : Request)

def NamesCluster (raw : String) : Prop :=
  ∃ route params, findRoute request.path routes = some (route, params) ∧ route ∈ clusterScopedRoutes ∧
    params.lookup "cluster" = some raw

-- The check and the handler, which gets the decoded parameter, mean the same cluster.
structure ChecksUsed (name : String) : Prop where
  segment : extractClusterFromPath request.path = some name
  admits : ∀ (users : UserStore) (claims : Claims),
    (∃ passed, requireClusterAccess users (request.withClaims claims) = .ok passed) ↔
      users.userCanAccessCluster claims.username name = true

def CheckedIsUsed : Prop :=
  ∀ raw, NamesCluster request raw → ∀ name, percentText raw = some name → ChecksUsed request name

theorem names_cluster_segments (raw : String) (named : NamesCluster request raw) :
    ∃ resource rest, resource ≠ "" ∧ segmentsOf request.path = "api" :: "v1" :: resource :: raw :: rest := by
  obtain ⟨route, params, found, isScoped, listed⟩ := named
  obtain ⟨resource, segment, rest, others, nonempty, segments, whole⟩ :=
    fourth_segment _ _ _ (scoped_pattern route isScoped) (find_route_some _ _ _ _ found).2
  rw [whole, List.lookup_cons_self, Option.some.injEq] at listed
  subst segment
  exact ⟨resource, rest, nonempty, segments⟩

theorem extract_named (raw : String) (named : NamesCluster request raw) (nonempty : raw ≠ "") :
    extractClusterFromPath request.path = some raw := by
  obtain ⟨resource, rest, present, segments⟩ := names_cluster_segments request raw named
  rw [extract_cluster_segments _ (by simp [segments]), segments]
  simp [checkedSegment, present, nonempty]

theorem extract_nonempty (name : String) (read : extractClusterFromPath request.path = some name) : name ≠ "" := by
  unfold extractClusterFromPath at read
  split at read
  · next resource cluster rest pieces =>
      have member : cluster ∈ ((request.path.toList.splitOn '/').filter (· ≠ [])).map String.ofList := by
        rw [pieces]
        simp
      obtain ⟨piece, kept, same⟩ := List.mem_map.mp member
      have nonempty := (List.mem_filter.mp kept).2
      rw [← Option.some.inj read, ← same]
      simpa using nonempty
  · cases read

theorem checks_used_of_segment (name : String) (read : extractClusterFromPath request.path = some name) :
    ChecksUsed request name := by
  refine ⟨read, ?_⟩
  intro users claims
  unfold requireClusterAccess Request.withClaims
  simp only [read]
  cases access : users.userCanAccessCluster claims.username name with
  | false => simp
  | true => simp

theorem checked_is_used_iff :
    CheckedIsUsed request ↔ ∀ raw, NamesCluster request raw →
      (raw ≠ "" ∧ Percent.hasEscape (Text.bytes raw) = false) ∨ percentText raw = none := by
  refine ⟨?_, ?_⟩
  · intro used raw named
    cases decoded : percentText raw with
    | none => exact Or.inr rfl
    | some name =>
        have segment := (used raw named name decoded).segment
        have nonempty : raw ≠ "" := by
          rintro rfl
          have blank := percent_text_plain "" rfl
          rw [decoded] at blank
          exact extract_nonempty request name segment (Option.some.inj blank)
        rw [extract_named request raw named nonempty, Option.some.injEq] at segment
        subst name
        exact Or.inl ⟨nonempty, percent_text_fixed raw decoded⟩
  · intro plain raw named name decoded
    rcases plain raw named with ⟨nonempty, unescaped⟩ | undecodable
    · rw [percent_text_plain raw unescaped, Option.some.injEq] at decoded
      subst name
      exact checks_used_of_segment request raw (extract_named request raw named nonempty)
    · rw [undecodable] at decoded
      cases decoded

end Checked

-- The check sees l%61b, the handler works on lab.
def escapedLab : Request :=
  { method := .get, path := "/api/v1/vms/l%61b/100", query := none, headers := [], body := [], claims := none }

theorem escaped_cluster_not_checked : ¬ CheckedIsUsed escapedLab := by
  intro used
  have found : findRoute "/api/v1/vms/l%61b/100" routes =
      some ({ pattern := v1 [lit "vms", arg "cluster", arg "vmid"], methods := get .vmDetail
              layers := [.requireAuth, .requireClusterAccess] }, [("cluster", "l%61b"), ("vmid", "100")]) := by
    decide +kernel
  have named : NamesCluster escapedLab "l%61b" := ⟨_, _, found, by decide +kernel, rfl⟩
  have decoded : percentText "l%61b" = some "lab" := by decide +kernel
  have segment := (used "l%61b" named "lab" decoded).segment
  rw [extract_named escapedLab "l%61b" named (by decide)] at segment
  exact absurd segment (by decide)

end Moxui.Api
