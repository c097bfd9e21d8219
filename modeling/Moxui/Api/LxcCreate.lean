import Moxui.Api.Encoders

set_option autoImplicit false

namespace Moxui.Api

open FormFields (pairs)
open Moxui.Proxmox (Params)
open Moxui.Proxmox.ProxmoxCall (flag)

def knownLxcFields (body : CreateLxcRequest) : List (String × Option String) :=
  [("vmid", body.vmid.map toString), ("hostname", body.hostname), ("rootfs", body.rootfs), ("storage", body.storage),
    ("ostemplate", body.ostemplate), ("memory", body.memory.map toString), ("cores", body.cores.map toString),
    ("swap", body.swap.map toString), ("password", body.password), ("ssh-public-keys", body.sshPublicKeys),
    ("net0", body.net0), ("unprivileged", body.unprivileged.map flag), ("start", body.start.map flag)]

theorem known_lxc_encoded (body : CreateLxcRequest) : createLxcParams body = pairs (knownLxcFields body) := by
  unfold createLxcParams
  simp only [knownLxcFields, FormFields.pairs_cons_cons, given_pairs, given_text_pairs, List.append_assoc]

-- One parameter for each field that is set and one for each additional key, and no field
-- that is set with another value.
structure PassedThrough (body : CreateLxcRequest) (params : Params) : Prop where
  known : ∀ key text, (key, some text) ∈ knownLxcFields body → (key, text) ∈ params
  every_key : (params.map Prod.fst).Perm ((pairs (knownLxcFields body)).map Prod.fst ++ body.extra.map Prod.fst)

theorem create_lxc_passed_through_iff (body : CreateLxcRequest) :
    PassedThrough body (createLxcParams body) ↔ body.extra = [] := by
  rw [known_lxc_encoded]
  constructor
  · intro passed
    have lengths := passed.every_key.length_eq
    rw [List.length_append, List.length_map, List.length_map] at lengths
    exact List.eq_nil_of_length_eq_zero (by omega)
  · intro none
    refine ⟨?_, ?_⟩
    · intro key text set
      exact (FormFields.mem_pairs _ key text).mpr set
    · rw [none, List.map_nil, List.append_nil]

section Handler

variable {ρ : Type} (libs : ApiLibs) (entry : Entry) (state : AppState ρ)

def SendsWholeBody (body : CreateLxcRequest) (command : Command ρ) : Prop :=
  ∃ node params, command.call = .ok (.lxcCreate node params) ∧ PassedThrough body params

theorem lxc_create_call (body : CreateLxcRequest) (read : libs.createLxcRequest entry.request = .ok body)
    (command : Command ρ) (accepted : lxcCreateHandler libs entry state = .ok command) :
    ∃ node, command.call = .ok (.lxcCreate node (createLxcParams body)) := by
  simp only [lxcCreateHandler] at accepted
  cases auth : authContext entry with
  | error response =>
      rw [auth] at accepted
      cases accepted
  | ok auth' =>
      cases path : nodePath libs entry with
      | error response =>
          rw [auth, path] at accepted
          cases accepted
      | ok path' =>
          rw [auth, path, read] at accepted
          cases accepted
          exact ⟨path'.node, rfl⟩

theorem lxc_create_sends_whole_body_iff (body : CreateLxcRequest)
    (read : libs.createLxcRequest entry.request = .ok body) (command : Command ρ)
    (accepted : lxcCreateHandler libs entry state = .ok command) : SendsWholeBody body command ↔ body.extra = [] := by
  obtain ⟨node, call⟩ := lxc_create_call libs entry state body read command accepted
  rw [← create_lxc_passed_through_iff]
  constructor
  · intro sends
    obtain ⟨otherNode, params, otherCall, passed⟩ := sends
    cases call.symm.trans otherCall
    exact passed
  · intro passed
    exact ⟨node, _, call, passed⟩

end Handler

def nestingBody : CreateLxcRequest :=
  { vmid := none, hostname := some "web", rootfs := none, storage := none, ostemplate := none, memory := none
    cores := none, swap := none, password := none, sshPublicKeys := none, net0 := none, unprivileged := none
    start := none, extra := [("features", .str "nesting=1")] }

def nestingLibs : ApiLibs :=
  { bareLibs with createLxcRequest := fun _ => .ok nestingBody }

def nestingRequest : Request :=
  { method := .post, path := "/api/v1/lxcs/lab/pve1/create", query := none
    headers := [("authorization", Text.bytes "Bearer alice"), ("content-type", Text.bytes "application/json")]
    body := Text.bytes "\x7b\"hostname\":\"web\",\"features\":\"nesting=1\"\x7d", claims := some aliceClaims }

def nestingEntry : Entry :=
  ⟨.lxcCreateHandler, [("cluster", "lab"), ("node", "pve1")], nestingRequest⟩

def nestingCommand : Command Unit :=
  operating ⟨aliceClaims⟩ "lab" (.lxcCreate "pve1" [("hostname", "web")]) (nodeResult ⟨"lab", "pve1"⟩)

theorem nesting_accepted : lxcCreateHandler nestingLibs nestingEntry twoClusters = .ok nestingCommand := by
  have lab : percentText "lab" = some "lab" := by decide +kernel
  have node : percentText "pve1" = some "pve1" := by decide +kernel
  have texts : pathTexts nestingLibs nestingEntry = .ok ["lab", "pve1"] := by
    simp [pathTexts, nestingEntry, lab, node]
  simp only [lxcCreateHandler, nodePath, texts]
  rfl

theorem nesting_sends_whole_body_iff : SendsWholeBody nestingBody nestingCommand ↔ nestingBody.extra = [] :=
  lxc_create_sends_whole_body_iff nestingLibs nestingEntry twoClusters nestingBody rfl nestingCommand nesting_accepted

-- The features are dropped: the container is created without nesting.
theorem nesting_dropped :
    lxcCreateHandler nestingLibs nestingEntry twoClusters = .ok nestingCommand ∧
      ¬ SendsWholeBody nestingBody nestingCommand := by
  refine ⟨nesting_accepted, ?_⟩
  intro sends
  obtain ⟨node, params, call, passed⟩ := sends
  cases call
  exact absurd passed.every_key.length_eq (by decide)

end Moxui.Api
