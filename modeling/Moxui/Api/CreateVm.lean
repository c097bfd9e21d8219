import Moxui.Api.Encoders

set_option autoImplicit false

namespace Moxui.Api

open FormFields (pairs)
open Moxui.Proxmox (Params)
open Moxui.Proxmox.ProxmoxCall (flag)

-- The parameters that are put together: the disk from its size alone, the NIC from model and bridge.
section Composites

def diskText (size : String) : String := size ++ ":" ++ size

def CreateVmRequest.bridge (req : CreateVmRequest) : String := req.netBridge.getD "vmbr0"

def nicText (model bridge : String) : String := model ++ ",bridge=" ++ bridge

theorem disk_text_injective : Function.Injective diskText := by
  intro first second same
  have chars := congrArg String.toList same
  simp only [diskText, String.toList_append, List.append_assoc] at chars
  have lengths := congrArg List.length chars
  simp only [List.length_append] at lengths
  exact String.toList_inj.mp (List.append_inj chars (by omega)).1

theorem nic_text_chars (model bridge : String) :
    (nicText model bridge).toList = model.toList ++ ',' :: "bridge=".toList ++ bridge.toList := by
  have mark : ",bridge=".toList = ',' :: "bridge=".toList := by decide
  rw [nicText, String.toList_append, String.toList_append, mark]

-- The text of one NIC is that of another whose model ends earlier, inside its bridge.
def RunTogether (model bridge longer shorter : String) : Prop :=
  ∃ moved, longer = nicText model moved ∧ bridge = nicText moved shorter

theorem chars_run_together (model bridge longer shorter : String) :
    (∃ moved, longer.toList = model.toList ++ ',' :: "bridge=".toList ++ moved ∧
        bridge.toList = moved ++ ',' :: "bridge=".toList ++ shorter.toList) ↔
      RunTogether model bridge longer shorter := by
  constructor
  · intro run
    obtain ⟨moved, longerEq, bridgeEq⟩ := run
    have back : (String.ofList moved).toList = moved := String.toList_ofList
    refine ⟨String.ofList moved, ?_, ?_⟩
    · apply String.toList_inj.mp
      rw [nic_text_chars, longerEq, back]
    · apply String.toList_inj.mp
      rw [nic_text_chars, bridgeEq, back]
  · intro run
    obtain ⟨moved, longerEq, bridgeEq⟩ := run
    refine ⟨moved.toList, ?_, ?_⟩
    · rw [longerEq, nic_text_chars]
    · rw [bridgeEq, nic_text_chars]

theorem nic_text_eq_iff (model bridge other otherBridge : String) :
    nicText model bridge = nicText other otherBridge ↔
      (model = other ∧ bridge = otherBridge) ∨ RunTogether model bridge other otherBridge ∨
        RunTogether other otherBridge model bridge := by
  have alone : ',' ∉ "bridge=".toList := by decide
  rw [← String.toList_inj, nic_text_chars, nic_text_chars, Text.shifted_mark ',' "bridge=".toList alone,
    String.toList_inj, String.toList_inj, chars_run_together, chars_run_together]

theorem run_together_models (model bridge longer shorter : String) (run : RunTogether model bridge longer shorter) :
    model ≠ longer := by
  intro same
  obtain ⟨moved, longerEq, _⟩ := run
  have lengths := congrArg (fun text => text.toList.length) longerEq
  simp only [nic_text_chars, ← same, List.length_append, List.length_cons] at lengths
  omega

end Composites

section Fields

def diskField (req : CreateVmRequest) : Option String := req.diskSize.map diskText

def nicField (req : CreateVmRequest) : Option String := req.netModel.map (nicText · req.bridge)

def fieldsBefore (req : CreateVmRequest) : List (String × Option String) :=
  [("vmid", req.vmid.map toString), ("name", req.name), ("description", req.description),
    ("cores", req.cores.map toString), ("sockets", req.sockets.map toString), ("memory", req.memory.map toString),
    ("balloon", req.balloon.map toString), ("boot", req.boot), ("bios", req.bios), ("machine", req.machine),
    ("scsihw", req.scsihw), ("cpu", req.cpu), ("arch", req.arch), ("tags", req.tags),
    ("template", req.template.map toString), ("onboot", req.onboot.map toString), ("agent", req.agent.map toString),
    ("storage", req.storage)]

def fieldsAfter (req : CreateVmRequest) : List (String × Option String) :=
  [("ostype", req.ostype), ("ide2", req.ide2), ("start", req.start.map flag), ("numa", req.numaEnabled.map flag)]

def plainFields (req : CreateVmRequest) : List (String × Option String) := fieldsBefore req ++ fieldsAfter req

def partFields (req : CreateVmRequest) : List (String × Option String) :=
  [("sata0", req.diskSize), ("net0", req.netModel), ("net0", req.netBridge)]

def createVmFields (req : CreateVmRequest) : List (String × Option String) :=
  fieldsBefore req ++ [("sata0", diskField req), ("net0", nicField req)] ++ fieldsAfter req

theorem create_vm_encoded (req : CreateVmRequest) : createVmParams req = pairs (createVmFields req) := by
  have disk : given "sata0" req.diskSize (fun size => size ++ ":" ++ size) = pairs [("sata0", diskField req)] :=
    given_pairs "sata0" req.diskSize diskText
  have nic : given "net0" req.netModel (fun model => model ++ ",bridge=" ++ req.netBridge.getD "vmbr0") =
      pairs [("net0", nicField req)] := given_pairs "net0" req.netModel (nicText · req.bridge)
  unfold createVmParams
  rw [disk, nic]
  simp only [createVmFields, fieldsBefore, fieldsAfter, List.cons_append, List.nil_append, FormFields.pairs_cons_cons,
    given_pairs, given_text_pairs, List.append_assoc]

theorem create_vm_keys (req : CreateVmRequest) : ((createVmFields req).map Prod.fst).Nodup := by
  simp only [createVmFields, fieldsBefore, fieldsAfter, List.cons_append, List.nil_append, List.map_cons, List.map_nil]
  decide +kernel

theorem plain_kept (req : CreateVmRequest) (field : String × Option String) (member : field ∈ plainFields req) :
    field ∈ createVmFields req := by
  rw [createVmFields, List.append_assoc]
  rcases List.mem_append.mp member with before | after
  · exact List.mem_append_left _ before
  · exact List.mem_append_right _ (List.mem_append_right _ after)

theorem disk_kept (req : CreateVmRequest) : ("sata0", diskField req) ∈ createVmFields req := by
  rw [createVmFields, List.append_assoc]
  exact List.mem_append_right _ List.mem_cons_self

theorem nic_kept (req : CreateVmRequest) : ("net0", nicField req) ∈ createVmFields req := by
  rw [createVmFields, List.append_assoc]
  exact List.mem_append_right _ (List.mem_cons_of_mem _ List.mem_cons_self)

theorem sent_iff (req : CreateVmRequest) (key : String) (set : Option String) (field : (key, set) ∈ createVmFields req)
    (value : String) : (key, value) ∈ createVmParams req ↔ set = some value := by
  rw [create_vm_encoded, FormFields.mem_pairs]
  constructor
  · intro member
    have alike := List.inj_on_of_nodup_map (create_vm_keys req) field member rfl
    exact (Prod.mk.inj alike).2
  · intro same
    rw [← same]
    exact field

end Fields

section Promised

-- What becomes of one request: each field that is set is in the parameters, and the disk is
-- named by its pool and its size.
structure Reflected (req : CreateVmRequest) : Prop where
  plain : ∀ key text, (key, some text) ∈ plainFields req → (key, text) ∈ createVmParams req
  parts : ∀ key text, (key, some text) ∈ partFields req →
    ∃ value, (key, value) ∈ createVmParams req ∧ text.toList <:+: value.toList
  disk : ∀ pool size, req.storage = some pool → req.diskSize = some size →
    ("sata0", pool ++ ":" ++ size) ∈ createVmParams req

structure LosesNothing (req other : CreateVmRequest) : Prop where
  injective : createVmParams req = createVmParams other → req = other
  reflected : Reflected req
  other_reflected : Reflected other

structure Representable (req : CreateVmRequest) : Prop where
  bridge_with_model : ∀ bridge, req.netBridge = some bridge → req.netModel ≠ none
  pool_is_size : ∀ pool size, req.storage = some pool → req.diskSize = some size → pool = size

def SameApartFromNic (req other : CreateVmRequest) : Prop :=
  { req with netModel := none, netBridge := none } = { other with netModel := none, netBridge := none }

def NicsConfused (req other : CreateVmRequest) : Prop :=
  ∃ model otherModel, req.netModel = some model ∧ other.netModel = some otherModel ∧
    ((model = otherModel ∧ ((req.netBridge = none ∧ other.netBridge = some "vmbr0") ∨
        (req.netBridge = some "vmbr0" ∧ other.netBridge = none))) ∨
      RunTogether model req.bridge otherModel other.bridge ∨ RunTogether otherModel other.bridge model req.bridge)

end Promised

section OneRequest

variable (req : CreateVmRequest)

theorem disk_infix (size : String) : size.toList <:+: (diskText size).toList := by
  refine ⟨[], ":".toList ++ size.toList, ?_⟩
  rw [diskText, String.toList_append, String.toList_append, List.nil_append, List.append_assoc]

theorem model_infix (model bridge : String) : model.toList <:+: (nicText model bridge).toList := by
  refine ⟨[], ',' :: "bridge=".toList ++ bridge.toList, ?_⟩
  rw [nic_text_chars, List.nil_append, List.append_assoc]

theorem bridge_infix (model bridge : String) : bridge.toList <:+: (nicText model bridge).toList := by
  refine ⟨model.toList ++ ',' :: "bridge=".toList, [], ?_⟩
  rw [nic_text_chars, List.append_nil]

theorem plain_sent (key text : String) (member : (key, some text) ∈ plainFields req) :
    (key, text) ∈ createVmParams req :=
  (sent_iff req key (some text) (plain_kept req _ member) text).mpr rfl

theorem parts_sent (key text : String) (member : (key, some text) ∈ partFields req)
    (named : key = "net0" → req.netModel ≠ none) :
    ∃ value, (key, value) ∈ createVmParams req ∧ text.toList <:+: value.toList := by
  simp only [partFields, List.mem_cons, List.not_mem_nil, or_false, Prod.mk.injEq] at member
  rcases member with ⟨isDisk, set⟩ | ⟨isNic, set⟩ | ⟨isNic, set⟩
  · subst isDisk
    refine ⟨diskText text, (sent_iff req _ _ (disk_kept req) _).mpr ?_, disk_infix text⟩
    rw [diskField, ← set, Option.map_some]
  · subst isNic
    refine ⟨nicText text req.bridge, (sent_iff req _ _ (nic_kept req) _).mpr ?_, model_infix text req.bridge⟩
    rw [nicField, ← set, Option.map_some]
  · have bridge : req.bridge = text := by rw [CreateVmRequest.bridge, ← set, Option.getD_some]
    obtain ⟨model, isModel⟩ := Option.ne_none_iff_exists'.mp (named isNic)
    subst isNic
    refine ⟨nicText model text, (sent_iff req _ _ (nic_kept req) _).mpr ?_, bridge_infix model text⟩
    rw [nicField, isModel, Option.map_some, bridge]

theorem reflected_of_representable (representable : Representable req) : Reflected req := by
  refine ⟨plain_sent req, ?_, ?_⟩
  · intro key text member
    apply parts_sent req key text member
    intro isNic missing
    simp only [partFields, List.mem_cons, List.not_mem_nil, or_false, Prod.mk.injEq] at member
    rcases member with ⟨isDisk, _⟩ | ⟨_, set⟩ | ⟨_, set⟩
    · exact absurd (isDisk.symm.trans isNic) (by decide)
    · cases set.trans missing
    · exact representable.bridge_with_model text set.symm missing
  · intro pool size stored sized
    apply (sent_iff req _ _ (disk_kept req) _).mpr
    rw [diskField, sized, Option.map_some, diskText, representable.pool_is_size pool size stored sized]

theorem representable_of_reflected (reflected : Reflected req) : Representable req := by
  refine ⟨?_, ?_⟩
  · intro bridge set missing
    have part : ("net0", some bridge) ∈ partFields req := by
      rw [partFields, set]
      simp
    obtain ⟨value, sent, _⟩ := reflected.parts "net0" bridge part
    have nic := (sent_iff req _ _ (nic_kept req) value).mp sent
    rw [nicField, missing] at nic
    cases nic
  · intro pool size stored sized
    have sent := (sent_iff req _ _ (disk_kept req) _).mp (reflected.disk pool size stored sized)
    rw [diskField, sized, Option.map_some] at sent
    have same := congrArg String.toList (Option.some.inj sent)
    simp only [diskText, String.toList_append, List.append_assoc] at same
    have lengths := congrArg List.length same
    simp only [List.length_append] at lengths
    exact (String.toList_inj.mp (List.append_inj same (by omega)).1).symm

end OneRequest

section TwoRequests

variable (req other : CreateVmRequest)

theorem create_vm_fields_apart :
    createVmFields req = createVmFields other ↔ SameApartFromNic req other ∧ nicField req = nicField other := by
  have disks : diskField req = diskField other ↔ req.diskSize = other.diskSize :=
    (Option.map_injective disk_text_injective).eq_iff
  simp only [createVmFields, fieldsBefore, fieldsAfter, List.cons_append, List.nil_append, List.cons.injEq,
    Prod.mk.injEq, true_and, and_true, texts8_same, texts32_same, texts64_same, flags_same, disks, SameApartFromNic,
    CreateVmRequest.mk.injEq]
  tauto

theorem params_same_iff :
    createVmParams req = createVmParams other ↔ SameApartFromNic req other ∧ nicField req = nicField other := by
  rw [← create_vm_fields_apart, create_vm_encoded, create_vm_encoded]
  constructor
  · exact FormFields.pairs_injective _ _ rfl (create_vm_keys req)
  · exact congrArg pairs

theorem same_of_parts (apart : SameApartFromNic req other) (models : req.netModel = other.netModel)
    (bridges : req.netBridge = other.netBridge) : req = other := by
  cases req
  cases other
  simp only [SameApartFromNic, CreateVmRequest.mk.injEq] at apart
  simp only [CreateVmRequest.mk.injEq]
  tauto

theorem bridges_alike (alike : req.bridge = other.bridge) :
    req.netBridge = other.netBridge ∨ (req.netBridge = none ∧ other.netBridge = some "vmbr0") ∨
      (req.netBridge = some "vmbr0" ∧ other.netBridge = none) := by
  simp only [CreateVmRequest.bridge] at alike
  cases first : req.netBridge with
  | none =>
      cases second : other.netBridge with
      | none => exact Or.inl rfl
      | some bridge =>
          rw [first, second, Option.getD_none, Option.getD_some] at alike
          exact Or.inr (Or.inl ⟨rfl, by rw [alike]⟩)
  | some bridge =>
      cases second : other.netBridge with
      | none =>
          rw [first, second, Option.getD_none, Option.getD_some] at alike
          exact Or.inr (Or.inr ⟨by rw [alike], rfl⟩)
      | some otherBridge =>
          rw [first, second, Option.getD_some, Option.getD_some] at alike
          exact Or.inl (by rw [alike])

theorem confused_nics_sent_alike (confused : NicsConfused req other) : nicField req = nicField other := by
  obtain ⟨model, otherModel, named, otherNamed, how⟩ := confused
  rw [nicField, nicField, named, otherNamed, Option.map_some, Option.map_some, Option.some.injEq, nic_text_eq_iff]
  rcases how with ⟨same, leftOut⟩ | together
  · refine Or.inl ⟨same, ?_⟩
    rcases leftOut with ⟨missing, vmbr⟩ | ⟨vmbr, missing⟩
    · rw [CreateVmRequest.bridge, CreateVmRequest.bridge, missing, vmbr, Option.getD_none, Option.getD_some]
    · rw [CreateVmRequest.bridge, CreateVmRequest.bridge, missing, vmbr, Option.getD_none, Option.getD_some]
  · exact Or.inr together

theorem confused_nics_differ (confused : NicsConfused req other) : req ≠ other := by
  intro same
  subst same
  obtain ⟨model, otherModel, named, otherNamed, how⟩ := confused
  have models : model = otherModel := Option.some.inj (named.symm.trans otherNamed)
  rcases how with ⟨_, ⟨missing, vmbr⟩ | ⟨vmbr, missing⟩⟩ | run | run
  · cases missing.symm.trans vmbr
  · cases missing.symm.trans vmbr
  · exact run_together_models _ _ _ _ run models
  · exact run_together_models _ _ _ _ run models.symm

theorem nics_sent_alike (alike : nicField req = nicField other) :
    (req.netModel = none ∧ other.netModel = none) ∨
      (req.netModel = other.netModel ∧ req.netBridge = other.netBridge) ∨ NicsConfused req other := by
  simp only [nicField] at alike
  cases named : req.netModel with
  | none =>
      cases otherNamed : other.netModel with
      | none => exact Or.inl ⟨rfl, rfl⟩
      | some otherModel =>
          rw [named, otherNamed] at alike
          cases alike
  | some model =>
      cases otherNamed : other.netModel with
      | none =>
          rw [named, otherNamed] at alike
          cases alike
      | some otherModel =>
          rw [named, otherNamed, Option.map_some, Option.map_some, Option.some.injEq, nic_text_eq_iff] at alike
          apply Or.inr
          rcases alike with ⟨sameModel, sameBridge⟩ | together
          · rcases bridges_alike req other sameBridge with same | leftOut
            · exact Or.inl ⟨by rw [sameModel], same⟩
            · exact Or.inr ⟨model, otherModel, named, otherNamed, Or.inl ⟨sameModel, leftOut⟩⟩
          · exact Or.inr ⟨model, otherModel, named, otherNamed, Or.inr together⟩

theorem Representable.no_bridge {req : CreateVmRequest} (representable : Representable req)
    (missing : req.netModel = none) : req.netBridge = none :=
  Option.eq_none_iff_forall_ne_some.mpr fun bridge set => representable.bridge_with_model bridge set missing

theorem loses_nothing_iff :
    LosesNothing req other ↔
      Representable req ∧ Representable other ∧ ¬ (SameApartFromNic req other ∧ NicsConfused req other) := by
  constructor
  · intro kept
    refine ⟨representable_of_reflected req kept.reflected, representable_of_reflected other kept.other_reflected, ?_⟩
    intro confused
    have alike := confused_nics_sent_alike req other confused.2
    exact confused_nics_differ req other confused.2 (kept.injective ((params_same_iff req other).mpr ⟨confused.1, alike⟩))
  · intro condition
    obtain ⟨representable, otherRepresentable, clear⟩ := condition
    refine ⟨?_, reflected_of_representable req representable, reflected_of_representable other otherRepresentable⟩
    intro same
    obtain ⟨apart, alike⟩ := (params_same_iff req other).mp same
    rcases nics_sent_alike req other alike with ⟨missing, otherMissing⟩ | ⟨models, bridges⟩ | confused
    · have bridges := (representable.no_bridge missing).trans (otherRepresentable.no_bridge otherMissing).symm
      exact same_of_parts req other apart (missing.trans otherMissing.symm) bridges
    · exact same_of_parts req other apart models bridges
    · exact absurd ⟨apart, confused⟩ clear

-- What the parameters say of any two requests, the pool of the disk apart.
structure Determined (req other : CreateVmRequest) : Prop where
  apart_from_nic : createVmParams req = createVmParams other → SameApartFromNic req other
  nic : createVmParams req = createVmParams other →
    (req.netModel = none ∧ other.netModel = none) ∨
      (req.netModel = other.netModel ∧ req.netBridge = other.netBridge) ∨ NicsConfused req other
  plain : ∀ key text, (key, some text) ∈ plainFields req → (key, text) ∈ createVmParams req
  parts : ∀ key text, (key, some text) ∈ partFields req → (key = "net0" → req.netModel ≠ none) →
    ∃ value, (key, value) ∈ createVmParams req ∧ text.toList <:+: value.toList

theorem create_vm_params_determine : Determined req other := by
  refine ⟨?_, ?_, plain_sent req, parts_sent req⟩
  · intro same
    exact ((params_same_iff req other).mp same).1
  · intro same
    exact nics_sent_alike req other ((params_same_iff req other).mp same).2

end TwoRequests

def CreateVmRequest.unset : CreateVmRequest :=
  { vmid := none, name := none, description := none, cores := none, sockets := none, memory := none, balloon := none
    boot := none, bios := none, machine := none, scsihw := none, cpu := none, arch := none, tags := none
    template := none, onboot := none, agent := none, storage := none, diskSize := none, netModel := none
    netBridge := none, ostype := none, ide2 := none, start := none, numaEnabled := none }

def virtio (bridge : Option String) : CreateVmRequest :=
  { CreateVmRequest.unset with netModel := some "virtio", netBridge := bridge }

-- A bridge that is left out is `vmbr0`.
theorem bridge_by_default :
    createVmParams (virtio none) = createVmParams (virtio (some "vmbr0")) ∧
      ¬ LosesNothing (virtio none) (virtio (some "vmbr0")) := by
  have same : createVmParams (virtio none) = createVmParams (virtio (some "vmbr0")) := by decide +kernel
  refine ⟨same, ?_⟩
  intro kept
  exact absurd (congrArg CreateVmRequest.netBridge (kept.injective same)) (by decide)

def diskOnLocalLvm : CreateVmRequest :=
  { CreateVmRequest.unset with storage := some "local-lvm", diskSize := some "32G" }

-- The disk is asked for on `local-lvm`, and the parameter names a pool `32G`.
theorem disk_on_another_pool :
    createVmParams diskOnLocalLvm = [("storage", "local-lvm"), ("sata0", "32G:32G")] ∧
      ¬ Representable diskOnLocalLvm := by
  refine ⟨by decide +kernel, ?_⟩
  intro representable
  exact absurd (representable.pool_is_size "local-lvm" "32G" rfl rfl) (by decide)

end Moxui.Api
