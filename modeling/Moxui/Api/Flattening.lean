import Moxui.Api.LxcCreate
import Moxui.Lib.Doubles

set_option autoImplicit false

namespace Moxui.Api

open Moxui.Proxmox (ProxmoxCall Params)
open Moxui.Proxmox.ProxmoxCall (flag)

section Texts

theorem negative_text (below : Nat) : toString (Int.negSucc below) = "-" ++ toString (below + 1) := rfl

theorem digits_not_negative (value below : Nat) : toString value ≠ "-" ++ toString below := by
  intro same
  have minus : (45 : UInt8) ∈ Text.bytes (toString value) := by
    rw [same, Text.bytes_append]
    exact List.mem_append_left _ (by decide)
  have digit := (Text.decimal_bytes value 45 minus).1
  exact absurd digit (by decide)

theorem int_text_injective : Function.Injective (toString : Int → String) := by
  intro first second same
  cases first with
  | ofNat value =>
      cases second with
      | ofNat other => exact congrArg Int.ofNat (Text.decimal_injective value other same)
      | negSucc below => exact absurd same (digits_not_negative value (below + 1))
  | negSucc below =>
      cases second with
      | ofNat other => exact absurd same.symm (digits_not_negative other (below + 1))
      | negSucc otherBelow =>
          rw [negative_text, negative_text] at same
          have chars := congrArg String.toList same
          rw [String.toList_append, String.toList_append] at chars
          have digits := String.toList_inj.mp (List.append_cancel_left chars)
          have alike := Text.decimal_injective (below + 1) (otherBelow + 1) digits
          exact congrArg Int.negSucc (Nat.succ.inj alike)

end Texts

section Promised

-- How a value has to come out. What the other kinds come out as is left open.
def IsExact : Json → String → Prop
  | .str text, sent => sent = text
  | .num (.posInt value), sent => sent = toString value
  | .num (.negInt value), sent => sent = toString value.toInt
  | .bool value, sent => sent = if value then "1" else "0"
  | _, _ => True

-- One parameter for each key of an object; anything else is turned down.
def SendsExactly {ρ : Type} (body : Json) (command : Command ρ) : Prop :=
  match body with
  | .obj fields => ∃ call, command.call = .ok call ∧
      List.Forall₂ (fun field pair => pair.1 = field.1 ∧ IsExact field.2 pair.2) fields call.params
  | _ => ∃ error, command.call = .error error

def SurvivesDoubles : Json → Prop
  | .obj fields => ∀ key value, (key, Json.num (.negInt value)) ∈ fields →
      Doubles.printedInt value.toInt = value.toInt
  | _ => False

-- `as_f64` of a negative integer, and `Display` of what it gives.
def PrintsDoubles (libs : ApiLibs) : Prop :=
  ∀ value : Int64, libs.f64Text (.negInt value) = toString (Doubles.printedInt value.toInt)

end Promised

section Flattening

variable (libs : ApiLibs) (printing : PrintsDoubles libs)

include printing in
theorem flatten_value_exact_iff (value : Json) :
    IsExact value (flattenValue libs value) ↔
      ∀ number, value = .num (.negInt number) → Doubles.printedInt number.toInt = number.toInt := by
  cases value with
  | num number =>
      cases number with
      | posInt value => simp [IsExact, flattenValue]
      | negInt value =>
          rw [IsExact, flattenValue, printing value, int_text_injective.eq_iff]
          · constructor
            · intro exact number same
              cases same
              exact exact
            · intro exact
              exact exact value rfl
          · intro positive same
            cases same
      | float bits => simp [IsExact]
  | bool value => simp [IsExact, flattenValue, flag]
  | str text => simp [IsExact, flattenValue]
  | null => simp [IsExact]
  | arr items => simp [IsExact]
  | obj fields => simp [IsExact]

include printing in
theorem flatten_params_exact_iff (fields : List (String × Json)) :
    List.Forall₂ (fun field pair => pair.1 = field.1 ∧ IsExact field.2 pair.2) fields
        (flattenParams libs (.obj fields)) ↔
      SurvivesDoubles (.obj fields) := by
  rw [flattenParams, List.forall₂_map_right_iff, List.forall₂_same]
  constructor
  · intro exact key value member
    exact (flatten_value_exact_iff libs printing _).mp (exact _ member).2 value rfl
  · intro survives field member
    refine ⟨rfl, (flatten_value_exact_iff libs printing field.2).mpr ?_⟩
    intro number same
    apply survives field.1 number
    rw [← same]
    exact member

include printing in
theorem sends_exactly_iff {ρ : Type} (body : Json) (command : Command ρ) (call : ProxmoxCall)
    (sent : command.call = .ok call) (flattened : call.params = flattenParams libs body) :
    SendsExactly body command ↔ SurvivesDoubles body := by
  cases body with
  | obj fields =>
      rw [← flatten_params_exact_iff libs printing fields, ← flattened]
      constructor
      · intro sends
        obtain ⟨other, otherSent, exact⟩ := sends
        cases sent.symm.trans otherSent
        exact exact
      · intro exact
        exact ⟨call, sent, exact⟩
  | null | bool value | num number | str text | arr items =>
      constructor
      · intro refused
        obtain ⟨error, refusal⟩ := refused
        cases sent.symm.trans refusal
      · intro never
        cases never

end Flattening

section Handlers

variable {ρ : Type} (libs : ApiLibs) (entry : Entry) (state : AppState ρ) (body : Json)

theorem lxc_update_config_call (read : libs.jsonBody entry.request = .ok body) (command : Command ρ)
    (accepted : lxcUpdateConfigHandler libs entry state = .ok command) :
    ∃ node vmid, command.call = .ok (.lxcUpdateConfig node vmid (flattenParams libs body)) := by
  simp only [lxcUpdateConfigHandler] at accepted
  cases auth : authContext entry with
  | error response =>
      rw [auth] at accepted
      cases accepted
  | ok context =>
      cases path : vmPath libs entry with
      | error response =>
          rw [auth, path] at accepted
          cases accepted
      | ok vm =>
          rw [auth, path, read] at accepted
          cases accepted
          exact ⟨vm.node, vm.vmid, rfl⟩

theorem network_config_update_call (read : libs.jsonBody entry.request = .ok body) (command : Command ρ)
    (accepted : networkConfigUpdateHandler libs entry state = .ok command) :
    ∃ node, command.call = .ok (.networkConfigUpdate node (flattenParams libs body)) := by
  simp only [networkConfigUpdateHandler] at accepted
  cases auth : authContext entry with
  | error response =>
      rw [auth] at accepted
      cases accepted
  | ok context =>
      cases path : nodePath libs entry with
      | error response =>
          rw [auth, path] at accepted
          cases accepted
      | ok node =>
          rw [auth, path, read] at accepted
          cases accepted
          exact ⟨node.node, rfl⟩

theorem updates_sent_exactly_iff (printing : PrintsDoubles libs) (read : libs.jsonBody entry.request = .ok body) :
    (∀ command, lxcUpdateConfigHandler libs entry state = .ok command →
        (SendsExactly body command ↔ SurvivesDoubles body)) ∧
      ∀ command, networkConfigUpdateHandler libs entry state = .ok command →
        (SendsExactly body command ↔ SurvivesDoubles body) := by
  refine ⟨?_, ?_⟩
  · intro command accepted
    obtain ⟨node, vmid, call⟩ := lxc_update_config_call libs entry state body read command accepted
    exact sends_exactly_iff libs printing body command _ call rfl
  · intro command accepted
    obtain ⟨node, call⟩ := network_config_update_call libs entry state body read command accepted
    exact sends_exactly_iff libs printing body command _ call rfl

theorem small_survives (fields : List (String × Json))
    (small : ∀ key value, (key, Json.num (.negInt value)) ∈ fields → value.toInt.natAbs < 2 ^ 53) :
    SurvivesDoubles (.obj fields) := by
  intro key value member
  exact Doubles.printed_int_small value.toInt (small key value member)

end Handlers

def doublesText : Number → String
  | .posInt value => toString value
  | .negInt value => toString (Doubles.printedInt value.toInt)
  | .float _ => "0"

def updateLibs (body : Json) : ApiLibs :=
  { bareLibs with f64Text := doublesText, jsonBody := fun _ => .ok body }

def updateRequest (text : String) : Request :=
  { method := .put, path := "/api/v1/lxcs/lab/pve1/105/config", query := none
    headers := [("authorization", Text.bytes "Bearer alice"), ("content-type", Text.bytes "application/json")]
    body := Text.bytes text, claims := some aliceClaims }

def updateEntry (text : String) : Entry :=
  ⟨.lxcUpdateConfigHandler, [("cluster", "lab"), ("node", "pve1"), ("vmid", "105")], updateRequest text⟩

def updateCommand (params : Params) : Command Unit :=
  operating ⟨aliceClaims⟩ "lab" (.lxcUpdateConfig "pve1" 105 params) fun result =>
    .obj [("vmid", .nat (105 : UInt32).toNat), ("cluster", .str "lab"), ("result", result)]

theorem update_accepted (body : Json) (text : String) :
    lxcUpdateConfigHandler (updateLibs body) (updateEntry text) twoClusters =
      .ok (updateCommand (flattenParams (updateLibs body) body)) := by
  have lab : percentText "lab" = some "lab" := by decide +kernel
  have node : percentText "pve1" = some "pve1" := by decide +kernel
  have vmid : percentText "105" = some "105" := by decide +kernel
  have number : parseUnsigned UInt32.size "105" = some 105 := by decide +kernel
  have texts : pathTexts (updateLibs body) (updateEntry text) = .ok ["lab", "pve1", "105"] := by
    simp [pathTexts, updateEntry, lab, node, vmid]
  have readVmid : readU32 (updateLibs body) (updateEntry text) "105" = .ok 105 := by
    rw [readU32, number]
    rfl
  have path : vmPath (updateLibs body) (updateEntry text) = .ok ⟨"lab", "pve1", 105⟩ := by
    rw [vmPath, texts]
    change (readU32 (updateLibs body) (updateEntry text) "105").bind
      (fun vmid => Except.ok (⟨"lab", "pve1", vmid⟩ : VmPath)) = _
    rw [readVmid]
    rfl
  simp only [lxcUpdateConfigHandler, path]
  rfl

def swapOff : Json := .obj [("swap", .num (.negInt (-1)))]

theorem swap_off_sent_exactly :
    (∀ command, lxcUpdateConfigHandler (updateLibs swapOff) (updateEntry "\x7b\"swap\":-1\x7d") twoClusters = .ok command →
        (SendsExactly swapOff command ↔ SurvivesDoubles swapOff)) ∧
      ∀ command, networkConfigUpdateHandler (updateLibs swapOff) (updateEntry "\x7b\"swap\":-1\x7d") twoClusters =
        .ok command → (SendsExactly swapOff command ↔ SurvivesDoubles swapOff) :=
  updates_sent_exactly_iff (updateLibs swapOff) (updateEntry "\x7b\"swap\":-1\x7d") twoClusters swapOff (fun _ => rfl) rfl

def longNegative : Json := .obj [("startup", .num (.negInt (-9007199254740993)))]

-- An array is sent as an empty update, and the last digit of a long number is another one.
theorem update_not_exact :
    lxcUpdateConfigHandler (updateLibs (.arr [])) (updateEntry "[]") twoClusters = .ok (updateCommand []) ∧
      ¬ SendsExactly (.arr []) (updateCommand []) ∧
      lxcUpdateConfigHandler (updateLibs longNegative) (updateEntry "\x7b\"startup\":-9007199254740993\x7d") twoClusters =
        .ok (updateCommand [("startup", "-9007199254740992")]) ∧
      ¬ SendsExactly longNegative (updateCommand [("startup", "-9007199254740992")]) := by
  have sent : flattenParams (updateLibs longNegative) longNegative = [("startup", "-9007199254740992")] := by
    decide +kernel
  refine ⟨update_accepted (.arr []) "[]", ?_, ?_, ?_⟩
  · intro refused
    obtain ⟨error, refusal⟩ := refused
    cases refusal
  · rw [← sent]
    exact update_accepted longNegative _
  · intro sends
    obtain ⟨call, isCall, exact⟩ := sends
    cases isCall
    have last : "-9007199254740992" = toString (-9007199254740993 : Int64).toInt := (List.forall₂_cons.mp exact).1.2
    exact absurd last (by decide +kernel)

end Moxui.Api
