import Moxui.Dashboard.Persistence

set_option autoImplicit false

namespace Moxui.DashboardCustom

structure DashboardService where
  dashboards : Dashboards
  file : Option (List UInt8)

-- Where the I/O of a call fails: at the directory, at the JSON text, at the opening of the file
-- (which empties it), or after so many bytes of the text.
inductive Fault where
  | directory (reason : String)
  | serializing (reason : String)
  | opening (reason : String)
  | writing (written : Nat) (reason : String)
deriving DecidableEq, Repr

def Fault.early : Fault → Bool
  | directory _ | serializing _ | opening _ => true
  | writing _ _ => false

section Calls

variable (text : JsonText) (fault : Option Fault)

def persist (dashboards : Dashboards) (file : Option (List UInt8)) : Option (List UInt8) × Except String Unit :=
  match fault with
  | some (.directory reason) => (file, .error ("Failed to create data directory: " ++ reason))
  | some (.serializing reason) => (file, .error ("Failed to serialize dashboards: " ++ reason))
  | some (.opening reason) => (file, .error ("Failed to write dashboard config: " ++ reason))
  | some (.writing written reason) =>
      if written < (encode text dashboards).length then
        (some ((encode text dashboards).take written), .error ("Failed to write dashboard config: " ++ reason))
      else (some (encode text dashboards), .ok ())
  | none => (some (encode text dashboards), .ok ())

-- The change is made in memory, under the write lock, and only then written.
def mutate (changed : Dashboards) (service : DashboardService) : DashboardService × Except String Unit :=
  let persisted := persist text fault changed service.file
  (⟨changed, persisted.1⟩, persisted.2)

def saveDashboard (userId : String) (config : CustomDashboardConfig) (service : DashboardService) :
    DashboardService × Except String Unit :=
  mutate text fault (service.dashboards.insert userId config) service

def deleteDashboard (userId : String) (service : DashboardService) : DashboardService × Except String Unit :=
  mutate text fault (service.dashboards.erase userId) service

inductive DashboardEdit where
  | save (userId : String) (config : CustomDashboardConfig)
  | delete (userId : String)

namespace DashboardEdit

def userId : DashboardEdit → String
  | save userId _ => userId
  | delete userId => userId

def stored : DashboardEdit → Option CustomDashboardConfig
  | save _ config => some config
  | delete _ => none

def perform (service : DashboardService) : DashboardEdit → DashboardService × Except String Unit
  | save userId config => saveDashboard text fault userId config service
  | delete userId => deleteDashboard text fault userId service

def request : DashboardEdit → DashboardRequest
  | save userId config => .save userId config
  | delete userId => .delete userId

end DashboardEdit

theorem lookup_performed (edit : DashboardEdit) (service : DashboardService) (userId : String) :
    (edit.perform text fault service).1.dashboards.lookup userId =
      if userId = edit.userId then edit.stored else service.dashboards.lookup userId := by
  cases edit with
  | save owner config => exact Table.lookup_insert_eq owner userId config service.dashboards
  | delete owner => exact Table.lookup_erase_eq owner userId service.dashboards

theorem performed_persists (edit : DashboardEdit) (service : DashboardService) :
    ((edit.perform text fault service).1.file, (edit.perform text fault service).2) =
      persist text fault (edit.perform text fault service).1.dashboards service.file := by
  cases edit <;> rfl

theorem persist_failed (dashboards : Dashboards) (file : Option (List UInt8)) (reason : String)
    (failed : (persist text fault dashboards file).2 = .error reason) :
    (∃ found, fault = some found ∧ found.early = true ∧ (persist text fault dashboards file).1 = file) ∨
      ∃ written said, fault = some (.writing written said) ∧ written < (encode text dashboards).length ∧
        (persist text fault dashboards file).1 = some ((encode text dashboards).take written) := by
  cases fault with
  | none => cases failed
  | some found =>
      cases found with
      | directory said => exact Or.inl ⟨_, rfl, rfl, rfl⟩
      | serializing said => exact Or.inl ⟨_, rfl, rfl, rfl⟩
      | opening said => exact Or.inl ⟨_, rfl, rfl, rfl⟩
      | writing written said =>
          by_cases short : written < (encode text dashboards).length
          · exact Or.inr ⟨written, said, rfl, short, by simp only [persist, short, if_true]⟩
          · simp only [persist, short, if_false] at failed
            cases failed

end Calls

section Connection

variable (text : JsonText)

-- Without a fault this is what the call does step by step, when no other comes between.
theorem performed_alone (edit : DashboardEdit) (service : DashboardService) :
    ∃ said, (dashboardProtocol text).alone said ((dashboardProtocol text).enter edit.request)
        ⟨service.dashboards, 0, service.file⟩ =
      (⟨(edit.perform text none service).1.dashboards, 0, (edit.perform text none service).1.file⟩, .inr .stored) := by
  have written (dashboards : Dashboards) (file : Option (List UInt8)) :
      (dashboardProtocol text).alone [0, 0, 0, (encode text dashboards).length, 0] .persisting ⟨dashboards, 0, file⟩ =
        (⟨dashboards, 0, some (encode text dashboards)⟩, .inr .stored) := by
    cases content : encode text dashboards with
    | nil => simp [Protocol.alone, dashboardProtocol, advanceDashboard, content]
    | cons byte rest =>
        have whole : rest.take (rest.length + 1) = rest := List.take_of_length_le (Nat.le_succ _)
        simp [Protocol.alone, dashboardProtocol, advanceDashboard, content, Overwrite.chunkOf, Overwrite.overwrite, whole]
  cases edit with
  | save userId config =>
      exact ⟨0 :: [0, 0, 0, (encode text (service.dashboards.insert userId config)).length, 0],
        written (service.dashboards.insert userId config) service.file⟩
  | delete userId =>
      exact ⟨0 :: [0, 0, 0, (encode text (service.dashboards.erase userId)).length, 0],
        written (service.dashboards.erase userId) service.file⟩

end Connection

section Atomicity

variable (text : JsonText) (fault : Option Fault) (edit : DashboardEdit) (service : DashboardService)

-- A call that fails leaves the memory as it was, and a service restarted from the file too.
def EditAtomic : Prop :=
  ∀ reason, (edit.perform text fault service).2 = .error reason →
    SameMap (edit.perform text fault service).1.dashboards service.dashboards ∧
      SameMap (load text (edit.perform text fault service).1.file) (load text service.file)

-- What a call that fails has done: its own change, in memory; nothing to the file, or as many
-- bytes of the new text as were written.
structure FailedEdit (after : DashboardService) : Prop where
  own : after.dashboards.lookup edit.userId = edit.stored
  others : ∀ userId, userId ≠ edit.userId → after.dashboards.lookup userId = service.dashboards.lookup userId
  untouched : ∀ found, fault = some found → found.early = true → after.file = service.file
  early : ∀ found, fault = some found → found.early = true → SameMap (load text after.file) (load text service.file)
  torn : ∀ written said, fault = some (.writing written said) → written < (encode text after.dashboards).length ∧
    after.file = some ((encode text after.dashboards).take written)

theorem failed_edit (reason : String) (failed : (edit.perform text fault service).2 = .error reason) :
    FailedEdit text fault edit service (edit.perform text fault service).1 := by
  have memory := lookup_performed text fault edit service
  have persisted := performed_persists text fault edit service
  have file : (edit.perform text fault service).1.file =
      (persist text fault (edit.perform text fault service).1.dashboards service.file).1 := congrArg Prod.fst persisted
  have answer := congrArg Prod.snd persisted
  rw [failed] at answer
  have untouched : ∀ found, fault = some found → found.early = true →
      (edit.perform text fault service).1.file = service.file := by
    intro found given isEarly
    rcases persist_failed text fault _ service.file reason answer.symm with
      ⟨_, _, _, kept⟩ | ⟨written, said, torn, _, _⟩
    · rw [file, kept]
    · rw [given, Option.some.injEq] at torn
      rw [torn] at isEarly
      cases isEarly
  refine ⟨?_, ?_, untouched, ?_, ?_⟩
  · rw [memory, if_pos rfl]
  · intro userId different
    rw [memory, if_neg different]
  · intro found given isEarly
    rw [untouched found given isEarly]
    intro userId
    rfl
  · intro written said given
    rcases persist_failed text fault _ service.file reason answer.symm with
      ⟨found, isFault, isEarly, _⟩ | ⟨count, other, torn, short, kept⟩
    · rw [given, Option.some.injEq] at isFault
      rw [← isFault] at isEarly
      cases isEarly
    · rw [given, Option.some.injEq, Fault.writing.injEq] at torn
      rw [file, kept, torn.1]
      exact ⟨short, rfl⟩

-- No text that is cut short is JSON: what serde_json writes for an object ends with its brace.
def CutShortUnreadable : Prop :=
  ∀ dashboards written, written < (encode text dashboards).length →
    text.fromStr ((encode text dashboards).take written) = none

theorem torn_write_starts_empty (unreadable : CutShortUnreadable text) (written : Nat) (said reason : String)
    (torn : fault = some (.writing written said)) (failed : (edit.perform text fault service).2 = .error reason) :
    load text (edit.perform text fault service).1.file = ∅ := by
  obtain ⟨short, file⟩ := (failed_edit text fault edit service reason failed).torn written said torn
  rw [load, file, Option.bind_some, decode, unreadable _ written short]
  rfl

end Atomicity

def diskFull : Option Fault :=
  some (.writing 1 "No space left on device (os error 28)")

def onlyAlice : Dashboards :=
  Table.collect [("alice", someDashboard)]

def aliceSaved : List UInt8 :=
  Text.bytes "\x7b\"dashboards\":\x7b\"alice\":\x7b\"user_id\":\"alice\"\x7d\x7d\x7d"

def aliceText : JsonText where
  toStringPretty := knownText.toStringPretty
  fromStr content :=
    if content = aliceSaved then some (.obj [("dashboards", .obj [("alice", .obj [("user_id", .str "alice")])])])
    else if content = noDashboards then some (.obj [("dashboards", .obj [])])
    else none

def serviceOfAlice : DashboardService :=
  ⟨onlyAlice, some aliceSaved⟩

theorem failed_edit_disk_full :
    FailedEdit aliceText diskFull (.delete "alice") serviceOfAlice
      ((DashboardEdit.delete "alice").perform aliceText diskFull serviceOfAlice).1 :=
  failed_edit aliceText diskFull (.delete "alice") serviceOfAlice
    "Failed to write dashboard config: No space left on device (os error 28)" (by rfl)

-- The call answers that the config was not written; alice's dashboard is gone from memory, and
-- the file is no JSON any more.
theorem failed_delete_forgets :
    ¬ EditAtomic aliceText diskFull (.delete "alice") serviceOfAlice ∧
      ¬ SameMap (load aliceText ((DashboardEdit.delete "alice").perform aliceText diskFull serviceOfAlice).1.file)
        (load aliceText serviceOfAlice.file) := by
  have loaded : (load aliceText serviceOfAlice.file).lookup "alice" = some someDashboard := by rfl
  refine ⟨?_, ?_⟩
  · intro atomic
    have kept := (atomic _ rfl).1 "alice"
    cases kept
  · intro same
    have lost := (same "alice").trans loaded
    cases lost

end Moxui.DashboardCustom
