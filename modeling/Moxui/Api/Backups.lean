import Mathlib.Data.List.Infix
import Moxui.Api.Clusters
import Moxui.Lib.Selection

set_option autoImplicit false

namespace Moxui.Api

structure StorageResource where
  storage : String
deriving DecidableEq, Repr

structure StorageContent where
  volid : String
  storage : String
  content : String
  volidName : Option String
  size : UInt64
  used : Option UInt64
  format : Option String
  ctime : Option UInt64
deriving DecidableEq, Repr

structure BackupEntry where
  volid : String
  storage : String
  filename : Option String
  size : UInt64
  format : Option String
  ctime : Option UInt64
  notes : Option String
deriving DecidableEq, Repr

def StorageContent.backupEntry (volume : StorageContent) : BackupEntry :=
  { volid := volume.volid, storage := volume.storage, filename := volume.volidName, size := volume.size
    format := volume.format, ctime := volume.ctime, notes := none }

section ListBackups

inductive StorageCall where
  | listStorages (node : String)
  | storageContent (node storage : String)

abbrev StorageAnswer : StorageCall → Type
  | .listStorages _ => Except AppError (List StorageResource)
  | .storageContent _ _ => Except AppError (List StorageContent)

abbrev StorageProgram (α : Type) : Type :=
  Dialogue StorageCall StorageAnswer α

abbrev StorageOracle : Type :=
  Dialogue.Oracle StorageCall StorageAnswer

variable (node : String) (vmid : UInt32)

-- The text search of the source.
def matchesVmid (volume : StorageContent) : Bool :=
  volume.content == "backup" && contains volume.volid (toString vmid)

def entriesOf : Except AppError (List StorageContent) → List BackupEntry
  | .error _ => []
  | .ok contents => (contents.filter (matchesVmid vmid)).map StorageContent.backupEntry

-- A storage that cannot be read is passed over.
def scanStorages : List StorageResource → StorageProgram (List BackupEntry)
  | [] => .done []
  | storage :: storages => .ask (.storageContent node storage.storage) fun contents =>
      (scanStorages storages).bind fun backups => .done (entriesOf vmid contents ++ backups)

def listBackups : StorageProgram (Except AppError (List BackupEntry)) :=
  .ask (.listStorages node) fun storages =>
    match storages with
    | .error error => .done (.error error)
    | .ok storages => (scanStorages node vmid storages).bind fun backups => .done (.ok backups)

def volumesRead (transcript : List (Dialogue.Exchange StorageCall StorageAnswer)) : List StorageContent :=
  transcript.flatMap fun exchange =>
    match exchange with
    | ⟨.storageContent _ _, .ok contents⟩ => contents
    | _ => []

theorem volumes_read_append (first second : List (Dialogue.Exchange StorageCall StorageAnswer)) :
    volumesRead (first ++ second) = volumesRead first ++ volumesRead second :=
  List.flatMap_append

theorem volumes_read_storage (storage : String) (contents : Except AppError (List StorageContent)) :
    entriesOf vmid contents = ((volumesRead [⟨.storageContent node storage, contents⟩]).filter (matchesVmid vmid)).map
      StorageContent.backupEntry := by
  cases contents with
  | error error => rfl
  | ok contents => simp [volumesRead, entriesOf]

theorem scan_storages_run (oracle : StorageOracle) (storages : List StorageResource)
    (past : List (Dialogue.Exchange StorageCall StorageAnswer)) :
    ∃ later, (Dialogue.run oracle past (scanStorages node vmid storages)).1 = past ++ later ∧
      (Dialogue.run oracle past (scanStorages node vmid storages)).2 =
        ((volumesRead later).filter (matchesVmid vmid)).map StorageContent.backupEntry := by
  induction storages generalizing past with
  | nil => exact ⟨[], (List.append_nil past).symm, rfl⟩
  | cons storage storages ih =>
      let answer := oracle past (.storageContent node storage.storage)
      obtain ⟨later, said, found⟩ := ih (past ++ [⟨.storageContent node storage.storage, answer⟩])
      refine ⟨⟨.storageContent node storage.storage, answer⟩ :: later, ?_, ?_⟩
      · rw [scanStorages, Dialogue.run_ask, Dialogue.run_bind, Dialogue.run_done, said, List.append_assoc]
        rfl
      · have whole : volumesRead (⟨.storageContent node storage.storage, answer⟩ :: later) =
            volumesRead [⟨.storageContent node storage.storage, answer⟩] ++ volumesRead later :=
          volumes_read_append [⟨.storageContent node storage.storage, answer⟩] later
        rw [whole, List.filter_append, List.map_append, ← volumes_read_storage, ← found]
        rw [scanStorages, Dialogue.run_ask, Dialogue.run_bind, Dialogue.run_done]

theorem list_backups_run (oracle : StorageOracle) (backups : List BackupEntry)
    (listed : (Dialogue.run oracle [] (listBackups node vmid)).2 = .ok backups) :
    backups = ((volumesRead (Dialogue.run oracle [] (listBackups node vmid)).1).filter (matchesVmid vmid)).map
      StorageContent.backupEntry := by
  rw [listBackups, Dialogue.run_ask] at listed ⊢
  cases answered : oracle [] (.listStorages node) with
  | error error =>
      rw [answered] at listed
      cases listed
  | ok storages =>
      rw [answered] at listed
      simp only [Dialogue.run_bind, Dialogue.run_done, List.nil_append] at listed ⊢
      obtain ⟨later, said, found⟩ := scan_storages_run node vmid oracle storages [⟨.listStorages node, .ok storages⟩]
      rw [found, Except.ok.injEq] at listed
      rw [said, volumes_read_append, ← listed]
      rfl

end ListBackups

section Names

-- The vmid field of `vzdump-<type>-<vmid>-<timestamp>`, the file name of a volume.
def vmidField (volid : String) : Option String := do
  let (start, fields) ← Text.splitOnce '-' (String.ofList (volid.toList.rtakeWhile (· ≠ '/')))
  if start = "vzdump" then
    let (_, rest) ← Text.splitOnce '-' fields
    let (vmid, _) ← Text.splitOnce '-' rest
    some vmid
  else none

def NamesBackupOf (vmid : UInt32) (volid : String) : Prop :=
  vmidField volid = some (toString vmid)

instance (vmid : UInt32) (volid : String) : Decidable (NamesBackupOf vmid volid) :=
  inferInstanceAs (Decidable (vmidField volid = some (toString vmid)))

theorem contains_iff (text pattern : String) : contains text pattern = true ↔ pattern.toList <:+: text.toList := by
  simp only [contains, List.any_eq_true, List.mem_tails, List.isPrefixOf_iff_prefix]
  rw [List.infix_iff_prefix_suffix]
  exact exists_congr fun tail => and_comm

theorem named_contains (vmid : UInt32) (volid : String) (named : NamesBackupOf vmid volid) :
    contains volid (toString vmid) = true := by
  rw [contains_iff]
  unfold NamesBackupOf vmidField at named
  cases first : Text.splitOnce '-' (String.ofList (volid.toList.rtakeWhile (· ≠ '/'))) with
  | none =>
      rw [first] at named
      cases named
  | some cut =>
      obtain ⟨start, fields⟩ := cut
      have name := Text.split_once_some '-' _ start fields first
      rw [String.toList_ofList] at name
      simp only [first, Option.bind_eq_bind, Option.bind_some] at named
      split at named
      · cases second : Text.splitOnce '-' fields with
        | none =>
            rw [second] at named
            cases named
        | some cut =>
            obtain ⟨kind, rest⟩ := cut
            have afterKind := Text.split_once_some '-' _ kind rest second
            cases third : Text.splitOnce '-' rest with
            | none =>
                simp only [second, third, Option.bind_some] at named
                cases named
            | some cut =>
                obtain ⟨field, timestamp⟩ := cut
                have afterField := Text.split_once_some '-' _ field timestamp third
                simp only [second, third, Option.bind_some, Option.some.injEq] at named
                have inName : (toString vmid).toList <:+: volid.toList.rtakeWhile (· ≠ '/') := by
                  refine ⟨start.toList ++ '-' :: (kind.toList ++ ['-']), '-' :: timestamp.toList, ?_⟩
                  rw [name, afterKind, afterField, named]
                  simp
                exact inName.trans (List.rtakeWhile_suffix _ _).isInfix
      · cases named

end Names

section Exactness

variable (node : String) (vmid : UInt32)

-- The backups returned are those of the machine, each once, and no others.
def BackupsExact (oracle : StorageOracle) : Prop :=
  ∀ backups, (Dialogue.run oracle [] (listBackups node vmid)).2 = .ok backups →
    backups = ((volumesRead (Dialogue.run oracle [] (listBackups node vmid)).1).filter fun volume =>
      volume.content == "backup" && decide (NamesBackupOf vmid volume.volid)).map StorageContent.backupEntry

def NumberOnlyInField (volumes : List StorageContent) : Prop :=
  ∀ volume ∈ volumes, volume.content = "backup" → (toString vmid).toList <:+: volume.volid.toList →
    NamesBackupOf vmid volume.volid

theorem no_volumes_read (oracle : StorageOracle)
    (refused : ∀ backups, (Dialogue.run oracle [] (listBackups node vmid)).2 ≠ .ok backups) :
    volumesRead (Dialogue.run oracle [] (listBackups node vmid)).1 = [] := by
  rw [listBackups, Dialogue.run_ask] at refused ⊢
  cases answered : oracle [] (.listStorages node) with
  | error error => rfl
  | ok storages =>
      rw [answered] at refused
      simp only [Dialogue.run_bind, Dialogue.run_done] at refused
      exact absurd rfl (refused _)

theorem backups_exact_iff (oracle : StorageOracle) :
    BackupsExact node vmid oracle ↔
      NumberOnlyInField vmid (volumesRead (Dialogue.run oracle [] (listBackups node vmid)).1) := by
  have same := Selection.filter_map_eq_iff (matchesVmid vmid)
    (fun volume => volume.content == "backup" && decide (NamesBackupOf vmid volume.volid)) StorageContent.backupEntry
    (volumesRead (Dialogue.run oracle [] (listBackups node vmid)).1) (by
      intro volume _ wanted
      simp only [Bool.and_eq_true, decide_eq_true_eq] at wanted
      rw [matchesVmid, wanted.1, named_contains vmid volume.volid wanted.2, Bool.and_true])
  have tests : (∀ volume ∈ volumesRead (Dialogue.run oracle [] (listBackups node vmid)).1,
      matchesVmid vmid volume = true →
        (volume.content == "backup" && decide (NamesBackupOf vmid volume.volid)) = true) ↔
      NumberOnlyInField vmid (volumesRead (Dialogue.run oracle [] (listBackups node vmid)).1) := by
    apply forall₂_congr
    intro volume _
    simp only [matchesVmid, Bool.and_eq_true, beq_iff_eq, contains_iff, decide_eq_true_eq]
    constructor
    · intro both kind inside
      exact (both ⟨kind, inside⟩).2
    · intro named both
      exact ⟨both.1, named both.1 both.2⟩
  rw [← tests, ← same]
  constructor
  · intro holds
    cases answer : (Dialogue.run oracle [] (listBackups node vmid)).2 with
    | error error =>
        rw [no_volumes_read node vmid oracle (by simp [answer]), List.filter_nil, List.filter_nil]
    | ok backups =>
        rw [← list_backups_run node vmid oracle backups answer]
        exact holds backups answer
  · intro sameEntries backups answer
    rw [list_backups_run node vmid oracle backups answer]
    exact sameEntries

end Exactness

def backupOf1000 : StorageContent :=
  { volid := "local:backup/vzdump-qemu-1000-2024_01_01-00_00_00.vma.zst", storage := "local", content := "backup"
    volidName := none, size := 0, used := none, format := some "vma.zst", ctime := none }

def oneBackup : StorageOracle
  | _, .listStorages _ => .ok [⟨"local"⟩]
  | _, .storageContent _ _ => .ok [backupOf1000]

-- It is listed for the machine 100.
theorem backup_of_another_listed : ¬ BackupsExact "pve11" 100 oneBackup := by
  intro holds
  have named := (backups_exact_iff "pve11" 100 oneBackup).mp holds backupOf1000 List.mem_cons_self rfl
    ((contains_iff _ _).mp (by decide +kernel))
  exact absurd named (by decide +kernel)

end Moxui.Api
