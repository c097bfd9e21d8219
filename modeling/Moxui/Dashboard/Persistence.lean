import Mathlib.Data.List.Count
import Moxui.Dashboard.Custom

set_option autoImplicit false

namespace Moxui.DashboardCustom

open Moxui.Api (Json)
open Overwrite (Agrees)

namespace DashboardCall

def content : DashboardCall → Option (List UInt8)
  | holding content => some content
  | writing content _ => some content
  | _ => none

def locks (call : DashboardCall) : Bool :=
  call.content.isSome

def rewrites : DashboardCall → Bool
  | persisting | reading | holding _ => true
  | _ => false

def asks : DashboardCall → Bool
  | saving _ _ | deleting _ | getting _ => true
  | _ => false

end DashboardCall

def Changes (step : DashboardStep) : Prop :=
  step.left = .inl .persisting

section Follows

variable (text : JsonText) (initial : Option (List UInt8)) (past : List DashboardStep)

-- Somebody will write the file anew; or the last one to open it is writing it; or it is written;
-- or nothing has been changed yet.
inductive FileFollows (state : DashboardState) (calls : List DashboardCall) : Prop where
  | pending (call : DashboardCall) (member : call ∈ calls) (rewrites : call.rewrites = true)
  | partly (content : List UInt8) (upTo : Nat) (stored : state.file = some content)
      (writer : .writing (encode text state.dashboards) upTo ∈ calls)
      (agrees : Agrees (encode text state.dashboards) content upTo)
  | whole (stored : state.file = some (encode text state.dashboards))
  | untouched (same : state.file = initial) (loaded : state.dashboards = load text initial)
      (asking : ∀ call ∈ calls, call.asks = true) (unchanged : ∀ step ∈ past, ¬ Changes step)

structure Follows (state : DashboardState) (calls : List DashboardCall) : Prop where
  locked : state.readers = calls.countP DashboardCall.locks
  snapshot : ∀ call ∈ calls, ∀ content, call.content = some content → content = encode text state.dashboards
  file : FileFollows text initial past state calls

theorem follows_perm (state : DashboardState) (calls other : List DashboardCall) (perm : calls.Perm other)
    (follows : Follows text initial past state calls) : Follows text initial past state other := by
  refine ⟨follows.locked.trans (perm.countP_eq _), fun call member => follows.snapshot call (perm.mem_iff.mpr member), ?_⟩
  cases follows.file with
  | pending call member rewrites => exact .pending call (perm.mem_iff.mp member) rewrites
  | partly content upTo stored writer agrees => exact .partly content upTo stored (perm.mem_iff.mp writer) agrees
  | whole stored => exact .whole stored
  | untouched same loaded asking unchanged =>
      exact .untouched same loaded (fun call member => asking call (perm.mem_iff.mpr member)) unchanged

theorem follows_entered (state : DashboardState) (calls : List DashboardCall) (call : DashboardCall)
    (asks : call.asks = true) (follows : Follows text initial past state calls) :
    Follows text initial past state (call :: calls) := by
  have noContent : call.content = none := by
    cases call with
    | saving userId config => rfl
    | deleting userId => rfl
    | getting userId => rfl
    | _ => cases asks
  refine ⟨?_, ?_, ?_⟩
  · rw [List.countP_cons_of_neg (by simp [DashboardCall.locks, noContent])]
    exact follows.locked
  · intro other member content held
    rcases List.mem_cons.mp member with rfl | later
    · rw [noContent] at held
      cases held
    · exact follows.snapshot other later content held
  · cases follows.file with
    | pending other member rewrites => exact .pending other (List.mem_cons_of_mem _ member) rewrites
    | partly content upTo stored writer agrees => exact .partly content upTo stored (List.mem_cons_of_mem _ writer) agrees
    | whole stored => exact .whole stored
    | untouched same loaded asking unchanged =>
        exact .untouched same loaded (List.forall_mem_cons.mpr ⟨asks, asking⟩) unchanged

variable (state : DashboardState) (call : DashboardCall) (rest : List DashboardCall) (step : DashboardStep)

theorem follows_answered (asked : call.asks = true) (quiet : ¬ Changes step)
    (follows : Follows text initial past state (call :: rest)) : Follows text initial (past ++ [step]) state rest := by
  have plain : call.content = none ∧ call.rewrites = false ∧ ∀ content upTo, call ≠ .writing content upTo := by
    cases call with
    | saving userId config => exact ⟨rfl, rfl, fun _ _ same => by cases same⟩
    | deleting userId => exact ⟨rfl, rfl, fun _ _ same => by cases same⟩
    | getting userId => exact ⟨rfl, rfl, fun _ _ same => by cases same⟩
    | _ => cases asked
  refine ⟨?_, fun other later => follows.snapshot other (List.mem_cons_of_mem _ later), ?_⟩
  · rw [follows.locked, List.countP_cons_of_neg (by simp [DashboardCall.locks, plain.1])]
  · cases follows.file with
    | pending other member rewrites =>
        rcases List.mem_cons.mp member with rfl | later
        · rw [plain.2.1] at rewrites
          cases rewrites
        · exact .pending other later rewrites
    | partly content upTo stored writer agrees =>
        rcases List.mem_cons.mp writer with isCall | later
        · exact absurd isCall.symm (plain.2.2 _ _)
        · exact .partly content upTo stored later agrees
    | whole stored => exact .whole stored
    | untouched same loaded asking unchanged =>
        refine .untouched same loaded (fun other later => asking other (List.mem_cons_of_mem _ later)) ?_
        intro other member
        rcases List.mem_append.mp member with earlier | last
        · exact unchanged other earlier
        · rw [List.mem_singleton.mp last]
          exact quiet

-- The change is made while nobody reads, so no call holds an older snapshot.
theorem follows_changed (changed : Dashboards) (free : state.readers = 0)
    (follows : Follows text initial past state (call :: rest)) :
    Follows text initial (past ++ [step]) { state with dashboards := changed } (.persisting :: rest) := by
  have unlocked : ∀ other ∈ call :: rest, other.locks = false := by
    have none := follows.locked.symm.trans free
    intro other member
    exact Bool.eq_false_iff.mpr (List.countP_eq_zero.mp none other member)
  refine ⟨?_, ?_, .pending .persisting List.mem_cons_self rfl⟩
  · have restUnlocked : rest.countP DashboardCall.locks = 0 :=
      List.countP_eq_zero.mpr fun other later => Bool.eq_false_iff.mp (unlocked other (List.mem_cons_of_mem _ later))
    rw [List.countP_cons_of_neg (by simp [DashboardCall.locks, DashboardCall.content]), restUnlocked]
    exact free
  · intro other member content held
    rcases List.mem_cons.mp member with rfl | later
    · cases held
    · have free := unlocked other (List.mem_cons_of_mem _ later)
      rw [DashboardCall.locks, held] at free
      cases free

theorem follows_replaced (next : DashboardCall) (file : Option (List UInt8)) (sameContent : next.content = call.content)
    (follows : Follows text initial past state (call :: rest))
    (after : FileFollows text initial (past ++ [step]) { state with file := file } (next :: rest)) :
    Follows text initial (past ++ [step]) { state with file := file } (next :: rest) := by
  refine ⟨?_, ?_, after⟩
  · have sameLock : next.locks = call.locks := by
      rw [DashboardCall.locks, DashboardCall.locks, sameContent]
    change state.readers = _
    rw [follows.locked, List.countP_cons, List.countP_cons, sameLock]
  · intro other member content held
    rcases List.mem_cons.mp member with rfl | later
    · exact follows.snapshot call List.mem_cons_self content (sameContent ▸ held)
    · exact follows.snapshot other (List.mem_cons_of_mem _ later) content held

theorem follows_locked (follows : Follows text initial past state (.reading :: rest)) :
    Follows text initial (past ++ [step]) { state with readers := state.readers + 1 }
      (.holding (encode text state.dashboards) :: rest) := by
  refine ⟨?_, ?_, .pending _ List.mem_cons_self rfl⟩
  · have before := follows.locked
    rw [List.countP_cons_of_neg (by simp [DashboardCall.locks, DashboardCall.content])] at before
    rw [List.countP_cons_of_pos (by simp [DashboardCall.locks, DashboardCall.content])]
    exact congrArg (· + 1) before
  · intro other member content held
    rcases List.mem_cons.mp member with rfl | later
    · exact (Option.some.inj held).symm
    · exact follows.snapshot other (List.mem_cons_of_mem _ later) content held

theorem follows_opened (content : List UInt8) (follows : Follows text initial past state (.holding content :: rest)) :
    Follows text initial (past ++ [step]) { state with file := some [] } (.writing content 0 :: rest) := by
  have current : content = encode text state.dashboards := follows.snapshot _ List.mem_cons_self content rfl
  refine follows_replaced text initial past state (.holding content) rest step (.writing content 0) (some []) rfl follows ?_
  refine .partly [] 0 rfl ?_ (Overwrite.agrees_empty _)
  rw [current]
  exact List.mem_cons_self

-- All who write, write the same.
theorem follows_chunk (content : List UInt8) (written count : Nat) (within : written < content.length)
    (follows : Follows text initial past state (.writing content written :: rest)) :
    Follows text initial (past ++ [step])
      { state with
        file := some (Overwrite.overwrite 0 (state.file.getD []) written (Overwrite.chunkOf content written count)) }
      (.writing content (written + (Overwrite.chunkOf content written count).length) :: rest) := by
  have current : content = encode text state.dashboards := follows.snapshot _ List.mem_cons_self content rfl
  refine follows_replaced text initial past state (.writing content written) rest step _ _ rfl follows ?_
  subst current
  cases follows.file with
  | pending other member rewrites =>
      rcases List.mem_cons.mp member with rfl | later
      · cases rewrites
      · exact .pending other (List.mem_cons_of_mem _ later) rewrites
  | partly bytes upTo stored writer agrees =>
      rw [stored, Option.getD_some]
      rcases List.mem_cons.mp writer with isCall | later
      · cases isCall
        exact .partly _ _ rfl List.mem_cons_self (Overwrite.agrees_onward 0 _ bytes written count agrees)
      · exact .partly _ upTo rfl (List.mem_cons_of_mem _ later)
          (Overwrite.agrees_other 0 _ bytes upTo written count (Nat.le_of_lt within) agrees)
  | whole stored =>
      rw [stored, Option.getD_some]
      have agrees := Overwrite.agrees_other 0 (encode text state.dashboards) (encode text state.dashboards) _ written count
        (Nat.le_of_lt within) (Overwrite.agrees_self _)
      exact .whole (congrArg some (Overwrite.agrees_whole _ _ agrees))
  | untouched same loaded asking unchanged =>
      have asks := asking _ List.mem_cons_self
      cases asks

theorem follows_closed (content : List UInt8) (written : Nat) (through : content.length ≤ written)
    (follows : Follows text initial past state (.writing content written :: rest)) :
    Follows text initial (past ++ [step]) { state with readers := state.readers - 1 } rest := by
  have current : content = encode text state.dashboards := follows.snapshot _ List.mem_cons_self content rfl
  refine ⟨?_, fun other later => follows.snapshot other (List.mem_cons_of_mem _ later), ?_⟩
  · have before := follows.locked
    rw [List.countP_cons_of_pos (by simp [DashboardCall.locks, DashboardCall.content])] at before
    change state.readers - 1 = _
    omega
  · subst current
    cases follows.file with
    | pending other member rewrites =>
        rcases List.mem_cons.mp member with rfl | later
        · cases rewrites
        · exact .pending other later rewrites
    | partly bytes upTo stored writer agrees =>
        rcases List.mem_cons.mp writer with isCall | later
        · cases isCall
          have all : written = (encode text state.dashboards).length :=
            Nat.le_antisymm (Nat.le_trans agrees.covers agrees.short) through
          rw [all] at agrees
          exact .whole (stored.trans (congrArg some (Overwrite.agrees_whole _ bytes agrees)))
        · exact .partly bytes upTo stored later agrees
    | whole stored => exact .whole stored
    | untouched same loaded asking unchanged =>
        have asks := asking _ List.mem_cons_self
        cases asks

theorem follows_waiting (asked : call.asks = true) (quiet : ¬ Changes step)
    (follows : Follows text initial past state (call :: rest)) :
    Follows text initial (past ++ [step]) state (call :: rest) :=
  follows_entered text initial (past ++ [step]) state rest call asked
    (follows_answered text initial past state call rest step asked quiet follows)

theorem follows_advanced (heard : Nat) (follows : Follows text initial past state (call :: rest)) :
    Follows text initial (past ++ [(dashboardProtocol text).taken call heard state])
      ((dashboardProtocol text).taken call heard state).after
      (Protocol.resume ((dashboardProtocol text).taken call heard state).left rest) := by
  have changes (asked : call.asks = true) (changed : Dashboards)
      (advances : advanceDashboard text call heard state = change call changed state) :
      Follows text initial (past ++ [(dashboardProtocol text).taken call heard state])
        ((dashboardProtocol text).taken call heard state).after
        (Protocol.resume ((dashboardProtocol text).taken call heard state).left rest) := by
    have step : (dashboardProtocol text).taken call heard state =
        ⟨state, call, heard, (change call changed state).1, (change call changed state).2⟩ := by
      rw [← advances]
      rfl
    rw [step]
    unfold change
    by_cases free : state.readers = 0
    · rw [if_pos free]
      exact follows_changed text initial past state call rest _ changed free follows
    · rw [if_neg free]
      refine follows_waiting text initial past state call rest _ asked ?_ follows
      intro changed
      have same : call = .persisting := Sum.inl.inj changed
      rw [same] at asked
      cases asked
  cases call with
  | saving userId config => exact changes rfl _ rfl
  | deleting userId => exact changes rfl _ rfl
  | getting userId =>
      refine follows_answered text initial past state (.getting userId) rest _ rfl ?_ follows
      intro changed
      cases changed
  | persisting =>
      exact follows_replaced text initial past state .persisting rest _ .reading state.file rfl follows
        (.pending .reading List.mem_cons_self rfl)
  | reading => exact follows_locked text initial past state rest _ follows
  | holding content => exact follows_opened text initial past state rest _ content follows
  | writing content written =>
      by_cases within : written < content.length
      · have after := follows_chunk text initial past state rest
          ((dashboardProtocol text).taken (.writing content written) heard state) content written (heard + 1) within follows
        simpa only [Protocol.taken, dashboardProtocol, advanceDashboard, if_pos within, Protocol.resume] using after
      · have after := follows_closed text initial past state rest
          ((dashboardProtocol text).taken (.writing content written) heard state) content written (Nat.le_of_not_lt within)
          follows
        simpa only [Protocol.taken, dashboardProtocol, advanceDashboard, if_neg within, Protocol.resume] using after

theorem run_follows (turns : List DashboardTurn) :
    Follows text initial ((dashboardProtocol text).steps (started text initial) turns)
      ((dashboardProtocol text).machine.run (started text initial) turns).shared
      ((dashboardProtocol text).machine.run (started text initial) turns).calls := by
  refine (dashboardProtocol text).steps_history (started text initial) (fun _ => True)
    (fun past pool => Follows text initial past pool.shared pool.calls) ?_ ?_ ?_ turns fun _ _ => trivial
  · refine ⟨rfl, fun call member => absurd member List.not_mem_nil, .untouched rfl rfl ?_ ?_⟩
    · exact fun call member => absurd member List.not_mem_nil
    · exact fun step member => absurd member List.not_mem_nil
  · intro past pool request follows
    refine follows_entered text initial past pool.shared pool.calls _ ?_ follows
    cases request <;> rfl
  · intro past pool call heard rest perm _ follows
    exact follows_advanced text initial past pool.shared call rest heard
      (follows_perm text initial past pool.shared pool.calls (call :: rest) perm follows)

end Follows

section Claim

variable (text : JsonText)

def Quiet (pool : DashboardPool) : Prop :=
  ∀ call ∈ pool.calls, ∃ userId, call = .getting userId

def SameMap (one other : Dashboards) : Prop :=
  ∀ userId, one.lookup userId = other.lookup userId

def FileDecodes (pool : DashboardPool) : Prop :=
  ∃ read, pool.shared.file.bind (decode text) = some read ∧ SameMap read pool.shared.dashboards

def Reloads (pool : DashboardPool) : Prop :=
  SameMap (load text pool.shared.file) pool.shared.dashboards

def ReadsBack (dashboards : Dashboards) : Prop :=
  text.fromStr (text.toStringPretty (serializeAll dashboards)) = some (serializeAll dashboards)

theorem decode_encoded (dashboards : Dashboards) (readsBack : ReadsBack text dashboards) :
    ∃ read, decode text (encode text dashboards) = some read ∧ SameMap read dashboards := by
  obtain ⟨read, isRead, same⟩ := entries_written dashboards
  refine ⟨read, ?_, same⟩
  rw [decode, encode, readsBack, Option.bind_some, isRead]

theorem reloads_decoded (pool : DashboardPool) (decodes : FileDecodes text pool) : Reloads text pool := by
  obtain ⟨read, isRead, same⟩ := decodes
  intro userId
  rw [load, isRead, Option.getD_some]
  exact same userId

theorem same_served (one other : Dashboards) (same : SameMap one other) (userId : String) :
    getDashboard userId one = getDashboard userId other := by
  rw [getDashboard, getDashboard, same userId]

theorem quiet_file (initial : Option (List UInt8)) (past : List DashboardStep) (pool : DashboardPool)
    (quiet : Quiet pool) (follows : FileFollows text initial past pool.shared pool.calls) :
    pool.shared.file = some (encode text pool.shared.dashboards) ∨
      pool.shared.file = initial ∧ pool.shared.dashboards = load text initial ∧ ∀ step ∈ past, ¬ Changes step := by
  cases follows with
  | pending call member rewrites =>
      obtain ⟨userId, rfl⟩ := quiet call member
      cases rewrites
  | partly content upTo stored writer agrees =>
      obtain ⟨userId, other⟩ := quiet _ writer
      cases other
  | whole stored => exact Or.inl stored
  | untouched same loaded asking unchanged => exact Or.inr ⟨same, loaded, unchanged⟩

-- Before the first change there may be no file, or one that does not decode: both are read as
-- an empty map.
theorem file_follows_memory (initial : Option (List UInt8)) (turns : List DashboardTurn)
    (readsBack : ReadsBack text ((dashboardProtocol text).machine.run (started text initial) turns).shared.dashboards)
    (quiet : Quiet ((dashboardProtocol text).machine.run (started text initial) turns)) :
    Reloads text ((dashboardProtocol text).machine.run (started text initial) turns) ∧
      (∀ userId, getDashboard userId
          (load text ((dashboardProtocol text).machine.run (started text initial) turns).shared.file) =
        getDashboard userId ((dashboardProtocol text).machine.run (started text initial) turns).shared.dashboards) ∧
      (FileDecodes text ((dashboardProtocol text).machine.run (started text initial) turns) ∨
        initial.bind (decode text) = none ∧
          ∀ step ∈ (dashboardProtocol text).steps (started text initial) turns, ¬ Changes step) := by
  have decoded : FileDecodes text ((dashboardProtocol text).machine.run (started text initial) turns) ∨
      Reloads text ((dashboardProtocol text).machine.run (started text initial) turns) ∧
        initial.bind (decode text) = none ∧
          ∀ step ∈ (dashboardProtocol text).steps (started text initial) turns, ¬ Changes step := by
    rcases quiet_file text initial _ _ quiet (run_follows text initial turns).file with
      stored | ⟨same, loaded, unchanged⟩
    · obtain ⟨read, isRead, sameMap⟩ := decode_encoded text _ readsBack
      exact Or.inl ⟨read, by rw [stored, Option.bind_some, isRead], sameMap⟩
    · cases readable : initial.bind (decode text) with
      | some read =>
          refine Or.inl ⟨read, by rw [same, readable], fun userId => ?_⟩
          rw [loaded, load, readable, Option.getD_some]
      | none =>
          refine Or.inr ⟨fun userId => ?_, rfl, unchanged⟩
          rw [same, loaded]
  have reloads : Reloads text ((dashboardProtocol text).machine.run (started text initial) turns) :=
    decoded.elim (reloads_decoded text _) And.left
  exact ⟨reloads, same_served _ _ reloads, decoded.imp_right And.right⟩

end Claim

def someDashboard : CustomDashboardConfig :=
  { userId := "alice", widgets := [], layout := [] }

def noDashboards : List UInt8 :=
  Text.bytes "\x7b\n  \"dashboards\": \x7b\x7d\n\x7d"

def aliceWritten : List UInt8 :=
  Text.bytes ("\x7b\n  \"dashboards\": \x7b\n    \"alice\": \x7b\n      \"user_id\": \"alice\",\n" ++
    "      \"widgets\": [],\n      \"layout\": []\n    \x7d\n  \x7d\n\x7d")

def aliceJson : Json :=
  .obj [("dashboards", .obj [("alice", someDashboard.serialize)])]

def readKnown (content : List UInt8) : Option Json :=
  if content = aliceWritten then some aliceJson
  else if content = noDashboards then some (.obj [("dashboards", .obj [])])
  else none

def knownText : JsonText where
  toStringPretty
    | .obj [("dashboards", .obj [])] => noDashboards
    | .obj [("dashboards", .obj [("alice", _)])] => aliceWritten
    | _ => []
  fromStr := readKnown

theorem alice_read_back : knownText.fromStr (knownText.toStringPretty aliceJson) = some aliceJson := by
  have written : knownText.toStringPretty aliceJson = aliceWritten := by decide +kernel
  rw [written]
  change readKnown aliceWritten = _
  rw [readKnown, if_pos (Eq.refl aliceWritten)]

-- alice saves while bob deletes. Both make their change before either reads, alice is in the middle
-- of the file when bob opens it anew, and carol still waits for hers at the end.
def savesWhileDeleted : List DashboardTurn :=
  [.starts (.save "alice" someDashboard), .starts (.delete "bob"), .advances 1 0, .advances 1 0, .advances 1 0,
    .advances 1 0, .advances 1 0, .advances 1 0, .starts (.get "carol"), .advances 2 0, .advances 0 40, .advances 2 0,
    .advances 1 999, .advances 1 999, .advances 0 0, .advances 0 0]

def savedWhileDeleted : DashboardPool :=
  (dashboardProtocol knownText).machine.run (started knownText none) savesWhileDeleted

theorem alice_saved_while_bob_deleted :
    Reloads knownText savedWhileDeleted ∧
      (∀ userId, getDashboard userId (load knownText savedWhileDeleted.shared.file) =
        getDashboard userId savedWhileDeleted.shared.dashboards) ∧
      (FileDecodes knownText savedWhileDeleted ∨
        (none : Option (List UInt8)).bind (decode knownText) = none ∧
          ∀ step ∈ (dashboardProtocol knownText).steps (started knownText none) savesWhileDeleted, ¬ Changes step) := by
  have left : savedWhileDeleted.calls = [.getting "carol"] := by decide +kernel
  have kept : savedWhileDeleted.shared.dashboards.entries = [⟨"alice", someDashboard⟩] := by decide +kernel
  have json : serializeAll savedWhileDeleted.shared.dashboards = aliceJson := by
    rw [serializeAll, kept]
    rfl
  have readsBack : ReadsBack knownText savedWhileDeleted.shared.dashboards := by
    rw [ReadsBack, json]
    exact alice_read_back
  have quiet : Quiet savedWhileDeleted := by
    intro call member
    rw [left, List.mem_singleton] at member
    exact ⟨"carol", member⟩
  unfold savedWhileDeleted at readsBack quiet ⊢
  exact file_follows_memory knownText none savesWhileDeleted readsBack quiet

theorem no_file_at_first :
    Quiet (started knownText none) ∧ ¬ FileDecodes knownText (started knownText none) := by
  refine ⟨fun call member => absurd member List.not_mem_nil, ?_⟩
  rintro ⟨read, isRead, _⟩
  cases isRead

end Moxui.DashboardCustom
