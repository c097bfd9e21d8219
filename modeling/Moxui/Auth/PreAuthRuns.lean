import Moxui.Lib.Machine
import Moxui.Auth.Totp

set_option autoImplicit false

namespace Moxui.Auth

namespace PreAuthStore

inductive Input where
  | issue (userId username token : String) (now : Int)
  | consume (token : String) (now : Int)
  | purgeExpired (now : Int)
deriving DecidableEq, Repr

namespace Input

def now : Input → Int
  | issue _ _ _ now => now
  | consume _ now => now
  | purgeExpired now => now

def issuedToken : Input → Option String
  | issue _ _ token _ => some token
  | _ => none

def isPurge : Input → Bool
  | purgeExpired _ => true
  | _ => false

end Input

inductive Output where
  | issued (token : String)
  | consumed (session : Option PreAuthSession)
  | purged (removed : Nat)
deriving DecidableEq, Repr

def Output.answer : Output → Option (Option PreAuthSession)
  | consumed session => some session
  | _ => none

def machine : Machine PreAuthStore Input Output where
  step store input :=
    match input with
    | .issue userId username token now => (issue userId username token now store, .issued token)
    | .consume token now => ((consume token now store).1, .consumed (consume token now store).2)
    | .purgeExpired now => ((purgeExpired now store).1, .purged (purgeExpired now store).2)

abbrev Event : Type :=
  Machine.Event PreAuthStore Input Output

structure Orderly (inputs : List Input) : Prop where
  fresh : (inputs.filterMap Input.issuedToken).Nodup
  clock : (inputs.map Input.now).Pairwise (· ≤ ·)

def answers (store : PreAuthStore) (inputs : List Input) : List (Option PreAuthSession) :=
  (machine.trace store inputs).filterMap fun occurrence => occurrence.output.answer

def withoutPurges (inputs : List Input) : List Input :=
  inputs.filter fun input => !input.isPurge

def newSession (userId username : String) (now : Int) : PreAuthSession :=
  { userId := userId, username := username, expiresAt := timestampAdd now preauthTtlSecs, consumed := false }

def IssuedFor (past : List Event) (token : String) (session : PreAuthSession) : Prop :=
  ∃ occurrence ∈ past, ∃ userId username now, occurrence.input = .issue userId username token now ∧
    session = newSession userId username now

def Redeemed (past : List Event) (token : String) : Prop :=
  ∃ occurrence ∈ past, ∃ now session, occurrence.input = .consume token now ∧
    occurrence.output = .consumed (some session)

def ConsumesRightly (past : List Event) (token : String) (now : Int) (result : Option PreAuthSession) : Prop :=
  ∀ session, result = some session ↔ ∃ issued, IssuedFor past token issued ∧ now ≤ issued.expiresAt ∧
    ¬ Redeemed past token ∧ session = { issued with consumed := true }

section Visible

def visible (now : Int) (store : PreAuthStore) (token : String) : Option PreAuthSession :=
  (store.lookup token).filter (unexpired now)

theorem consume_visible (token : String) (now : Int) (store : PreAuthStore) :
    (consume token now store).2 = (visible now store token).map fun session => { session with consumed := true } := by
  unfold consume visible
  cases found : store.lookup token with
  | none => rfl
  | some session =>
      by_cases stale : session.expiresAt < now
      · simp [Option.filter_some, unexpired, stale, Int.not_le.mpr stale]
      · cases used : session.consumed with
        | true => simp [Option.filter_some, unexpired, used]
        | false => simp [Option.filter_some, unexpired, used, stale, Int.not_lt.mp stale]

theorem lookup_consume_own (token : String) (now : Int) (store : PreAuthStore) :
    (consume token now store).1.lookup token = none := by
  have erased : (store.erase token).lookup token = none := by
    rw [Table.lookup_erase_eq, if_pos rfl]
  unfold consume
  cases found : store.lookup token with
  | none => exact found
  | some session =>
      dsimp only
      split
      · exact erased
      · exact erased

theorem lookup_consume (token found : String) (now : Int) (store : PreAuthStore) :
    (consume token now store).1.lookup found = if found = token then none else store.lookup found := by
  by_cases same : found = token
  · rw [if_pos same, same]
    exact lookup_consume_own token now store
  · rw [if_neg same]
    exact lookup_consume_other token found now store same

theorem lookup_issue (userId username token found : String) (now : Int) (store : PreAuthStore) :
    (issue userId username token now store).lookup found =
      if found = token then some (newSession userId username now) else store.lookup found :=
  Table.lookup_insert_eq token found _ store

theorem lookup_purge (now : Int) (store : PreAuthStore) (token : String) :
    (purgeExpired now store).1.lookup token = visible now store token :=
  Table.lookup_retain (unexpired now) store token

theorem unexpired_earlier (now later : Int) (order : now ≤ later) (session : PreAuthSession)
    (live : unexpired later session = true) : unexpired now session = true := by
  simp only [unexpired, ge_iff_le, Bool.and_eq_true, decide_eq_true_eq] at live ⊢
  exact ⟨by omega, live.2⟩

theorem visible_later (now later : Int) (order : now ≤ later) (store : PreAuthStore) (token : String) :
    visible later store token = (visible now store token).filter (unexpired later) := by
  unfold visible
  cases store.lookup token with
  | none => rfl
  | some session =>
      cases live : unexpired later session with
      | false =>
          rw [Option.filter_some_neg live, Option.filter_filter]
          simp [Option.filter_some, live]
      | true => simp [Option.filter_some, live, unexpired_earlier now later order session live]

def Alike (now : Int) (store other : PreAuthStore) : Prop :=
  ∀ token, visible now store token = visible now other token

theorem alike_later (now later : Int) (order : now ≤ later) (store other : PreAuthStore)
    (alike : Alike now store other) : Alike later store other := by
  intro token
  rw [visible_later now later order, visible_later now later order, alike token]

theorem purge_alike (now : Int) (store other : PreAuthStore) (alike : Alike now store other) :
    Alike now (purgeExpired now store).1 other := by
  intro token
  rw [← alike token]
  unfold visible
  rw [lookup_purge, visible, Option.filter_filter]
  simp

theorem step_alike (input : Input) (store other : PreAuthStore) (alike : Alike input.now store other)
    (kept : input.isPurge = false) :
    Alike input.now (machine.step store input).1 (machine.step other input).1 ∧
      (machine.step store input).2 = (machine.step other input).2 := by
  cases input with
  | purgeExpired now => cases kept
  | issue userId username token now =>
      refine ⟨?_, rfl⟩
      intro found
      have same := alike found
      simp only [machine, visible, lookup_issue] at same ⊢
      split
      · rfl
      · exact same
  | consume token now =>
      refine ⟨?_, ?_⟩
      · intro found
        have same := alike found
        simp only [machine, visible, lookup_consume] at same ⊢
        split
        · rfl
        · exact same
      · have same := alike token
        simp only [machine, consume_visible]
        rw [Input.now] at same
        rw [same]

theorem answers_cons (store : PreAuthStore) (input : Input) (inputs : List Input) :
    answers store (input :: inputs) =
      (machine.step store input).2.answer.toList ++ answers (machine.step store input).1 inputs := by
  have output : (machine.event store input).output = (machine.step store input).2 := rfl
  unfold answers
  rw [Machine.trace, List.filterMap_cons, output]
  cases (machine.step store input).2.answer with
  | none => rfl
  | some answer => rfl

-- Stores that look alike answer alike, one with the purge calls and one without.
theorem answers_alike (inputs : List Input) (clock : (inputs.map Input.now).Pairwise (· ≤ ·)) (now : Int)
    (after : ∀ input ∈ inputs, now ≤ input.now) (store other : PreAuthStore) (alike : Alike now store other) :
    answers store inputs = answers other (withoutPurges inputs) := by
  induction inputs generalizing now store other with
  | nil => rfl
  | cons input inputs ih =>
      rw [List.map_cons, List.pairwise_cons] at clock
      have onwards : ∀ next ∈ inputs, input.now ≤ next.now := fun next member =>
        clock.1 _ (List.mem_map_of_mem member)
      have atInput := alike_later now input.now (after input List.mem_cons_self) store other alike
      rw [answers_cons]
      cases purges : input.isPurge with
      | true =>
          have dropped : withoutPurges (input :: inputs) = withoutPurges inputs :=
            List.filter_cons_of_neg (by simp [purges])
          rw [dropped]
          cases input with
          | purgeExpired now =>
              exact ih clock.2 now onwards _ other (purge_alike now store other atInput)
          | issue userId username token now => cases purges
          | consume token now => cases purges
      | false =>
          have kept : withoutPurges (input :: inputs) = input :: withoutPurges inputs :=
            List.filter_cons_of_pos (by simp [purges])
          obtain ⟨stepped, same⟩ := step_alike input store other atInput purges
          rw [kept, answers_cons, same, ih clock.2 input.now onwards _ _ stepped]

theorem purges_invisible (inputs other : List Input) (clock : (inputs.map Input.now).Pairwise (· ≤ ·))
    (otherClock : (other.map Input.now).Pairwise (· ≤ ·)) (same : withoutPurges other = withoutPurges inputs) :
    answers ∅ other = answers ∅ inputs := by
  have from_first (inputs : List Input) (clock : (inputs.map Input.now).Pairwise (· ≤ ·)) :
      answers ∅ inputs = answers ∅ (withoutPurges inputs) := by
    cases inputs with
    | nil => rfl
    | cons input inputs =>
        refine answers_alike _ clock input.now ?_ ∅ ∅ fun _ => rfl
        intro next member
        rcases List.mem_cons.mp member with rfl | later
        · exact Int.le_refl _
        · exact (List.pairwise_cons.mp clock).1 _ (List.mem_map_of_mem later)
  rw [from_first other otherClock, from_first inputs clock, same]

end Visible

section Past

structure Remembers (past : List Event) (store : PreAuthStore) : Prop where
  held : ∀ token session, store.lookup token = some session → IssuedFor past token session ∧ ¬ Redeemed past token
  redeemed : ∀ token, Redeemed past token → ∃ session, IssuedFor past token session
  missing : ∀ token session, IssuedFor past token session → ¬ Redeemed past token →
    store.lookup token = some session ∨ ∃ occurrence ∈ past, session.expiresAt < occurrence.input.now

theorem issued_snoc (past : List Event) (event : Event) (token : String) (session : PreAuthSession) :
    IssuedFor (past ++ [event]) token session ↔ IssuedFor past token session ∨
      ∃ userId username now, event.input = .issue userId username token now ∧ session = newSession userId username now := by
  simp [IssuedFor, or_and_right, exists_or]

theorem redeemed_snoc (past : List Event) (event : Event) (token : String) :
    Redeemed (past ++ [event]) token ↔ Redeemed past token ∨
      ∃ now session, event.input = .consume token now ∧ event.output = .consumed (some session) := by
  simp [Redeemed, or_and_right, exists_or]

theorem issued_unconsumed (past : List Event) (token : String) (session : PreAuthSession)
    (issued : IssuedFor past token session) : session.consumed = false := by
  obtain ⟨_, _, userId, username, now, _, rfl⟩ := issued
  rfl

theorem missing_snoc (past : List Event) (event : Event) (store : PreAuthStore) (token : String)
    (session : PreAuthSession)
    (earlier : store.lookup token = some session ∨ ∃ occurrence ∈ past, session.expiresAt < occurrence.input.now)
    (after : PreAuthStore) (kept : store.lookup token = some session →
      after.lookup token = some session ∨ session.expiresAt < event.input.now) :
    after.lookup token = some session ∨ ∃ occurrence ∈ past ++ [event], session.expiresAt < occurrence.input.now := by
  rcases earlier with present | ⟨occurrence, member, late⟩
  · rcases kept present with still | late
    · exact Or.inl still
    · exact Or.inr ⟨event, by simp, late⟩
  · exact Or.inr ⟨occurrence, by simp [member], late⟩

variable (past : List Event) (store : PreAuthStore)

theorem issue_remembers (remembers : Remembers past store) (userId username token : String) (now : Int)
    (fresh : ∀ session, ¬ IssuedFor past token session) :
    Remembers (past ++ [machine.event store (.issue userId username token now)])
      (issue userId username token now store) := by
  have sameRedeemed (found : String) : Redeemed (past ++ [machine.event store (.issue userId username token now)]) found ↔
      Redeemed past found := by
    rw [redeemed_snoc]
    simp [Machine.event]
  refine ⟨?_, ?_, ?_⟩
  · intro found session present
    rw [issued_snoc, sameRedeemed]
    rw [lookup_issue] at present
    by_cases same : found = token
    · subst found
      rw [if_pos rfl, Option.some.injEq] at present
      refine ⟨Or.inr ⟨userId, username, now, rfl, present.symm⟩, fun redeemed => ?_⟩
      obtain ⟨earlier, issued⟩ := remembers.redeemed token redeemed
      exact fresh earlier issued
    · rw [if_neg same] at present
      exact ⟨Or.inl (remembers.held found session present).1, (remembers.held found session present).2⟩
  · intro found redeemed
    obtain ⟨session, issued⟩ := remembers.redeemed found ((sameRedeemed found).mp redeemed)
    exact ⟨session, (issued_snoc past _ found session).mpr (Or.inl issued)⟩
  · intro found session issued unredeemed
    rw [sameRedeemed] at unredeemed
    rcases (issued_snoc past _ found session).mp issued with earlier | ⟨_, _, _, isInput, rfl⟩
    · refine missing_snoc past _ store found session (remembers.missing found session earlier unredeemed) _ fun present => ?_
      have other : found ≠ token := fun same => fresh session (same ▸ earlier)
      exact Or.inl (by rw [lookup_issue, if_neg other, present])
    · cases isInput
      exact Or.inl (by rw [lookup_issue, if_pos rfl])

theorem consume_remembers (remembers : Remembers past store) (token : String) (now : Int) :
    Remembers (past ++ [machine.event store (.consume token now)]) (consume token now store).1 := by
  have sameIssued (found : String) (session : PreAuthSession) :
      IssuedFor (past ++ [machine.event store (.consume token now)]) found session ↔ IssuedFor past found session := by
    rw [issued_snoc]
    simp [Machine.event]
  have otherRedeemed (found : String) (other : found ≠ token) :
      Redeemed (past ++ [machine.event store (.consume token now)]) found ↔ Redeemed past found := by
    rw [redeemed_snoc]
    simp [Machine.event, Ne.symm other]
  refine ⟨?_, ?_, ?_⟩
  · intro found session present
    rw [lookup_consume] at present
    by_cases same : found = token
    · rw [if_pos same] at present
      cases present
    · rw [if_neg same] at present
      rw [sameIssued, otherRedeemed found same]
      exact remembers.held found session present
  · intro found redeemed
    rcases (redeemed_snoc past _ found).mp redeemed with earlier | ⟨later, session, isInput, isOutput⟩
    · obtain ⟨session, issued⟩ := remembers.redeemed found earlier
      exact ⟨session, (sameIssued found session).mpr issued⟩
    · cases isInput
      have answered : (consume token now store).2 = some session := Output.consumed.inj isOutput
      rw [consume_visible, Option.map_eq_some_iff] at answered
      obtain ⟨stored, seen, _⟩ := answered
      have present := (Option.filter_eq_some_iff.mp seen).1
      exact ⟨stored, (sameIssued token stored).mpr (remembers.held token stored present).1⟩
  · intro found session issued unredeemed
    rw [sameIssued] at issued
    have unredeemedBefore : ¬ Redeemed past found := fun redeemed =>
      unredeemed ((redeemed_snoc past _ found).mpr (Or.inl redeemed))
    refine missing_snoc past _ store found session (remembers.missing found session issued unredeemedBefore) _
      fun present => ?_
    by_cases same : found = token
    · subst found
      refine Or.inr (Int.not_le.mp fun live : now ≤ session.expiresAt => unredeemed ?_)
      have seen : visible now store token = some session := by
        have unused := issued_unconsumed past token session issued
        exact Option.filter_eq_some_iff.mpr ⟨present, by simpa [unexpired, unused] using live⟩
      refine (redeemed_snoc past _ token).mpr (Or.inr ⟨now, { session with consumed := true }, rfl, ?_⟩)
      exact congrArg Output.consumed (by rw [consume_visible, seen, Option.map_some])
    · exact Or.inl (by rw [lookup_consume, if_neg same, present])

theorem purge_remembers (remembers : Remembers past store) (now : Int) :
    Remembers (past ++ [machine.event store (.purgeExpired now)]) (purgeExpired now store).1 := by
  have sameIssued (found : String) (session : PreAuthSession) :
      IssuedFor (past ++ [machine.event store (.purgeExpired now)]) found session ↔ IssuedFor past found session := by
    rw [issued_snoc]
    simp [Machine.event]
  have sameRedeemed (found : String) : Redeemed (past ++ [machine.event store (.purgeExpired now)]) found ↔
      Redeemed past found := by
    rw [redeemed_snoc]
    simp [Machine.event]
  refine ⟨?_, ?_, ?_⟩
  · intro found session present
    rw [lookup_purge] at present
    rw [sameIssued, sameRedeemed]
    exact remembers.held found session (Option.filter_eq_some_iff.mp present).1
  · intro found redeemed
    obtain ⟨session, issued⟩ := remembers.redeemed found ((sameRedeemed found).mp redeemed)
    exact ⟨session, (sameIssued found session).mpr issued⟩
  · intro found session issued unredeemed
    rw [sameIssued] at issued
    rw [sameRedeemed] at unredeemed
    refine missing_snoc past _ store found session (remembers.missing found session issued unredeemed) _ fun present => ?_
    by_cases live : now ≤ session.expiresAt
    · have unused := issued_unconsumed past found session issued
      refine Or.inl ?_
      rw [lookup_purge, visible, present]
      exact Option.filter_some_pos (by simpa [unexpired, unused] using live)
    · exact Or.inr (Int.not_le.mp live)

theorem step_remembers (remembers : Remembers past store) (input : Input)
    (fresh : ∀ token, input.issuedToken = some token → ∀ session, ¬ IssuedFor past token session) :
    Remembers (past ++ [machine.event store input]) (machine.step store input).1 := by
  cases input with
  | issue userId username token now => exact issue_remembers past store remembers userId username token now (fresh token rfl)
  | consume token now => exact consume_remembers past store remembers token now
  | purgeExpired now => exact purge_remembers past store remembers now

theorem remembered_answer (remembers : Remembers past store) (token : String) (now : Int)
    (clock : ∀ occurrence ∈ past, occurrence.input.now ≤ now) :
    ConsumesRightly past token now (consume token now store).2 := by
  intro session
  rw [consume_visible, Option.map_eq_some_iff]
  constructor
  · rintro ⟨stored, seen, rfl⟩
    obtain ⟨present, live⟩ := Option.filter_eq_some_iff.mp seen
    obtain ⟨issued, unredeemed⟩ := remembers.held token stored present
    simp only [unexpired, ge_iff_le, Bool.and_eq_true, decide_eq_true_eq] at live
    exact ⟨stored, issued, live.1, unredeemed, rfl⟩
  · rintro ⟨issued, wasIssued, live, unredeemed, rfl⟩
    refine ⟨issued, ?_, rfl⟩
    rcases remembers.missing token issued wasIssued unredeemed with present | ⟨occurrence, member, late⟩
    · have unused := issued_unconsumed past token issued wasIssued
      exact Option.filter_eq_some_iff.mpr ⟨present, by simpa [unexpired, unused] using live⟩
    · have before := clock occurrence member
      omega

end Past

section Runs

theorem orderly_prefix (before after : List Input) (orderly : Orderly (before ++ after)) : Orderly before := by
  have kept : List.Sublist before (before ++ after) := List.sublist_append_left before after
  exact ⟨orderly.fresh.sublist (kept.filterMap _), orderly.clock.sublist (kept.map _)⟩

theorem fresh_token (inputs : List Input) (input : Input) (orderly : Orderly (inputs ++ [input])) (token : String)
    (issues : input.issuedToken = some token) (session : PreAuthSession) :
    ¬ IssuedFor (machine.trace ∅ inputs) token session := by
  rintro ⟨occurrence, member, userId, username, now, isInput, _⟩
  have fresh := orderly.fresh
  rw [List.filterMap_append, List.nodup_append] at fresh
  have earlier : token ∈ inputs.filterMap Input.issuedToken := by
    refine List.mem_filterMap.mpr ⟨occurrence.input, Machine.trace_input_mem machine ∅ inputs occurrence member, ?_⟩
    rw [isInput]
    rfl
  exact fresh.2.2 token earlier token (by simp [issues]) rfl

theorem run_remembers (inputs : List Input) (orderly : Orderly inputs) :
    Remembers (machine.trace ∅ inputs) (machine.run ∅ inputs) := by
  refine Machine.history machine ∅ Orderly Remembers (fun inputs input => orderly_prefix inputs [input]) ?_ ?_ inputs orderly
  · refine ⟨?_, ?_, ?_⟩
    · intro token session present
      cases present
    · rintro token ⟨occurrence, member, _⟩
      cases member
    · rintro token session ⟨occurrence, member, _⟩
      cases member
  · intro inputs input orderly remembers
    exact step_remembers _ _ remembers input (fresh_token inputs input orderly)

theorem clock_before (before after : List Input) (input : Input) (orderly : Orderly (before ++ input :: after)) :
    ∀ occurrence ∈ machine.trace ∅ before, occurrence.input.now ≤ input.now := by
  intro occurrence member
  have clock := orderly.clock
  rw [List.map_append, List.map_cons, List.pairwise_append] at clock
  refine clock.2.2 _ (List.mem_map_of_mem ?_) _ List.mem_cons_self
  exact Machine.trace_input_mem machine ∅ before occurrence member

end Runs

theorem preauth_sessions (inputs : List Input) (orderly : Orderly inputs) :
    (∀ past occurrence later token now result, machine.trace ∅ inputs = past ++ occurrence :: later →
      occurrence.input = .consume token now → occurrence.output = .consumed result →
      ConsumesRightly past token now result) ∧
    ∀ other, Orderly other → withoutPurges other = withoutPurges inputs → answers ∅ other = answers ∅ inputs := by
  refine ⟨?_, ?_⟩
  · intro past occurrence later token now result split isInput isOutput
    obtain ⟨before, input, after, rfl, rfl, rfl, _⟩ := Machine.trace_split machine ∅ inputs past later occurrence split
    have orderlyBefore := orderly_prefix before (input :: after) orderly
    have clock := clock_before before after input orderly
    change input = .consume token now at isInput
    subst input
    have answered : (consume token now (machine.run ∅ before)).2 = result := Output.consumed.inj isOutput
    rw [← answered]
    exact remembered_answer _ _ (run_remembers before orderlyBefore) token now clock
  · intro other otherOrderly same
    exact purges_invisible inputs other orderly.clock otherOrderly.clock same

def twoLogins : List Input :=
  [.issue "u-alice" "alice" "t1" 1000, .purgeExpired 1100, .consume "t1" 1300, .consume "t1" 1300,
    .issue "u-bob" "bob" "t2" 1400, .purgeExpired 1701, .consume "t2" 1701]

theorem two_logins_answered :
    answers ∅ (withoutPurges twoLogins) = answers ∅ twoLogins ∧
      answers ∅ twoLogins = [some ⟨"u-alice", "alice", 1300, true⟩, none, none] := by
  refine ⟨?_, by decide⟩
  have orderly : Orderly twoLogins := ⟨by decide, by decide⟩
  exact (preauth_sessions twoLogins orderly).2 (withoutPurges twoLogins) ⟨by decide, by decide⟩ (by decide)

end PreAuthStore

end Moxui.Auth
