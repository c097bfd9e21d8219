import Mathlib.Data.Set.Card
import Moxui.Auth.RefreshSafety

set_option autoImplicit false

theorem Table.ncard_lookup {κ α : Type} [DecidableEq κ] (accepts : α → Bool) (table : Table κ α) :
    Set.ncard {key | ∃ value, table.lookup key = some value ∧ accepts value = true} =
      (Table.values table).countP accepts := by
  have distinct : ((table.entries.filter fun row => accepts row.2).map Sigma.fst).Nodup :=
    table.nodupKeys.sublist List.filter_sublist
  have listed : {key | ∃ value, table.lookup key = some value ∧ accepts value = true} =
      (((table.entries.filter fun row => accepts row.2).map Sigma.fst).toFinset : Set κ) := by
    ext key
    simp [← Table.mem_entries]
  rw [listed, Set.ncard_coe_finset, List.toFinset_card_of_nodup distinct, List.length_map, Table.values,
    List.countP_map, List.countP_eq_length_filter]
  rfl

theorem List.countP_eq_iff_of_imp {α : Type} (fewer more : α → Bool) (values : List α)
    (within : ∀ value ∈ values, fewer value = true → more value = true) :
    values.countP fewer = values.countP more ↔ ∀ value ∈ values, more value = true → fewer value = true := by
  induction values with
  | nil => simp
  | cons value values ih =>
      have rest := ih fun other member => within other (List.mem_cons_of_mem value member)
      have below := List.countP_mono_left fun other member => within other (List.mem_cons_of_mem value member)
      rw [List.forall_mem_cons]
      by_cases counted : fewer value = true
      · have also := within value List.mem_cons_self counted
        simp [counted, also, rest]
      · by_cases missed : more value = true
        · simp [counted, missed]
          omega
        · simp [counted, missed, rest]

namespace Moxui.Auth

open RefreshStore

section Counting

variable (hash : String → String)

def Accepted (store : RefreshStore) (now : Int) (key : String) : Prop :=
  ∃ record rawToken, store.lookup key = some record ∧ record.tokenHash = hash rawToken ∧
    verify hash rawToken now store = some (key, record.userId)

def unexpired (now : Int) (record : StoredRefreshToken) : Bool :=
  !record.revoked && decide (now ≤ record.expiresAt)

theorem verify_stored (store : RefreshStore) (unique : HashUnique store) (key rawToken : String)
    (record : StoredRefreshToken) (now : Int) (present : store.lookup key = some record)
    (hashed : record.tokenHash = hash rawToken) :
    verify hash rawToken now store = if unexpired now record then some (key, record.userId) else none := by
  have found := found_of_hash_unique hash store unique key rawToken record present hashed
  simp only [verify, Table.findValue, found, Option.map_some, unexpired, store.keyed key record present]
  by_cases revoked : record.revoked
  · simp [revoked]
  · by_cases expired : now > record.expiresAt
    · simp [revoked, expired]
    · simp [revoked, expired, Int.not_lt.mp expired]

theorem accepted_iff (store : RefreshStore) (reachable : ReachableStore hash store) (now : Int) (key : String) :
    Accepted hash store now key ↔ ∃ record, store.lookup key = some record ∧ unexpired now record = true := by
  have unique := reachable_hash_unique hash store reachable
  constructor
  · intro ⟨record, rawToken, present, hashed, accepted⟩
    refine ⟨record, present, ?_⟩
    rw [verify_stored hash store unique key rawToken record now present hashed] at accepted
    by_cases live : unexpired now record
    · exact live
    · simp [live] at accepted
  · intro ⟨record, present, live⟩
    obtain ⟨ops, run, rfl⟩ := reachable
    obtain ⟨fresh, _, _, hashed⟩ := (refresh_history hash ops run).minted key record present
    refine ⟨record, fresh.raw, present, hashed, ?_⟩
    rw [verify_stored hash _ unique key fresh.raw record now present hashed, if_pos live]

theorem ncard_accepted (store : RefreshStore) (reachable : ReachableStore hash store) (now : Int) :
    Set.ncard {key | Accepted hash store now key} = (Table.values store.tokens).countP (unexpired now) := by
  rw [← Table.ncard_lookup]
  congr 1
  ext key
  exact accepted_iff hash store reachable now key

-- The two tests of the expiry differ in the second of the expiry itself.
theorem active_count_accepted_iff (store : RefreshStore) (reachable : ReachableStore hash store) (now : Int) :
    activeCount now store = Set.ncard {key | Accepted hash store now key} ↔
      ∀ key record, store.lookup key = some record → record.revoked = false → record.expiresAt ≠ now := by
  have within : ∀ record ∈ Table.values store.tokens,
      (!record.revoked && decide (record.expiresAt > now)) = true → unexpired now record = true := by
    intro record _ active
    simp only [unexpired, Bool.and_eq_true, decide_eq_true_eq] at active ⊢
    exact ⟨active.1, by omega⟩
  rw [ncard_accepted hash store reachable, activeCount, List.countP_eq_iff_of_imp _ _ _ within]
  constructor
  · intro counted key record present live boundary
    have member : record ∈ Table.values store.tokens :=
      List.mem_map_of_mem (f := Sigma.snd) ((Table.mem_entries store.tokens key record).mpr present)
    have active := counted record member (by simp [unexpired, live, boundary])
    simp [boundary] at active
  · intro apart record member live
    obtain ⟨⟨key, _⟩, row, rfl⟩ := List.mem_map.mp member
    have present := (Table.mem_entries store.tokens key _).mp row
    simp only [unexpired, Bool.and_eq_true, Bool.not_eq_true', decide_eq_true_eq] at live ⊢
    have off := apart key _ present live.1
    exact ⟨live.1, by omega⟩

end Counting

def oneToken : RefreshStore :=
  (refreshMachine sampleHash).run empty [.issue "u-alice" 60 ⟨"r1", "t1"⟩ 0]

theorem one_token_reachable : ReachableStore sampleHash oneToken :=
  ⟨_, fresh_run_of_decided sampleHash _ (by decide) (by decide) (by decide), rfl⟩

theorem one_token_lookup (key : String) (record : StoredRefreshToken) (present : oneToken.lookup key = some record) :
    record.expiresAt = 60 := by
  have stored : oneToken = RefreshStore.insert (newRecord sampleHash "u-alice" 60 ⟨"r1", "t1"⟩ 0) empty := rfl
  rw [stored, lookup_insert] at present
  by_cases same : key = "r1"
  · simp only [newRecord, same, if_true, Option.some.injEq] at present
    rw [← present]
    decide
  · simp [newRecord, same] at present

theorem active_count_accepted_iff_before :
    ReachableStore sampleHash oneToken ∧ activeCount 59 oneToken = 1 ∧
      activeCount 59 oneToken = Set.ncard {key | Accepted sampleHash oneToken 59 key} := by
  refine ⟨one_token_reachable, by decide, ?_⟩
  apply (active_count_accepted_iff sampleHash oneToken one_token_reachable 59).mpr
  intro key record present _
  rw [one_token_lookup key record present]
  decide

theorem expiring_token_uncounted :
    ReachableStore sampleHash oneToken ∧
      activeCount 60 oneToken ≠ Set.ncard {key | Accepted sampleHash oneToken 60 key} := by
  refine ⟨one_token_reachable, ?_⟩
  rw [ncard_accepted sampleHash oneToken one_token_reachable]
  decide

end Moxui.Auth
