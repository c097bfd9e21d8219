import Moxui.Api.Clusters
import Moxui.Lib.Interleaving
import Moxui.Lib.Table

set_option autoImplicit false

namespace Moxui.Api

-- Moments of the monotonic clock and durations are in nanoseconds.
def readinessCacheTtl : Nat := 10 * 1000000000

inductive ClusterStatus where
  | healthy
  | unhealthy
deriving DecidableEq, Repr

def ClusterStatus.isHealthy : ClusterStatus → Bool
  | healthy => true
  | unhealthy => false

def ClusterStatus.label : ClusterStatus → String
  | healthy => "healthy"
  | unhealthy => "unhealthy"

def ClusterStatus.ofPing (ok : Bool) : ClusterStatus :=
  if ok then .healthy else .unhealthy

structure ReadinessSnapshot where
  clusters : Table String ClusterStatus
  checkedAt : Nat

def ReadinessSnapshot.allHealthy (snapshot : ReadinessSnapshot) : Bool :=
  snapshot.clusters.values.all ClusterStatus.isHealthy

def readyzResponse (snapshot : ReadinessSnapshot) : Response :=
  if snapshot.allHealthy then { status := 200, headers := [], body := .empty }
  else jsonResponse 503 (.obj [("status", .str "unready"),
    ("clusters", .obj (snapshot.clusters.entries.map fun entry => (entry.1, .str entry.2.label)))])

namespace Readiness

abbrev Cache : Type := Table String (ClusterStatus × Nat)

-- The cache, and the clock, which never goes back.
structure Shared where
  cache : Cache
  clock : Nat

-- What a step hears: how much time has gone by, how the pings have ended, and how long each
-- insertion takes.
structure Heard where
  elapsed : Nat
  pings : Nat → Bool
  lags : Nat → Nat

inductive Call where
  | started
  | selecting (now : Nat)
  | probing (now : Nat) (toProbe : List ProxmoxClient)
  | storing (now : Nat) (results : List (String × ClusterStatus))
  | snapshotting (now : Nat)

def Shared.tick (shared : Shared) (elapsed : Nat) : Shared :=
  { shared with clock := shared.clock + elapsed }

-- `duration_since` is zero for what is not in the past.
def stale (now : Nat) (cache : Cache) (name : String) : Bool :=
  match cache.lookup name with
  | none => true
  | some entry => decide (now - entry.2 > readinessCacheTtl)

-- The pings of a call run at the same time; `join_all` gives their results in order.
def pinged (pings : Nat → Bool) : Nat → List ProxmoxClient → List (String × ClusterStatus)
  | _, [] => []
  | index, client :: clients => (client.name, .ofPing (pings index)) :: pinged pings (index + 1) clients

def insertAll (lags : Nat → Nat) : Nat → List (String × ClusterStatus) → Shared → Shared
  | _, [], shared => shared
  | index, (name, status) :: results, shared =>
      let shared := shared.tick (lags index)
      insertAll lags (index + 1) results { shared with cache := shared.cache.insert name (status, shared.clock) }

def statuses (cache : Cache) : Table String ClusterStatus :=
  ⟨cache.entries.map (Sigma.map id fun _ entry => entry.1), cache.nodupKeys.map₂ _⟩

variable (clients : List ProxmoxClient)

def advance (call : Call) (heard : Heard) (shared : Shared) : Shared × (Call ⊕ ReadinessSnapshot) :=
  let shared := shared.tick heard.elapsed
  match call with
  | .started => (shared, .inl (.selecting shared.clock))
  | .selecting now =>
      let toProbe := clients.filter fun client => stale now shared.cache client.name
      if toProbe.isEmpty then (shared, .inl (.snapshotting now)) else (shared, .inl (.probing now toProbe))
  | .probing now toProbe => (shared, .inl (.storing now (pinged heard.pings 0 toProbe)))
  | .storing now results => (insertAll heard.lags 0 results shared, .inl (.snapshotting now))
  | .snapshotting now => (shared, .inr { clusters := statuses shared.cache, checkedAt := now })

def protocol : Protocol Shared Unit Call Heard ReadinessSnapshot :=
  { enter := fun _ => .started, advance := advance clients }

abbrev Step : Type := Protocol.Taken Shared Call Heard ReadinessSnapshot

def FreshSince (since : Nat) (shared : Shared) (name : String) : Prop :=
  ∃ entry, shared.cache.lookup name = some entry ∧ since ≤ entry.2

structure Stored (results : List (String × ClusterStatus)) (before after : Shared) : Prop where
  clock : before.clock ≤ after.clock
  entries : ∀ name entry, after.cache.lookup name = some entry →
    before.cache.lookup name = some entry ∨
      ((name, entry.1) ∈ results ∧ before.clock ≤ entry.2 ∧ entry.2 ≤ after.clock)
  kept : ∀ since name, since ≤ before.clock → FreshSince since before name → FreshSince since after name
  added : ∀ name, name ∈ results.map Prod.fst → FreshSince before.clock after name

theorem stored_none (shared : Shared) (elapsed : Nat) : Stored [] shared (shared.tick elapsed) := by
  refine ⟨Nat.le_add_right _ _, fun name entry found => Or.inl found, fun since name _ fresh => fresh, ?_⟩
  intro name member
  cases member

theorem stored_one (shared : Shared) (elapsed : Nat) (name : String) (status : ClusterStatus) :
    Stored [(name, status)] shared
      ⟨shared.cache.insert name (status, shared.clock + elapsed), shared.clock + elapsed⟩ := by
  have later : shared.clock ≤ shared.clock + elapsed := Nat.le_add_right _ _
  refine ⟨later, ?_, ?_, ?_⟩
  · intro other entry found
    rw [Table.lookup_insert_eq] at found
    by_cases same : other = name
    · rw [if_pos same] at found
      cases found
      exact Or.inr ⟨by rw [same]; exact List.mem_cons_self, later, Nat.le_refl _⟩
    · rw [if_neg same] at found
      exact Or.inl found
  · intro since other past fresh
    obtain ⟨entry, found, recent⟩ := fresh
    by_cases same : other = name
    · exact ⟨(status, shared.clock + elapsed), by rw [Table.lookup_insert_eq, if_pos same], Nat.le_trans past later⟩
    · exact ⟨entry, by rw [Table.lookup_insert_eq, if_neg same]; exact found, recent⟩
  · intro other member
    rw [List.map_singleton, List.mem_singleton] at member
    exact ⟨(status, shared.clock + elapsed), by rw [Table.lookup_insert_eq, if_pos member], later⟩

theorem stored_trans {first second : List (String × ClusterStatus)} {before between after : Shared}
    (early : Stored first before between) (late : Stored second between after) :
    Stored (first ++ second) before after := by
  refine ⟨Nat.le_trans early.clock late.clock, ?_, ?_, ?_⟩
  · intro name entry found
    rcases late.entries name entry found with old | ⟨member, since, upTo⟩
    · rcases early.entries name entry old with older | ⟨member, since, upTo⟩
      · exact Or.inl older
      · exact Or.inr ⟨List.mem_append_left _ member, since, Nat.le_trans upTo late.clock⟩
    · exact Or.inr ⟨List.mem_append_right _ member, Nat.le_trans early.clock since, upTo⟩
  · intro since name past fresh
    exact late.kept since name (Nat.le_trans past early.clock) (early.kept since name past fresh)
  · intro name member
    rw [List.map_append, List.mem_append] at member
    rcases member with first | second
    · exact late.kept _ name early.clock (early.added name first)
    · obtain ⟨entry, found, recent⟩ := late.added name second
      exact ⟨entry, found, Nat.le_trans early.clock recent⟩

theorem insert_all_stored (lags : Nat → Nat) (index : Nat) (results : List (String × ClusterStatus)) (shared : Shared) :
    Stored results shared (insertAll lags index results shared) := by
  induction results generalizing index shared with
  | nil => exact stored_none shared 0
  | cons result results ih =>
      obtain ⟨name, status⟩ := result
      exact stored_trans (stored_one shared (lags index) name status) (ih (index + 1) _)

def Call.results : Call → List (String × ClusterStatus)
  | .storing _ results => results
  | _ => []

theorem advance_stored (call : Call) (heard : Heard) (shared : Shared) :
    Stored call.results shared (advance clients call heard shared).1 := by
  have ticked := stored_none shared heard.elapsed
  cases call with
  | started => exact ticked
  | selecting now =>
      simp only [advance]
      split
      · exact ticked
      · exact ticked
  | probing now toProbe => exact ticked
  | storing now results => exact stored_trans ticked (insert_all_stored heard.lags 0 results _)
  | snapshotting now => exact ticked

theorem stale_false_iff (now : Nat) (shared : Shared) (name : String) :
    stale now shared.cache name = false ↔ FreshSince (now - readinessCacheTtl) shared name := by
  rw [stale, FreshSince]
  cases shared.cache.lookup name with
  | none => simp
  | some entry =>
      simp only [decide_eq_false_iff_not, Option.some.injEq, exists_eq_left']
      omega

theorem pinged_names (pings : Nat → Bool) (index : Nat) (toProbe : List ProxmoxClient) :
    (pinged pings index toProbe).map Prod.fst = toProbe.map ProxmoxClient.name := by
  induction toProbe generalizing index with
  | nil => rfl
  | cons client toProbe ih => rw [pinged, List.map_cons, List.map_cons, ih]

theorem lookup_statuses (cache : Cache) (name : String) :
    (statuses cache).lookup name = (cache.lookup name).map Prod.fst := by
  apply Option.ext
  intro status
  rw [← Table.mem_entries, Option.map_eq_some_iff, statuses]
  simp only [List.mem_map]
  constructor
  · intro found
    obtain ⟨entry, member, same⟩ := found
    cases same
    exact ⟨entry.2, (Table.mem_entries cache entry.1 entry.2).mp member, rfl⟩
  · intro found
    obtain ⟨entry, member, same⟩ := found
    subst same
    exact ⟨⟨name, entry⟩, (Table.mem_entries cache name entry).mpr member, rfl⟩

section Promised

def clientNames : List String := clients.map ProxmoxClient.name

def Pinged (past : List Step) (name : String) (status : ClusterStatus) : Prop :=
  ∃ step ∈ past, ∃ now toProbe, step.call = .probing now toProbe ∧ (name, status) ∈ pinged step.heard.pings 0 toProbe

def Obtained (past : List Step) (name : String) (status : ClusterStatus) (moment : Nat) : Prop :=
  ∃ earlier step, earlier ++ [step] <+: past ∧ Pinged earlier name status ∧ (name, status) ∈ step.call.results ∧
    step.before.clock ≤ moment ∧ moment ≤ step.after.clock

def Selected (past : List Step) (now : Nat) (toProbe : List ProxmoxClient) : Prop :=
  ∃ step ∈ past, step.call = .selecting now ∧ step.left = .inl (.probing now toProbe) ∧
    ∀ client ∈ toProbe, client ∈ clients ∧ stale now step.before.cache client.name = true

def Began (past : List Step) (now : Nat) : Prop :=
  ∃ step ∈ past, step.call = .started ∧ step.left = .inl (.selecting now) ∧ step.after.clock = now

-- A snapshot names the configured clusters and no others, with statuses from pings that were
-- stored at most the TTL before the call began, or later; `readyz` is positive exactly when all are healthy.
structure SnapshotSound (past : List Step) (step : Step) (snapshot : ReadinessSnapshot) : Prop where
  keys : ∀ name, (snapshot.clusters.lookup name).isSome = true ↔ name ∈ clientNames clients
  began : Began past snapshot.checkedAt ∧ snapshot.checkedAt ≤ step.before.clock
  recent : ∀ name status, snapshot.clusters.lookup name = some status →
    ∃ moment, Obtained past name status moment ∧ moment ≤ step.before.clock ∧
      (snapshot.checkedAt ≤ moment ∨ snapshot.checkedAt - moment ≤ readinessCacheTtl)
  ready : (readyzResponse snapshot).status = 200 ↔
    ∀ name ∈ clientNames clients, snapshot.clusters.lookup name = some .healthy

structure StepSound (past : List Step) (step : Step) : Prop where
  snapshot : ∀ snapshot, step.left = .inr snapshot → SnapshotSound clients past step snapshot
  pings : ∀ now toProbe, step.call = .probing now toProbe → Selected clients past now toProbe

def AllSound (steps : List Step) : Prop :=
  ∀ earlier step, earlier ++ [step] <+: steps → StepSound clients earlier step

end Promised

section Invariant

def Covered (now : Nat) (shared : Shared) (names : List String) : Prop :=
  ∀ client ∈ clients, client.name ∈ names ∨ FreshSince (now - readinessCacheTtl) shared client.name

-- What is known of a call in flight.
def CallInv (past : List Step) (shared : Shared) : Call → Prop
  | .started => True
  | .selecting now => Began past now ∧ now ≤ shared.clock
  | .probing now toProbe => (Began past now ∧ now ≤ shared.clock) ∧ Selected clients past now toProbe ∧
      Covered clients now shared (toProbe.map ProxmoxClient.name)
  | .storing now results => (Began past now ∧ now ≤ shared.clock) ∧
      (∀ result ∈ results, result.1 ∈ clientNames clients ∧ Pinged past result.1 result.2) ∧
      Covered clients now shared (results.map Prod.fst)
  | .snapshotting now => (Began past now ∧ now ≤ shared.clock) ∧ Covered clients now shared []

structure Inv (past : List Step) (pool : Protocol.Pool Shared Call) : Prop where
  cached : ∀ name entry, pool.shared.cache.lookup name = some entry →
    name ∈ clientNames clients ∧ Obtained past name entry.1 entry.2 ∧ entry.2 ≤ pool.shared.clock
  calls : ∀ call ∈ pool.calls, CallInv clients past pool.shared call
  sound : AllSound clients past

variable {clients}

theorem Pinged.later {past : List Step} {name : String} {status : ClusterStatus} (pinged : Pinged past name status)
    (more : List Step) : Pinged (past ++ more) name status := by
  obtain ⟨step, member, rest⟩ := pinged
  exact ⟨step, List.mem_append_left _ member, rest⟩

theorem Obtained.later {past : List Step} {name : String} {status : ClusterStatus} {moment : Nat}
    (obtained : Obtained past name status moment) (more : List Step) : Obtained (past ++ more) name status moment := by
  obtain ⟨earlier, step, before, rest⟩ := obtained
  exact ⟨earlier, step, before.trans (List.prefix_append past more), rest⟩

theorem Selected.later {past : List Step} {now : Nat} {toProbe : List ProxmoxClient}
    (selected : Selected clients past now toProbe) (more : List Step) : Selected clients (past ++ more) now toProbe := by
  obtain ⟨step, member, rest⟩ := selected
  exact ⟨step, List.mem_append_left _ member, rest⟩

theorem Began.later {past : List Step} {now : Nat} (began : Began past now) (more : List Step) :
    Began (past ++ more) now := by
  obtain ⟨step, member, rest⟩ := began
  exact ⟨step, List.mem_append_left _ member, rest⟩

theorem Covered.stored {now : Nat} {before after : Shared} {names : List String} {results : List (String × ClusterStatus)}
    (covered : Covered clients now before names) (began : now ≤ before.clock) (stored : Stored results before after) :
    Covered clients now after names := by
  intro client member
  rcases covered client member with named | fresh
  · exact Or.inl named
  · exact Or.inr (stored.kept _ client.name (by omega) fresh)

theorem call_kept {past : List Step} {before after : Shared} {call : Call} {results : List (String × ClusterStatus)}
    (known : CallInv clients past before call) (stored : Stored results before after) (more : List Step) :
    CallInv clients (past ++ more) after call := by
  have later := stored.clock
  cases call with
  | started => trivial
  | selecting now => exact ⟨known.1.later more, Nat.le_trans known.2 later⟩
  | probing now toProbe =>
      obtain ⟨⟨began, before⟩, selected, covered⟩ := known
      exact ⟨⟨began.later more, Nat.le_trans before later⟩, selected.later more, covered.stored before stored⟩
  | storing now results =>
      obtain ⟨⟨began, before⟩, pinged, covered⟩ := known
      refine ⟨⟨began.later more, Nat.le_trans before later⟩, ?_, covered.stored before stored⟩
      intro result member
      exact ⟨(pinged result member).1, (pinged result member).2.later more⟩
  | snapshotting now =>
      obtain ⟨⟨began, before⟩, covered⟩ := known
      exact ⟨⟨began.later more, Nat.le_trans before later⟩, covered.stored before stored⟩

theorem selecting_covered (now : Nat) (shared : Shared) :
    Covered clients now shared
      ((clients.filter fun client => stale now shared.cache client.name).map ProxmoxClient.name) := by
  intro client member
  cases found : stale now shared.cache client.name with
  | true => exact Or.inl (List.mem_map_of_mem (List.mem_filter.mpr ⟨member, found⟩))
  | false => exact Or.inr ((stale_false_iff now shared client.name).mp found)

theorem selecting_none (now : Nat) (heard : Heard) (shared : Shared)
    (none : (clients.filter fun client => stale now shared.cache client.name) = []) :
    (protocol clients).taken (.selecting now) heard shared =
      ⟨shared, .selecting now, heard, shared.tick heard.elapsed, .inl (.snapshotting now)⟩ := by
  apply Protocol.taken_of_advance
  simp only [protocol, advance]
  exact if_pos (List.isEmpty_iff.mpr none)

theorem selecting_some (now : Nat) (heard : Heard) (shared : Shared)
    (some : ¬ (clients.filter fun client => stale now shared.cache client.name) = []) :
    (protocol clients).taken (.selecting now) heard shared =
      ⟨shared, .selecting now, heard, shared.tick heard.elapsed,
        .inl (.probing now (clients.filter fun client => stale now shared.cache client.name))⟩ := by
  apply Protocol.taken_of_advance
  simp only [protocol, advance]
  exact if_neg fun isEmpty => some (List.isEmpty_iff.mp isEmpty)

theorem selecting_advanced {past : List Step} {shared : Shared} {now : Nat} {later : Call} {heard : Heard}
    (began : Began past now) (earlier : now ≤ shared.clock)
    (left : ((protocol clients).taken (.selecting now) heard shared).left = .inl later) :
    CallInv clients (past ++ [(protocol clients).taken (.selecting now) heard shared])
      ((protocol clients).taken (.selecting now) heard shared).after later := by
  have before : now ≤ (shared.tick heard.elapsed).clock := Nat.le_trans earlier (Nat.le_add_right _ _)
  have covered : Covered clients now (shared.tick heard.elapsed)
      ((clients.filter fun client => stale now shared.cache client.name).map ProxmoxClient.name) :=
    selecting_covered now (shared.tick heard.elapsed)
  by_cases none : (clients.filter fun client => stale now shared.cache client.name) = []
  · rw [selecting_none now heard shared none] at left ⊢
    cases left
    rw [none] at covered
    exact ⟨⟨began.later _, before⟩, covered⟩
  · rw [selecting_some now heard shared none] at left ⊢
    cases left
    refine ⟨⟨began.later _, before⟩, ⟨_, List.mem_append_right _ List.mem_cons_self, rfl, rfl, ?_⟩, covered⟩
    intro client member
    exact List.mem_filter.mp member

theorem pinged_configured {past : List Step} {now : Nat} {toProbe : List ProxmoxClient}
    (selected : Selected clients past now toProbe) (pings : Nat → Bool) (result : String × ClusterStatus)
    (member : result ∈ pinged pings 0 toProbe) : result.1 ∈ clientNames clients := by
  obtain ⟨step, _, _, _, chosen⟩ := selected
  have named : result.1 ∈ (pinged pings 0 toProbe).map Prod.fst := List.mem_map_of_mem member
  rw [pinged_names] at named
  obtain ⟨client, isProbed, same⟩ := List.mem_map.mp named
  exact List.mem_map.mpr ⟨client, (chosen client isProbed).1, same⟩

theorem Covered.all_stored {now : Nat} {before after : Shared} {results : List (String × ClusterStatus)}
    (covered : Covered clients now before (results.map Prod.fst)) (began : now ≤ before.clock)
    (stored : Stored results before after) : Covered clients now after [] := by
  intro client member
  apply Or.inr
  rcases covered client member with named | fresh
  · obtain ⟨entry, found, recent⟩ := stored.added client.name named
    exact ⟨entry, found, by omega⟩
  · exact stored.kept _ client.name (by omega) fresh

theorem call_advanced {past : List Step} {shared : Shared} {call later : Call} {heard : Heard}
    (known : CallInv clients past shared call)
    (left : ((protocol clients).taken call heard shared).left = .inl later) :
    CallInv clients (past ++ [(protocol clients).taken call heard shared])
      ((protocol clients).taken call heard shared).after later := by
  have stored := advance_stored clients call heard shared
  have clock := stored.clock
  cases call with
  | started =>
      cases left
      exact ⟨⟨_, List.mem_append_right _ List.mem_cons_self, rfl, rfl, rfl⟩, Nat.le_refl _⟩
  | selecting now => exact selecting_advanced known.1 known.2 left
  | probing now toProbe =>
      obtain ⟨⟨began, before⟩, selected, covered⟩ := known
      cases left
      refine ⟨⟨began.later _, Nat.le_trans before clock⟩, ?_, ?_⟩
      · intro result member
        exact ⟨pinged_configured selected heard.pings result member,
          ⟨_, List.mem_append_right _ List.mem_cons_self, now, toProbe, rfl, member⟩⟩
      · rw [pinged_names]
        exact covered.stored before stored
  | storing now results =>
      obtain ⟨⟨began, before⟩, _pinged, covered⟩ := known
      cases left
      exact ⟨⟨began.later _, Nat.le_trans before clock⟩, covered.all_stored before stored⟩
  | snapshotting now => cases left

theorem all_healthy_iff (snapshot : ReadinessSnapshot) :
    snapshot.allHealthy = true ↔ ∀ name status, snapshot.clusters.lookup name = some status → status = .healthy := by
  rw [ReadinessSnapshot.allHealthy, List.all_eq_true]
  constructor
  · intro healthy name status found
    have member := (Table.mem_entries snapshot.clusters name status).mpr found
    have isHealthy := healthy status (List.mem_map.mpr ⟨_, member, rfl⟩)
    cases status with
    | healthy => rfl
    | unhealthy => cases isHealthy
  · intro healthy status member
    obtain ⟨entry, found, same⟩ := List.mem_map.mp member
    have isHealthy := healthy entry.1 entry.2 ((Table.mem_entries snapshot.clusters entry.1 entry.2).mp found)
    rw [← same, isHealthy]
    rfl

theorem readyz_status (snapshot : ReadinessSnapshot) :
    (readyzResponse snapshot).status = 200 ↔ snapshot.allHealthy = true := by
  unfold readyzResponse
  by_cases healthy : snapshot.allHealthy = true
  · rw [if_pos healthy]
    simp [healthy]
  · rw [if_neg healthy]
    simp [healthy, jsonResponse]

theorem result_of_snapshotting {call : Call} {heard : Heard} {shared : Shared} {snapshot : ReadinessSnapshot}
    (left : ((protocol clients).taken call heard shared).left = .inr snapshot) :
    call = .snapshotting snapshot.checkedAt ∧ snapshot.clusters = statuses shared.cache := by
  cases call with
  | started => cases left
  | selecting now =>
      simp only [Protocol.taken, protocol, advance] at left
      split at left
      · cases left
      · cases left
  | probing now toProbe => cases left
  | storing now results => cases left
  | snapshotting now =>
      cases left
      exact ⟨rfl, rfl⟩

section Snapshot

variable {past : List Step} {pool : Protocol.Pool Shared Call} {heard : Heard} {snapshot : ReadinessSnapshot}

theorem snapshot_keys (inv : Inv clients past pool) (known : CallInv clients past pool.shared (.snapshotting snapshot.checkedAt))
    (copied : snapshot.clusters = statuses pool.shared.cache) (name : String) :
    (snapshot.clusters.lookup name).isSome = true ↔ name ∈ clientNames clients := by
  rw [copied, lookup_statuses, Option.isSome_map]
  constructor
  · intro isKey
    obtain ⟨entry, found⟩ := Option.isSome_iff_exists.mp isKey
    exact (inv.cached name entry found).1
  · intro named
    obtain ⟨client, member, same⟩ := List.mem_map.mp named
    rcases known.2 client member with impossible | fresh
    · cases impossible
    · obtain ⟨entry, found, _⟩ := fresh
      rw [← same, found]
      rfl

theorem snapshot_recent (inv : Inv clients past pool)
    (known : CallInv clients past pool.shared (.snapshotting snapshot.checkedAt))
    (copied : snapshot.clusters = statuses pool.shared.cache) (name : String) (status : ClusterStatus)
    (found : snapshot.clusters.lookup name = some status) :
    ∃ moment, Obtained past name status moment ∧ moment ≤ pool.shared.clock ∧
      (snapshot.checkedAt ≤ moment ∨ snapshot.checkedAt - moment ≤ readinessCacheTtl) := by
  rw [copied, lookup_statuses] at found
  obtain ⟨entry, cached, same⟩ := Option.map_eq_some_iff.mp found
  obtain ⟨named, obtained, before⟩ := inv.cached name entry cached
  obtain ⟨client, member, sameName⟩ := List.mem_map.mp named
  refine ⟨entry.2, same ▸ obtained, before, ?_⟩
  rcases known.2 client member with impossible | fresh
  · cases impossible
  · obtain ⟨other, foundOther, recent⟩ := fresh
    rw [sameName, cached] at foundOther
    cases foundOther
    omega

theorem snapshot_sound (inv : Inv clients past pool)
    (known : CallInv clients past pool.shared (.snapshotting snapshot.checkedAt))
    (copied : snapshot.clusters = statuses pool.shared.cache) :
    SnapshotSound clients past ((protocol clients).taken (.snapshotting snapshot.checkedAt) heard pool.shared) snapshot := by
  have keys := snapshot_keys inv known copied
  refine ⟨keys, known.1, snapshot_recent inv known copied, ?_⟩
  rw [readyz_status, all_healthy_iff]
  constructor
  · intro healthy name named
    obtain ⟨status, found⟩ := Option.isSome_iff_exists.mp ((keys name).mpr named)
    rw [found, healthy name status found]
  · intro healthy name status found
    have named := (keys name).mp (by rw [found]; rfl)
    rw [healthy name named] at found
    cases found
    rfl

end Snapshot

theorem step_sound {past : List Step} {pool : Protocol.Pool Shared Call} {call : Call} (heard : Heard)
    (inv : Inv clients past pool) (known : CallInv clients past pool.shared call) :
    StepSound clients past ((protocol clients).taken call heard pool.shared) := by
  constructor
  · intro snapshot left
    obtain ⟨same, copied⟩ := result_of_snapshotting left
    subst same
    exact snapshot_sound inv known copied
  · intro now toProbe same
    have isProbing : call = .probing now toProbe := same
    subst isProbing
    exact known.2.1

theorem cached_advanced {past : List Step} {pool : Protocol.Pool Shared Call} {call : Call} (heard : Heard)
    (inv : Inv clients past pool) (known : CallInv clients past pool.shared call) (name : String)
    (entry : ClusterStatus × Nat)
    (found : ((protocol clients).taken call heard pool.shared).after.cache.lookup name = some entry) :
    name ∈ clientNames clients ∧
      Obtained (past ++ [(protocol clients).taken call heard pool.shared]) name entry.1 entry.2 ∧
      entry.2 ≤ ((protocol clients).taken call heard pool.shared).after.clock := by
  have stored := advance_stored clients call heard pool.shared
  rcases stored.entries name entry found with old | ⟨member, since, upTo⟩
  · obtain ⟨named, obtained, before⟩ := inv.cached name entry old
    exact ⟨named, obtained.later _, Nat.le_trans before stored.clock⟩
  · have result : name ∈ clientNames clients ∧ Pinged past name entry.1 := by
      cases call with
      | storing now results => exact known.2.1 _ member
      | _ => cases member
    exact ⟨result.1, ⟨past, _, List.prefix_refl _, result.2, member, since, upTo⟩, upTo⟩

theorem inv_entered {past : List Step} {pool : Protocol.Pool Shared Call} (request : Unit)
    (inv : Inv clients past pool) : Inv clients past { pool with calls := (protocol clients).enter request :: pool.calls } := by
  refine ⟨inv.cached, ?_, inv.sound⟩
  intro call member
  rcases List.mem_cons.mp member with isNew | older
  · rw [isNew]
    trivial
  · exact inv.calls call older

theorem inv_advanced {past : List Step} {pool : Protocol.Pool Shared Call} {call : Call} (heard : Heard)
    {rest : List Call} (perm : pool.calls.Perm (call :: rest)) (inv : Inv clients past pool) :
    Inv clients (past ++ [(protocol clients).taken call heard pool.shared])
      ⟨((protocol clients).taken call heard pool.shared).after,
        Protocol.resume ((protocol clients).taken call heard pool.shared).left rest⟩ := by
  have known := inv.calls call (perm.mem_iff.mpr List.mem_cons_self)
  refine ⟨cached_advanced heard inv known, ?_, ?_⟩
  · intro other member
    rcases Protocol.in_flight_after pool.calls rest call perm _ other member with left | waiting
    · exact call_advanced known left
    · exact call_kept (inv.calls other waiting) (advance_stored clients call heard pool.shared) _
  · intro earlier step before
    rcases List.prefix_concat_iff.mp before with whole | inside
    · obtain ⟨rfl, same⟩ := List.append_inj' whole rfl
      cases same
      exact step_sound heard inv known
    · exact inv.sound earlier step inside

end Invariant

theorem history_inv (clock : Nat) (turns : List (Protocol.Turn Unit Heard)) :
    Inv clients ((protocol clients).steps ⟨⟨∅, clock⟩, []⟩ turns) ((protocol clients).machine.run ⟨⟨∅, clock⟩, []⟩ turns) := by
  apply (protocol clients).steps_history ⟨⟨∅, clock⟩, []⟩ (fun _ => True) (Inv clients)
  · refine ⟨?_, ?_, ?_⟩
    · intro name entry found
      simp at found
    · intro call member
      cases member
    · intro earlier step before
      simp at before
  · intro past pool request inv
    exact inv_entered request inv
  · intro past pool call heard rest perm _ inv
    exact inv_advanced heard perm inv
  · intro step _
    trivial

-- From an empty cache, with any number of calls at a time in any order.
theorem readiness_sound (clock : Nat) (turns : List (Protocol.Turn Unit Heard)) :
    AllSound clients ((protocol clients).steps ⟨⟨∅, clock⟩, []⟩ turns) :=
  (history_inv clients clock turns).sound

def answered (step : Step) : Option Nat :=
  match step.left with
  | .inl _ => none
  | .inr snapshot => some (readyzResponse snapshot).status

def callTurns (elapsed : Nat) (ok : Bool) (steps : Nat) : List (Protocol.Turn Unit Heard) :=
  .starts () :: .advances 0 ⟨elapsed, fun _ => ok, fun _ => 0⟩ ::
    List.replicate steps (.advances 0 ⟨0, fun _ => ok, fun _ => 0⟩)

-- The second call still relies on the failed ping of the first one, the third one pings.
example : ((protocol [⟨"prod", "https://prod.local:8006"⟩]).steps ⟨⟨∅, 0⟩, []⟩
    (callTurns 0 false 4 ++ callTurns readinessCacheTtl true 2 ++ callTurns 1 true 4)).filterMap answered =
      [503, 503, 200] := by
  decide +kernel

end Readiness

end Moxui.Api
