import StackOperator.Proofs.PatchRoundTrip
import StackOperator.Proofs.TerminalPhase
import Mathlib.Data.Set.Insert
import Mathlib.Order.Bounds.Defs

/-!
# The algebra of deployment statuses

A server status is created new or started at an instant and then changed only by finishing it,
finishing it with a failure and recording derived parameters (`ServerStatus.Update`). A resource
status holds the server statuses as a map from qualifier to status and is changed by storing a
status under its qualifier.

* `keeps_applyAll`: every sequence of changes keeps the qualifier, kind and start of a status,
  and a finish or failure once recorded (`ServerStatus.Keeps`, from the one-change lemma
  `keeps_apply`), so the first failure recorded is the one kept;
* `failureFinished_applyAll`: a status that carries a failure has finished, from a new or started
  status on (`ServerStatus.FailureFinished`, kept by every change);
* `mem_servers_put_iff`: storing a status replaces the entry of its qualifier and keeps every
  other; the map of statuses keeps its qualifiers ascending, so its entries are what the
  qualifiers look up (`KeyMap.mem_iff_get?`);
* `hasFailed_iff`, `hasFailedSince_mono`, `lastFinished_isGreatest`: the queries of a resource
  status agree with the statuses its qualifiers look up: it has failed exactly when one of them
  carries a failure, a failure since an instant is one since any earlier instant, and the last
  finish is the greatest finish instant among them.

Main statement: `status_algebra`.
-/

namespace StackOperator

/-! ## Instants in order -/

namespace Instant

theorem le_trans {a b c : Instant} (first : a ≤ b) (second : b ≤ c) : a ≤ c := by
  change a.seconds < b.seconds ∨ (a.seconds = b.seconds ∧ a.frac ≤ b.frac) at first
  change b.seconds < c.seconds ∨ (b.seconds = c.seconds ∧ b.frac ≤ c.frac) at second
  show a.seconds < c.seconds ∨ (a.seconds = c.seconds ∧ a.frac ≤ c.frac)
  omega

theorem le_total (a b : Instant) : a ≤ b ∨ b ≤ a := by
  show (a.seconds < b.seconds ∨ (a.seconds = b.seconds ∧ a.frac ≤ b.frac)) ∨
    (b.seconds < a.seconds ∨ (b.seconds = a.seconds ∧ b.frac ≤ a.frac))
  omega

theorem le_antisymm {a b : Instant} (first : a ≤ b) (second : b ≤ a) : a = b := by
  change a.seconds < b.seconds ∨ (a.seconds = b.seconds ∧ a.frac ≤ b.frac) at first
  change b.seconds < a.seconds ∨ (b.seconds = a.seconds ∧ b.frac ≤ a.frac) at second
  obtain ⟨seconds, frac⟩ : a.seconds = b.seconds ∧ a.frac = b.frac := by omega
  cases a
  cases b
  simp_all

end Instant

/-! ## Changes to one server status -/

namespace ServerStatus

/-- The changes a pass makes to a server status it has created. -/
inductive Update where
  | finish (now : Instant)
  | finishWith (failure : ControllerFailure) (now : Instant)
  | putDerived (key value : String)

/-- Make one change. -/
def Update.apply : Update → ServerStatus → ServerStatus
  | .finish now, s => s.finish now
  | .finishWith failure now, s => s.finishWith failure now
  | .putDerived key value, s => s.putDerived key value

/-- Make changes in turn. -/
def applyAll (s : ServerStatus) (us : List Update) : ServerStatus :=
  us.foldl (fun s u => u.apply s) s

theorem applyAll_append (s : ServerStatus) (us vs : List Update) :
    s.applyAll (us ++ vs) = (s.applyAll us).applyAll vs :=
  List.foldl_append

/-- The statuses a pass creates: a new one, and one started at an instant. -/
inductive Fresh : ServerStatus → Prop
  | new (qualifier : String) (kind : ServerKind) : Fresh { qualifier, kind }
  | startedAt (qualifier : String) (kind : ServerKind) (now : Instant) :
      Fresh (startedAt qualifier kind now)

/-- `b` carries `a` on: the same qualifier, kind and start, and the finish and the failure of `a`,
once recorded, unchanged. -/
structure Keeps (a b : ServerStatus) : Prop where
  qualifier : b.qualifier = a.qualifier
  kind : b.kind = a.kind
  started : b.started = a.started
  finished : ∀ t, a.finished = some t → b.finished = some t
  failure : ∀ f, a.failure = some f → b.failure = some f

theorem Keeps.refl (s : ServerStatus) : s.Keeps s :=
  ⟨rfl, rfl, rfl, fun _ => id, fun _ => id⟩

theorem Keeps.trans {a b c : ServerStatus} (first : a.Keeps b) (second : b.Keeps c) : a.Keeps c :=
  ⟨second.qualifier.trans first.qualifier, second.kind.trans first.kind,
    second.started.trans first.started, fun t ht => second.finished t (first.finished t ht),
    fun f hf => second.failure f (first.failure f hf)⟩

/-- A status that carries a failure has finished. -/
def FailureFinished (s : ServerStatus) : Prop := s.failure.isSome → s.finished.isSome

theorem Fresh.failureFinished {s : ServerStatus} (fresh : s.Fresh) : s.FailureFinished := by
  cases fresh <;> simp [FailureFinished, ServerStatus.startedAt]

theorem keeps_finish (s : ServerStatus) (now : Instant) : s.Keeps (s.finish now) := by
  unfold finish
  split
  · exact Keeps.refl s
  · next unfinished => exact ⟨rfl, rfl, rfl, fun t ht => by simp [unfinished] at ht, fun _ => id⟩

theorem isSome_finished_finish (s : ServerStatus) (now : Instant) : (s.finish now).finished.isSome := by
  unfold finish
  split
  · next t stamped => simp [stamped]
  · rfl

theorem keeps_finishWith (s : ServerStatus) (f : ControllerFailure) (now : Instant) :
    s.Keeps (s.finishWith f now) := by
  unfold finishWith
  refine Keeps.trans ?_ (keeps_finish _ now)
  split
  · exact Keeps.refl s
  · next clean => exact ⟨rfl, rfl, rfl, fun _ => id, fun g hg => by simp [clean] at hg⟩

/-- One change carries a status on. -/
theorem keeps_apply (u : Update) (s : ServerStatus) : s.Keeps (u.apply s) := by
  cases u with
  | finish now => exact keeps_finish s now
  | finishWith f now => exact keeps_finishWith s f now
  | putDerived key value => exact ⟨rfl, rfl, rfl, fun _ => id, fun _ => id⟩

/-- One change records a failure only while finishing. -/
theorem failureFinished_apply (u : Update) {s : ServerStatus} (settled : s.FailureFinished) :
    (u.apply s).FailureFinished := by
  cases u with
  | finish now => exact fun _ => isSome_finished_finish s now
  | finishWith f now => exact fun _ => isSome_finished_finish _ now
  | putDerived key value => exact settled

theorem keeps_applyAll (s : ServerStatus) (us : List Update) : s.Keeps (s.applyAll us) := by
  induction us generalizing s with
  | nil => exact Keeps.refl s
  | cons u rest ih => exact (keeps_apply u s).trans (ih (u.apply s))

theorem failureFinished_applyAll {s : ServerStatus} (settled : s.FailureFinished) (us : List Update) :
    (s.applyAll us).FailureFinished := by
  induction us generalizing s with
  | nil => exact settled
  | cons u rest ih => exact ih (failureFinished_apply u settled)

end ServerStatus

/-! ## Server statuses stored in a resource status -/

namespace ResourceStatus

/-- Storing a status replaces the entry of its qualifier and keeps every other one. -/
theorem mem_servers_put_iff (r : ResourceStatus) (s : ServerStatus) (e : String × ServerStatus) :
    e ∈ (r.put s).servers.entries ↔ e = (s.qualifier, s) ∨ (e ∈ r.servers.entries ∧ e.1 ≠ s.qualifier) := by
  rw [KeyMap.mem_iff_get?, KeyMap.mem_iff_get?]
  simp only [put, KeyMap.get?_put]
  obtain ⟨q, t⟩ := e
  by_cases same : q = s.qualifier
  · subst same
    simp [eq_comm]
  · simp [same]

/-- A failure is found exactly when a qualifier looks up a status that carries one. -/
theorem hasFailed_iff (r : ResourceStatus) :
    r.hasFailed = true ↔ ∃ q s, r.serverStatus? q = some s ∧ s.hasFailed = true := by
  rw [hasFailed, List.any_eq_true]
  constructor
  · rintro ⟨⟨q, s⟩, mem, failed⟩
    exact ⟨q, s, KeyMap.get?_of_mem mem, failed⟩
  · rintro ⟨q, s, found, failed⟩
    exact ⟨(q, s), KeyMap.mem_of_get? found, failed⟩

theorem finalPhase_eq_failed_iff (r : ResourceStatus) : r.finalPhase = .failed ↔ r.hasFailed = true := by
  unfold finalPhase
  split
  · next failed => simp [failed]
  · next clean => simp [clean]

theorem hasFailed_of_hasFailedSince {r : ResourceStatus} {since : Instant}
    (failed : r.hasFailedSince since = true) : r.hasFailed = true := by
  rw [hasFailedSince, List.any_eq_true] at failed
  obtain ⟨e, mem, both⟩ := failed
  exact List.any_eq_true.mpr ⟨e, mem, (Bool.and_eq_true _ _).mp both |>.1⟩

/-- A failure since an instant is a failure since any earlier instant. -/
theorem hasFailedSince_mono {r : ResourceStatus} {since since' : Instant} (earlier : since ≤ since')
    (failed : r.hasFailedSince since' = true) : r.hasFailedSince since = true := by
  rw [hasFailedSince, List.any_eq_true] at failed ⊢
  obtain ⟨e, mem, both⟩ := failed
  obtain ⟨hasFailed, started⟩ := (Bool.and_eq_true _ _).mp both
  obtain ⟨t, startedAt, after⟩ := (Option.any_eq_true _ _).mp started
  refine ⟨e, mem, (Bool.and_eq_true _ _).mpr ⟨hasFailed, (Option.any_eq_true _ _).mpr ⟨t, startedAt, ?_⟩⟩⟩
  exact decide_eq_true (Instant.le_trans earlier (of_decide_eq_true after))

/-! ### The last finish -/

/-- The finish instants of the statuses the qualifiers look up. -/
def finishTimes (r : ResourceStatus) : Set Instant :=
  {t | ∃ q s, r.serverStatus? q = some s ∧ s.finished = some t}

/-- The later of the latest finish so far and a status's finish, as `lastFinished` folds them. -/
def latest : Option Instant → Option Instant → Option Instant
  | some a, some b => some (Instant.max a b)
  | none, b => b
  | a, none => a

theorem lastFinished_eq_foldl (r : ResourceStatus) :
    r.lastFinished = r.servers.entries.foldl (fun acc e => latest acc e.2.finished) none := by
  unfold lastFinished
  generalize (none : Option Instant) = acc
  induction r.servers.entries generalizing acc with
  | nil => rfl
  | cons e rest ih =>
    simp only [List.foldl_cons]
    rw [← ih]
    -- one step of the fold, by the finish so far and the entry's finish
    obtain ⟨q, s⟩ := e
    cases acc <;> cases s.finished <;> rfl

/-- `acc` is the greatest of the instants `ts`, and nothing when there are none. -/
structure LatestOf (acc : Option Instant) (ts : Set Instant) : Prop where
  none_iff : acc = none ↔ ts = ∅
  greatest : ∀ m, acc = some m → IsGreatest ts m

theorem latestOf_empty : LatestOf none ∅ :=
  ⟨by simp, fun _ absent => by cases absent⟩

/-- One step of the fold takes in one more finish, if there is one. -/
theorem LatestOf.latest {acc : Option Instant} {ts : Set Instant} (sofar : LatestOf acc ts)
    (x : Option Instant) : LatestOf (ResourceStatus.latest acc x) (ts ∪ {t | x = some t}) := by
  cases x with
  | none =>
    have same : ts ∪ {t | (none : Option Instant) = some t} = ts := by simp
    rw [same]
    cases acc <;> exact sofar
  | some b =>
    have added : ts ∪ {t | some b = some t} = insert b ts := by
      ext t
      simp [Set.mem_insert_iff, eq_comm]
    rw [added]
    -- a finish is taken in: the fold holds an instant, and there is one
    have held : ResourceStatus.latest acc (some b) ≠ none := by
      cases acc <;> simp [ResourceStatus.latest]
    refine ⟨iff_of_false held (Set.insert_nonempty b ts).ne_empty, fun m found => ?_⟩
    cases acc with
    | none =>
      have empty : ts = ∅ := sofar.none_iff.mp rfl
      subst empty
      cases found
      refine ⟨Set.mem_insert _ _, fun t mem => ?_⟩
      rcases Set.mem_insert_iff.mp mem with rfl | absent
      · exact Instant.le_refl t
      · cases absent
    | some a =>
      obtain ⟨inTs, bound⟩ := sofar.greatest a rfl
      cases found
      unfold Instant.max
      -- the later of the two bounds every instant so far and the new one
      split
      · next below =>
        refine ⟨Set.mem_insert _ _, fun t mem => ?_⟩
        rcases Set.mem_insert_iff.mp mem with rfl | old
        · exact Instant.le_refl t
        · exact Instant.le_trans (bound old) below
      · next above =>
        have newBelow : b ≤ a := (Instant.le_total a b).resolve_left above
        refine ⟨Set.mem_insert_of_mem _ inTs, fun t mem => ?_⟩
        rcases Set.mem_insert_iff.mp mem with rfl | old
        · exact newBelow
        · exact bound old

theorem latestOf_foldl (l : List (String × ServerStatus)) {acc : Option Instant} {ts : Set Instant}
    (sofar : LatestOf acc ts) :
    LatestOf (l.foldl (fun acc e => latest acc e.2.finished) acc)
      (ts ∪ {t | ∃ e ∈ l, e.2.finished = some t}) := by
  induction l generalizing acc ts with
  | nil => simpa using sofar
  | cons e rest ih =>
    have step := ih (sofar.latest e.2.finished)
    have same : ts ∪ {t | e.2.finished = some t} ∪ {t | ∃ e ∈ rest, e.2.finished = some t} =
        ts ∪ {t | ∃ e' ∈ e :: rest, e'.2.finished = some t} := by
      ext t
      simp [or_assoc]
    rwa [same] at step

/-- The last finish is the greatest finish instant of the statuses the qualifiers look up, and
nothing when none has finished. -/
theorem lastFinished_latestOf (r : ResourceStatus) : LatestOf r.lastFinished r.finishTimes := by
  have folded := latestOf_foldl r.servers.entries latestOf_empty
  -- an entry of the map is what its qualifier looks up
  have same : ∅ ∪ {t | ∃ e ∈ r.servers.entries, e.2.finished = some t} = r.finishTimes := by
    ext t
    rw [Set.empty_union]
    constructor
    · rintro ⟨⟨q, s⟩, mem, done⟩
      exact ⟨q, s, KeyMap.get?_of_mem mem, done⟩
    · rintro ⟨q, s, found, done⟩
      exact ⟨(q, s), KeyMap.mem_of_get? found, done⟩
  rw [same, ← lastFinished_eq_foldl] at folded
  exact folded

theorem lastFinished_isGreatest (r : ResourceStatus) (m : Instant) :
    r.lastFinished = some m ↔ IsGreatest r.finishTimes m := by
  have latest := lastFinished_latestOf r
  refine ⟨latest.greatest m, fun greatest => ?_⟩
  cases found : r.lastFinished with
  | none =>
    have empty := latest.none_iff.mp found
    rw [empty] at greatest
    exact absurd greatest.1 (Set.notMem_empty m)
  | some m' =>
    obtain ⟨inTimes, bound⟩ := latest.greatest m' found
    exact congrArg some (Instant.le_antisymm (greatest.2 inTimes) (bound greatest.1))

end ResourceStatus

/-! ## The algebra -/

/-- (a) From a new or started status on, every sequence of changes keeps the qualifier, kind and
start, a recorded finish and a recorded failure, and a failure is only ever recorded on a finished
status. (b) While server statuses are stored in turn into any resource status, storing replaces
only the entry of the status's qualifier, the
resource has failed (and its final phase is `failed`) exactly when a qualifier looks up a status
that carries a failure, a failure since an instant implies a failure and is one since every earlier
instant, and the last finish is the greatest finish of the statuses looked up. -/
theorem status_algebra :
    (∀ start : ServerStatus, start.Fresh → ∀ us vs : List ServerStatus.Update,
      let s := start.applyAll us
      let s' := s.applyAll vs
      s'.qualifier = start.qualifier ∧ s'.kind = start.kind ∧ s'.started = start.started ∧
      (∀ t, s.finished = some t → s'.finished = some t) ∧
      (∀ f, s.failure = some f → s'.failure = some f) ∧
      (s'.failure.isSome → s'.finished.isSome)) ∧
    (∀ (r : ResourceStatus) (ss : List ServerStatus),
      let r' := ss.foldl ResourceStatus.put r
      (∀ s e, e ∈ (r'.put s).servers.entries ↔
        e = (s.qualifier, s) ∨ (e ∈ r'.servers.entries ∧ e.1 ≠ s.qualifier)) ∧
      (r'.hasFailed = true ↔ ∃ q s, r'.serverStatus? q = some s ∧ s.hasFailed = true) ∧
      (r'.finalPhase = .failed ↔ r'.hasFailed = true) ∧
      (∀ t, r'.hasFailedSince t = true → r'.hasFailed = true) ∧
      (∀ t t', t ≤ t' → r'.hasFailedSince t' = true → r'.hasFailedSince t = true) ∧
      (∀ m, r'.lastFinished = some m ↔ IsGreatest r'.finishTimes m) ∧
      (r'.lastFinished = none ↔ r'.finishTimes = ∅)) := by
  refine ⟨fun start fresh us vs => ?_, fun r ss => ?_⟩
  · have whole := start.keeps_applyAll (us ++ vs)
    have later := (start.applyAll us).keeps_applyAll vs
    have settled := ServerStatus.failureFinished_applyAll fresh.failureFinished (us ++ vs)
    rw [ServerStatus.applyAll_append] at whole settled
    exact ⟨whole.qualifier, whole.kind, whole.started, later.finished, later.failure, settled⟩
  · exact ⟨ResourceStatus.mem_servers_put_iff _, ResourceStatus.hasFailed_iff _,
      ResourceStatus.finalPhase_eq_failed_iff _, fun _ => ResourceStatus.hasFailed_of_hasFailedSince,
      fun _ _ => ResourceStatus.hasFailedSince_mono, ResourceStatus.lastFinished_isGreatest _,
      (ResourceStatus.lastFinished_latestOf _).none_iff⟩

/-- A started server status records a derived parameter and fails, then fails again and finishes;
it is stored into a resource status that holds a finished database status. -/
theorem status_algebra_of_failed_server :
    let start := ServerStatus.startedAt "server" .web ⟨100, 0⟩
    let first : ControllerFailure := { message := "first", detailMessage := "first" }
    let second : ControllerFailure := { message := "second", detailMessage := "second" }
    let us : List ServerStatus.Update := [.putDerived "jdbcUrl" "jdbc:postgresql://db", .finishWith first ⟨200, 0⟩]
    let vs : List ServerStatus.Update := [.finishWith second ⟨300, 0⟩, .finish ⟨400, 0⟩]
    let r : ResourceStatus :=
      { servers := .singleton "db" { qualifier := "db", kind := .db, finished := some ⟨150, 0⟩ } }
    let s := start.applyAll us
    let s' := s.applyAll vs
    let r' := [s'].foldl ResourceStatus.put r
    start.Fresh ∧
    (s'.qualifier = start.qualifier ∧ s'.kind = start.kind ∧ s'.started = start.started ∧
      (∀ t, s.finished = some t → s'.finished = some t) ∧
      (∀ f, s.failure = some f → s'.failure = some f) ∧
      (s'.failure.isSome → s'.finished.isSome)) ∧
    ((∀ s e, e ∈ (r'.put s).servers.entries ↔
        e = (s.qualifier, s) ∨ (e ∈ r'.servers.entries ∧ e.1 ≠ s.qualifier)) ∧
      (r'.hasFailed = true ↔ ∃ q s, r'.serverStatus? q = some s ∧ s.hasFailed = true) ∧
      (r'.finalPhase = .failed ↔ r'.hasFailed = true) ∧
      (∀ t, r'.hasFailedSince t = true → r'.hasFailed = true) ∧
      (∀ t t', t ≤ t' → r'.hasFailedSince t' = true → r'.hasFailedSince t = true) ∧
      (∀ m, r'.lastFinished = some m ↔ IsGreatest r'.finishTimes m) ∧
      (r'.lastFinished = none ↔ r'.finishTimes = ∅)) := by
  intro start first second us vs r s s' r'
  have fresh : start.Fresh := .startedAt "server" .web ⟨100, 0⟩
  exact ⟨fresh, status_algebra.1 start fresh us vs, status_algebra.2 r [s']⟩

end StackOperator
