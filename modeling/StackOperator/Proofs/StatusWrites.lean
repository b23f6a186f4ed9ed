import StackOperator.Deploy.Command
import StackOperator.Proofs.ClusterCalls

/-!
# The statuses a pass writes

A pass writes its qualifier's status back to the resource after each step
that changes it, and once more when it is done. This module follows those
writes through every run of `execute` against the simulated cluster.

The cluster does not remember the statuses written to it, only the last one,
so they are watched through a spy: `spiedCluster` is the simulated cluster
whose status write first keeps the status it is handed. Everything else the
spy passes through unchanged.

Between its steps a pass keeps a `Trail`: the statuses written so far, after
the start, each carry the one before further (`ServerStatus.Extends`), the
current status carries them all further, and nothing has finished or failed.
Every building block of a pass keeps the trail (`KeepsTrail`): a cluster
call, an update that only adds to the status (`ServerStatus.Advances`), a
status write, and the binds, loops and failure handlers that join them.

Main statement: `execute_status_writes`. While the cluster takes status
writes, a pass writes nothing exactly when its deployable fails the checks
made before the steps; otherwise every status it writes has the qualifier,
kind and start it began with, each one keeps the keys of the status tables
of the one before, all but the last are unfinished and without failure, and
the last is finished at the pass's instant with no failure when the pass
succeeds and with the failure record of its error when it fails.
-/

namespace StackOperator

namespace KeyMap

variable {α : Type}

@[simp] theorem keys_subset_put (m : KeyMap α) (key : String) (v : α) : m.keys ⊆ (m.put key v).keys := by
  intro x inKeys
  obtain ⟨e, mem, rfl⟩ := List.mem_map.mp inKeys
  -- the key of every entry still looks up a value after the put
  obtain ⟨w, found⟩ : ∃ w, (m.put key v).get? e.1 = some w := by
    rw [get?_put]
    split
    · exact ⟨v, rfl⟩
    · exact ⟨e.2, get?_of_mem mem⟩
  exact List.mem_map_of_mem (f := (·.1)) (mem_of_get? found)

theorem keys_subset_foldl {β : Type} (g : KeyMap α → β → KeyMap α)
    (grows : ∀ m b, m.keys ⊆ (g m b).keys) (l : List β) (m : KeyMap α) :
    m.keys ⊆ (l.foldl g m).keys := by
  induction l generalizing m with
  | nil => exact List.Subset.refl _
  | cons b rest ih => exact List.Subset.trans (grows m b) (ih (g m b))

@[simp] theorem keys_subset_foldl_put {β : Type} (key : β → String) (value : β → α) (l : List β)
    (m : KeyMap α) : m.keys ⊆ (l.foldl (fun m b => m.put (key b) (value b)) m).keys :=
  keys_subset_foldl _ (fun m b => keys_subset_put m (key b) (value b)) l m

end KeyMap

namespace ServerStatus

/-- A status whose pass has neither finished nor failed. -/
def InProgress (s : ServerStatus) : Prop := s.finished = none ∧ s.failure = none

/-- `b` carries `a` further: the same qualifier, kind and start, and every key
of `a`'s phase tables, derived parameters and web contexts still there. -/
structure Extends (a b : ServerStatus) : Prop where
  qualifier : b.qualifier = a.qualifier
  kind : b.kind = a.kind
  started : b.started = a.started
  podPhases : a.podPhases.keys ⊆ b.podPhases.keys
  deploymentPhases : a.deploymentPhases.keys ⊆ b.deploymentPhases.keys
  servicePhases : a.servicePhases.keys ⊆ b.servicePhases.keys
  claimPhases : a.claimPhases.keys ⊆ b.claimPhases.keys
  derivedParameters : a.derivedParameters.keys ⊆ b.derivedParameters.keys
  webContexts : a.webContexts.keys ⊆ b.webContexts.keys

theorem Extends.refl (s : ServerStatus) : s.Extends s :=
  ⟨rfl, rfl, rfl, List.Subset.refl _, List.Subset.refl _, List.Subset.refl _, List.Subset.refl _,
    List.Subset.refl _, List.Subset.refl _⟩

theorem Extends.trans {a b c : ServerStatus} (first : a.Extends b) (second : b.Extends c) :
    a.Extends c :=
  ⟨second.qualifier.trans first.qualifier, second.kind.trans first.kind,
    second.started.trans first.started, List.Subset.trans first.podPhases second.podPhases,
    List.Subset.trans first.deploymentPhases second.deploymentPhases,
    List.Subset.trans first.servicePhases second.servicePhases,
    List.Subset.trans first.claimPhases second.claimPhases,
    List.Subset.trans first.derivedParameters second.derivedParameters,
    List.Subset.trans first.webContexts second.webContexts⟩

/-- An update that carries every status in progress further, leaving it in progress. -/
def Advances (f : ServerStatus → ServerStatus) : Prop :=
  ∀ s, s.InProgress → (f s).InProgress ∧ s.Extends (f s)

/-- An update that leaves finish and failure alone advances a status as far as it extends it. -/
theorem advances_of_extends {f : ServerStatus → ServerStatus}
    (keeps : ∀ s, (f s).finished = s.finished ∧ (f s).failure = s.failure)
    (further : ∀ s : ServerStatus, s.Extends (f s)) : Advances f :=
  fun s progress => ⟨⟨(keeps s).1.trans progress.1, (keeps s).2.trans progress.2⟩, further s⟩

theorem extends_finish (s : ServerStatus) (now : Instant) : s.Extends (s.finish now) := by
  unfold finish
  split
  · exact Extends.refl s
  · constructor <;> simp

theorem finish_of_inProgress {s : ServerStatus} (progress : s.InProgress) (now : Instant) :
    (s.finish now).finished = some now ∧ (s.finish now).failure = none := by
  simp [finish, progress.1, progress.2]

theorem extends_finishWith (s : ServerStatus) (f : ControllerFailure) (now : Instant) :
    s.Extends (s.finishWith f now) := by
  unfold finishWith
  split
  · exact extends_finish s now
  · refine Extends.trans ?_ (extends_finish _ now)
    constructor <;> simp

theorem finishWith_of_inProgress {s : ServerStatus} (progress : s.InProgress) (f : ControllerFailure)
    (now : Instant) :
    (s.finishWith f now).finished = some now ∧ (s.finishWith f now).failure = some f := by
  simp [finishWith, finish, progress.1, progress.2]

end ServerStatus

end StackOperator

namespace StackOperator.Deploy

open Cluster K8s

/-! ## The spy -/

/-- The simulated cluster together with the statuses handed to it for writing, oldest first. -/
abbrev Spied := StateT (List ServerStatus) (StateM World)

/-- A call to the simulated cluster that leaves the kept statuses alone. -/
def spyCall {α : Type} (x : Op α) : ExceptT Error Spied α := ExceptT.mk (StateT.lift x.run)

/-- The simulated cluster, keeping each status it is asked to write before writing it. -/
def spiedCluster : ClusterApi Spied :=
  let c := World.backend.cluster
  { loadSecret := fun ns name => spyCall (c.loadSecret ns name),
    createSecretIfAbsent := fun s => spyCall (c.createSecretIfAbsent s),
    loadConfigMap := fun ns name => spyCall (c.loadConfigMap ns name),
    applyPvc := fun p => spyCall (c.applyPvc p),
    applyServiceAccount := fun a => spyCall (c.applyServiceAccount a),
    applyRole := fun r => spyCall (c.applyRole r),
    applyRoleBinding := fun b => spyCall (c.applyRoleBinding b),
    applyService := fun s => spyCall (c.applyService s),
    loadIngress := fun ns name => spyCall (c.loadIngress ns name),
    applyIngress := fun i => spyCall (c.applyIngress i),
    applyDeployment := fun d => spyCall (c.applyDeployment d),
    loadDeployment := fun ns name => spyCall (c.loadDeployment ns name),
    listPods := fun ns selector => spyCall (c.listPods ns selector),
    createJob := fun j => spyCall (c.createJob j),
    loadJob := fun ns name => spyCall (c.loadJob ns name),
    deleteJobs := fun ns selector => spyCall (c.deleteJobs ns selector),
    listDatabaseServices := fun ns => spyCall (c.listDatabaseServices ns),
    loadKeycloakServer := fun ns name => spyCall (c.loadKeycloakServer ns name),
    listKeycloakServers := spyCall c.listKeycloakServers,
    loadStatus := fun t => spyCall (c.loadStatus t),
    updateServerStatus := fun t s => ExceptT.mk do
      modify fun written : List ServerStatus => written ++ [s]
      StateT.lift (c.updateServerStatus t s).run,
    updatePhase := fun t p g => spyCall (c.updatePhase t p g) }

/-- The simulated Keycloak session seen through the spy, when the pass has one at hand. -/
def spiedSession (sso : Bool) : Option (SsoClient Spied) :=
  if sso then
    some { ensureRealm := fun r => spyCall (ssoClient.ensureRealm r),
           createPublicClient := fun r c d => spyCall (ssoClient.createPublicClient r c d),
           prepareClient := fun c => spyCall (ssoClient.prepareClient c),
           updateClient := fun c => spyCall (ssoClient.updateClient c),
           assignRole := fun r c p => spyCall (ssoClient.assignRole r c p) }
  else none

/-! ## Calls that keep the statuses alone -/

/-- A computation against the spied cluster that keeps the kept statuses and
leaves status writes on or off as they were. -/
def Quiet {α : Type} (x : ExceptT Error Spied α) : Prop :=
  ∀ written w, (((x.run.run written).run w).run).1.2 = written ∧
    (((x.run.run written).run w).run).2.failStatusWrites = w.failStatusWrites

section Quiet

variable {α β : Type}

theorem Quiet.pure (a : α) : Quiet (pure a : ExceptT Error Spied α) := fun _ _ => ⟨rfl, rfl⟩

theorem Quiet.throw (e : Error) : Quiet (throw e : ExceptT Error Spied α) := fun _ _ => ⟨rfl, rfl⟩

theorem Quiet.bind {x : ExceptT Error Spied α} {f : α → ExceptT Error Spied β} (first : Quiet x)
    (rest : ∀ a, Quiet (f a)) : Quiet (x >>= f) := by
  intro written w
  obtain ⟨keeps, writable⟩ := first written w
  simp only [ExceptT.run_bind, StateT.run_bind, Id.run_bind]
  rcases h : ((x.run.run written).run w).run with ⟨⟨r, written'⟩, w'⟩
  rw [h] at keeps writable
  cases r with
  | error e => exact ⟨keeps, writable⟩
  | ok a =>
    obtain ⟨keeps', writable'⟩ := rest a written' w'
    exact ⟨keeps'.trans keeps, writable'.trans writable⟩

theorem Quiet.map {x : ExceptT Error Spied α} (f : α → β) (body : Quiet x) : Quiet (f <$> x) := by
  rw [map_eq_pure_bind]
  exact body.bind fun a => Quiet.pure (f a)

theorem Quiet.tryCatch {x : ExceptT Error Spied α} {handler : Error → ExceptT Error Spied α}
    (body : Quiet x) (handled : ∀ e, Quiet (handler e)) : Quiet (tryCatch x handler) := by
  intro written w
  obtain ⟨keeps, writable⟩ := body written w
  simp only [ExceptT.run_tryCatch, StateT.run_bind, Id.run_bind]
  rcases h : ((x.run.run written).run w).run with ⟨⟨r, written'⟩, w'⟩
  rw [h] at keeps writable
  cases r with
  | error e =>
    obtain ⟨keeps', writable'⟩ := handled e written' w'
    exact ⟨keeps'.trans keeps, writable'.trans writable⟩
  | ok a => exact ⟨keeps, writable⟩

theorem Quiet.onFailure {x : ExceptT Error Spied α} (kind ns name : String) (body : Quiet x) :
    Quiet (onFailure kind ns name x) :=
  body.tryCatch fun _ => Quiet.throw _

theorem Quiet.attempt {x : ExceptT Error Spied α} (body : Quiet x) : Quiet (attempt x) :=
  (body.map _).tryCatch fun e => Quiet.pure (Except.error e)

/-- A failure skips what follows it. -/
theorem Quiet.throw_bind (e : Error) (f : α → ExceptT Error Spied β) : Quiet (MonadExcept.throw e >>= f) := by
  intro written w
  exact ⟨rfl, rfl⟩

theorem Quiet.pollFor {probe : ExceptT Error Spied (Option α)} (probed : Quiet probe) (onTimeout : Error)
    (k : Nat) : Quiet (pollFor probe onTimeout k) := by
  induction k with
  | zero => exact Quiet.throw onTimeout
  | succ k ih =>
    refine probed.bind fun found => ?_
    cases found with
    | some v => exact Quiet.pure v
    | none => exact ih

theorem Quiet.spyCall {x : Op α} (frame : ∀ w, (x.run.run w).run.2.failStatusWrites = w.failStatusWrites) :
    Quiet (spyCall x) := by
  intro written w
  simp only [Deploy.spyCall, ExceptT.run_mk, StateT.run_lift, StateT.run_bind, StateT.run_pure]
  exact ⟨rfl, frame w⟩

end Quiet

/-- What the trail of written statuses needs of a cluster: every call a pass
makes but the status write is quiet, and a status write keeps the status it is
handed, leaves writes on or off, and goes through while they are on. -/
structure Spies (api : ClusterApi Spied) : Prop where
  loadSecret : ∀ ns name, Quiet (api.loadSecret ns name)
  createSecretIfAbsent : ∀ s, Quiet (api.createSecretIfAbsent s)
  applyPvc : ∀ c, Quiet (api.applyPvc c)
  applyServiceAccount : ∀ a, Quiet (api.applyServiceAccount a)
  applyRole : ∀ r, Quiet (api.applyRole r)
  applyRoleBinding : ∀ b, Quiet (api.applyRoleBinding b)
  applyService : ∀ s, Quiet (api.applyService s)
  loadIngress : ∀ ns name, Quiet (api.loadIngress ns name)
  applyIngress : ∀ i, Quiet (api.applyIngress i)
  applyDeployment : ∀ d, Quiet (api.applyDeployment d)
  loadDeployment : ∀ ns name, Quiet (api.loadDeployment ns name)
  listPods : ∀ ns selector, Quiet (api.listPods ns selector)
  createJob : ∀ j, Quiet (api.createJob j)
  loadJob : ∀ ns name, Quiet (api.loadJob ns name)
  deleteJobs : ∀ ns selector, Quiet (api.deleteJobs ns selector)
  updateServerStatus : ∀ target s written w,
    let r := (((api.updateServerStatus target s).run.run written).run w).run
    r.1.2 = written ++ [s] ∧ r.2.failStatusWrites = w.failStatusWrites ∧
      (w.failStatusWrites = false → r.1.1 = .ok ())

theorem spiedCluster_spies : Spies spiedCluster where
  loadSecret _ _ := Quiet.spyCall fun _ => by simp [World.backend]
  createSecretIfAbsent _ := Quiet.spyCall fun _ => by simp [World.backend, World.withSecrets]
  applyPvc _ := Quiet.spyCall fun _ => by simp [World.backend, World.withClaims]
  applyServiceAccount _ := Quiet.spyCall fun _ => by simp [World.backend]
  applyRole _ := Quiet.spyCall fun _ => by simp [World.backend]
  applyRoleBinding _ := Quiet.spyCall fun _ => by simp [World.backend]
  applyService _ := Quiet.spyCall fun _ => by simp [World.backend, World.withService]
  loadIngress _ _ := Quiet.spyCall fun _ => by simp [World.backend]
  applyIngress _ := Quiet.spyCall fun _ => by simp [World.backend, World.withIngress]
  applyDeployment _ := Quiet.spyCall fun _ => by simp [World.backend, World.withDeployment]
  loadDeployment _ _ := Quiet.spyCall fun _ => by simp [World.backend]
  listPods _ _ := Quiet.spyCall fun _ => by simp [World.backend]
  createJob _ := Quiet.spyCall fun _ => by simp [World.backend]
  loadJob _ _ := Quiet.spyCall fun _ => by simp [World.backend]
  deleteJobs _ _ := Quiet.spyCall fun _ => by simp [World.backend]
  updateServerStatus target s written w := by
    cases h : w.failStatusWrites <;> simp [spiedCluster, World.backend, h]

/-- What the trail needs of a Keycloak session: the calls a pass makes of it are quiet. -/
structure SsoSpies (sso : SsoClient Spied) : Prop where
  ensureRealm : ∀ realm, Quiet (sso.ensureRealm realm)
  createPublicClient : ∀ realm clientId domain, Quiet (sso.createPublicClient realm clientId domain)
  prepareClient : ∀ c, Quiet (sso.prepareClient c)

theorem spiedSession_spies (sso : Bool) : ∀ c ∈ spiedSession sso, SsoSpies c := by
  intro c session
  cases sso with
  | false => cases session
  | true =>
    cases session
    exact { ensureRealm := fun _ => Quiet.spyCall fun _ => by simp [ssoClient],
            createPublicClient := fun _ _ _ => Quiet.spyCall fun _ => by simp [ssoClient],
            prepareClient := fun _ => Quiet.spyCall fun _ => by simp [ssoClient] }

section SpiedRun

variable {α β : Type}

theorem spied_bind_run (x : ExceptT Error Spied α) (f : α → ExceptT Error Spied β)
    (written : List ServerStatus) (w : World) :
    (((x >>= f).run.run written).run w).run = match (((x.run.run written).run w).run) with
      | ((.ok a, written'), w') => (((f a).run.run written').run w').run
      | ((.error e, written'), w') => ((.error e, written'), w') := by
  simp only [ExceptT.run_bind, StateT.run_bind, Id.run_bind]
  rcases (((x.run.run written).run w).run) with ⟨⟨r, written'⟩, w'⟩
  cases r <;> rfl

@[simp] theorem spied_throw_run (e : Error) (written : List ServerStatus) (w : World) :
    (((throw e : ExceptT Error Spied α).run.run written).run w).run = ((.error e, written), w) := rfl

@[simp] theorem spied_pure_run (a : α) (written : List ServerStatus) (w : World) :
    (((pure a : ExceptT Error Spied α).run.run written).run w).run = ((.ok a, written), w) := rfl

/-- An ignored failure leaves what the computation changed before it. -/
theorem spied_ignoring_run (x : ExceptT Error Spied Unit) (written : List ServerStatus) (w : World) :
    (((ignoring x).run.run written).run w).run =
      ((.ok (), (((x.run.run written).run w).run).1.2), (((x.run.run written).run w).run).2) := by
  simp only [ignoring, ExceptT.run_tryCatch, StateT.run_bind, Id.run_bind]
  rcases (((x.run.run written).run w).run) with ⟨⟨r, written'⟩, w'⟩
  cases r <;> rfl

end SpiedRun

/-! ## The trail of written statuses -/

/-- A pass run against the spied cluster from a status, the statuses kept so far and a world:
its outcome with the status it reached, the statuses kept, and the world it leaves. -/
def spyRun {α : Type} (x : Pass Spied α) (s : ServerStatus) (written : List ServerStatus) (w : World) :
    ((Except Error α × ServerStatus) × List ServerStatus) × World :=
  (((x.run.run s).run written).run w).run

/-- Where a pass stands between its steps, from the status `start` it began with:
the statuses written so far carry `start` and each other further, the current
status carries them all further, none of them has finished or failed, and the
cluster takes status writes. -/
structure Trail (start s : ServerStatus) (written : List ServerStatus) (w : World) : Prop where
  grows : (start :: written).Pairwise ServerStatus.Extends
  current : ∀ a ∈ start :: written, a.Extends s
  writtenInProgress : ∀ a ∈ written, a.InProgress
  inProgress : s.InProgress
  writable : w.failStatusWrites = false

/-- A pass that keeps the trail from `start`, whatever it returns. -/
def KeepsTrail {α : Type} (start : ServerStatus) (x : Pass Spied α) : Prop :=
  ∀ s written w, Trail start s written w →
    Trail start (spyRun x s written w).1.1.2 (spyRun x s written w).1.2 (spyRun x s written w).2

section KeepsTrail

variable {start : ServerStatus} {α β : Type}

theorem spyRun_bind (x : Pass Spied α) (f : α → Pass Spied β) (s : ServerStatus)
    (written : List ServerStatus) (w : World) :
    spyRun (x >>= f) s written w = match spyRun x s written w with
      | (((.ok a, s'), written'), w') => spyRun (f a) s' written' w'
      | (((.error e, s'), written'), w') => (((.error e, s'), written'), w') := by
  simp only [spyRun, ExceptT.run_bind, StateT.run_bind, Id.run_bind]
  rcases ((((x.run.run s).run written).run w).run) with ⟨⟨⟨r, s'⟩, written'⟩, w'⟩
  cases r <;> rfl

theorem spyRun_tryCatch (x : Pass Spied α) (handler : Error → Pass Spied α) (s : ServerStatus)
    (written : List ServerStatus) (w : World) :
    spyRun (tryCatch x handler) s written w = match spyRun x s written w with
      | (((.ok a, s'), written'), w') => (((.ok a, s'), written'), w')
      | (((.error e, s'), written'), w') => spyRun (handler e) s' written' w' := by
  simp only [spyRun, ExceptT.run_tryCatch, StateT.run_bind, Id.run_bind]
  rcases ((((x.run.run s).run written).run w).run) with ⟨⟨⟨r, s'⟩, written'⟩, w'⟩
  cases r <;> rfl

theorem spyRun_liftCall (c : ExceptT Error Spied α) (s : ServerStatus) (written : List ServerStatus)
    (w : World) :
    spyRun (liftCall c) s written w =
      ((((((c.run.run written).run w).run).1.1, s), (((c.run.run written).run w).run).1.2),
        (((c.run.run written).run w).run).2) := rfl

theorem spied_runPass_run (x : Pass Spied α) (s : ServerStatus) (written : List ServerStatus)
    (w : World) :
    (((runPass x s).run.run written).run w).run =
      ((.ok (spyRun x s written w).1.1, (spyRun x s written w).1.2), (spyRun x s written w).2) := rfl

theorem KeepsTrail.pure (a : α) : KeepsTrail start (pure a : Pass Spied α) :=
  fun _ _ _ trail => trail

theorem KeepsTrail.throw (e : Error) : KeepsTrail start (throw e : Pass Spied α) :=
  fun _ _ _ trail => trail

theorem KeepsTrail.bind {x : Pass Spied α} {f : α → Pass Spied β} (first : KeepsTrail start x)
    (rest : ∀ a, KeepsTrail start (f a)) : KeepsTrail start (x >>= f) := by
  intro s written w trail
  have kept := first s written w trail
  rw [spyRun_bind]
  rcases h : spyRun x s written w with ⟨⟨⟨r, s'⟩, written'⟩, w'⟩
  rw [h] at kept
  cases r with
  | error e => exact kept
  | ok a => exact rest a s' written' w' kept

/-- A failure skips what follows it. -/
theorem KeepsTrail.throw_bind (e : Error) (f : α → Pass Spied β) :
    KeepsTrail start (MonadExcept.throw e >>= f) :=
  fun _ _ _ trail => trail

theorem KeepsTrail.map {x : Pass Spied α} (f : α → β) (body : KeepsTrail start x) :
    KeepsTrail start (f <$> x) := by
  rw [map_eq_pure_bind]
  exact body.bind fun a => KeepsTrail.pure (f a)

theorem KeepsTrail.tryCatch {x : Pass Spied α} {handler : Error → Pass Spied α}
    (body : KeepsTrail start x) (handled : ∀ e, KeepsTrail start (handler e)) :
    KeepsTrail start (tryCatch x handler) := by
  intro s written w trail
  have kept := body s written w trail
  rw [spyRun_tryCatch]
  rcases h : spyRun x s written w with ⟨⟨⟨r, s'⟩, written'⟩, w'⟩
  rw [h] at kept
  cases r with
  | error e => exact handled e s' written' w' kept
  | ok a => exact kept

theorem KeepsTrail.attempt {x : Pass Spied α} (body : KeepsTrail start x) :
    KeepsTrail start (attempt x) :=
  (body.map _).tryCatch fun e => KeepsTrail.pure (Except.error e)

theorem KeepsTrail.liftCall {c : ExceptT Error Spied α} (quiet : Quiet c) :
    KeepsTrail start (liftCall c) := by
  intro s written w trail
  obtain ⟨keeps, writable⟩ := quiet written w
  rw [spyRun_liftCall, keeps]
  exact { trail with writable := writable.trans trail.writable }

theorem KeepsTrail.currentStatus : KeepsTrail start (currentStatus : Pass Spied ServerStatus) :=
  fun _ _ _ trail => trail

theorem KeepsTrail.updateStatus {f : ServerStatus → ServerStatus} (advances : ServerStatus.Advances f) :
    KeepsTrail start (updateStatus f : Pass Spied Unit) := by
  intro s written w trail
  obtain ⟨progress, further⟩ := advances s trail.inProgress
  exact { trail with current := fun a mem => (trail.current a mem).trans further,
                     inProgress := progress }

/-- Writing the current status adds it to the trail. -/
theorem Trail.write {s : ServerStatus} {written : List ServerStatus} {w w' : World}
    (trail : Trail start s written w) (writable : w'.failStatusWrites = false) :
    Trail start s (written ++ [s]) w' where
  grows := by
    rw [← List.cons_append, List.pairwise_append]
    exact ⟨trail.grows, List.pairwise_singleton _ _, fun a mem b written => by
      rw [List.mem_singleton.mp written]
      exact trail.current a mem⟩
  current a mem := by
    rw [← List.cons_append, List.mem_append, List.mem_singleton] at mem
    rcases mem with earlier | rfl
    · exact trail.current a earlier
    · exact ServerStatus.Extends.refl a
  writtenInProgress a mem := by
    rcases List.mem_append.mp mem with earlier | last
    · exact trail.writtenInProgress a earlier
    · rw [List.mem_singleton.mp last]
      exact trail.inProgress
  inProgress := trail.inProgress
  writable := writable

theorem KeepsTrail.persist {api : ClusterApi Spied} (spies : Spies api) (d : Deployable) :
    KeepsTrail start (Deploy.persist api d) := by
  intro s written w trail
  obtain ⟨keeps, writable, -⟩ := spies.updateServerStatus d.owner s written w
  have run : spyRun (Deploy.persist api d) s written w =
      spyRun (Deploy.liftCall (api.updateServerStatus d.owner s)) s written w := rfl
  rw [run, spyRun_liftCall, keeps]
  exact trail.write (writable.trans trail.writable)

/-- Two branches that end in the same continuation. -/
theorem KeepsTrail.ite_bind {γ : Type} {c : Prop} [Decidable c] {x y : Pass Spied γ}
    {rest : γ → Pass Spied α} (first : KeepsTrail start x) (second : KeepsTrail start y)
    (after : ∀ a, KeepsTrail start (rest a)) :
    KeepsTrail start (if c then x >>= rest else y >>= rest) := by
  split
  · exact first.bind after
  · exact second.bind after

theorem KeepsTrail.forIn {γ : Type} {f : α → γ → Pass Spied (ForInStep γ)}
    (body : ∀ a b, KeepsTrail start (f a b)) (l : List α) (init : γ) :
    KeepsTrail start (forIn l init f) :=
  forIn_of_pure_of_bind (KeepsTrail start) KeepsTrail.pure KeepsTrail.bind l (fun a _ => body a) init

end KeepsTrail

/-! ## The steps of a pass -/

section Updates

variable {start : ServerStatus}

theorem keepsTrail_recordJob (job : Job) :
    KeepsTrail start (SchemaPreparation.recordJob job : Pass Spied Unit) := by
  refine KeepsTrail.updateStatus fun s progress => ?_
  refine ⟨progress, ?_⟩
  constructor <;> simp [KeyMap.keys_subset_put]

theorem keepsTrail_putDerived {γ : Type} (key value : γ → String) (l : List γ) :
    KeepsTrail start (forIn l PUnit.unit fun x _ => do
      updateStatus fun s => s.putDerived (key x) (value x)
      pure (ForInStep.yield PUnit.unit) : Pass Spied PUnit) := by
  refine KeepsTrail.forIn (fun x _ => ?_) l _
  refine (KeepsTrail.updateStatus ?_).bind fun _ => KeepsTrail.pure _
  intro s progress
  refine ⟨progress, ?_⟩
  constructor <;> simp [ServerStatus.putDerived, KeyMap.keys_subset_put]

end Updates

section Steps

variable {api : ClusterApi Spied} (spies : Spies api) {start : ServerStatus}
include spies

theorem quiet_ensureCaSecret (config : OperatorConfig) (ns : String) :
    Quiet (ensureCaSecret api config ns) := by
  unfold ensureCaSecret
  split
  · exact Quiet.pure none
  · refine (spies.loadSecret _ _).bind fun present => ?_
    split
    · exact Quiet.pure _
    · refine (spies.loadSecret _ _).bind fun source => ?_
      split
      · simp only [pure_bind]
        exact (spies.createSecretIfAbsent _).bind fun _ => Quiet.pure _
      · exact Quiet.throw_bind _ _

theorem quiet_accountStep (d : Deployable) : Quiet (accountStep api d) := by
  unfold accountStep
  split
  · exact Quiet.pure ()
  · split
    refine (spies.applyServiceAccount _).bind fun _ => ?_
    split
    · exact Quiet.pure ()
    · exact (spies.applyRole _).bind fun _ => (spies.applyRoleBinding _).bind fun _ => Quiet.pure ()

theorem quiet_schemaSecrets (p : SchemaPreparation) (rt : Runtime) (strategy : VendorStrategy)
    (schemas : List String) : Quiet (p.schemaSecrets api rt strategy schemas) := by
  induction schemas with
  | nil => exact Quiet.pure []
  | cons schema rest ih =>
    exact (spies.createSecretIfAbsent _).bind fun _ => ih.bind fun _ => Quiet.pure _

theorem quiet_readyPod (ns deploymentName selector : String) :
    Quiet (readyPod? api ns deploymentName selector) := by
  refine (spies.loadDeployment _ _).bind fun found => ?_
  split
  · split
    · exact (spies.listPods _ _).bind fun _ => Quiet.pure _
    · exact Quiet.pure none
  · exact Quiet.pure none

theorem keepsTrail_prepareSchemas (p : SchemaPreparation) (rt : Runtime) :
    KeepsTrail start (p.run api rt) := by
  unfold SchemaPreparation.run
  split
  · exact KeepsTrail.pure _
  · split
    · simp only [pure_bind]
      refine (KeepsTrail.liftCall (quiet_schemaSecrets spies _ _ _ _)).bind fun results => ?_
      refine (KeepsTrail.liftCall (spies.deleteJobs _ _)).bind fun _ => ?_
      refine (KeepsTrail.liftCall (spies.createJob _)).bind fun created => ?_
      refine (keepsTrail_recordJob created).bind fun _ => ?_
      refine (KeepsTrail.liftCall (Quiet.attempt (Quiet.pollFor
        ((spies.loadJob _ _).bind fun _ => Quiet.pure _) _ _))).bind fun outcome => ?_
      split
      · refine (keepsTrail_recordJob _).bind fun _ => ?_
        split
        · exact KeepsTrail.throw_bind _ _
        · exact (keepsTrail_putDerived _ _ results).bind fun _ => KeepsTrail.pure results
      · refine (KeepsTrail.liftCall (spies.loadJob _ _).attempt).bind fun loaded => ?_
        split
        · exact (keepsTrail_recordJob _).bind fun _ => KeepsTrail.throw_bind _ _
        · exact KeepsTrail.throw_bind _ _
    · exact KeepsTrail.throw_bind _ _

theorem keepsTrail_prepareDatabase (rt : Runtime) (images : ImageResolver) (d : Deployable) :
    KeepsTrail start (prepareDatabase api rt images d) := by
  unfold prepareDatabase
  simp only [pure_bind]
  split
  · exact KeepsTrail.pure _
  · split
    · refine (keepsTrail_prepareSchemas spies _ rt).attempt.bind fun result => ?_
      refine (KeepsTrail.persist spies d).attempt.bind fun persisted => ?_
      split
      · exact KeepsTrail.throw_bind _ _
      · split
        · exact KeepsTrail.pure _
        · exact KeepsTrail.throw _
    · exact KeepsTrail.throw_bind _ _

theorem keepsTrail_claimsStep (rt : Runtime) (d : Deployable) : KeepsTrail start (claimsStep api rt d) := by
  unfold claimsStep
  refine (KeepsTrail.forIn (fun pvc _ => ?_) _ _).bind fun _ => KeepsTrail.persist spies d
  refine (KeepsTrail.liftCall (spies.applyPvc pvc)).bind fun created => ?_
  refine (KeepsTrail.updateStatus ?_).bind fun _ => KeepsTrail.pure _
  intro s progress
  refine ⟨progress, ?_⟩
  constructor <;> simp [KeyMap.keys_subset_put]

theorem keepsTrail_ingressStep (d : Deployable) : KeepsTrail start (ingressStep api d) := by
  unfold ingressStep
  split
  · exact KeepsTrail.pure none
  · refine (KeepsTrail.liftCall (spies.loadIngress _ _)).bind fun existing => ?_
    split
    · exact KeepsTrail.pure none
    · refine (KeepsTrail.liftCall (spies.applyIngress _)).bind fun ingress => ?_
      refine (KeepsTrail.updateStatus ?_).bind fun _ => (KeepsTrail.persist spies d).bind fun _ =>
        KeepsTrail.pure _
      intro s progress
      refine ⟨progress, ?_⟩
      constructor <;> simp
      refine KeyMap.keys_subset_foldl _ (fun m c => ?_) _ _
      split
      · exact KeyMap.keys_subset_put _ _ _
      · exact List.Subset.refl _

theorem keepsTrail_keycloakStep (d : Deployable) (keycloak : Option (SsoClient Spied))
    (sessions : ∀ sso ∈ keycloak, SsoSpies sso) : KeepsTrail start (keycloakStep api d keycloak) := by
  unfold keycloakStep
  refine (KeepsTrail.forIn (fun c _ => ?_) _ _).bind fun _ => KeepsTrail.pure _
  split
  · exact KeepsTrail.pure _
  · simp only [pure_bind]
    cases keycloak with
    | none => exact KeepsTrail.throw_bind _ _
    | some sso =>
      have session := sessions sso rfl
      refine (KeepsTrail.liftCall (Quiet.onFailure _ _ _ ?_)).bind fun secret => ?_
      · refine (session.ensureRealm _).bind fun _ => ?_
        split
        · exact (session.createPublicClient _ _ _).bind fun _ => session.prepareClient _
        · exact session.prepareClient _
      refine (KeepsTrail.liftCall (spies.createSecretIfAbsent _)).bind fun _ => ?_
      refine (KeepsTrail.updateStatus ?_).bind fun _ => KeepsTrail.pure _
      intro s progress
      refine ⟨progress, ?_⟩
      constructor <;> simp

theorem keepsTrail_steps (rt : Runtime) (images : ImageResolver) (d : Deployable)
    (keycloak : Option (SsoClient Spied)) (sessions : ∀ sso ∈ keycloak, SsoSpies sso) :
    KeepsTrail start (steps api rt images d keycloak) := by
  unfold steps
  refine (keepsTrail_prepareDatabase spies rt images d).bind fun schemas => ?_
  refine (keepsTrail_claimsStep spies rt d).bind fun _ => ?_
  refine KeepsTrail.ite_bind (KeepsTrail.liftCall (quiet_ensureCaSecret spies _ _))
    (KeepsTrail.pure none) fun caSecretName => ?_
  refine (KeepsTrail.forIn (fun secret _ => (KeepsTrail.liftCall (spies.createSecretIfAbsent secret)).bind
    fun _ => KeepsTrail.pure _) _ _).bind fun _ => ?_
  refine (KeepsTrail.liftCall (quiet_accountStep spies d)).bind fun _ => ?_
  refine (KeepsTrail.liftCall (spies.applyService _)).bind fun service => ?_
  refine (KeepsTrail.updateStatus ?_).bind fun _ => ?_
  · exact ServerStatus.advances_of_extends (fun _ => ⟨rfl, rfl⟩) fun s => by
      constructor <;> simp [KeyMap.keys_subset_put]
  refine (KeepsTrail.persist spies d).bind fun _ => ?_
  refine (keepsTrail_ingressStep spies d).bind fun ingress => ?_
  refine (keepsTrail_keycloakStep spies d keycloak sessions).bind fun _ => ?_
  refine (KeepsTrail.liftCall (spies.applyDeployment _)).bind fun deployment => ?_
  refine (KeepsTrail.updateStatus ?_).bind fun _ => ?_
  · exact ServerStatus.advances_of_extends (fun _ => ⟨rfl, rfl⟩) fun s => by
      constructor <;> simp [KeyMap.keys_subset_put]
  refine (KeepsTrail.persist spies d).bind fun _ => ?_
  refine (KeepsTrail.liftCall (Quiet.pollFor (quiet_readyPod spies _ _ _) _ _).attempt).bind
    fun waited => ?_
  refine (KeepsTrail.liftCall (spies.listPods _ _).attempt).bind fun listed => ?_
  -- the pods are recorded whether or not the wait succeeded; only a Ready pod finishes the pass
  rcases waited with _ | ⟨current, pod⟩
  · rcases listed with _ | pods
    · exact KeepsTrail.throw_bind _ _
    · refine (KeepsTrail.updateStatus ?_).bind fun _ => KeepsTrail.throw_bind _ _
      exact ServerStatus.advances_of_extends (fun _ => ⟨rfl, rfl⟩) fun _ => by constructor <;> simp
  · rcases listed with _ | pods
    · simp only [pure_bind]
      refine (KeepsTrail.updateStatus ?_).bind fun _ => KeepsTrail.currentStatus.bind fun _ =>
        KeepsTrail.pure _
      exact ServerStatus.advances_of_extends (fun _ => ⟨rfl, rfl⟩) fun _ => by constructor <;> simp
    · simp only [pure_bind]
      refine (KeepsTrail.updateStatus ?_).bind fun _ => (KeepsTrail.updateStatus ?_).bind fun _ =>
        KeepsTrail.currentStatus.bind fun _ => KeepsTrail.pure _
      · exact ServerStatus.advances_of_extends (fun _ => ⟨rfl, rfl⟩) fun _ => by constructor <;> simp
      · exact ServerStatus.advances_of_extends (fun _ => ⟨rfl, rfl⟩) fun _ => by constructor <;> simp

end Steps

/-! ## The statuses of a whole pass -/

/-- Closing a trail with a status that carries the current one further: every
status of the closed trail carries the start further, each carries the earlier
ones further, and all but the closing one are in progress. -/
theorem Trail.close {start s final : ServerStatus} {written : List ServerStatus} {w : World}
    (trail : Trail start s written w) (further : s.Extends final) :
    (∀ x ∈ written ++ [final], x.qualifier = start.qualifier ∧ x.kind = start.kind ∧
        x.started = start.started) ∧
      (written ++ [final]).Pairwise ServerStatus.Extends ∧
      ∀ x ∈ (written ++ [final]).dropLast, x.InProgress := by
  have fromStart := (List.pairwise_cons.mp trail.grows).1
  have toFinal : ∀ a ∈ start :: written, a.Extends final := fun a mem =>
    (trail.current a mem).trans further
  refine ⟨fun x mem => ?_, ?_, ?_⟩
  · have carried : start.Extends x := by
      rcases List.mem_append.mp mem with earlier | last
      · exact fromStart x earlier
      · rw [List.mem_singleton.mp last]
        exact toFinal start List.mem_cons_self
    exact ⟨carried.qualifier, carried.kind, carried.started⟩
  · rw [List.pairwise_append]
    exact ⟨(List.pairwise_cons.mp trail.grows).2, List.pairwise_singleton _ _,
      fun a mem b last => List.mem_singleton.mp last ▸ toFinal a (List.mem_cons_of_mem _ mem)⟩
  · rw [List.dropLast_concat]
    exact trail.writtenInProgress

theorem execute_status_writes (rt : Runtime) (images : ImageResolver) (d : Deployable) (sso : Bool)
    (w : World) (writable : w.failStatusWrites = false) :
    let run := (((execute spiedCluster rt images d (spiedSession sso)).run.run []).run w).run
    (run.1.2 = [] ↔ d.owner.name = "" ∨ d.owner.ns = "" ∨ d.needsKeycloak = true ∧ sso = false) ∧
    (∀ x ∈ run.1.2, x.qualifier = d.qualifier ∧
      x.kind = (if d.ingress.isSome then .web else .db) ∧ x.started = some rt.now) ∧
    run.1.2.Pairwise ServerStatus.Extends ∧
    (∀ x ∈ run.1.2.dropLast, x.InProgress) ∧
    ∀ last ∈ run.1.2.getLast?, last.finished = some rt.now ∧
      (∀ deployed, run.1.1 = .ok deployed → last.failure = none) ∧
      ∀ e, run.1.1 = .error e → last.failure = some (ControllerFailure.ofError e d.owner) := by
  intro outcome
  generalize ran : outcome = run
  obtain ⟨⟨result, writes⟩, w'⟩ := run
  simp only [outcome, execute] at ran
  dsimp only
  split at ran
  · rename_i unowned
    simp only [spied_bind_run, spied_throw_run, Prod.mk.injEq] at ran
    obtain ⟨⟨-, rfl⟩, -⟩ := ran
    refine ⟨iff_of_true rfl ?_, by simp, by simp, by simp, by simp⟩
    rcases (by simpa using unowned : d.owner.name = "" ∨ d.owner.ns = "") with nameless | unplaced
    · exact Or.inl nameless
    · exact Or.inr (Or.inl unplaced)
  · rename_i owned
    split at ran
    · rename_i unsupported
      simp only [spied_bind_run, spied_throw_run, Prod.mk.injEq] at ran
      obtain ⟨⟨-, rfl⟩, -⟩ := ran
      refine ⟨iff_of_true rfl ?_, by simp, by simp, by simp, by simp⟩
      cases sso <;> simp_all [spiedSession]
    · rename_i supported
      have checked : ¬(d.owner.name = "" ∨ d.owner.ns = "" ∨ d.needsKeycloak = true ∧ sso = false) := by
        cases sso <;> simp_all [spiedSession]
      have started : Trail (ServerStatus.startedAt d.qualifier
          (if d.ingress.isSome = true then ServerKind.web else ServerKind.db) rt.now)
          (ServerStatus.startedAt d.qualifier
            (if d.ingress.isSome = true then ServerKind.web else ServerKind.db) rt.now) [] w :=
        ⟨List.pairwise_singleton _ _, fun a mem => by
          rw [List.mem_singleton.mp mem]
          exact ServerStatus.Extends.refl _, fun _ mem => absurd mem List.not_mem_nil, ⟨rfl, rfl⟩, writable⟩
      have kept := keepsTrail_steps spiedCluster_spies rt images d (spiedSession sso)
        (spiedSession_spies sso) _ _ _ started
      rw [spied_bind_run, spied_runPass_run] at ran
      rcases stepsRun : spyRun (steps spiedCluster rt images d (spiedSession sso)) _ [] w with
        ⟨⟨⟨r, s⟩, written⟩, w₁⟩
      rw [stepsRun] at kept ran
      simp only at kept ran
      cases r with
      | ok deployed =>
        have finished := ServerStatus.finish_of_inProgress kept.inProgress rt.now
        obtain ⟨logged, -, accepted⟩ :=
          spiedCluster_spies.updateServerStatus d.owner (s.finish rt.now) written w₁
        rw [spied_bind_run] at ran
        rcases writeRun : (((spiedCluster.updateServerStatus d.owner (s.finish rt.now)).run.run
          written).run w₁).run with ⟨⟨acceptance, logged'⟩, w₂⟩
        rw [writeRun] at logged accepted ran
        simp only at logged accepted ran
        rw [accepted kept.writable] at ran
        have notFailed : (s.finish rt.now).hasFailed = false := by
          rw [ServerStatus.hasFailed, finished.2]
          rfl
        simp [notFailed] at ran
        obtain ⟨⟨rfl, rfl⟩, -⟩ := ran
        subst logged
        obtain ⟨ident, grows, inProgress⟩ := kept.close (ServerStatus.extends_finish s rt.now)
        refine ⟨iff_of_false (by simp) checked, ident, grows, inProgress, fun last mem => ?_⟩
        rw [List.getLast?_concat, Option.mem_some_iff] at mem
        subst mem
        exact ⟨finished.1, fun _ _ => finished.2, fun _ failed => (by cases failed)⟩
      | error e =>
        have closed := ServerStatus.finishWith_of_inProgress kept.inProgress
          (ControllerFailure.ofError e d.owner) rt.now
        obtain ⟨logged, -, -⟩ := spiedCluster_spies.updateServerStatus d.owner
          (s.finishWith (ControllerFailure.ofError e d.owner) rt.now) written w₁
        rw [spied_bind_run, spied_ignoring_run, logged] at ran
        simp only [spied_throw_run, Prod.mk.injEq] at ran
        obtain ⟨⟨rfl, rfl⟩, -⟩ := ran
        obtain ⟨ident, grows, inProgress⟩ := kept.close (ServerStatus.extends_finishWith s _ rt.now)
        refine ⟨iff_of_false (by simp) checked, ident, grows, inProgress, fun last mem => ?_⟩
        rw [List.getLast?_concat, Option.mem_some_iff] at mem
        subst mem
        refine ⟨closed.1, fun _ succeeded => (by cases succeeded), fun _ failed => ?_⟩
        cases failed
        exact closed.2

theorem execute_status_writes_of_server :
    let d : Deployable := { owner := { name := "app", ns := "apps" }, qualifier := "server" }
    let rt : Runtime := { config := {}, now := ⟨0, 0⟩, password := fun _ => "changeit" }
    let run := (((execute spiedCluster rt {} d (spiedSession false)).run.run []).run {}).run
    ({} : World).failStatusWrites = false ∧
    ((run.1.2 = [] ↔ d.owner.name = "" ∨ d.owner.ns = "" ∨ d.needsKeycloak = true ∧ false = false) ∧
    (∀ x ∈ run.1.2, x.qualifier = d.qualifier ∧
      x.kind = (if d.ingress.isSome then .web else .db) ∧ x.started = some rt.now) ∧
    run.1.2.Pairwise ServerStatus.Extends ∧
    (∀ x ∈ run.1.2.dropLast, x.InProgress) ∧
    ∀ last ∈ run.1.2.getLast?, last.finished = some rt.now ∧
      (∀ deployed, run.1.1 = .ok deployed → last.failure = none) ∧
      ∀ e, run.1.1 = .error e → last.failure = some (ControllerFailure.ofError e d.owner)) := by
  intro d rt run
  exact ⟨rfl, execute_status_writes rt {} d false {} rfl⟩

end StackOperator.Deploy
