import StackOperator.Proofs.PassEffect
import StackOperator.Proofs.KeycloakResolution

/-!
# A pass writes only its own status entry

The status of a custom resource keeps one entry per qualifier. A pass of a deployable writes the
entry of its own qualifier, under its own resource, and no other: the statuses it writes all carry
its qualifier, and every other call leaves the status store alone. So the passes a controller runs
one after another for the qualifiers of one resource do not overwrite each other's entries.

* `SameEntriesBut key q w w'`: the worlds have the same status entries but perhaps the one of
  qualifier `q` under `key`. A status write keeps every other entry (`sameEntriesBut_writeStatus`).
* `KeepsStatuses`: a call that leaves the status store alone, with the rules that join such calls.
* `OwnEntry d`: a computation of a pass of `d` that keeps the qualifier of the status it reaches and
  writes no entry but the deployable's own, with the rules of binds, loops and failure handlers
  (`OwnEntry.bind`, `OwnEntry.forIn`, `OwnEntry.tryCatch`); the steps of a pass are one
  (`ownEntry_steps`).
* `execute_run_ok_entry`: a pass that succeeds leaves every other entry as it found it and its own
  entry holding the status it returns, finished and without failure.
-/

namespace StackOperator.Cluster

open K8s Deploy

/-- The status entry of a qualifier of the resource whose status is stored under `key`. -/
def World.entry (w : World) (key : ObjectKey) (q : String) : Option ServerStatus :=
  (w.statuses.get? key).bind (·.servers.get? q)

/-- `w'` has every status entry of `w` but perhaps the one of qualifier `q` under `key`. -/
def World.SameEntriesBut (key : ObjectKey) (q : String) (w w' : World) : Prop :=
  ∀ k q', (k = key → q' ≠ q) → w'.entry k q' = w.entry k q'

namespace World.SameEntriesBut

variable {key : ObjectKey} {q : String}

theorem refl (w : World) : World.SameEntriesBut key q w w := fun _ _ _ => rfl

theorem trans {a b c : World} (first : World.SameEntriesBut key q a b)
    (second : World.SameEntriesBut key q b c) : World.SameEntriesBut key q a c :=
  fun k q' other => (second k q' other).trans (first k q' other)

theorem of_statuses {w w' : World} (same : w'.statuses = w.statuses) : World.SameEntriesBut key q w w' :=
  fun k q' _ => by rw [World.entry, World.entry, same]

end World.SameEntriesBut

/-- A status write changes no entry but the one of its status's qualifier. -/
theorem World.sameEntriesBut_writeStatus (w : World) (owner : Reference) (s : ServerStatus) :
    World.SameEntriesBut (statusKey owner) s.qualifier w (w.writeStatus owner s) := by
  intro k q' other
  unfold World.writeStatus World.entry
  dsimp only
  split
  · rfl
  by_cases same : k = statusKey owner
  · subst same
    rw [Store.get?_put_self, Option.bind_some, ResourceStatus.put, KeyMap.get?_put_ne _ _ (other rfl)]
    cases w.statuses.get? (statusKey owner) <;> rfl
  · rw [Store.get?_put_ne _ _ _ _ same]

/-- A status write that goes through is the write of the world's status store. -/
theorem updateServerStatus_run_ok {target : Reference} {s : ServerStatus} {w w' : World}
    (ran : ((updateServerStatus target s).run.run w).run = (.ok (), w')) :
    w.failStatusWrites = false ∧ w' = w.writeStatus target s := by
  rw [updateServerStatus_run] at ran
  split at ran
  · cases ran
  · rename_i writable
    cases ran
    simp [World.writeStatus, writable]

/-! ## Calls that leave the status store alone -/

section KeepsStatuses

variable {α β : Type}

/-- A computation against the simulated cluster that leaves the status store alone. -/
def KeepsStatuses (x : Op α) : Prop := ∀ w, (x.run.run w).run.2.statuses = w.statuses

theorem KeepsStatuses.pure (a : α) : KeepsStatuses (pure a : Op α) := fun _ => rfl

theorem KeepsStatuses.throw (e : Error) : KeepsStatuses (throw e : Op α) := fun _ => rfl

theorem KeepsStatuses.bind {x : Op α} {f : α → Op β} (first : KeepsStatuses x)
    (rest : ∀ a, KeepsStatuses (f a)) : KeepsStatuses (x >>= f) := by
  intro w
  have kept := first w
  rw [Op.bind_run]
  generalize (x.run.run w).run = r at kept ⊢
  rcases r with ⟨_ | a, w'⟩
  · exact kept
  · exact (rest a w').trans kept

theorem KeepsStatuses.tryCatch {x : Op α} {handler : Error → Op α} (body : KeepsStatuses x)
    (handled : ∀ e, KeepsStatuses (handler e)) : KeepsStatuses (tryCatch x handler) := by
  intro w
  have kept := body w
  simp only [ExceptT.run_tryCatch, StateT.run_bind, Id.run_bind]
  generalize (x.run.run w).run = r at kept ⊢
  rcases r with ⟨_ | a, w'⟩
  · exact (handled _ w').trans kept
  · exact kept

theorem KeepsStatuses.attempt {x : Op α} (body : KeepsStatuses x) : KeepsStatuses (attempt x) := by
  intro w
  rw [attempt_run]
  exact body w

theorem KeepsStatuses.onFailure {x : Op α} (kind ns name : String) (body : KeepsStatuses x) :
    KeepsStatuses (onFailure kind ns name x) :=
  body.tryCatch fun _ => KeepsStatuses.throw _

theorem KeepsStatuses.pollFor {probe : Op (Option α)} (probed : KeepsStatuses probe) (onTimeout : Error)
    (k : Nat) : KeepsStatuses (pollFor probe onTimeout k) := by
  induction k with
  | zero => exact KeepsStatuses.throw onTimeout
  | succ k ih =>
    refine probed.bind fun found => ?_
    cases found with
    | some v => exact KeepsStatuses.pure v
    | none => exact ih

theorem KeepsStatuses.pollUntil {probe : Op (Option α)} (probed : KeepsStatuses probe) (intervalMs timeoutMs : Nat)
    (what : String) : KeepsStatuses (pollUntil intervalMs timeoutMs what probe) :=
  probed.pollFor _ _

/-! Every call of the simulated cluster but the status write leaves the status store alone. -/

theorem keepsStatuses_loadSecret (ns name : String) : KeepsStatuses (World.backend.cluster.loadSecret ns name) :=
  fun _ => rfl

theorem keepsStatuses_createSecretIfAbsent (s : Secret) :
    KeepsStatuses (World.backend.cluster.createSecretIfAbsent s) := fun _ => rfl

theorem keepsStatuses_applyPvc (c : PersistentVolumeClaim) : KeepsStatuses (World.backend.cluster.applyPvc c) :=
  fun _ => rfl

theorem keepsStatuses_applyService (s : Service) : KeepsStatuses (World.backend.cluster.applyService s) :=
  fun _ => rfl

theorem keepsStatuses_loadIngress (ns name : String) : KeepsStatuses (World.backend.cluster.loadIngress ns name) :=
  fun _ => rfl

theorem keepsStatuses_applyIngress (i : Ingress) : KeepsStatuses (World.backend.cluster.applyIngress i) :=
  fun _ => rfl

theorem keepsStatuses_applyDeployment (d : Deployment) : KeepsStatuses (World.backend.cluster.applyDeployment d) :=
  fun _ => rfl

theorem keepsStatuses_listPods (ns selector : String) : KeepsStatuses (World.backend.cluster.listPods ns selector) :=
  fun _ => rfl

theorem keepsStatuses_createJob (j : Job) : KeepsStatuses (World.backend.cluster.createJob j) := by
  intro w
  rw [backend_createJob, createJob_run]

theorem keepsStatuses_loadJob (ns name : String) : KeepsStatuses (World.backend.cluster.loadJob ns name) := by
  intro w
  rw [backend_loadJob, loadJob_run]

theorem keepsStatuses_deleteJobs (ns selector : String) : KeepsStatuses (World.backend.cluster.deleteJobs ns selector) := by
  intro w
  rw [backend_deleteJobs, deleteJobs_run]

theorem keepsStatuses_readyPod (ns name selector : String) :
    KeepsStatuses (readyPod? World.backend.cluster ns name selector) := by
  intro w
  rw [readyPod?_run]

theorem keepsStatuses_ensureCaSecret (config : OperatorConfig) (ns : String) :
    KeepsStatuses (ensureCaSecret World.backend.cluster config ns) := by
  intro w
  rw [ensureCaSecret_run]
  unfold caSecretEffect
  repeat' split
  all_goals rfl

theorem keepsStatuses_accountStep (d : Deployable) : KeepsStatuses (accountStep World.backend.cluster d) := by
  intro w
  rw [accountStep_run]
  unfold World.withAccountOf
  split <;> rfl

theorem keepsStatuses_schemaSecrets (p : SchemaPreparation) (rt : Runtime) (strategy : VendorStrategy)
    (schemas : List String) : KeepsStatuses (p.schemaSecrets World.backend.cluster rt strategy schemas) := by
  intro w
  rw [SchemaPreparation.schemaSecrets_run]
  rfl

end KeepsStatuses

end StackOperator.Cluster

namespace StackOperator.ServerStatus

@[simp] theorem finish_started (s : ServerStatus) (now : Instant) : (s.finish now).started = s.started := by
  unfold finish
  split <;> rfl

end StackOperator.ServerStatus

namespace StackOperator.Deploy

open Cluster K8s

variable {α β γ : Type} {d : Deployable}

/-! ## Pass computations that write their own entry only -/

/-- A computation of a pass of `d`: from a status of the deployable's qualifier it reaches a status
of that qualifier with the same start, and it changes no status entry but the deployable's own. -/
def OwnEntry (d : Deployable) (x : Pass (StateM World) α) : Prop :=
  ∀ s w, s.qualifier = d.qualifier →
    wp x (fun _ s' w' => s'.qualifier = d.qualifier ∧ s'.started = s.started ∧
      World.SameEntriesBut (statusKey d.owner) d.qualifier w w') s w

theorem OwnEntry.pure (a : α) : OwnEntry d (pure a : Pass (StateM World) α) :=
  fun _ w qualified => ⟨qualified, rfl, .refl w⟩

theorem OwnEntry.throw (e : Error) : OwnEntry d (throw e : Pass (StateM World) α) :=
  fun _ w qualified => ⟨qualified, rfl, .refl w⟩

/-- A failure skips what follows it. -/
theorem OwnEntry.throw_bind (e : Error) (f : α → Pass (StateM World) β) :
    OwnEntry d (MonadExcept.throw e >>= f) :=
  fun _ w qualified => ⟨qualified, rfl, .refl w⟩

theorem OwnEntry.bind {x : Pass (StateM World) α} {f : α → Pass (StateM World) β} (first : OwnEntry d x)
    (rest : ∀ a, OwnEntry d (f a)) : OwnEntry d (x >>= f) := by
  intro s w qualified
  have kept := first s w qualified
  rw [wp_bind]
  unfold wp at kept ⊢
  generalize passRun x s w = r at kept ⊢
  rcases r with ⟨⟨_ | a, s'⟩, w'⟩
  · exact kept
  · have later := rest a s' w' kept.1
    unfold wp at later
    exact ⟨later.1, later.2.1.trans kept.2.1, kept.2.2.trans later.2.2⟩

theorem OwnEntry.tryCatch {x : Pass (StateM World) α} {handler : Error → Pass (StateM World) α}
    (body : OwnEntry d x) (handled : ∀ e, OwnEntry d (handler e)) : OwnEntry d (tryCatch x handler) := by
  intro s w qualified
  have kept := body s w qualified
  rw [wp_tryCatch]
  unfold wp at kept ⊢
  generalize passRun x s w = r at kept ⊢
  rcases r with ⟨⟨e | a, s'⟩, w'⟩
  · have later := handled e s' w' kept.1
    unfold wp at later
    exact ⟨later.1, later.2.1.trans kept.2.1, kept.2.2.trans later.2.2⟩
  · exact kept

theorem OwnEntry.map {x : Pass (StateM World) α} (f : α → β) (body : OwnEntry d x) : OwnEntry d (f <$> x) := by
  rw [map_eq_pure_bind]
  exact body.bind fun a => OwnEntry.pure (f a)

theorem OwnEntry.attempt {x : Pass (StateM World) α} (body : OwnEntry d x) : OwnEntry d (attempt x) :=
  (body.map _).tryCatch fun e => OwnEntry.pure (Except.error e)

/-- Two branches that end in the same continuation. -/
theorem OwnEntry.ite_bind {c : Prop} [Decidable c] {x y : Pass (StateM World) γ}
    {rest : γ → Pass (StateM World) α} (first : OwnEntry d x) (second : OwnEntry d y)
    (after : ∀ a, OwnEntry d (rest a)) : OwnEntry d (if c then x >>= rest else y >>= rest) := by
  split
  · exact first.bind after
  · exact second.bind after

theorem OwnEntry.forIn {f : α → γ → Pass (StateM World) (ForInStep γ)} (body : ∀ a b, OwnEntry d (f a b))
    (l : List α) (init : γ) : OwnEntry d (forIn l init f) :=
  Deploy.forIn_of_pure_of_bind (OwnEntry d) OwnEntry.pure OwnEntry.bind l (fun a _ => body a) init

/-- A call that leaves the status store alone. -/
theorem OwnEntry.liftCall {c : Op α} (kept : KeepsStatuses c) : OwnEntry d (liftCall c) := by
  intro s w qualified
  rw [wp_liftCall]
  exact ⟨qualified, rfl, .of_statuses (kept w)⟩

theorem OwnEntry.currentStatus : OwnEntry d (currentStatus : Pass (StateM World) ServerStatus) :=
  fun _ w qualified => ⟨qualified, rfl, .refl w⟩

/-- An update of the status that keeps its qualifier and its start. -/
theorem OwnEntry.updateStatus {f : ServerStatus → ServerStatus}
    (keeps : ∀ s, (f s).qualifier = s.qualifier ∧ (f s).started = s.started) : OwnEntry d (updateStatus f) := by
  intro s w qualified
  rw [wp_updateStatus]
  exact ⟨(keeps s).1.trans qualified, (keeps s).2, .refl w⟩

/-- A status write of the deployable changes its own entry only. -/
theorem OwnEntry.persist : OwnEntry d (persist World.backend.cluster d) := by
  intro s w qualified
  rw [wp_persist]
  exact ⟨qualified, rfl, qualified ▸ World.sameEntriesBut_writeStatus w d.owner s⟩

/-! ## The steps of a pass -/

section Steps

variable (rt : Runtime) (images : ImageResolver) (d : Deployable)

theorem ownEntry_recordJob (job : Job) : OwnEntry d (SchemaPreparation.recordJob job : Pass (StateM World) Unit) :=
  OwnEntry.updateStatus fun _ => ⟨rfl, rfl⟩

theorem ownEntry_prepareSchemas (p : SchemaPreparation) : OwnEntry d (p.run World.backend.cluster rt) := by
  unfold SchemaPreparation.run
  split
  · exact OwnEntry.pure _
  · split
    · simp only [pure_bind]
      refine OwnEntry.bind (OwnEntry.liftCall (keepsStatuses_schemaSecrets _ _ _ _)) fun results => ?_
      refine OwnEntry.bind (OwnEntry.liftCall (keepsStatuses_deleteJobs _ _)) fun _ => ?_
      refine OwnEntry.bind (OwnEntry.liftCall (keepsStatuses_createJob _)) fun created => ?_
      refine OwnEntry.bind (ownEntry_recordJob d created) fun _ => ?_
      refine OwnEntry.bind (OwnEntry.liftCall (KeepsStatuses.attempt (KeepsStatuses.pollUntil
        (KeepsStatuses.bind (keepsStatuses_loadJob _ _) fun _ => KeepsStatuses.pure _) _ _ _))) fun outcome => ?_
      split
      · refine OwnEntry.bind (ownEntry_recordJob d _) fun _ => ?_
        split
        · exact OwnEntry.throw_bind _ _
        · refine OwnEntry.bind (OwnEntry.forIn (fun _ _ => ?_) _ _) fun _ => OwnEntry.pure results
          exact OwnEntry.bind (OwnEntry.updateStatus fun _ => ⟨rfl, rfl⟩) fun _ => OwnEntry.pure _
      · refine OwnEntry.bind (OwnEntry.liftCall (KeepsStatuses.attempt (keepsStatuses_loadJob _ _))) fun loaded => ?_
        split
        · exact OwnEntry.bind (ownEntry_recordJob d _) fun _ => OwnEntry.throw_bind _ _
        · exact OwnEntry.throw_bind _ _
    · exact OwnEntry.throw_bind _ _

theorem ownEntry_prepareDatabase : OwnEntry d (prepareDatabase World.backend.cluster rt images d) := by
  unfold prepareDatabase
  simp only [pure_bind]
  split
  · exact OwnEntry.pure _
  · split
    · refine OwnEntry.bind (ownEntry_prepareSchemas rt d _).attempt fun result => ?_
      refine OwnEntry.bind OwnEntry.persist.attempt fun persisted => ?_
      split
      · exact OwnEntry.throw_bind _ _
      · split
        · exact OwnEntry.pure _
        · exact OwnEntry.throw _
    · exact OwnEntry.throw_bind _ _

theorem ownEntry_claimsStep : OwnEntry d (claimsStep World.backend.cluster rt d) := by
  unfold claimsStep
  refine OwnEntry.bind (OwnEntry.forIn (fun pvc _ => ?_) _ _) fun _ => OwnEntry.persist
  refine OwnEntry.bind (OwnEntry.liftCall (keepsStatuses_applyPvc _)) fun created => ?_
  exact OwnEntry.bind (OwnEntry.updateStatus fun _ => ⟨rfl, rfl⟩) fun _ => OwnEntry.pure _

theorem ownEntry_ingressStep : OwnEntry d (ingressStep World.backend.cluster d) := by
  unfold ingressStep
  split
  · exact OwnEntry.pure none
  · refine OwnEntry.bind (OwnEntry.liftCall (keepsStatuses_loadIngress _ _)) fun existing => ?_
    split
    · exact OwnEntry.pure none
    · refine OwnEntry.bind (OwnEntry.liftCall (keepsStatuses_applyIngress _)) fun ingress => ?_
      refine OwnEntry.bind (OwnEntry.updateStatus fun _ => ⟨rfl, rfl⟩) fun _ => ?_
      exact OwnEntry.bind OwnEntry.persist fun _ => OwnEntry.pure _

theorem ownEntry_keycloakStep (sso : Bool) : OwnEntry d (keycloakStep World.backend.cluster d (World.ssoSession sso)) := by
  unfold keycloakStep
  refine OwnEntry.bind (OwnEntry.forIn (fun c _ => ?_) _ _) fun _ => OwnEntry.pure _
  split
  · exact OwnEntry.pure _
  · simp only [pure_bind]
    cases sso with
    | false => exact OwnEntry.throw_bind _ _
    | true =>
      -- the simulated session logs its calls on Keycloak and leaves the cluster alone
      refine OwnEntry.bind (OwnEntry.liftCall (KeepsStatuses.onFailure _ _ _ ?_)) fun secret => ?_
      · refine KeepsStatuses.bind (fun _ => rfl) fun _ => ?_
        split
        · exact KeepsStatuses.bind (fun _ => rfl) fun _ => fun _ => rfl
        · exact fun _ => rfl
      refine OwnEntry.bind (OwnEntry.liftCall (keepsStatuses_createSecretIfAbsent _)) fun _ => ?_
      exact OwnEntry.bind (OwnEntry.updateStatus fun _ => ⟨rfl, rfl⟩) fun _ => OwnEntry.pure _

/-- The steps of a pass write the deployable's own status entry and no other. -/
theorem ownEntry_steps (sso : Bool) : OwnEntry d (steps World.backend.cluster rt images d (World.ssoSession sso)) := by
  unfold steps
  refine OwnEntry.bind (ownEntry_prepareDatabase rt images d) fun schemas => ?_
  refine OwnEntry.bind (ownEntry_claimsStep rt d) fun _ => ?_
  refine OwnEntry.ite_bind (OwnEntry.liftCall (keepsStatuses_ensureCaSecret _ _)) (OwnEntry.pure none)
    fun caSecretName => ?_
  refine OwnEntry.bind (OwnEntry.forIn (fun secret _ =>
    OwnEntry.bind (OwnEntry.liftCall (keepsStatuses_createSecretIfAbsent secret)) fun _ => OwnEntry.pure _) _ _)
    fun _ => ?_
  refine OwnEntry.bind (OwnEntry.liftCall (keepsStatuses_accountStep d)) fun _ => ?_
  refine OwnEntry.bind (OwnEntry.liftCall (keepsStatuses_applyService _)) fun service => ?_
  refine OwnEntry.bind (OwnEntry.updateStatus fun _ => ⟨rfl, rfl⟩) fun _ => ?_
  refine OwnEntry.bind OwnEntry.persist fun _ => ?_
  refine OwnEntry.bind (ownEntry_ingressStep d) fun ingress => ?_
  refine OwnEntry.bind (ownEntry_keycloakStep d sso) fun _ => ?_
  refine OwnEntry.bind (OwnEntry.liftCall (keepsStatuses_applyDeployment _)) fun deployment => ?_
  refine OwnEntry.bind (OwnEntry.updateStatus fun _ => ⟨rfl, rfl⟩) fun _ => ?_
  refine OwnEntry.bind OwnEntry.persist fun _ => ?_
  refine OwnEntry.bind (OwnEntry.liftCall (KeepsStatuses.attempt (KeepsStatuses.pollUntil
    (keepsStatuses_readyPod _ _ _) _ _ _))) fun waited => ?_
  refine OwnEntry.bind (OwnEntry.liftCall (KeepsStatuses.attempt (keepsStatuses_listPods _ _))) fun listed => ?_
  -- the pods are recorded whether or not the wait succeeded; only a Ready pod finishes the pass
  rcases waited with _ | ⟨current, pod⟩
  · rcases listed with _ | pods
    · exact OwnEntry.throw_bind _ _
    · exact OwnEntry.bind (OwnEntry.updateStatus fun _ => ⟨rfl, rfl⟩) fun _ => OwnEntry.throw_bind _ _
  · rcases listed with _ | pods
    · simp only [pure_bind]
      exact OwnEntry.bind (OwnEntry.updateStatus fun _ => ⟨rfl, rfl⟩) fun _ =>
        OwnEntry.bind OwnEntry.currentStatus fun _ => OwnEntry.pure _
    · simp only [pure_bind]
      exact OwnEntry.bind (OwnEntry.updateStatus fun _ => ⟨rfl, rfl⟩) fun _ =>
        OwnEntry.bind (OwnEntry.updateStatus fun _ => ⟨rfl, rfl⟩) fun _ =>
          OwnEntry.bind OwnEntry.currentStatus fun _ => OwnEntry.pure _

end Steps

/-- A pass that succeeds leaves every other status entry as it found it, and its own entry
holding the status it returns: of its qualifier, started when the pass started, finished and
without failure. -/
theorem execute_run_ok_entry (rt : Runtime) (images : ImageResolver) (d : Deployable) (sso : Bool)
    {w w' : World} {deployed : Deployed}
    (ran : ((execute World.backend.cluster rt images d (World.ssoSession sso)).run.run w).run =
      (.ok deployed, w')) :
    World.SameEntriesBut (statusKey d.owner) d.qualifier w w' ∧
      w'.entry (statusKey d.owner) d.qualifier = some deployed.status ∧
      deployed.status.qualifier = d.qualifier ∧ deployed.status.started = some rt.now ∧
      deployed.status.finished.isSome ∧ deployed.status.failure = none := by
  unfold execute at ran
  dsimp only at ran
  split at ran
  · simp at ran
  split at ran
  · simp at ran
  generalize (if d.ingress.isSome = true then ServerKind.web else ServerKind.db) = kind at ran
  obtain ⟨passed, w₁, ranPass, ran⟩ := Op.bind_run_eq_ok.mp ran
  rw [runPass_run] at ranPass
  cases ranPass
  -- the steps keep the qualifier and write no entry but their own
  have stepped := ownEntry_steps rt images d sso (ServerStatus.startedAt d.qualifier kind rt.now) w rfl
  unfold wp at stepped
  generalize passRun (steps World.backend.cluster rt images d (World.ssoSession sso))
    (ServerStatus.startedAt d.qualifier kind rt.now) w = pass at stepped ran
  obtain ⟨⟨result, s⟩, w₁⟩ := pass
  obtain ⟨qualified, started, framed⟩ := stepped
  cases result with
  | error e =>
    obtain ⟨_, _, -, ran⟩ := Op.bind_run_eq_ok.mp ran
    simp at ran
  | ok deployed =>
    obtain ⟨_, w₂, wrote, ran⟩ := Op.bind_run_eq_ok.mp ran
    split at ran
    · obtain ⟨_, _, thrown, -⟩ := Op.bind_run_eq_ok.mp ran
      cases thrown
    rename_i unfailed
    cases ran
    -- the final write stores the finished status under the deployable's qualifier
    obtain ⟨writable, rfl⟩ := updateServerStatus_run_ok wrote
    have own : (s.finish rt.now).qualifier = d.qualifier := by rw [ServerStatus.finish_qualifier, qualified]
    refine ⟨?_, ?_, own, by rw [ServerStatus.finish_started, started]; rfl, ?_,
      by simpa [ServerStatus.hasFailed] using unfailed⟩
    · have written := World.sameEntriesBut_writeStatus w₁ d.owner (s.finish rt.now)
      rw [own] at written
      exact framed.trans written
    · have stored := World.stored_writeStatus writable d.owner (s.finish rt.now)
      rw [own] at stored
      exact stored
    · unfold ServerStatus.finish
      split <;> simp_all

end StackOperator.Deploy
