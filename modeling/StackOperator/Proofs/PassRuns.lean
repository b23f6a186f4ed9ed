import StackOperator.Deploy.Command
import StackOperator.Proofs.ClusterCalls
import Mathlib.Tactic.Simps.Basic

/-!
# Passes against the simulated cluster

A pass over `World.backend` keeps its status as a state of its own and changes the world through
the cluster's calls. This module gives each step of a pass its exact effect on the world, as a
function of the world the step starts in, and the value the step returns.

The statements are in weakest-precondition form. `wp x post s w` says that the outcome of `x`, run
from status `s` in world `w`, satisfies `post`; a step's lemma says that every postcondition that
holds of the step's outcomes holds of its run. The status a step reaches is left open except for
what every step keeps, the qualifier and the failure (`ServerStatus.Continues`), so that the lemmas
compose without naming the statuses in between: a pass reads no status back from the cluster, and
its world depends on its statuses only through the statuses it writes. The schema preparation also
has its status given exactly (`run_wp_server_status`, `passRun_run_server`): the phase of its Job
and the JDBC URLs it records are part of what it does.
-/

namespace StackOperator

namespace ServerStatus

/-- A status that a pass reaches from `s` before it finishes: it keeps the qualifier and the
failure of `s`. -/
structure Continues (s s' : ServerStatus) : Prop where
  qualifier : s'.qualifier = s.qualifier
  failure : s'.failure = s.failure

theorem Continues.refl (s : ServerStatus) : s.Continues s := ⟨rfl, rfl⟩

theorem Continues.trans {a b c : ServerStatus} (first : a.Continues b) (second : b.Continues c) :
    a.Continues c :=
  ⟨second.qualifier.trans first.qualifier, second.failure.trans first.failure⟩

/-- The status with the phase of a Job recorded under the Job's name. -/
def withJobPhase (s : ServerStatus) (job : K8s.Job) : ServerStatus :=
  { s with podPhases := KeyMap.put s.podPhases (Cluster.nameOf job.metadata) job.phase }

/-- The status with the JDBC URL of each prepared schema recorded as the derived parameter
`<schema>JdbcUrl`. -/
def withJdbcUrls (s : ServerStatus) (results : List (String × SchemaResult)) : ServerStatus :=
  results.foldl (fun s r => s.putDerived (r.1 ++ "JdbcUrl") r.2.jdbcUrl) s

theorem continues_withJobPhase (s : ServerStatus) (job : K8s.Job) : s.Continues (s.withJobPhase job) :=
  ⟨rfl, rfl⟩

theorem continues_withJdbcUrls (s : ServerStatus) (results : List (String × SchemaResult)) :
    s.Continues (s.withJdbcUrls results) := by
  induction results generalizing s with
  | nil => exact .refl s
  | cons r rest ih =>
    have first : s.Continues (s.putDerived (r.1 ++ "JdbcUrl") r.2.jdbcUrl) := ⟨rfl, rfl⟩
    exact first.trans (ih _)

end ServerStatus

namespace Cluster

open K8s

namespace Store

variable {α : Type}

theorem get?_getOrPut_self (s : Store α) (key : ObjectKey) (v : α) :
    (s.getOrPut key v).2.get? key = some (s.getOrPut key v).1 := by
  unfold getOrPut
  cases h : s.get? key with
  | none => exact get?_put_self s key v
  | some old => exact h

/-- A stored object stays: storing under a free key replaces nothing. -/
theorem get?_getOrPut_of_present {s : Store α} {key : ObjectKey} {old : α} (present : s.get? key = some old)
    (other : ObjectKey) (v : α) : (s.getOrPut other v).2.get? key = some old := by
  unfold getOrPut
  cases h : s.get? other with
  | none =>
    have : key ≠ other := fun same => by rw [same, h] at present; cases present
    rw [get?_put_ne s other key v this, present]
  | some _ => exact present

end Store

namespace World

/-- A write of the status `s` of `owner`: the call is recorded, and the status is stored unless
status writes fail. -/
def writeStatus (w : World) (owner : Reference) (s : ServerStatus) : World :=
  { w with calls := w.calls ++ ["update_server_status:" ++ s.qualifier],
           statuses := if w.failStatusWrites then w.statuses
             else w.statuses.put (statusKey owner) (((w.statuses.get? (statusKey owner)).getD {}).put s) }

/-- What a status write returns: the refusal while status writes fail. -/
def writeOutcome (w : World) : Except Error Unit :=
  if w.failStatusWrites then .error (.illegalState "status subresource unavailable") else .ok ()

/-- The calls that apply a ServiceAccount, and the Role and RoleBinding granting its rules. -/
def accountCalls (objects : ServiceAccount × Option (Role × RoleBinding)) : List String :=
  ["apply_service_account:" ++ nameOf objects.1.metadata] ++
    match objects.2 with
    | none => []
    | some (role, binding) => ["apply_role:" ++ nameOf role.metadata,
                               "apply_role_binding:" ++ nameOf binding.metadata]

/-- A ServiceAccount applied, with the Role and RoleBinding granting its rules when it has any. -/
def withAccount (w : World) (objects : ServiceAccount × Option (Role × RoleBinding)) : World :=
  { w with calls := w.calls ++ accountCalls objects,
           serviceAccounts := w.serviceAccounts.put (keyOf objects.1.metadata) objects.1,
           roles := match objects.2 with
             | none => w.roles
             | some (role, _) => w.roles.put (keyOf role.metadata) role,
           roleBindings := match objects.2 with
             | none => w.roleBindings
             | some (_, binding) => w.roleBindings.put (keyOf binding.metadata) binding }

/-- The world with its status store replaced. -/
@[simps] def withStatusStore (w : World) (statuses : Store ResourceStatus) : World := { w with statuses }

/-- The ServiceAccount of a deployable applied, with its Role and RoleBinding when it has rules. -/
def withAccountOf (w : World) (d : Deployable) : World :=
  match d.serviceAccount with
  | none => w
  | some req => w.withAccount (Children.accountObjects d.owner d.qualifier req)

theorem foldl_withClaims (w : World) (cs : List PersistentVolumeClaim) :
    cs.foldl (fun w c => w.withClaims [c]) w = w.withClaims cs := by
  induction cs generalizing w with
  | nil => simp [withClaims]
  | cons c rest ih => rw [List.foldl_cons, ih, withClaims_append, List.singleton_append]

theorem foldl_withSecrets (w : World) (ss : List Secret) :
    ss.foldl (fun w s => w.withSecrets [s]) w = w.withSecrets ss := by
  induction ss generalizing w with
  | nil => simp [withSecrets]
  | cons s rest ih => rw [List.foldl_cons, ih, withSecrets_append, List.singleton_append]

end World

end Cluster

namespace Deploy

open Cluster K8s

variable {α β γ : Type}

/-- A pass computation run against the simulated cluster from a status and a world. -/
def passRun (x : Pass (StateM World) α) (s : ServerStatus) (w : World) :
    (Except Error α × ServerStatus) × World :=
  ((x.run.run s).run w).run

/-- The outcome of `x`, run from status `s` in world `w`, satisfies `post`. -/
def wp (x : Pass (StateM World) α) (post : Except Error α → ServerStatus → World → Prop)
    (s : ServerStatus) (w : World) : Prop :=
  post (passRun x s w).1.1 (passRun x s w).1.2 (passRun x s w).2

section Rules

variable (post : Except Error α → ServerStatus → World → Prop) (s : ServerStatus) (w : World)

theorem wp_bind (x : Pass (StateM World) β) (f : β → Pass (StateM World) α) :
    wp (x >>= f) post s w = wp x (fun r s' w' => match r with
      | .ok b => wp (f b) post s' w'
      | .error e => post (.error e) s' w') s w := by
  simp only [wp, passRun, ExceptT.run_bind, StateT.run_bind, Id.run_bind]
  rcases ((x.run.run s).run w).run with ⟨⟨r, s'⟩, w'⟩
  cases r <;> rfl

theorem wp_tryCatch (x : Pass (StateM World) α) (handler : Error → Pass (StateM World) α) :
    wp (tryCatch x handler) post s w = wp x (fun r s' w' => match r with
      | .ok a => post (.ok a) s' w'
      | .error e => wp (handler e) post s' w') s w := by
  simp only [wp, passRun, ExceptT.run_tryCatch, StateT.run_bind, Id.run_bind]
  rcases ((x.run.run s).run w).run with ⟨⟨r, s'⟩, w'⟩
  cases r <;> rfl

@[simp] theorem wp_pure (a : α) : wp (pure a) post s w = post (.ok a) s w := rfl

@[simp] theorem wp_throw (e : Error) : wp (throw e) post s w = post (.error e) s w := rfl

@[simp] theorem wp_liftCall (c : Op α) :
    wp (liftCall c) post s w = post (c.run.run w).run.1 s (c.run.run w).run.2 := rfl

@[simp] theorem wp_updateStatus (f : ServerStatus → ServerStatus) (post : Except Error Unit → ServerStatus → World → Prop) :
    wp (updateStatus f) post s w = post (.ok ()) (f s) w := rfl

@[simp] theorem wp_currentStatus (post : Except Error ServerStatus → ServerStatus → World → Prop) :
    wp currentStatus post s w = post (.ok s) s w := rfl

@[simp] theorem wp_persist (d : Deployable) (post : Except Error Unit → ServerStatus → World → Prop) :
    wp (persist World.backend.cluster d) post s w = post w.writeOutcome s (w.writeStatus d.owner s) := by
  simp only [persist, wp_bind, wp_currentStatus, wp_liftCall, World.backend, updateServerStatus_run,
    World.writeOutcome, World.writeStatus]
  cases w.failStatusWrites <;> rfl

/-- A status write that ends a step returning `x`. -/
theorem wp_persist_pure (d : Deployable) (x : α) :
    wp (persist World.backend.cluster d >>= fun _ => pure x) post s w =
      post (w.writeOutcome.map fun _ => x) s (w.writeStatus d.owner s) := by
  rw [wp_bind, wp_persist]
  cases w.writeOutcome <;> rfl

theorem wp_attempt (x : Pass (StateM World) β) (post : Except Error (Except Error β) → ServerStatus → World → Prop) :
    wp (attempt x) post s w = wp x (fun r s' w' => post (.ok r) s' w') s w := by
  rw [attempt, wp_tryCatch, map_eq_pure_bind, wp_bind]
  unfold wp
  rcases passRun x s w with ⟨⟨r, s'⟩, w'⟩
  cases r <;> rfl

/-- A call that returns `a` and leaves `w'`, followed by the rest of a pass. -/
theorem wp_call {post : Except Error α → ServerStatus → World → Prop} {s : ServerStatus} {w w' : World}
    {c : Op β} {a : β} (ran : (c.run.run w).run = (.ok a, w')) (f : β → Pass (StateM World) α) :
    wp (liftCall c >>= f) post s w = wp (f a) post s w' := by
  rw [wp_bind, wp_liftCall, ran]

/-- A loop whose every round makes the world step `next` and keeps going, whatever the status:
the loop makes the steps in order. -/
theorem wp_forIn (xs : List γ) (body : γ → PUnit → Pass (StateM World) (ForInStep PUnit))
    (next : γ → World → World)
    (round : ∀ x ∈ xs, ∀ s w (post : Except Error (ForInStep PUnit) → ServerStatus → World → Prop),
      (∀ s', s.Continues s' → post (.ok (.yield ⟨⟩)) s' (next x w)) → wp (body x ⟨⟩) post s w)
    (post : Except Error PUnit → ServerStatus → World → Prop) (s : ServerStatus) (w : World)
    (done : ∀ s', s.Continues s' → post (.ok ⟨⟩) s' (xs.foldl (fun w x => next x w) w)) :
    wp (forIn xs ⟨⟩ body) post s w := by
  induction xs generalizing s w with
  | nil => exact done s (.refl s)
  | cons x rest ih =>
    rw [List.forIn_cons, wp_bind]
    refine round x List.mem_cons_self s w _ fun s₁ continues₁ => ?_
    refine ih (fun y mem => round y (List.mem_cons_of_mem x mem)) s₁ (next x w) fun s₂ continues₂ => ?_
    exact done s₂ (continues₁.trans continues₂)

/-- A loop whose rounds only change the status leaves the world as it is. -/
theorem wp_forIn_status (xs : List γ) (body : γ → PUnit → Pass (StateM World) (ForInStep PUnit))
    (round : ∀ x ∈ xs, ∀ s w (post : Except Error (ForInStep PUnit) → ServerStatus → World → Prop),
      (∀ s', s.Continues s' → post (.ok (.yield ⟨⟩)) s' w) → wp (body x ⟨⟩) post s w)
    (post : Except Error PUnit → ServerStatus → World → Prop) (s : ServerStatus) (w : World)
    (done : ∀ s', s.Continues s' → post (.ok ⟨⟩) s' w) :
    wp (forIn xs ⟨⟩ body) post s w := by
  refine wp_forIn xs body (fun _ w => w) round post s w fun s' continues => ?_
  have unchanged : ∀ ys : List γ, ys.foldl (fun w _ => w) w = w := fun ys => by
    induction ys with
    | nil => rfl
    | cons _ _ ih => exact ih
  rw [unchanged]
  exact done s' continues

/-- A loop whose every round only applies `step` to the status: the loop folds `step` over the
list. -/
theorem wp_forIn_step (xs : List γ) (body : γ → PUnit → Pass (StateM World) (ForInStep PUnit))
    (step : ServerStatus → γ → ServerStatus)
    (round : ∀ x ∈ xs, ∀ s w (post : Except Error (ForInStep PUnit) → ServerStatus → World → Prop),
      post (.ok (.yield ⟨⟩)) (step s x) w → wp (body x ⟨⟩) post s w)
    (post : Except Error PUnit → ServerStatus → World → Prop) (s : ServerStatus) (w : World)
    (done : post (.ok ⟨⟩) (xs.foldl step s) w) :
    wp (forIn xs ⟨⟩ body) post s w := by
  induction xs generalizing s with
  | nil => exact done
  | cons x rest ih =>
    rw [List.forIn_cons, wp_bind]
    exact round x List.mem_cons_self s w _ (ih (fun y mem => round y (List.mem_cons_of_mem x mem)) (step s x) done)

end Rules

end Deploy

end StackOperator

namespace StackOperator.Cluster

open K8s

theorem foldl_putSecret_of_present {store : Store Secret} {key : ObjectKey} {old : Secret}
    (present : store.get? key = some old) (ss : List Secret) :
    (ss.foldl (fun store s => (putSecret store s).2) store).get? key = some old := by
  induction ss generalizing store with
  | nil => exact present
  | cons s rest ih => exact ih (Store.get?_getOrPut_of_present present _ _)

end StackOperator.Cluster

namespace StackOperator.Deploy

open Cluster K8s

namespace SchemaPreparation

/-- Where the Secret of a schema is kept. -/
def secretKey (p : SchemaPreparation) (schema : String) : ObjectKey :=
  ⟨p.owner.ns, Names.schemaSecretName p.owner.name schema⟩

/-- The Secret a schema's credentials are created in: its user name and the password the pass
generated for it. -/
def credentialSecret (p : SchemaPreparation) (rt : Runtime) (strategy : VendorStrategy)
    (schema : String) : Secret :=
  Secret.credentials (p.owner.ownedMeta (Names.schemaSecretName p.owner.name schema) p.qualifier)
    (Names.schemaUsername p.owner.name schema strategy.maxUsernameLength) (rt.password (p.secretKey schema))

/-- How to connect to a prepared schema, with the user name that its Secret holds in `secrets`. -/
def resultIn (p : SchemaPreparation) (strategy : VendorStrategy) (secrets : Store Secret)
    (schema : String) : SchemaResult :=
  let username := Names.schemaUsername p.owner.name schema strategy.maxUsernameLength
  { vendor := p.database.vendor, host := p.database.host, port := p.database.port,
    databaseName := p.database.databaseName,
    schemaName := ((secrets.get? (p.secretKey schema)).bind (·.value "username")).getD username,
    schemaSecretName := some (Names.schemaSecretName p.owner.name schema),
    jdbcParameters := p.database.jdbcParameters }

@[simp] theorem keyOf_credentialSecret (p : SchemaPreparation) (rt : Runtime) (strategy : VendorStrategy)
    (schema : String) : keyOf (p.credentialSecret rt strategy schema).metadata = p.secretKey schema := rfl

/-- The schema Secrets are created one by one, and each schema's user name is read back from the
Secret its name holds once all are created: a Secret that exists is kept, so the user name of an
earlier pass wins over the one this pass would give. -/
theorem schemaSecrets_run (p : SchemaPreparation) (rt : Runtime) (strategy : VendorStrategy)
    (schemas : List String) (w : World) :
    ((p.schemaSecrets World.backend.cluster rt strategy schemas).run.run w).run =
      (.ok (schemas.map fun schema => (schema, p.resultIn strategy
          (w.withSecrets (schemas.map (p.credentialSecret rt strategy))).secrets schema)),
        w.withSecrets (schemas.map (p.credentialSecret rt strategy))) := by
  induction schemas generalizing w with
  | nil => simp [schemaSecrets, World.withSecrets]
  | cons schema rest ih =>
    simp only [schemaSecrets, Op.bind_run, backend_createSecretIfAbsent, createSecretIfAbsent_run, ih,
      World.withSecrets_append, List.map_cons, List.singleton_append, ExceptT.run_pure, StateT.run_pure,
      Id.run_pure]
    -- the Secret created now is the one every later creation keeps
    have kept : (w.withSecrets (p.credentialSecret rt strategy schema ::
        rest.map (p.credentialSecret rt strategy))).secrets.get? (p.secretKey schema) =
          some (putSecret w.secrets (p.credentialSecret rt strategy schema)).1 :=
      foldl_putSecret_of_present (Store.get?_getOrPut_self _ _ _) _
    simp only [resultIn, kept, Option.bind_some]
    rfl

end SchemaPreparation

end StackOperator.Deploy

namespace StackOperator.Deploy

open Cluster K8s

variable {α : Type}

/-- The copy of the operator's CA Secret that a namespace gets: the source's data and type under the
same name, with no owner. -/
def caMirror (ns name : String) (source : Secret) : Secret :=
  { metadata := { name := some name, ns := some ns }, data := source.data, type := source.type }

/-- The CA Secret is mirrored only when it is configured and missing from the namespace; a source
missing from the operator's namespace fails the step before any call. -/
def caSecretEffect (config : OperatorConfig) (ns : String) (w : World) :
    Except Error (Option String) × World :=
  match config.caSecretName.filter (· ≠ "") with
  | none => (.ok none, w)
  | some name =>
    if (w.secrets.get? ⟨ns, name⟩).isSome then (.ok (some name), w)
    else match w.secrets.get? ⟨config.operatorNamespace, name⟩ with
      | some source => (.ok (some name), w.withSecrets [caMirror ns name source])
      | none => (.error (.config ("CA secret " ++ config.operatorNamespace ++ "/" ++ name ++
          " does not exist")), w)

/-- The CA step does not read the status store. -/
theorem caSecretEffect_statuses (config : OperatorConfig) (ns : String) (w : World)
    (statuses : Store ResourceStatus) :
    caSecretEffect config ns (w.withStatusStore statuses) =
      ((caSecretEffect config ns w).1, (caSecretEffect config ns w).2.withStatusStore statuses) := by
  unfold caSecretEffect World.withStatusStore
  dsimp only
  split
  · rfl
  · split
    · rfl
    · split <;> rfl

theorem ensureCaSecret_run (config : OperatorConfig) (ns : String) (w : World) :
    ((ensureCaSecret World.backend.cluster config ns).run.run w).run = caSecretEffect config ns w := by
  unfold ensureCaSecret caSecretEffect
  cases config.caSecretName.filter (· ≠ "") with
  | none => rfl
  | some name =>
    simp only [Op.bind_run, backend_loadSecret, loadSecret_run]
    cases (w.secrets.get? ⟨ns, name⟩).isSome
    · simp only [Bool.false_eq_true, if_false, Op.bind_run, loadSecret_run]
      cases w.secrets.get? ⟨config.operatorNamespace, name⟩ <;> rfl
    · rfl

theorem accountStep_run (d : Deployable) (w : World) :
    ((accountStep World.backend.cluster d).run.run w).run = (.ok (), w.withAccountOf d) := by
  unfold accountStep World.withAccountOf
  cases d.serviceAccount with
  | none => rfl
  | some req =>
    dsimp only
    rcases Children.accountObjects d.owner d.qualifier req with ⟨account, _ | ⟨role, binding⟩⟩
    · rfl
    · simp only [backend_applyServiceAccount, backend_applyRole, backend_applyRoleBinding, bind_pure_comp,
        Op.bind_run, applyServiceAccount_run, applyRole_run, applyRoleBinding_run, ExceptT.run_map, StateT.run_map,
        Id.run_map, List.append_assoc, List.cons_append, List.nil_append, World.withAccount, World.accountCalls,
        Prod.mk.injEq, and_true]
      rfl

theorem attempt_run (x : Op α) (w : World) :
    ((attempt x).run.run w).run = (.ok (x.run.run w).run.1, (x.run.run w).run.2) := by
  simp only [attempt, ExceptT.run_tryCatch, ExceptT.run_map, StateT.run_bind, StateT.run_map,
    Id.run_bind, Id.run_map]
  rcases (x.run.run w).run with ⟨r, w'⟩
  cases r <;> rfl

/-- A wait whose probe finds a value at once returns it. -/
theorem pollFor_run_found {probe : Op (Option α)} {v : α} {w : World}
    (probed : (probe.run.run w).run = (.ok (some v), w)) (onTimeout : Error) (k : Nat) :
    ((pollFor probe onTimeout (k + 1)).run.run w).run = (.ok v, w) := by
  simp only [pollFor, Op.bind_run, probed]
  rfl

/-- A wait whose probe finds nothing, and leaves the world as it is, times out. -/
theorem pollFor_run_none {probe : Op (Option α)} {w : World}
    (probed : (probe.run.run w).run = (.ok none, w)) (onTimeout : Error) (k : Nat) :
    ((pollFor probe onTimeout k).run.run w).run = (.error onTimeout, w) := by
  induction k with
  | zero => rfl
  | succ k ih =>
    simp only [pollFor, Op.bind_run, probed]
    exact ih

theorem attempt_pollFor_found {probe : Op (Option α)} {v : α} {w : World}
    (probed : (probe.run.run w).run = (.ok (some v), w)) (onTimeout : Error) (k : Nat) :
    ((attempt (pollFor probe onTimeout (k + 1))).run.run w).run = (.ok (.ok v), w) := by
  rw [attempt_run, pollFor_run_found probed]

theorem attempt_pollFor_none {probe : Op (Option α)} {w : World}
    (probed : (probe.run.run w).run = (.ok none, w)) (onTimeout : Error) (k : Nat) :
    ((attempt (pollFor probe onTimeout k)).run.run w).run = (.ok (.error onTimeout), w) := by
  rw [attempt_run, pollFor_run_none probed]

/-- The readiness probe of a Deployment: the first ready pod of the selector once the stored
Deployment reports its rollout complete. -/
def readyPodIn (w : World) (ns name selector : String) : Option (Deployment × Pod) :=
  (w.deployments.get? ⟨ns, name⟩).bind fun d =>
    let current := { d with status := some (rolloutStatus w d) }
    if rolledOut current then ((podsOf w ns selector).find? (·.isReady)).map (current, ·) else none

theorem readyPod?_run (ns name selector : String) (w : World) :
    ((readyPod? World.backend.cluster ns name selector).run.run w).run =
      (.ok (readyPodIn w ns name selector), w) := by
  unfold readyPod? readyPodIn
  simp only [Op.bind_run, backend_loadDeployment, loadDeployment_run]
  cases w.deployments.get? ⟨ns, name⟩ with
  | none => rfl
  | some d =>
    simp only [Option.map_some, Option.bind_some]
    split <;> rfl

namespace SchemaPreparation

/-- The selector of the qualifier's preparation Jobs. -/
def jobSelector (p : SchemaPreparation) : String :=
  dbPreparationLabel ++ "=" ++ Names.deploymentLabel p.owner.name p.qualifier

/-- The name of the preparation Job created after `counter` Jobs. -/
def jobName (p : SchemaPreparation) (counter : Nat) : String :=
  p.owner.name ++ "-" ++ p.qualifier ++ "-db-preparation-" ++ toString (counter + 1)

/-- A preparation on a database server once it has created the schema Secrets and deleted the
earlier preparation Jobs of the qualifier. -/
def cleanedUp (p : SchemaPreparation) (rt : Runtime) (strategy : VendorStrategy) (w : World) : World :=
  let w₁ := w.withSecrets (p.schemas.map (p.credentialSecret rt strategy))
  { w₁ with calls := w₁.calls ++ ["delete_jobs:" ++ p.jobSelector],
            jobs := w₁.jobs.filter fun (k, j) => k.ns != p.owner.ns ||
              (j.metadata.labels.bind (KeyMap.get? · (splitSelector p.jobSelector).1)) !=
                some (splitSelector p.jobSelector).2 }

/-- A preparation on a database server up to its wait: the schema Secrets created, the earlier
preparation Jobs of the qualifier deleted and its own Job created. -/
def prepared (p : SchemaPreparation) (rt : Runtime) (strategy : VendorStrategy) (w : World) : World :=
  let w₂ := p.cleanedUp rt strategy w
  { w₂ with calls := w₂.calls ++ ["create_job:" ++ p.jobName w.jobCounter],
            jobs := w₂.jobs.put ⟨p.owner.ns, p.jobName w.jobCounter⟩ (createdJob w (p.job rt)),
            jobCounter := w.jobCounter + 1 }

/-- The failure that the preparation Job named `name` ends the preparation with, if it does not
succeed: a failed Job, or a wait that runs out. -/
def jobFailure (p : SchemaPreparation) (rt : Runtime) (outcome : JobOutcome) (name : String) :
    Option Error :=
  match outcome with
  | .succeed => none
  | .fail => some ((Error.resourceCreation ("schema preparation Job " ++ name ++ " failed")).onResource
      "Job" p.owner.ns name)
  | .hang => some ((timedOut ("waiting for Job " ++ p.owner.ns ++ "/" ++ name ++ " to complete")
      rt.config.podCompletionTimeoutMs).onResource "Job" p.owner.ns name)

@[simp] theorem nameOf_createdJob (p : SchemaPreparation) (rt : Runtime) (w : World) :
    nameOf (createdJob w (p.job rt)).metadata = p.jobName w.jobCounter := rfl

/-- A preparation on a database server up to its wait calls the cluster once per schema Secret,
then deletes the qualifier's Jobs and creates its own. -/
theorem calls_prepared (p : SchemaPreparation) (rt : Runtime) (strategy : VendorStrategy) (w : World) :
    (p.prepared rt strategy w).calls = w.calls ++
      (p.schemas.map (fun schema => "create_secret:" ++ Names.schemaSecretName p.owner.name schema) ++
        ["delete_jobs:" ++ dbPreparationLabel ++ "=" ++ Names.deploymentLabel p.owner.name p.qualifier,
         "create_job:" ++ p.jobName w.jobCounter]) := by
  simp only [prepared, cleanedUp, World.withSecrets, List.map_map, List.append_assoc, List.cons_append,
    List.nil_append]
  rfl

/-- The phase a Job reports once it has run to an outcome. -/
theorem phase_reported (j : Job) (outcome : JobOutcome) :
    ({ j with status := some outcome.status } : Job).phase = match outcome with
      | .succeed => "Succeeded"
      | .fail => "Failed"
      | .hang => "Running" := by
  cases outcome <;> rfl

/-- The preparation Job as the cluster reports it once it has run. -/
def reportedJob (p : SchemaPreparation) (rt : Runtime) (w : World) : Job :=
  { createdJob w (p.job rt) with status := some w.jobOutcome.status }

theorem loadJob_prepared (p : SchemaPreparation) (rt : Runtime) (strategy : VendorStrategy) (w : World) :
    ((loadJob p.owner.ns (p.jobName w.jobCounter)).run.run (p.prepared rt strategy w)).run =
      (.ok (some (p.reportedJob rt w)), p.prepared rt strategy w) := by
  simp only [loadJob_run, prepared, Store.get?_put_self]
  rfl

/-- The probe of the wait for the preparation Job: the Job once it has finished, which a Job
that hangs never does. -/
theorem probe_prepared (p : SchemaPreparation) (rt : Runtime) (strategy : VendorStrategy) (w : World) :
    ((loadJob p.owner.ns (p.jobName w.jobCounter) >>= fun job => pure (job.filter (·.isFinished))).run.run
      (p.prepared rt strategy w)).run =
      (.ok (if w.jobOutcome = .hang then none else some (p.reportedJob rt w)), p.prepared rt strategy w) := by
  simp only [Op.bind_run, loadJob_prepared]
  unfold reportedJob
  cases w.jobOutcome <;> rfl

/-- Recording the phase of a Job, then going on. -/
theorem wp_recordJob_bind {α : Type} (job : Job) (f : Unit → Pass (StateM World) α)
    (post : Except Error α → ServerStatus → World → Prop) (s : ServerStatus) (w : World) :
    wp (recordJob job >>= f) post s w = wp (f ()) post (s.withJobPhase job) w := by
  rw [wp_bind, recordJob, wp_updateStatus]
  rfl

/-- The schemas a preparation on a database server returns once its Job succeeds. -/
def preparedResults (p : SchemaPreparation) (rt : Runtime) (strategy : VendorStrategy) (w : World) :
    List (String × SchemaResult) :=
  p.schemas.map fun schema => (schema, p.resultIn strategy (p.prepared rt strategy w).secrets schema)

/-- The status a preparation on a database server leaves: the phase of its Job as created and as the
cluster reports it after the wait, and once the Job succeeds the JDBC URL of every schema. -/
def preparedStatus (p : SchemaPreparation) (rt : Runtime) (strategy : VendorStrategy) (s : ServerStatus)
    (w : World) : ServerStatus :=
  let recorded := (s.withJobPhase (createdJob w (p.job rt))).withJobPhase (p.reportedJob rt w)
  match p.jobFailure rt w.jobOutcome (p.jobName w.jobCounter) with
  | none => recorded.withJdbcUrls (p.preparedResults rt strategy w)
  | some _ => recorded

theorem continues_preparedStatus (p : SchemaPreparation) (rt : Runtime) (strategy : VendorStrategy)
    (s : ServerStatus) (w : World) : s.Continues (p.preparedStatus rt strategy s w) := by
  have recorded := (s.continues_withJobPhase (createdJob w (p.job rt))).trans
    (ServerStatus.continues_withJobPhase _ (p.reportedJob rt w))
  unfold preparedStatus
  split
  · exact recorded.trans (ServerStatus.continues_withJdbcUrls _ _)
  · exact recorded

/-- A preparation on a database server creates the schema Secrets, replaces the qualifier's Job
and waits for it: it returns the prepared schemas when the Job succeeds and fails with the Job's
failure otherwise; it records the Job's phase as created and as reported, and on success the JDBC
URL of every schema; the world it leaves is the same either way. -/
theorem run_wp_server_status (p : SchemaPreparation) (rt : Runtime) (strategy : VendorStrategy)
    (server : p.database.vendor.isExternalServer = true)
    (known : VendorStrategy.of? p.database.vendor = some strategy)
    (post : Except Error (KeyMap SchemaResult) → ServerStatus → World → Prop) (s : ServerStatus) (w : World)
    (h : post (match p.jobFailure rt w.jobOutcome (p.jobName w.jobCounter) with
        | none => .ok (KeyMap.ofList (p.preparedResults rt strategy w))
        | some e => .error e) (p.preparedStatus rt strategy s w) (p.prepared rt strategy w)) :
    wp (p.run World.backend.cluster rt) post s w := by
  unfold run
  rw [if_neg (by simp [server])]
  simp only [known, pure_bind]
  have cleanup : ((deleteJobs p.owner.ns p.jobSelector).run.run
      (w.withSecrets (p.schemas.map (p.credentialSecret rt strategy)))).run =
        (.ok (), p.cleanedUp rt strategy w) := rfl
  have creation : ((createJob (p.job rt)).run.run (p.cleanedUp rt strategy w)).run =
      (.ok (createdJob w (p.job rt)), p.prepared rt strategy w) := rfl
  rw [wp_call (schemaSecrets_run p rt strategy p.schemas w), backend_deleteJobs,
    show dbPreparationLabel ++ "=" ++ Names.deploymentLabel p.owner.name p.qualifier = p.jobSelector from rfl,
    wp_call cleanup, backend_createJob, wp_call creation, nameOf_createdJob, backend_loadJob]
  obtain ⟨probes, counted⟩ : ∃ k, probeCount rt.config.pollIntervalMs rt.config.podCompletionTimeoutMs = k + 1 :=
    Nat.exists_eq_add_one.mpr (probeCount_pos _ _)
  simp only [pollUntil, counted]
  have probed := probe_prepared p rt strategy w
  rw [wp_recordJob_bind]
  unfold preparedStatus at h
  -- the three outcomes of the wait; each records the Job as the cluster reports it
  cases outcome : w.jobOutcome with
  | succeed =>
    simp only [outcome, reduceCtorEq, if_false] at probed
    rw [wp_call (attempt_pollFor_found probed _ _)]
    dsimp only
    rw [wp_recordJob_bind]
    rw [if_neg (by simp [reportedJob, phase_reported, outcome]), wp_bind]
    refine wp_forIn_step _ _ (fun s r => s.putDerived (r.1 ++ "JdbcUrl") r.2.jdbcUrl)
      (fun r _ s w post next => ?_) _ _ _ ?_
    · obtain ⟨schema, result⟩ := r
      rw [wp_bind, wp_updateStatus]
      exact next
    · dsimp only
      rw [wp_pure]
      rw [outcome] at h
      exact h
  | fail =>
    simp only [outcome, reduceCtorEq, if_false] at probed
    rw [wp_call (attempt_pollFor_found probed _ _)]
    dsimp only
    rw [wp_recordJob_bind]
    rw [if_pos (by simp [reportedJob, phase_reported, outcome]), wp_bind, wp_throw]
    dsimp only
    rw [outcome] at h
    exact h
  | hang =>
    simp only [outcome, if_true] at probed
    have loaded : ((attempt (loadJob p.owner.ns (p.jobName w.jobCounter))).run.run (p.prepared rt strategy w)).run =
        (.ok (.ok (some (p.reportedJob rt w))), p.prepared rt strategy w) := by
      rw [attempt_run, loadJob_prepared]
    rw [wp_call (attempt_pollFor_none probed _ _)]
    dsimp only
    rw [wp_call loaded]
    dsimp only
    rw [wp_recordJob_bind]
    rw [wp_bind, wp_throw]
    dsimp only
    rw [outcome] at h
    exact h

/-- The run of a preparation on a database server, as one equation. -/
theorem passRun_run_server (p : SchemaPreparation) (rt : Runtime) (strategy : VendorStrategy)
    (server : p.database.vendor.isExternalServer = true)
    (known : VendorStrategy.of? p.database.vendor = some strategy) (s : ServerStatus) (w : World) :
    passRun (p.run World.backend.cluster rt) s w =
      ((match p.jobFailure rt w.jobOutcome (p.jobName w.jobCounter) with
        | none => .ok (KeyMap.ofList (p.preparedResults rt strategy w))
        | some e => .error e, p.preparedStatus rt strategy s w), p.prepared rt strategy w) :=
  run_wp_server_status p rt strategy server known (fun r s' w' => ((r, s'), w') = _) s w rfl

/-- A preparation on a database server, with its statuses left open up to what they keep. -/
theorem run_wp_server (p : SchemaPreparation) (rt : Runtime) (strategy : VendorStrategy)
    (server : p.database.vendor.isExternalServer = true)
    (known : VendorStrategy.of? p.database.vendor = some strategy)
    (post : Except Error (KeyMap SchemaResult) → ServerStatus → World → Prop) (s : ServerStatus) (w : World)
    (h : ∀ s', s.Continues s' →
      post (match p.jobFailure rt w.jobOutcome (p.jobName w.jobCounter) with
        | none => .ok (KeyMap.ofList (p.schemas.map fun schema =>
            (schema, p.resultIn strategy (p.prepared rt strategy w).secrets schema)))
        | some e => .error e) s' (p.prepared rt strategy w)) :
    wp (p.run World.backend.cluster rt) post s w :=
  run_wp_server_status p rt strategy server known post s w (h _ (p.continues_preparedStatus rt strategy s w))

end SchemaPreparation

end StackOperator.Deploy

namespace StackOperator.Deploy

open Cluster K8s

/-- The preparation of a deployable's schemas on its database. -/
def preparation (d : Deployable) (images : ImageResolver) (db : ConnectionInfo) : SchemaPreparation :=
  { owner := d.owner, qualifier := d.qualifier, database := db, schemas := d.schemaQualifiers, images,
    schemasAscending := d.schemaQualifiers_ascending }

section SchemaStep

variable (rt : Runtime) (images : ImageResolver) (d : Deployable)
  (post : Except Error (KeyMap SchemaResult) → ServerStatus → World → Prop) (s : ServerStatus) (w : World)

/-- A deployable that needs no schema prepares nothing. -/
theorem prepareDatabase_wp_none (none : d.schemaQualifiers = []) (h : post (.ok .empty) s w) :
    wp (prepareDatabase World.backend.cluster rt images d) post s w := by
  unfold prepareDatabase
  rw [if_pos (by simp [none])]
  exact h

/-- Schemas without a database fail the step before any call. -/
theorem prepareDatabase_wp_unhosted (needed : d.schemaQualifiers ≠ []) (unhosted : d.database = none)
    (h : post (.error (.illegalState (d.owner.name ++ " " ++ d.qualifier ++
      " declares database schemas but no database"))) s w) :
    wp (prepareDatabase World.backend.cluster rt images d) post s w := by
  unfold prepareDatabase
  rw [if_neg (by simpa using needed)]
  simp only [unhosted]
  rw [wp_bind, wp_throw]
  exact h

/-- On an embedded database every schema is a database of its own name: the step only writes the
status. -/
theorem prepareDatabase_wp_embedded (db : ConnectionInfo) (needed : d.schemaQualifiers ≠ [])
    (hosted : d.database = some db) (embedded : db.vendor.isExternalServer = false)
    (h : post (w.writeOutcome.map fun _ => embeddedResults d.schemaQualifiers) s
      (w.writeStatus d.owner s)) :
    wp (prepareDatabase World.backend.cluster rt images d) post s w := by
  unfold prepareDatabase
  rw [if_neg (by simpa using needed)]
  simp only [hosted, pure_bind]
  rw [wp_bind, wp_attempt]
  unfold SchemaPreparation.run
  rw [if_pos (by simp [embedded]), wp_pure]
  dsimp only
  rw [wp_bind, wp_attempt, wp_persist]
  dsimp only
  cases written : w.writeOutcome with
  | error e => rw [written] at h; exact h
  | ok u => rw [written] at h; exact h

/-- On a database server the step prepares the schemas and writes the status whatever the outcome:
a Job that does not succeed fails the step as a database preparation, and otherwise a refused
status write does. -/
theorem prepareDatabase_wp_server (db : ConnectionInfo) (strategy : VendorStrategy)
    (needed : d.schemaQualifiers ≠ []) (hosted : d.database = some db)
    (server : db.vendor.isExternalServer = true) (known : VendorStrategy.of? db.vendor = some strategy)
    (h : ∀ s', s.Continues s' →
      post (match (preparation d images db).jobFailure rt w.jobOutcome
          ((preparation d images db).jobName w.jobCounter) with
        | some e => .error (.databasePreparation "Could not init database schemas" e)
        | none => ((preparation d images db).prepared rt strategy w).writeOutcome.map fun _ =>
          KeyMap.ofList (d.schemaQualifiers.map fun schema => (schema, (preparation d images db).resultIn
            strategy ((preparation d images db).prepared rt strategy w).secrets schema)))
        s' (((preparation d images db).prepared rt strategy w).writeStatus d.owner s')) :
    wp (prepareDatabase World.backend.cluster rt images d) post s w := by
  unfold prepareDatabase
  rw [if_neg (by simpa using needed)]
  simp only [hosted, pure_bind]
  rw [wp_bind, wp_attempt]
  refine SchemaPreparation.run_wp_server (preparation d images db) rt strategy server known _ s w
    fun s' continues => ?_
  dsimp only
  rw [wp_bind, wp_attempt, wp_persist]
  dsimp only
  have done := h s' continues
  cases failed : (preparation d images db).jobFailure rt w.jobOutcome
      ((preparation d images db).jobName w.jobCounter) with
  | some e =>
    rw [failed] at done
    cases ((preparation d images db).prepared rt strategy w).writeOutcome <;> exact done
  | none =>
    rw [failed] at done
    cases written : ((preparation d images db).prepared rt strategy w).writeOutcome with
    | error e => rw [written] at done; exact done
    | ok u => rw [written] at done; exact done

end SchemaStep

end StackOperator.Deploy

namespace StackOperator.Deploy

open Cluster K8s

/-- The Secret that keeps the credentials of a container's Keycloak client. -/
def clientSecret (d : Deployable) (access : KeycloakAccess) : Secret :=
  Secret.clientCredentials (d.owner.ownedMeta (Names.clientSecretName access.client.clientId) d.qualifier)
    access.client.clientId (access.client.clientId ++ "-generated-secret")

/-- The Keycloak calls that register a container's client, the public client of its realm
included when the deployable is served through an Ingress. -/
def clientCalls (d : Deployable) (access : KeycloakAccess) : List String :=
  ["ensure_realm:" ++ access.connection.realm] ++
    (if d.ingress.isSome then
      ["create_public_client:" ++ access.connection.realm ++ "/" ++ access.connection.publicClientId]
    else []) ++
    ["prepare_client:" ++ access.client.realm ++ "/" ++ access.client.clientId]

/-- The Keycloak clients of the containers that authenticate through one, in container order. -/
def clientAccesses (d : Deployable) : List KeycloakAccess := d.containers.filterMap (·.keycloak)

/-- Keycloak clients registered in order, the credentials of each kept in a Secret. -/
def withClients (w : World) (d : Deployable) (accesses : List KeycloakAccess) : World :=
  ({ w with ssoCalls := w.ssoCalls ++ accesses.flatMap (clientCalls d) } : World).withSecrets
    (accesses.map (clientSecret d))

@[simp] theorem withClients_nil (w : World) (d : Deployable) : withClients w d [] = w := by
  simp [withClients, World.withSecrets]

theorem clientAccesses_eq_nil {d : Deployable} (unneeded : d.needsKeycloak = false) :
    clientAccesses d = [] := by
  simpa [clientAccesses, Deployable.needsKeycloak, List.filterMap_eq_nil_iff] using unneeded

theorem withClients_append (w : World) (d : Deployable) (a b : List KeycloakAccess) :
    withClients (withClients w d a) d b = withClients w d (a ++ b) := by
  simp [withClients, World.withSecrets, List.foldl_append]

/-- The world a round of the Keycloak loop leaves: the container's client, if it has one. -/
theorem foldl_withClients (w : World) (d : Deployable) (cs : List ContainerPlan) :
    cs.foldl (fun w c => match c.keycloak with
      | none => w
      | some access => withClients w d [access]) w = withClients w d (cs.filterMap (·.keycloak)) := by
  induction cs generalizing w with
  | nil => simp [withClients, World.withSecrets]
  | cons c rest ih =>
    rw [List.foldl_cons, ih]
    cases needed : c.keycloak with
    | none => rw [List.filterMap_cons_none needed]
    | some access =>
      rw [withClients_append, List.filterMap_cons_some needed, List.singleton_append]

variable (d : Deployable) (s : ServerStatus) (w : World)

theorem claimsStep_wp (rt : Runtime) (post : Except Error Unit → ServerStatus → World → Prop)
    (h : ∀ s', s.Continues s' → post (w.withClaims (Children.claims d rt.config)).writeOutcome s'
        ((w.withClaims (Children.claims d rt.config)).writeStatus d.owner s')) :
    wp (claimsStep World.backend.cluster rt d) post s w := by
  rw [claimsStep, wp_bind]
  refine wp_forIn _ _ (fun (c : PersistentVolumeClaim) w => w.withClaims [c]) ?_ _ s w fun s' continues => ?_
  · intro c _ s w post next
    simp only [wp_bind, wp_liftCall, backend_applyPvc, applyPvc_run, wp_updateStatus, wp_pure]
    exact next _ ⟨rfl, rfl⟩
  · rw [World.foldl_withClaims]
    dsimp only
    rw [wp_persist]
    exact h s' continues

/-- The Ingress step applies the deployable's Ingress, merged with the one of its name, and writes
the status; a deployable that serves nothing over HTTP has no Ingress and the step does nothing. -/
theorem ingressStep_wp (post : Except Error (Option Ingress) → ServerStatus → World → Prop)
    (h : ∀ s', s.Continues s' →
      match d.ingress.bind fun req => Children.ingress d req (w.ingresses.get? ⟨d.owner.ns, req.ingressName⟩) with
      | none => post (.ok none) s' w
      | some desired => post ((w.withIngress desired).writeOutcome.map fun _ => some desired) s'
          ((w.withIngress desired).writeStatus d.owner s')) :
    wp (ingressStep World.backend.cluster d) post s w := by
  unfold ingressStep
  cases requested : d.ingress with
  | none =>
    have done := h s (.refl s)
    simp only [requested, Option.bind_none] at done
    exact done
  | some req =>
    simp only [requested, Option.bind_some] at h
    rw [wp_call (by rw [backend_loadIngress, loadIngress_run])]
    cases merged : Children.ingress d req (w.ingresses.get? ⟨d.owner.ns, req.ingressName⟩) with
    | none =>
      have done := h s (.refl s)
      rw [merged] at done
      exact done
    | some desired =>
      rw [merged] at h
      rw [wp_call (by rw [backend_applyIngress, applyIngress_run]), wp_bind, wp_updateStatus]
      dsimp only
      rw [wp_persist_pure]
      exact h _ ⟨rfl, rfl⟩

/-- A call that succeeds is not touched by the failure wrapper. -/
theorem onFailure_run_ok {x : Op α} {a : α} {w w' : World} (ran : (x.run.run w).run = (.ok a, w'))
    (kind ns name : String) : ((onFailure kind ns name x).run.run w).run = (.ok a, w') := by
  simp only [onFailure, ExceptT.run_tryCatch, StateT.run_bind, Id.run_bind]
  rw [ran]
  rfl

theorem registerClient_run (d : Deployable) (access : KeycloakAccess) (w : World) :
    ((onFailure "KeycloakClient" d.owner.ns access.client.clientId do
        ssoClient.ensureRealm access.connection.realm
        match d.ingress with
        | some req => do
          ssoClient.createPublicClient access.connection.realm access.connection.publicClientId
            req.externalBaseUrl
          ssoClient.prepareClient access.client
        | none => ssoClient.prepareClient access.client).run.run w).run =
      (.ok (access.client.clientId ++ "-generated-secret"),
        { w with ssoCalls := w.ssoCalls ++ clientCalls d access }) := by
  refine onFailure_run_ok ?_ _ _ _
  cases served : d.ingress <;>
    simp only [ssoClient, Op.bind_run, ensureRealm_run, createPublicClient_run, prepareClient_run, clientCalls,
      served, Option.isSome_none, Option.isSome_some, Bool.false_eq_true, ↓reduceIte, List.append_assoc,
      List.cons_append, List.nil_append, List.append_nil]

theorem keycloakStep_wp (post : Except Error Unit → ServerStatus → World → Prop)
    (h : ∀ s', s.Continues s' → post (.ok ()) s' (withClients w d (clientAccesses d))) :
    wp (keycloakStep World.backend.cluster d (some ssoClient)) post s w := by
  unfold keycloakStep
  rw [wp_bind]
  refine wp_forIn _ _ (fun (c : ContainerPlan) w => match c.keycloak with
    | none => w
    | some access => withClients w d [access]) ?_ _ s w fun s' continues => ?_
  · intro c _ s w post next
    dsimp only
    cases needed : c.keycloak with
    | none =>
      rw [needed] at next
      exact next s (.refl s)
    | some access =>
      rw [needed] at next
      simp only [withClients, List.flatMap_cons, List.flatMap_nil, List.append_nil, List.map_cons,
        List.map_nil] at next
      dsimp only
      rw [pure_bind]
      refine (wp_call (registerClient_run d access w) _).mpr ?_
      rw [backend_createSecretIfAbsent, wp_call (createSecretIfAbsent_run _ _), wp_bind, wp_updateStatus]
      exact next _ ⟨rfl, rfl⟩
  · rw [foldl_withClients]
    exact h s' continues

/-- Without a Keycloak session the step does nothing, provided no container needs a client. -/
theorem keycloakStep_wp_unneeded (post : Except Error Unit → ServerStatus → World → Prop)
    (unneeded : d.needsKeycloak = false) (h : ∀ s', s.Continues s' → post (.ok ()) s' w) :
    wp (keycloakStep World.backend.cluster d none) post s w := by
  unfold keycloakStep
  rw [wp_bind]
  refine wp_forIn_status _ _ ?_ _ s w fun s' continues => ?_
  · intro c member s w post next
    have none : c.keycloak = none := by
      simpa [Deployable.needsKeycloak] using List.any_eq_false.mp unneeded c member
    dsimp only
    rw [none]
    exact next s (.refl s)
  · exact h s' continues

end StackOperator.Deploy
