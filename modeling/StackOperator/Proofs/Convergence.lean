import StackOperator.Proofs.CallOrder
import StackOperator.Proofs.ObjectReferences

/-!
# Deploying twice changes nothing

A pass creates what a deployable needs once: Secrets and volume claims that exist are kept, and
every other object is written with the value it already has. A second pass of the same deployable
therefore finds everything in place and leaves it so; it only replaces the preparation Job of the
schemas and writes the Deployment again, one generation later.

* **selectors** — the label selector of the preparation Jobs splits back into its label and value
  (`splitSelector_append`), so a pass deletes exactly the Jobs of the earlier passes;
* **settled worlds** — `Settled` states that everything a pass of a deployable creates is in place,
  with the Deployment built from what the pass finds;
* **a successful pass settles its deployable** (`stepsEffect_settles`): a pass that succeeds went
  through every stage (`stepsEffect_ok`), and no later stage undoes what an earlier one created;
* **a pass over a settled world** succeeds and keeps every object but the Deployment and the Jobs
  (`stepsEffect_of_settled`).

Main statement: `execute_rerun_converges`. After a successful pass, a second pass of the same
deployable, whose Secrets may carry other generated passwords, succeeds too; it keeps every Secret,
claim, ServiceAccount, Role, RoleBinding, Service and Ingress as the first left them, raises the
Deployment's generation by one and leaves exactly one preparation Job when the schemas are prepared
on a server. Otherwise no pass deletes a preparation Job, so those the cluster held before stay,
however many (`execute_rerun_keeps_earlier_preparationJobs`).
-/

namespace StackOperator.Cluster

open K8s String

namespace Store

variable {α : Type}

/-- Storing the value a key already has changes nothing. -/
theorem put_of_get? {s : Store α} {key : ObjectKey} {v : α} (stored : s.get? key = some v) :
    s.put key v = s := by
  induction s with
  | nil => cases stored
  | cons e rest ih =>
    obtain ⟨k, w⟩ := e
    by_cases same : k = key
    · subst same
      simp only [get?, if_true, Option.some.injEq] at stored
      simp [put, stored]
    · simp only [get?, same, if_false] at stored
      simp [put, same, ih stored]

theorem getOrPut_of_isSome {s : Store α} {key : ObjectKey} (present : (s.get? key).isSome) (v : α) :
    (s.getOrPut key v).2 = s := by
  obtain ⟨old, stored⟩ := Option.isSome_iff_exists.mp present
  rw [getOrPut_of_present s key v old stored]

/-- Storing under a key leaves exactly one entry with a property that the new entry has and no
old entry has. -/
theorem length_filter_put {s : Store α} {p : ObjectKey × α → Bool} (none : s.filter p = [])
    (key : ObjectKey) (v : α) (holds : p (key, v) = true) : ((s.put key v).filter p).length = 1 := by
  induction s with
  | nil => simp [put, holds]
  | cons e rest ih =>
    obtain ⟨k, w⟩ := e
    have fails : p (k, w) = false := by
      cases kept : p (k, w) with
      | false => rfl
      | true => simp [kept] at none
    have rest_none : rest.filter p = [] := by simpa [List.filter_cons, fails] using none
    by_cases same : k = key
    · simp [put, same, holds, rest_none]
    · simp [put, same, fails, ih rest_none]

end Store

/-- A run that does not fail returns what it computes. -/
theorem Op.exists_run_eq_ok {α : Type} {x : Op α} {w : World} (passed : (x.run.run w).run.1.toBool = true) :
    ∃ a, (x.run.run w).run = (.ok a, (x.run.run w).run.2) := by
  rcases ran : (x.run.run w).run with ⟨_ | a, w'⟩
  · rw [ran] at passed
    cases passed
  · exact ⟨a, rfl⟩

/-- Creating Secrets that all exist already changes nothing. -/
theorem foldl_putSecret_of_isSome {store : Store Secret} {ss : List Secret}
    (present : ∀ s ∈ ss, (store.get? (keyOf s.metadata)).isSome) :
    ss.foldl (fun store s => (putSecret store s).2) store = store := by
  induction ss with
  | nil => rfl
  | cons s rest ih =>
    rw [List.foldl_cons, putSecret, Store.getOrPut_of_isSome (present s List.mem_cons_self)]
    exact ih fun s' mem => present s' (List.mem_cons_of_mem _ mem)

/-- Applying volume claims that all exist already changes nothing. -/
theorem foldl_getOrPut_of_isSome {store : Store PersistentVolumeClaim} {cs : List PersistentVolumeClaim}
    (present : ∀ c ∈ cs, (store.get? (keyOf c.metadata)).isSome) :
    cs.foldl (fun store c => (store.getOrPut (keyOf c.metadata) c).2) store = store := by
  induction cs with
  | nil => rfl
  | cons c rest ih =>
    rw [List.foldl_cons, Store.getOrPut_of_isSome (present c List.mem_cons_self)]
    exact ih fun c' mem => present c' (List.mem_cons_of_mem _ mem)

/-- A claim is stored after a fold of applications exactly when it was before or one was applied. -/
theorem isSome_get?_foldl_getOrPut (store : Store PersistentVolumeClaim) (cs : List PersistentVolumeClaim)
    (key : ObjectKey) :
    ((cs.foldl (fun store c => (store.getOrPut (keyOf c.metadata) c).2) store).get? key).isSome =
      ((store.get? key).isSome || cs.any fun c => keyOf c.metadata == key) := by
  induction cs generalizing store with
  | nil => simp
  | cons c rest ih => rw [List.foldl_cons, ih, isSome_get?_getOrPut, List.any_cons, Bool.or_assoc]

theorem isSome_withSecrets_of_mem (w : World) {ss : List Secret} {s : Secret} (mem : s ∈ ss) :
    ((w.withSecrets ss).secrets.get? (keyOf s.metadata)).isSome := by
  simp only [World.withSecrets, isSome_get?_foldl_putSecret, Bool.or_eq_true, List.any_eq_true, beq_iff_eq]
  exact Or.inr ⟨s, mem, rfl⟩

theorem isSome_withClaims_of_mem (w : World) {cs : List PersistentVolumeClaim} {c : PersistentVolumeClaim}
    (mem : c ∈ cs) : ((w.withClaims cs).pvcs.get? (keyOf c.metadata)).isSome := by
  simp only [World.withClaims, isSome_get?_foldl_getOrPut, Bool.or_eq_true, List.any_eq_true, beq_iff_eq]
  exact Or.inr ⟨c, mem, rfl⟩

end StackOperator.Cluster

namespace StackOperator.Children

open K8s

/-- Merging a deployable's routes into an Ingress that already has them merged changes nothing. -/
theorem mergePaths_mergePaths (kept own : List IngressPath) :
    mergePaths (mergePaths kept own) own = mergePaths kept own := by
  refine eq_of_sorted_of_filter_tiedWith pathLe_total (mergePaths_sorted _ _) (mergePaths_sorted _ _)
    fun a => ?_
  rw [filter_tiedWith_mergePaths, filter_tiedWith_mergePaths]
  by_cases served : own.any (·.path == a.path) = true <;> simp only [served] <;> rfl

end StackOperator.Children

namespace StackOperator.Deploy

open Cluster K8s

/-! ## What a pass builds its Deployment from -/

/-- The CA Secret a pass mounts: the configured one, when a container trusts the CA. -/
def mountedCaSecret (config : OperatorConfig) (d : Deployable) : Option String :=
  if d.trustsCa then config.caSecretName.filter (· ≠ "") else none

/-- The schemas a pass hands to its Deployment, with the user names that `secrets` holds for the
schemas prepared on a server. -/
def preparedSchemas (images : ImageResolver) (d : Deployable) (secrets : Store Secret) : KeyMap SchemaResult :=
  match d.database with
  | some db =>
    if db.vendor.isExternalServer then
      KeyMap.ofList (d.schemaQualifiers.map fun schema =>
        (schema, (preparation d images db).resultIn (VendorStrategy.ofVendor db.vendor) secrets schema))
    else embeddedResults d.schemaQualifiers
  | none => .empty

/-- What the Deployment of a pass is built from, the schemas' user names read from `secrets`. -/
def passInputs (config : OperatorConfig) (images : ImageResolver) (d : Deployable) (secrets : Store Secret) :
    Children.DeploymentInputs :=
  { config, images, schemas := preparedSchemas images d secrets, caSecretName := mountedCaSecret config d }

/-- A Deployment as stored at generation `g`. -/
def atGeneration (deployment : Deployment) (g : Int) : Deployment :=
  { deployment with metadata := { deployment.metadata with generation := some g } }

/-- The preparation Jobs of a deployable: the Jobs of its namespace labelled with its qualifier. -/
def preparationJobs (jobs : Store Job) (d : Deployable) : Store Job :=
  jobs.filter fun (k, j) => k.ns == d.owner.ns &&
    (j.metadata.labels.bind (KeyMap.get? · dbPreparationLabel)) == some (Names.deploymentLabel d.owner.name d.qualifier)

theorem storedDeployment_of_get? {w : World} {deployment stored : Deployment} {g : Int}
    (found : w.deployments.get? (keyOf deployment.metadata) = some (atGeneration stored g)) :
    storedDeployment w deployment = atGeneration deployment (g + 1) := by
  simp [storedDeployment, found, atGeneration]

/-- The schemas a pass reads back depend only on the Secrets of its schemas. -/
theorem preparedSchemas_congr (images : ImageResolver) (d : Deployable) {a b : Store Secret}
    (same : preparesOnServer d = true → ∀ schema ∈ d.schemaQualifiers,
      b.get? ⟨d.owner.ns, Names.schemaSecretName d.owner.name schema⟩ =
        a.get? ⟨d.owner.ns, Names.schemaSecretName d.owner.name schema⟩) :
    preparedSchemas images d b = preparedSchemas images d a := by
  unfold preparedSchemas
  cases hosted : d.database with
  | none => rfl
  | some db =>
    dsimp only
    cases server : db.vendor.isExternalServer with
    | false => rfl
    | true =>
      by_cases none : d.schemaQualifiers = []
      · simp [none]
      have onServer : preparesOnServer d = true := by simp [preparesOnServer, none, hosted, server]
      rw [if_pos rfl, if_pos rfl]
      refine congrArg KeyMap.ofList (List.map_congr_left fun schema mem => ?_)
      simp only [SchemaPreparation.resultIn, SchemaPreparation.secretKey, preparation,
        same onServer schema mem]

/-! ## Worlds that agree on objects -/

/-- `b` holds the Secrets, volume claims, ServiceAccounts, Roles, RoleBindings, Services and
Ingresses of `a`, under the same knobs. -/
structure SameObjects (a b : World) : Prop where
  secrets : b.secrets = a.secrets
  pvcs : b.pvcs = a.pvcs
  serviceAccounts : b.serviceAccounts = a.serviceAccounts
  roles : b.roles = a.roles
  roleBindings : b.roleBindings = a.roleBindings
  services : b.services = a.services
  ingresses : b.ingresses = a.ingresses
  failStatusWrites : b.failStatusWrites = a.failStatusWrites
  jobOutcome : b.jobOutcome = a.jobOutcome
  podsReady : b.podsReady = a.podsReady
  stalePods : b.stalePods = a.stalePods

namespace SameObjects

theorem refl (w : World) : SameObjects w w := ⟨rfl, rfl, rfl, rfl, rfl, rfl, rfl, rfl, rfl, rfl, rfl⟩

theorem trans {a b c : World} (first : SameObjects a b) (second : SameObjects b c) : SameObjects a c :=
  ⟨second.secrets.trans first.secrets, second.pvcs.trans first.pvcs,
    second.serviceAccounts.trans first.serviceAccounts, second.roles.trans first.roles,
    second.roleBindings.trans first.roleBindings, second.services.trans first.services,
    second.ingresses.trans first.ingresses, second.failStatusWrites.trans first.failStatusWrites,
    second.jobOutcome.trans first.jobOutcome, second.podsReady.trans first.podsReady,
    second.stalePods.trans first.stalePods⟩

end SameObjects

/-- A step that keeps the objects, the Deployments and the Jobs. -/
structure Untouched (a b : World) : Prop extends SameObjects a b where
  deployments : b.deployments = a.deployments
  jobs : b.jobs = a.jobs

theorem Untouched.trans {a b c : World} (first : Untouched a b) (second : Untouched b c) : Untouched a c :=
  { toSameObjects := first.toSameObjects.trans second.toSameObjects,
    deployments := second.deployments.trans first.deployments, jobs := second.jobs.trans first.jobs }

theorem untouched_logWrite (w : World) (qualifier : String) : Untouched w (w.logWrite qualifier) := by
  refine ⟨⟨?_, ?_, ?_, ?_, ?_, ?_, ?_, ?_, ?_, ?_, ?_⟩, ?_, ?_⟩ <;> rfl

theorem untouched_withStatusStore (w : World) (statuses : Store ResourceStatus) :
    Untouched w (w.withStatusStore statuses) := by
  refine ⟨⟨?_, ?_, ?_, ?_, ?_, ?_, ?_, ?_, ?_, ?_, ?_⟩, ?_, ?_⟩ <;> rfl

/-- The ServiceAccount step reads only the stores it writes. -/
theorem withAccountOf_congr {a b : World} (d : Deployable) (serviceAccounts : b.serviceAccounts = a.serviceAccounts)
    (roles : b.roles = a.roles) (roleBindings : b.roleBindings = a.roleBindings) :
    (b.withAccountOf d).serviceAccounts = (a.withAccountOf d).serviceAccounts ∧
      (b.withAccountOf d).roles = (a.withAccountOf d).roles ∧
      (b.withAccountOf d).roleBindings = (a.withAccountOf d).roleBindings := by
  unfold World.withAccountOf World.withAccount
  cases d.serviceAccount <;> simp [serviceAccounts, roles, roleBindings]

/-! ## Settled worlds -/

/-- Everything a pass of `d` creates is in place in `w`: the Secrets it creates once (of its
schemas, of the CA, its own and its Keycloak clients'), its volume claims, its ServiceAccount with
its Role and RoleBinding, its Service, its Ingress merged with the routes already there, and its
Deployment, built from the schemas and CA Secret a pass finds in `w`. -/
structure Settled (config : OperatorConfig) (images : ImageResolver) (d : Deployable) (w : World) : Prop where
  /-- Its schemas have a database to live on. -/
  hosted : d.schemaQualifiers ≠ [] → d.database.isSome
  schemaSecrets : preparesOnServer d = true → ∀ schema ∈ d.schemaQualifiers,
    (w.secrets.get? ⟨d.owner.ns, Names.schemaSecretName d.owner.name schema⟩).isSome
  caSecret : ∀ name, mountedCaSecret config d = some name → (w.secrets.get? ⟨d.owner.ns, name⟩).isSome
  ownSecrets : ∀ s ∈ d.secrets, (w.secrets.get? (keyOf s.metadata)).isSome
  claims : ∀ c ∈ Children.claims d config, (w.pvcs.get? (keyOf c.metadata)).isSome
  serviceAccounts : (w.withAccountOf d).serviceAccounts = w.serviceAccounts
  roles : (w.withAccountOf d).roles = w.roles
  roleBindings : (w.withAccountOf d).roleBindings = w.roleBindings
  service : w.services.get? (keyOf (Children.service d).metadata) = some (Children.service d)
  ingress : ∀ req, d.ingress = some req → Children.routes d ≠ [] → ∃ kept,
    w.ingresses.get? ⟨d.owner.ns, req.ingressName⟩ =
      some (Children.sharedIngress d.owner req (Children.mergePaths kept (Children.routes d)))
  clientSecrets : ∀ access ∈ clientAccesses d, (w.secrets.get? (keyOf (clientSecret d access).metadata)).isSome
  deployment : ∃ g, w.deployments.get? ⟨d.owner.ns, d.deploymentName⟩ =
    some (atGeneration (Children.deployment d (passInputs config images d w.secrets)) g)

namespace Settled

variable {config : OperatorConfig} {images : ImageResolver} {d : Deployable}

/-- Settledness is about objects only. -/
theorem of_sameObjects {a b : World} (settled : Settled config images d a) (same : SameObjects a b)
    (deployments : b.deployments = a.deployments) : Settled config images d b := by
  obtain ⟨serviceAccounts, roles, roleBindings⟩ :=
    withAccountOf_congr d same.serviceAccounts same.roles same.roleBindings
  refine ⟨settled.hosted, ?_, ?_, ?_, ?_, ?_, ?_, ?_, ?_, ?_, ?_, ?_⟩
  · rw [same.secrets]
    exact settled.schemaSecrets
  · rw [same.secrets]
    exact settled.caSecret
  · rw [same.secrets]
    exact settled.ownSecrets
  · rw [same.pvcs]
    exact settled.claims
  · rw [serviceAccounts, same.serviceAccounts]
    exact settled.serviceAccounts
  · rw [roles, same.roles]
    exact settled.roles
  · rw [roleBindings, same.roleBindings]
    exact settled.roleBindings
  · rw [same.services]
    exact settled.service
  · rw [same.ingresses]
    exact settled.ingress
  · rw [same.secrets]
    exact settled.clientSecrets
  · rw [deployments, same.secrets]
    exact settled.deployment

/-- Other generated passwords in the deployable's own Secrets do not unsettle it. -/
theorem withSecrets {w : World} (settled : Settled config images d w) (secrets : List Secret)
    (sameKeys : secrets.map (fun s => keyOf s.metadata) = d.secrets.map (fun s => keyOf s.metadata)) :
    Settled config images { d with secrets } w where
  hosted := settled.hosted
  schemaSecrets := settled.schemaSecrets
  caSecret := settled.caSecret
  ownSecrets s mem := by
    have named : keyOf s.metadata ∈ d.secrets.map (fun s => keyOf s.metadata) :=
      sameKeys ▸ List.mem_map_of_mem mem
    obtain ⟨s', mem', same⟩ := List.mem_map.mp named
    rw [← same]
    exact settled.ownSecrets s' mem'
  claims := settled.claims
  serviceAccounts := settled.serviceAccounts
  roles := settled.roles
  roleBindings := settled.roleBindings
  service := settled.service
  ingress := settled.ingress
  clientSecrets := settled.clientSecrets
  deployment := settled.deployment

end Settled

/-! ## A pass over a settled world -/

/-- The ServiceAccount step changes only the logs and the account stores. -/
theorem withAccountOf_eq (w : World) (d : Deployable) :
    w.withAccountOf d = { w with calls := (w.withAccountOf d).calls,
                                 serviceAccounts := (w.withAccountOf d).serviceAccounts,
                                 roles := (w.withAccountOf d).roles,
                                 roleBindings := (w.withAccountOf d).roleBindings } := by
  unfold World.withAccountOf
  cases d.serviceAccount <;> rfl

@[simp] theorem withAccountOf_secrets (w : World) (d : Deployable) : (w.withAccountOf d).secrets = w.secrets := by
  rw [withAccountOf_eq w d]

@[simp] theorem withAccountOf_pvcs (w : World) (d : Deployable) : (w.withAccountOf d).pvcs = w.pvcs := by
  rw [withAccountOf_eq w d]

@[simp] theorem withAccountOf_jobs (w : World) (d : Deployable) : (w.withAccountOf d).jobs = w.jobs := by
  rw [withAccountOf_eq w d]

@[simp] theorem withAccountOf_services (w : World) (d : Deployable) : (w.withAccountOf d).services = w.services := by
  rw [withAccountOf_eq w d]

/-- Applying the ServiceAccount objects again leaves the stores as applying them once did. -/
theorem withAccountOf_withAccountOf (w : World) (d : Deployable) :
    ((w.withAccountOf d).withAccountOf d).serviceAccounts = (w.withAccountOf d).serviceAccounts ∧
      ((w.withAccountOf d).withAccountOf d).roles = (w.withAccountOf d).roles ∧
      ((w.withAccountOf d).withAccountOf d).roleBindings = (w.withAccountOf d).roleBindings := by
  unfold World.withAccountOf World.withAccount
  cases d.serviceAccount with
  | none => exact ⟨rfl, rfl, rfl⟩
  | some req =>
    dsimp only
    refine ⟨Store.put_of_get? (Store.get?_put_self _ _ _), ?_, ?_⟩ <;>
      cases (Children.accountObjects d.owner d.qualifier req).2 <;> simp [Store.put_of_get? (Store.get?_put_self _ _ _)]

/-- Applying the ServiceAccount objects to stores that already hold them changes nothing. -/
theorem withAccountOf_of_applied {a b : World} (d : Deployable)
    (serviceAccounts : b.serviceAccounts = (a.withAccountOf d).serviceAccounts)
    (roles : b.roles = (a.withAccountOf d).roles) (roleBindings : b.roleBindings = (a.withAccountOf d).roleBindings) :
    (b.withAccountOf d).serviceAccounts = b.serviceAccounts ∧ (b.withAccountOf d).roles = b.roles ∧
      (b.withAccountOf d).roleBindings = b.roleBindings := by
  obtain ⟨serviceAccounts', roles', roleBindings'⟩ :=
    withAccountOf_congr (a := a.withAccountOf d) d serviceAccounts roles roleBindings
  obtain ⟨serviceAccountsAgain, rolesAgain, roleBindingsAgain⟩ := withAccountOf_withAccountOf a d
  exact ⟨by rw [serviceAccounts', serviceAccountsAgain, serviceAccounts],
    by rw [roles', rolesAgain, roles], by rw [roleBindings', roleBindingsAgain, roleBindings]⟩

theorem Untouched.refl (w : World) : Untouched w w := ⟨SameObjects.refl w, rfl, rfl⟩

/-- The preparation Jobs left by the schema step on a server: the earlier ones deleted, the new one
created. -/
theorem preparationJobs_prepared (rt : Runtime) (images : ImageResolver) (d : Deployable) (w : World)
    (db : ConnectionInfo) (strategy : VendorStrategy) :
    (preparationJobs ((preparation d images db).prepared rt strategy w).jobs d).length = 1 := by
  have selector : splitSelector (preparation d images db).jobSelector =
      (dbPreparationLabel, Names.deploymentLabel d.owner.name d.qualifier) :=
    splitSelector_append _ _ (by decide)
  refine Store.length_filter_put ?_ _ _ ?_
  · -- the deletion spares no Job that the label selects
    simp only [SchemaPreparation.cleanedUp, World.withSecrets, selector, List.filter_filter]
    refine List.filter_eq_nil_iff.mpr fun job _ => ?_
    simp only [preparation, Bool.and_eq_true, bne_iff_ne, ne_eq, Bool.or_eq_true]
    grind
  · simp [preparation, createdJob, SchemaPreparation.job, Children.JobPlan.withLabels,
      Children.JobPlan.build, KeyMap.get?_union]

/-- A Deployment rolls out at once while pods are ready. -/
theorem rolledOut_of_ready {w : World} (ready : w.podsReady = true) (deployment : Deployment) :
    rolledOut { deployment with status := some (rolloutStatus w deployment) } = true := by
  unfold rolledOut rolloutStatus
  cases deployment.metadata.generation <;> simp [ready]

/-- While pods are ready, the wait finds a ready pod of any stored Deployment. -/
theorem readinessOutcome_of_ready (rt : Runtime) (d : Deployable) {w : World} (ready : w.podsReady = true)
    {deployment : Deployment} (stored : w.deployments.get? ⟨d.owner.ns, d.deploymentName⟩ = some deployment) :
    readinessOutcome rt d w = .ok () := by
  obtain ⟨pod, found⟩ : ∃ pod, (podsOf w d.owner.ns (d.owner.deploymentSelector d.qualifier)).find?
      (·.isReady) = some pod :=
    Option.isSome_iff_exists.mp (List.find?_isSome.mpr
      ⟨readyPod ((splitSelector (d.owner.deploymentSelector d.qualifier)).2 ++ "-pod") d.owner.ns,
        by simp [podsOf, ready], rfl⟩)
  unfold readinessOutcome readyPodIn
  simp [stored, rolledOut_of_ready ready, found]

section Rerun

variable (rt : Runtime) (images : ImageResolver) (d : Deployable) (w : World)

/-- On a settled world the schema step creates no Secret and succeeds while the Job does; on a
server it leaves exactly one preparation Job. -/
theorem schemaEffect_of_settled (settled : Settled rt.config images d w) (writable : w.failStatusWrites = false)
    (succeeding : w.jobOutcome = .succeed) :
    (schemaEffect rt images d w).1 = .ok (preparedSchemas images d w.secrets) ∧
      SameObjects w (schemaEffect rt images d w).2 ∧
      (schemaEffect rt images d w).2.deployments = w.deployments ∧
      (preparationJobs (schemaEffect rt images d w).2.jobs d).length =
        if preparesOnServer d then 1 else (preparationJobs w.jobs d).length := by
  unfold schemaEffect
  by_cases noSchemas : d.schemaQualifiers = []
  · have embedded : preparesOnServer d = false := by simp [preparesOnServer, noSchemas]
    rw [if_pos noSchemas, embedded]
    refine ⟨?_, SameObjects.refl w, rfl, rfl⟩
    -- without schemas there is nothing to hand over
    unfold preparedSchemas
    cases d.database with
    | none => rfl
    | some db =>
      dsimp only
      split <;> simp [noSchemas, embeddedResults]
  rw [if_neg noSchemas]
  obtain ⟨db, hosted⟩ := Option.isSome_iff_exists.mp (settled.hosted noSchemas)
  simp only [hosted]
  cases server : db.vendor.isExternalServer with
  | false =>
    have embedded : preparesOnServer d = false := by simp [preparesOnServer, hosted, server]
    simp only [Bool.false_eq_true, if_false, embedded]
    refine ⟨?_, (untouched_logWrite w d.qualifier).toSameObjects, rfl, rfl⟩
    simp [World.writeOutcome, writable, preparedSchemas, hosted, server, Except.map]
  | true =>
    have onServer : preparesOnServer d = true := by simp [preparesOnServer, noSchemas, hosted, server]
    -- every schema Secret exists, so the preparation creates none
    have kept : ((preparation d images db).prepared rt (VendorStrategy.ofVendor db.vendor) w).secrets =
        w.secrets :=
      foldl_putSecret_of_isSome fun s mem => by
        obtain ⟨schema, member, created⟩ := List.mem_map.mp mem
        rw [← created]
        exact settled.schemaSecrets onServer schema member
    have passed : (preparation d images db).jobFailure rt w.jobOutcome
        ((preparation d images db).jobName w.jobCounter) = none := by
      rw [succeeding]
      rfl
    simp only [if_true, passed, onServer]
    refine ⟨?_, ⟨kept, rfl, rfl, rfl, rfl, rfl, rfl, rfl, rfl, rfl, rfl⟩, rfl,
      preparationJobs_prepared rt images d w db _⟩
    have outcome : ((preparation d images db).prepared rt (VendorStrategy.ofVendor db.vendor) w).writeOutcome =
        .ok () := by
      simp [World.writeOutcome, SchemaPreparation.prepared, SchemaPreparation.cleanedUp, World.withSecrets,
        writable]
    rw [outcome, kept]
    simp [preparedSchemas, hosted, server, Except.map]

theorem claimsStage_of_settled (settled : Settled rt.config images d w) (writable : w.failStatusWrites = false) :
    (written (w.withClaims (Children.claims d rt.config)) d.qualifier).1 = .ok () ∧
      Untouched w (written (w.withClaims (Children.claims d rt.config)) d.qualifier).2 := by
  have kept : (w.withClaims (Children.claims d rt.config)).pvcs = w.pvcs :=
    foldl_getOrPut_of_isSome settled.claims
  refine ⟨by simp [written, World.writeOutcome, World.withClaims, writable], ?_⟩
  exact ⟨⟨rfl, kept, rfl, rfl, rfl, rfl, rfl, rfl, rfl, rfl, rfl⟩, rfl, rfl⟩

theorem caEffect_of_settled (settled : Settled rt.config images d w) :
    caEffect rt.config d w = (.ok (mountedCaSecret rt.config d), w) := by
  unfold caEffect mountedCaSecret
  cases trusts : d.trustsCa with
  | false => rfl
  | true =>
    simp only [if_true]
    unfold caSecretEffect
    cases configured : rt.config.caSecretName.filter (· ≠ "") with
    | none => rfl
    | some name =>
      have present := settled.caSecret name (by simpa [mountedCaSecret, trusts] using configured)
      simp [present]

theorem serviceStage_of_settled (settled : Settled rt.config images d w) (writable : w.failStatusWrites = false) :
    (written (((w.withSecrets d.secrets).withAccountOf d).withService (Children.service d)) d.qualifier).1 =
        .ok () ∧
      Untouched w (written (((w.withSecrets d.secrets).withAccountOf d).withService (Children.service d))
        d.qualifier).2 := by
  have kept : (w.withSecrets d.secrets).secrets = w.secrets := foldl_putSecret_of_isSome settled.ownSecrets
  -- creating the deployable's Secrets leaves the account stores as they are
  obtain ⟨serviceAccounts, roles, roleBindings⟩ := withAccountOf_congr d
    (show (w.withSecrets d.secrets).serviceAccounts = w.serviceAccounts from rfl) rfl rfl
  rw [withAccountOf_eq]
  refine ⟨by simp [written, World.writeOutcome, World.withService, World.withSecrets, writable], ?_⟩
  refine ⟨⟨kept, rfl, serviceAccounts.trans settled.serviceAccounts, roles.trans settled.roles,
    roleBindings.trans settled.roleBindings, Store.put_of_get? settled.service, rfl, rfl, rfl, rfl, rfl⟩,
    rfl, rfl⟩

theorem ingressEffect_of_settled (settled : Settled rt.config images d w) (writable : w.failStatusWrites = false) :
    (∃ ingress, (ingressEffect d w).1 = .ok ingress) ∧ Untouched w (ingressEffect d w).2 := by
  unfold ingressEffect
  cases requested : d.ingress with
  | none => exact ⟨⟨none, rfl⟩, Untouched.refl w⟩
  | some req =>
    simp only [Option.bind_some, Children.ingress_eq]
    by_cases unrouted : Children.routes d = []
    · simp only [unrouted, if_true]
      exact ⟨⟨none, rfl⟩, Untouched.refl w⟩
    -- the stored Ingress already holds the deployable's routes, so merging them again changes nothing
    obtain ⟨kept, stored⟩ := settled.ingress req requested unrouted
    simp only [unrouted, if_false, stored, Children.hostPaths_sharedIngress, Children.mergePaths_mergePaths]
    refine ⟨⟨some (Children.sharedIngress d.owner req (Children.mergePaths kept (Children.routes d))),
      by simp [World.writeOutcome, World.withIngress, writable, Except.map]⟩, ?_⟩
    exact ⟨⟨rfl, rfl, rfl, rfl, rfl, rfl, Store.put_of_get? stored, rfl, rfl, rfl, rfl⟩, rfl, rfl⟩

theorem deploymentStage_of_settled (settled : Settled rt.config images d w) (writable : w.failStatusWrites = false)
    (inputs : Children.DeploymentInputs) :
    (written ((withClients w d (clientAccesses d)).withDeployment (Children.deployment d inputs)) d.qualifier).1 =
        .ok () ∧
      SameObjects w (written ((withClients w d (clientAccesses d)).withDeployment
        (Children.deployment d inputs)) d.qualifier).2 ∧
      (written ((withClients w d (clientAccesses d)).withDeployment (Children.deployment d inputs))
        d.qualifier).2.jobs = w.jobs ∧
      (written ((withClients w d (clientAccesses d)).withDeployment (Children.deployment d inputs))
        d.qualifier).2.deployments =
        w.deployments.put ⟨d.owner.ns, d.deploymentName⟩ (storedDeployment w (Children.deployment d inputs)) := by
  have kept : (withClients w d (clientAccesses d)).secrets = w.secrets :=
    foldl_putSecret_of_isSome fun s mem => by
      obtain ⟨access, member, created⟩ := List.mem_map.mp mem
      rw [← created]
      exact settled.clientSecrets access member
  refine ⟨by simp [written, World.writeOutcome, World.withDeployment, withClients, World.withSecrets, writable],
    ⟨kept, rfl, rfl, rfl, rfl, rfl, rfl, rfl, rfl, rfl, rfl⟩, rfl, rfl⟩

/-- On a settled world a pass succeeds. It keeps every object, writes the Deployment built from
what it finds a generation later, and leaves one preparation Job when it prepares its schemas on a
server. -/
theorem stepsEffect_of_settled (settled : Settled rt.config images d w) (writable : w.failStatusWrites = false)
    (ready : w.podsReady = true) (succeeding : w.jobOutcome = .succeed) :
    (stepsEffect rt images d w).1 = .ok () ∧ SameObjects w (stepsEffect rt images d w).2 ∧
      (stepsEffect rt images d w).2.deployments = w.deployments.put ⟨d.owner.ns, d.deploymentName⟩
        (storedDeployment w (Children.deployment d (passInputs rt.config images d w.secrets))) ∧
      (preparationJobs (stepsEffect rt images d w).2.jobs d).length =
        if preparesOnServer d then 1 else (preparationJobs w.jobs d).length := by
  unfold stepsEffect
  -- each stage keeps the world settled for the next one
  obtain ⟨schemasOk, same₁, deployments₁, jobs₁⟩ := schemaEffect_of_settled rt images d w settled writable succeeding
  generalize schemaEffect rt images d w = stage₁ at schemasOk same₁ deployments₁ jobs₁ ⊢
  obtain ⟨_, w₁⟩ := stage₁
  dsimp only at schemasOk same₁ deployments₁ jobs₁
  subst schemasOk
  dsimp only
  have settled₁ := settled.of_sameObjects same₁ deployments₁
  have writable₁ : w₁.failStatusWrites = false := same₁.failStatusWrites.trans writable
  obtain ⟨claimsOk, untouched₂⟩ := claimsStage_of_settled rt images d w₁ settled₁ writable₁
  generalize written (w₁.withClaims (Children.claims d rt.config)) d.qualifier = stage₂ at claimsOk untouched₂ ⊢
  obtain ⟨_, w₂⟩ := stage₂
  dsimp only at claimsOk untouched₂
  subst claimsOk
  dsimp only
  have settled₂ := settled₁.of_sameObjects untouched₂.toSameObjects untouched₂.deployments
  have writable₂ : w₂.failStatusWrites = false := untouched₂.failStatusWrites.trans writable₁
  rw [caEffect_of_settled rt images d w₂ settled₂]
  dsimp only
  obtain ⟨serviceOk, untouched₄⟩ := serviceStage_of_settled rt images d w₂ settled₂ writable₂
  generalize written (((w₂.withSecrets d.secrets).withAccountOf d).withService (Children.service d)) d.qualifier =
    stage₄ at serviceOk untouched₄ ⊢
  obtain ⟨_, w₄⟩ := stage₄
  dsimp only at serviceOk untouched₄
  subst serviceOk
  dsimp only
  have settled₄ := settled₂.of_sameObjects untouched₄.toSameObjects untouched₄.deployments
  have writable₄ : w₄.failStatusWrites = false := untouched₄.failStatusWrites.trans writable₂
  obtain ⟨⟨ingress, ingressOk⟩, untouched₅⟩ := ingressEffect_of_settled rt images d w₄ settled₄ writable₄
  generalize ingressEffect d w₄ = stage₅ at ingressOk untouched₅ ⊢
  obtain ⟨_, w₅⟩ := stage₅
  dsimp only at ingressOk untouched₅
  subst ingressOk
  dsimp only
  have settled₅ := settled₄.of_sameObjects untouched₅.toSameObjects untouched₅.deployments
  have writable₅ : w₅.failStatusWrites = false := untouched₅.failStatusWrites.trans writable₄
  obtain ⟨deploymentOk, same₆, jobs₆, deployments₆⟩ :=
    deploymentStage_of_settled rt images d w₅ settled₅ writable₅ (passInputs rt.config images d w.secrets)
  rw [← passInputs.eq_1 rt.config images d w.secrets]
  generalize written ((withClients w₅ d (clientAccesses d)).withDeployment
    (Children.deployment d (passInputs rt.config images d w.secrets))) d.qualifier = stage₆
    at deploymentOk same₆ jobs₆ deployments₆ ⊢
  obtain ⟨_, w₆⟩ := stage₆
  dsimp only at deploymentOk same₆ jobs₆ deployments₆
  subst deploymentOk
  dsimp only
  have same : SameObjects w w₆ := same₁.trans (untouched₂.toSameObjects.trans
    (untouched₄.toSameObjects.trans (untouched₅.toSameObjects.trans same₆)))
  have deployments₅ : w₅.deployments = w.deployments :=
    untouched₅.deployments.trans (untouched₄.deployments.trans (untouched₂.deployments.trans deployments₁))
  have kept : w₆.jobs = w₁.jobs := jobs₆.trans (untouched₅.jobs.trans (untouched₄.jobs.trans untouched₂.jobs))
  -- the Deployment is written a generation after the one the pass found
  have written : w₆.deployments = w.deployments.put ⟨d.owner.ns, d.deploymentName⟩
      (storedDeployment w (Children.deployment d (passInputs rt.config images d w.secrets))) := by
    rw [deployments₆, deployments₅]
    unfold storedDeployment
    rw [deployments₅]
  have found : w₆.deployments.get? ⟨d.owner.ns, d.deploymentName⟩ =
      some (storedDeployment w (Children.deployment d (passInputs rt.config images d w.secrets))) := by
    rw [written, Store.get?_put_self]
  exact ⟨readinessOutcome_of_ready rt d (same.podsReady.trans ready) found, same, written, by rw [kept, jobs₁]⟩

end Rerun

/-! ## A successful pass settles its deployable -/

/-- Every Secret of `a` is in `b` as it was: a pass creates missing Secrets and changes none. -/
def SecretsKept (a b : World) : Prop :=
  ∀ key s, a.secrets.get? key = some s → b.secrets.get? key = some s

namespace SecretsKept

theorem refl (w : World) : SecretsKept w w := fun _ _ present => present

theorem trans {a b c : World} (first : SecretsKept a b) (second : SecretsKept b c) : SecretsKept a c :=
  fun key s present => second key s (first key s present)

theorem of_eq {a b : World} (same : b.secrets = a.secrets) : SecretsKept a b := by
  intro key s present
  rw [same]
  exact present

theorem withSecrets (w : World) (ss : List Secret) : SecretsKept w (w.withSecrets ss) :=
  fun _ _ present => foldl_putSecret_of_present present ss

/-- A Secret present before is found as it was. -/
theorem get?_eq {a b : World} (kept : SecretsKept a b) {key : ObjectKey} (present : (a.secrets.get? key).isSome) :
    b.secrets.get? key = a.secrets.get? key := by
  obtain ⟨s, found⟩ := Option.isSome_iff_exists.mp present
  rw [found, kept key s found]

theorem isSome {a b : World} (kept : SecretsKept a b) {key : ObjectKey} (present : (a.secrets.get? key).isSome) :
    (b.secrets.get? key).isSome := by
  rw [kept.get?_eq present]
  exact present

theorem withClients (w : World) (d : Deployable) (accesses : List KeycloakAccess) :
    SecretsKept w (Deploy.withClients w d accesses) :=
  withSecrets _ _

end SecretsKept

/-- The Secrets of a pass's schemas, once the schema stage has created them. -/
def SchemaSecretsPresent (d : Deployable) (w : World) : Prop :=
  preparesOnServer d = true → ∀ schema ∈ d.schemaQualifiers,
    (w.secrets.get? ⟨d.owner.ns, Names.schemaSecretName d.owner.name schema⟩).isSome

section Settles

variable (rt : Runtime) (images : ImageResolver) (d : Deployable) (w : World)

theorem preparedSchemas_of_nil (noSchemas : d.schemaQualifiers = []) (secrets : Store Secret) :
    preparedSchemas images d secrets = .empty := by
  unfold preparedSchemas
  cases d.database with
  | none => rfl
  | some db =>
    dsimp only
    split <;> simp [noSchemas, embeddedResults]

/-- A schema stage that succeeds had a database for its schemas, hands over the schemas its
Secrets describe, leaves the Secret of each schema it prepares on a server, and leaves one
preparation Job when it prepares them there and otherwise the Jobs it found. -/
theorem schemaEffect_ok {schemas : KeyMap SchemaResult} {w₁ : World}
    (ran : schemaEffect rt images d w = (.ok schemas, w₁)) :
    (d.schemaQualifiers ≠ [] → d.database.isSome) ∧ schemas = preparedSchemas images d w₁.secrets ∧
      SchemaSecretsPresent d w₁ ∧
      (preparationJobs w₁.jobs d).length = if preparesOnServer d then 1 else (preparationJobs w.jobs d).length := by
  have present : SchemaSecretsPresent d w₁ := by
    intro onServer schema member
    have created := schemaEffect_secret_present rt images d w (Names.schemaSecretName d.owner.name schema)
    rw [ran] at created
    rw [created, secretAfterSchemas, onServer]
    simpa using Or.inr ⟨schema, member, rfl⟩
  unfold schemaEffect at ran
  by_cases noSchemas : d.schemaQualifiers = []
  · have embedded : preparesOnServer d = false := by simp [preparesOnServer, noSchemas]
    rw [if_pos noSchemas] at ran
    cases ran
    rw [embedded]
    exact ⟨fun unhosted => absurd noSchemas unhosted, (preparedSchemas_of_nil images d noSchemas _).symm, present,
      rfl⟩
  rw [if_neg noSchemas] at ran
  cases hosted : d.database with
  | none => simp [hosted] at ran
  | some db =>
    rw [hosted] at ran
    dsimp only at ran
    cases server : db.vendor.isExternalServer with
    | false =>
      have embedded : preparesOnServer d = false := by simp [preparesOnServer, hosted, server]
      rw [server] at ran
      simp only [Bool.false_eq_true, if_false, Prod.mk.injEq] at ran
      obtain ⟨outcome, rfl⟩ := ran
      cases written : w.writeOutcome <;> rw [written] at outcome <;> cases outcome
      rw [embedded]
      exact ⟨fun _ => rfl, by simp [preparedSchemas, hosted, server], present, rfl⟩
    | true =>
      have onServer : preparesOnServer d = true := by simp [preparesOnServer, noSchemas, hosted, server]
      rw [server, if_pos rfl] at ran
      split at ran
      · cases ran
      · simp only [Prod.mk.injEq] at ran
        obtain ⟨outcome, rfl⟩ := ran
        cases written : ((preparation d images db).prepared rt (VendorStrategy.ofVendor db.vendor) w).writeOutcome <;>
          rw [written] at outcome <;> cases outcome
        rw [onServer, if_pos rfl]
        exact ⟨fun _ => rfl, by simp [preparedSchemas, hosted, server, World.logWrite], present,
          preparationJobs_prepared rt images d w db _⟩

/-- A CA stage that succeeds hands over the CA Secret a pass mounts, present in the namespace, and
changes the Secrets and the calls alone, creating a Secret at most. -/
theorem caEffect_ok (config : OperatorConfig) {caSecretName : Option String} {w₃ : World}
    (ran : caEffect config d w = (.ok caSecretName, w₃)) :
    caSecretName = mountedCaSecret config d ∧
      (∀ name, caSecretName = some name → (w₃.secrets.get? ⟨d.owner.ns, name⟩).isSome) ∧
      SecretsKept w w₃ ∧ ∃ calls secrets, w₃ = { w with calls, secrets } := by
  unfold caEffect caSecretEffect at ran
  unfold mountedCaSecret
  cases trusts : d.trustsCa with
  | false =>
    rw [trusts] at ran
    cases ran
    exact ⟨rfl, (fun _ unmounted => nomatch unmounted), SecretsKept.refl w, _, _, rfl⟩
  | true =>
    rw [trusts, if_pos rfl] at ran
    rw [if_pos rfl]
    split at ran
    · rename_i unconfigured
      cases ran
      exact ⟨unconfigured.symm, (fun _ unmounted => nomatch unmounted), SecretsKept.refl w, _, _, rfl⟩
    · rename_i name configured
      split at ran
      · rename_i present
        cases ran
        refine ⟨configured.symm, fun _ mounted => ?_, SecretsKept.refl w, _, _, rfl⟩
        cases mounted
        exact present
      · split at ran
        · -- the Secret is mirrored from the operator's namespace
          rename_i source _
          cases ran
          refine ⟨configured.symm, fun _ mounted => ?_, SecretsKept.withSecrets w _, _, _, rfl⟩
          cases mounted
          exact isSome_withSecrets_of_mem w (List.mem_singleton_self (caMirror d.owner.ns name source))
        · cases ran

/-- An Ingress stage that succeeds leaves the deployable's routes merged into the Ingress it asks
for, and changes the Ingresses and the calls alone. -/
theorem ingressEffect_ok {ingress : Option Ingress} {w₅ : World} (ran : ingressEffect d w = (.ok ingress, w₅)) :
    (∀ req, d.ingress = some req → Children.routes d ≠ [] → ∃ kept,
      w₅.ingresses.get? ⟨d.owner.ns, req.ingressName⟩ =
        some (Children.sharedIngress d.owner req (Children.mergePaths kept (Children.routes d)))) ∧
      ∃ calls ingresses, w₅ = { w with calls, ingresses } := by
  unfold ingressEffect at ran
  split at ran
  · rename_i unserved
    cases ran
    refine ⟨fun req requested routed => ?_, _, _, rfl⟩
    simp [requested, Children.ingress_eq, routed] at unserved
  · rename_i desired asked
    simp only [Prod.mk.injEq] at ran
    obtain ⟨-, rfl⟩ := ran
    refine ⟨fun req requested routed => ?_, _, _, rfl⟩
    simp only [requested, Option.bind_some, Children.ingress_eq, routed, if_false, Option.some.injEq] at asked
    subst asked
    exact ⟨_, Store.get?_put_self _ _ _⟩

/-- A pass whose steps succeed went through every stage, each on the world the one before it left;
the claims, Secrets, accounts and Service and the Deployment are written whatever they find, so only
the stages of the schemas, the CA Secret and the Ingress can stop it. -/
theorem stepsEffect_ok (passed : (stepsEffect rt images d w).1 = .ok ()) :
    ∃ schemas w₁ caSecretName w₃ ingress w₅,
      schemaEffect rt images d w = (.ok schemas, w₁) ∧
      caEffect rt.config d ((w₁.withClaims (Children.claims d rt.config)).logWrite d.qualifier) =
        (.ok caSecretName, w₃) ∧
      ingressEffect d ((((w₃.withSecrets d.secrets).withAccountOf d).withService (Children.service d)).logWrite
        d.qualifier) = (.ok ingress, w₅) ∧
      (stepsEffect rt images d w).2 = ((withClients w₅ d (clientAccesses d)).withDeployment
        (Children.deployment d { config := rt.config, images, schemas, caSecretName })).logWrite d.qualifier := by
  unfold stepsEffect at passed ⊢
  generalize schemaEffect rt images d w = stage₁ at passed ⊢
  obtain ⟨_ | schemas, w₁⟩ := stage₁
  · cases passed
  dsimp only [written] at passed ⊢
  generalize (w₁.withClaims (Children.claims d rt.config)).writeOutcome = outcome₂ at passed ⊢
  obtain _ | ⟨⟩ := outcome₂
  · cases passed
  dsimp only at passed ⊢
  generalize ranCa : caEffect rt.config d _ = stage₃ at passed ⊢
  obtain ⟨_ | caSecretName, w₃⟩ := stage₃
  · cases passed
  dsimp only at passed ⊢
  generalize (((w₃.withSecrets d.secrets).withAccountOf d).withService (Children.service d)).writeOutcome =
    outcome₄ at passed ⊢
  obtain _ | ⟨⟩ := outcome₄
  · cases passed
  dsimp only at passed ⊢
  generalize ranIngress : ingressEffect d _ = stage₅ at passed ⊢
  obtain ⟨_ | ingress, w₅⟩ := stage₅
  · cases passed
  dsimp only at passed ⊢
  generalize ((withClients w₅ d (clientAccesses d)).withDeployment
    (Children.deployment d { config := rt.config, images, schemas, caSecretName })).writeOutcome = outcome₆
    at passed ⊢
  obtain _ | ⟨⟩ := outcome₆
  · cases passed
  exact ⟨schemas, w₁, caSecretName, w₃, ingress, w₅, rfl, ranCa, ranIngress, rfl⟩

/-- A pass whose steps succeed settles its deployable: everything a pass creates is in place, and
the Deployment is the one built from the Secrets the pass leaves. -/
theorem stepsEffect_settles (passed : (stepsEffect rt images d w).1 = .ok ()) :
    Settled rt.config images d (stepsEffect rt images d w).2 := by
  obtain ⟨schemas, w₁, caSecretName, w₃, ingress, w₅, ranSchemas, ranCa, ranIngress, final⟩ :=
    stepsEffect_ok rt images d w passed
  obtain ⟨hosted, rfl, schemaSecrets, -⟩ := schemaEffect_ok rt images d w ranSchemas
  obtain ⟨rfl, caSecret, keptCa, calls₃, secrets₃, frame₃⟩ := caEffect_ok d _ rt.config ranCa
  obtain ⟨ingressStored, calls₅, ingresses₅, frame₅⟩ := ingressEffect_ok d _ ranIngress
  generalize (stepsEffect rt images d w).2 = w₆ at final ⊢
  -- each store of the last world, as the stage that writes it last left it
  have secrets₅ : w₅.secrets = (w₃.withSecrets d.secrets).secrets := by
    rw [frame₅]
    exact withAccountOf_secrets _ d
  have secrets₆ : w₆.secrets = (withClients w₅ d (clientAccesses d)).secrets := by
    rw [final]
    rfl
  have pvcs₆ : w₆.pvcs = (w₁.withClaims (Children.claims d rt.config)).pvcs := by
    rw [final, frame₅]
    show ((w₃.withSecrets d.secrets).withAccountOf d).pvcs = _
    rw [withAccountOf_pvcs, frame₃]
    rfl
  have service₆ : w₆.services.get? (keyOf (Children.service d).metadata) = some (Children.service d) := by
    rw [final, frame₅]
    exact Store.get?_put_self _ _ _
  have ingresses₆ : w₆.ingresses = w₅.ingresses := by
    rw [final]
    rfl
  have deployment₆ : w₆.deployments.get? ⟨d.owner.ns, d.deploymentName⟩ =
      some (storedDeployment (withClients w₅ d (clientAccesses d)) (Children.deployment d
        { config := rt.config, images, schemas := preparedSchemas images d w₁.secrets,
          caSecretName := mountedCaSecret rt.config d })) := by
    rw [final]
    exact Store.get?_put_self _ _ _
  -- no stage after one that creates a Secret changes it
  have keptOwn : SecretsKept (w₃.withSecrets d.secrets) w₆ :=
    (SecretsKept.of_eq secrets₅).trans ((SecretsKept.withClients w₅ d _).trans (SecretsKept.of_eq secrets₆))
  have keptFromCa : SecretsKept w₃ w₆ := (SecretsKept.withSecrets w₃ d.secrets).trans keptOwn
  have keptAll : SecretsKept w₁ w₆ := ((SecretsKept.of_eq rfl).trans keptCa).trans keptFromCa
  -- the account stores are those of one application of the account objects
  obtain ⟨serviceAccounts, roles, roleBindings⟩ :=
    withAccountOf_of_applied (a := w₃.withSecrets d.secrets) (b := w₆) d
      (by rw [final, frame₅]; rfl) (by rw [final, frame₅]; rfl) (by rw [final, frame₅]; rfl)
  refine ⟨hosted, fun onServer schema mem => keptAll.isSome (schemaSecrets onServer schema mem),
    fun name mounted => keptFromCa.isSome (caSecret name mounted),
    fun s mem => keptOwn.isSome (isSome_withSecrets_of_mem w₃ mem), ?_, serviceAccounts, roles, roleBindings,
    service₆, ?_, ?_, ?_⟩
  · intro c mem
    rw [pvcs₆]
    exact isSome_withClaims_of_mem w₁ mem
  · rw [ingresses₆]
    exact ingressStored
  · intro access mem
    exact (SecretsKept.of_eq secrets₆).isSome (isSome_withSecrets_of_mem _ (List.mem_map_of_mem mem))
  · -- the Secrets of the schemas are those the schema stage read
    have same : preparesOnServer d = true → ∀ schema ∈ d.schemaQualifiers,
        w₆.secrets.get? ⟨d.owner.ns, Names.schemaSecretName d.owner.name schema⟩ =
          w₁.secrets.get? ⟨d.owner.ns, Names.schemaSecretName d.owner.name schema⟩ :=
      fun onServer schema mem => keptAll.get?_eq (schemaSecrets onServer schema mem)
    rw [deployment₆, passInputs, preparedSchemas_congr images d same]
    exact ⟨_, rfl⟩

/-- No stage after the schemas touches a Job. -/
theorem stepsEffect_jobs (passed : (stepsEffect rt images d w).1 = .ok ()) :
    (stepsEffect rt images d w).2.jobs = (schemaEffect rt images d w).2.jobs ∧
      (stepsEffect rt images d w).2.jobCounter = (schemaEffect rt images d w).2.jobCounter := by
  obtain ⟨schemas, w₁, caSecretName, w₃, ingress, w₅, ranSchemas, ranCa, ranIngress, final⟩ :=
    stepsEffect_ok rt images d w passed
  obtain ⟨-, -, -, calls₃, secrets₃, frame₃⟩ := caEffect_ok d _ rt.config ranCa
  obtain ⟨-, calls₅, ingresses₅, frame₅⟩ := ingressEffect_ok d _ ranIngress
  rw [final, frame₅, ranSchemas]
  constructor
  · show ((w₃.withSecrets d.secrets).withAccountOf d).jobs = _
    rw [withAccountOf_jobs, frame₃]
    rfl
  · show ((w₃.withSecrets d.secrets).withAccountOf d).jobCounter = _
    unfold World.withAccountOf
    split <;> rw [frame₃] <;> rfl

/-- The preparation Jobs a pass that succeeds leaves: one on a server, else those it found. -/
theorem stepsEffect_preparationJobs (passed : (stepsEffect rt images d w).1 = .ok ()) :
    (preparationJobs (stepsEffect rt images d w).2.jobs d).length =
      if preparesOnServer d then 1 else (preparationJobs w.jobs d).length := by
  obtain ⟨schemas, w₁, -, -, -, -, ranSchemas, -⟩ := stepsEffect_ok rt images d w passed
  rw [(stepsEffect_jobs rt images d w passed).1, ranSchemas]
  exact (schemaEffect_ok rt images d w ranSchemas).2.2.2

/-- A whole pass that succeeds passed its checks and ran its steps to success on a world that takes
status writes, and ends there with the final status write recorded. -/
theorem executeEffect_ok {sso : Bool} (passed : (executeEffect rt images d sso w).1 = .ok ()) :
    checksPass d sso ∧ (stepsEffect rt images d w).1 = .ok () ∧
      (stepsEffect rt images d w).2.failStatusWrites = false ∧
      (executeEffect rt images d sso w).2 = (stepsEffect rt images d w).2.logWrite d.qualifier := by
  have checked : checksPass d sso := by
    by_contra unchecked
    obtain ⟨e, refused⟩ := executeEffect_unchecked rt images d sso w unchecked
    rw [refused] at passed
    cases passed
  rw [executeEffect_of_checked checked] at passed ⊢
  generalize stepsEffect rt images d w = effect at passed ⊢
  obtain ⟨_ | ⟨⟩, w'⟩ := effect
  · cases passed
  refine ⟨checked, rfl, ?_, rfl⟩
  cases refusing : w'.failStatusWrites with
  | false => rfl
  | true => simp [written, World.writeOutcome, refusing] at passed

/-- A pass that passes its checks and whose steps succeed on a world that takes status writes
succeeds, with the final status write recorded. -/
theorem executeEffect_of_stepsEffect {sso : Bool} (checked : checksPass d sso)
    (passed : (stepsEffect rt images d w).1 = .ok ()) (writable : (stepsEffect rt images d w).2.failStatusWrites = false) :
    executeEffect rt images d sso w = (.ok (), (stepsEffect rt images d w).2.logWrite d.qualifier) := by
  rw [executeEffect_of_checked checked]
  generalize stepsEffect rt images d w = effect at passed writable ⊢
  obtain ⟨_ | ⟨⟩, w'⟩ := effect
  · cases passed
  simp only [written, World.writeOutcome]
  rw [writable]
  rfl

end Settles

/-! ## Deploying twice -/

/-- **Deploying again converges.** After a pass of `d` succeeds on a cluster whose schema Jobs
succeed and whose pods are ready, a second pass succeeds too, under the same configuration but any
clock and any generated passwords, with the deployable's own Secrets carrying any other generated
values. It leaves every Secret, volume claim, ServiceAccount, Role, RoleBinding, Service and
Ingress as the first pass left them, writes the same Deployment one generation later and touches no
other, and leaves exactly one preparation Job of the deployable when it prepares schemas on a
server, and otherwise as many as there were before the first pass. -/
theorem execute_rerun_converges {rt rt' : Runtime} (sameConfig : rt'.config = rt.config) (images : ImageResolver)
    (d : Deployable) (secrets : List Secret)
    (sameKeys : secrets.map (fun s => keyOf s.metadata) = d.secrets.map (fun s => keyOf s.metadata))
    (sso : Bool) {w w₁ : World} {deployed : Deployed}
    (ready : w.podsReady = true) (succeeding : w.jobOutcome = .succeed)
    (first : ((execute World.backend.cluster rt images d (World.ssoSession sso)).run.run w).run = (.ok deployed, w₁)) :
    ∃ deployed' w₂,
      ((execute World.backend.cluster rt' images { d with secrets } (World.ssoSession sso)).run.run w₁).run =
        (.ok deployed', w₂) ∧
      SameObjects w₁ w₂ ∧
      (∃ deployment g, w₁.deployments.get? ⟨d.owner.ns, d.deploymentName⟩ = some (atGeneration deployment g) ∧
        w₂.deployments = w₁.deployments.put ⟨d.owner.ns, d.deploymentName⟩ (atGeneration deployment (g + 1))) ∧
      (preparationJobs w₂.jobs d).length = if preparesOnServer d then 1 else (preparationJobs w.jobs d).length := by
  -- the first pass: its steps succeeded and settled the deployable
  obtain ⟨outcome₁, ⟨statuses₁, world₁⟩, -⟩ := execute_effect rt images d sso w
  rw [first] at outcome₁ world₁
  dsimp only at world₁
  obtain ⟨checked, stepsPassed, writable₁, after₁⟩ := executeEffect_ok rt images d w outcome₁.symm
  have settled := stepsEffect_settles rt images d w stepsPassed
  obtain ⟨-, ready₁, succeeding₁, -⟩ := stepsEffect_knobs rt images d w
  have untouched₁ : Untouched (stepsEffect rt images d w).2 w₁ := by
    rw [world₁, after₁]
    exact (untouched_logWrite _ d.qualifier).trans (untouched_withStatusStore _ statuses₁)
  -- the second pass starts from a world settled for the deployable with its other Secrets
  have settled' : Settled rt'.config images { d with secrets } w₁ :=
    sameConfig ▸ (settled.of_sameObjects untouched₁.toSameObjects untouched₁.deployments).withSecrets secrets sameKeys
  have writable' : w₁.failStatusWrites = false := untouched₁.failStatusWrites.trans writable₁
  obtain ⟨passed₂, same₂, deployments₂, jobs₂⟩ := stepsEffect_of_settled rt' images { d with secrets } w₁ settled'
    writable' (untouched₁.podsReady.trans (ready₁.trans ready))
    (untouched₁.jobOutcome.trans (succeeding₁.trans succeeding))
  have outcome₂ := executeEffect_of_stepsEffect rt' images { d with secrets } w₁ checked passed₂
    (same₂.failStatusWrites.trans writable')
  obtain ⟨result₂, ⟨statuses₂, world₂⟩, -⟩ := execute_effect rt' images { d with secrets } sso w₁
  rw [outcome₂] at result₂ world₂
  obtain ⟨deployed', succeeded⟩ : ∃ deployed', ((execute World.backend.cluster rt' images { d with secrets }
      (World.ssoSession sso)).run.run w₁).run.1 = .ok deployed' := by
    revert result₂
    cases ((execute World.backend.cluster rt' images { d with secrets } (World.ssoSession sso)).run.run w₁).run.1 with
    | error e => intro result₂; cases result₂
    | ok deployed' => intro _; exact ⟨deployed', rfl⟩
  refine ⟨deployed', _, Prod.ext succeeded world₂, ?_, ?_, ?_⟩
  · exact same₂.trans ((untouched_logWrite _ d.qualifier).trans (untouched_withStatusStore _ statuses₂)).toSameObjects
  · -- the Deployment the second pass writes is the one the first left, a generation later
    obtain ⟨g, found⟩ := settled'.deployment
    refine ⟨_, g, found, ?_⟩
    show (stepsEffect rt' images { d with secrets } w₁).2.deployments = _
    rw [deployments₂, storedDeployment_of_get? found]
    rfl
  · have jobs₁ := stepsEffect_preparationJobs rt images d w stepsPassed
    rw [← untouched₁.jobs] at jobs₁
    show (preparationJobs (stepsEffect rt' images { d with secrets } w₁).2.jobs { d with secrets }).length = _
    rw [jobs₂]
    show (if preparesOnServer d then 1 else (preparationJobs w₁.jobs d).length) = _
    -- a second pass on a server leaves one Job, and otherwise the ones the first pass kept
    rw [jobs₁]
    by_cases onServer : preparesOnServer d = true <;> simp [onServer]

/-- A deployable whose schema is prepared on a PostgreSQL server, deployed on an empty cluster and
then again with another clock, other generated passwords and another value in its own Secret. -/
theorem execute_rerun_converges_on_server :
    let d : Deployable :=
      { owner := { name := "app", ns := "apps" }, qualifier := "server",
        containers := [{ qualifier := "server", imageRepository := "example/server", port := 8080,
                         memoryMi := 512, cpuMillis := 500,
                         schemas := some { qualifiers := ["portdb"], connect := fun _ => [] } }],
        secrets := [{ metadata := { name := some "app-token", ns := some "apps" },
                      stringData := some (.singleton "token" "first") }],
        database := some { vendor := .postgresql, host := "db", port := 5432, databaseName := "apps",
                           adminSecretName := "db-admin" } }
    let secrets : List Secret :=
      [{ metadata := { name := some "app-token", ns := some "apps" }, stringData := some (.singleton "token" "second") }]
    let rt : Runtime := { config := {}, now := ⟨0, 0⟩, password := fun key => key.name ++ "-first" }
    let rt' : Runtime := { config := {}, now := ⟨60, 0⟩, password := fun key => key.name ++ "-second" }
    let first := ((execute World.backend.cluster rt {} d (World.ssoSession true)).run.run {}).run
    ∃ deployed, first = (.ok deployed, first.2) ∧
      ∃ deployed' w₂,
        ((execute World.backend.cluster rt' {} { d with secrets } (World.ssoSession true)).run.run first.2).run =
          (.ok deployed', w₂) ∧
        SameObjects first.2 w₂ ∧
        (∃ deployment g, first.2.deployments.get? ⟨d.owner.ns, d.deploymentName⟩ = some (atGeneration deployment g) ∧
          w₂.deployments = first.2.deployments.put ⟨d.owner.ns, d.deploymentName⟩ (atGeneration deployment (g + 1))) ∧
        (preparationJobs w₂.jobs d).length =
          if preparesOnServer d then 1 else (preparationJobs ({} : World).jobs d).length := by
  intro d secrets rt rt' first
  obtain ⟨deployed, succeeded⟩ := Op.exists_run_eq_ok (by decide +kernel : first.1.toBool = true)
  exact ⟨deployed, succeeded,
    @execute_rerun_converges rt rt' rfl {} d secrets rfl true {} first.2 deployed rfl rfl succeeded⟩

/-- A pass that prepares no schema on a server deletes no preparation Job: deployed twice on a
cluster that holds two Jobs labelled for its owner and qualifier, a deployable without schemas
leaves both. -/
theorem execute_rerun_keeps_earlier_preparationJobs :
    let d : Deployable :=
      { owner := { name := "app", ns := "apps" }, qualifier := "server",
        containers := [{ qualifier := "server", imageRepository := "example/server", port := 8080,
                         memoryMi := 512, cpuMillis := 500 }] }
    let job : String → Job := fun name =>
      { metadata := { name := some name, ns := some "apps", labels := some (.singleton dbPreparationLabel "app-server") } }
    let w : World :=
      { jobs := [(⟨"apps", "app-server-db-preparation-1"⟩, job "app-server-db-preparation-1"),
                 (⟨"apps", "app-server-db-preparation-2"⟩, job "app-server-db-preparation-2")],
        jobCounter := 2 }
    let rt : Runtime := { config := {}, now := ⟨0, 0⟩, password := fun _ => "first" }
    let first := ((execute World.backend.cluster rt {} d (World.ssoSession false)).run.run w).run
    let second := ((execute World.backend.cluster rt {} d (World.ssoSession false)).run.run first.2).run
    first.1.toBool = true ∧ second.1.toBool = true ∧ preparesOnServer d = false ∧
      (preparationJobs second.2.jobs d).length = 2 := by
  intro d job w rt first second
  decide +kernel

end StackOperator.Deploy
