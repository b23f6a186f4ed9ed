import StackOperator.Proofs.PassEffect
import StackOperator.Proofs.SharedIngress

/-!
# The order of a pass's calls

A pass of a deployable touches the cluster in the order of its steps, and stops touching it when
a step fails: after the failing step only the final status is written. The calls of a pass that
completes every step form a plan of five stages, each closed by a status write:

* **schemas** — on a database server, the schema Secrets, the deletion of the qualifier's earlier
  preparation Jobs and the creation of its new one (`schemaCalls`);
* **claims** — a volume claim per container with a volume (`claimCalls`);
* **support** — the CA Secret mirrored when a container trusts the CA and the namespace lacks it,
  the deployable's Secrets, its ServiceAccount with its Role and RoleBinding, and its Service
  (`supportCalls`);
* **ingress** — the shared Ingress when a container is served over HTTP (`ingressCalls`);
* **deployment** — the Secret of each Keycloak client, then the Deployment (`deploymentCalls`);
  the clients themselves are registered on the Keycloak log.

A stage's calls are followed through the world by `Logged`, which composes along the pass.

Main statement: `execute_calls_in_step_order`. A pass that fails its checks makes no call. Any
other pass makes the calls of the plan's first stages, as many as it completes, and then writes
its final status; it completes all five when it succeeds. A schema Job that does not succeed
fails the pass with a database preparation error that names the Job, whatever the status writes
answer, and the status stored for the qualifier names the Job when they are taken.
-/

namespace StackOperator.Cluster

open K8s

theorem isSome_get?_getOrPut {α : Type} (s : Store α) (key other : ObjectKey) (v : α) :
    ((s.getOrPut other v).2.get? key).isSome = ((s.get? key).isSome || other == key) := by
  unfold Store.getOrPut
  by_cases same : other = key
  · subst same
    cases h : s.get? other <;> simp [h, Store.get?_put_self]
  · cases s.get? other with
    | some _ => simp [same]
    | none => simp [Store.get?_put_ne s other key v (Ne.symm same), same]

/-- After a run of create-if-absent writes a key is taken when it was before or one of the written
Secrets has it. -/
theorem isSome_get?_foldl_putSecret (store : Store Secret) (ss : List Secret) (key : ObjectKey) :
    ((ss.foldl (fun store s => (putSecret store s).2) store).get? key).isSome =
      ((store.get? key).isSome || ss.any fun s => keyOf s.metadata == key) := by
  induction ss generalizing store with
  | nil => simp
  | cons s rest ih =>
    rw [List.foldl_cons, ih, putSecret, isSome_get?_getOrPut, List.any_cons, Bool.or_assoc]

end StackOperator.Cluster

namespace StackOperator.Deploy

open Cluster K8s

/-! ## The plan -/

/-- The call that writes the deployable's status. -/
def statusWriteCall (d : Deployable) : String := "update_server_status:" ++ d.qualifier

/-- The name of the preparation Job that the schema stage creates after `counter` Jobs. -/
def schemaJobName (d : Deployable) (counter : Nat) : String :=
  d.owner.name ++ "-" ++ d.qualifier ++ "-db-preparation-" ++ toString (counter + 1)

/-- Whether the deployable's schemas are prepared on a database server. -/
def preparesOnServer (d : Deployable) : Bool :=
  !d.schemaQualifiers.isEmpty && d.database.any (·.vendor.isExternalServer)

/-- Whether the namespace has the Secret `name` once the schema stage has run: it had it before
the pass, or it is the Secret of a schema prepared on a server. -/
def secretAfterSchemas (d : Deployable) (w : World) (name : String) : Bool :=
  (w.secrets.get? ⟨d.owner.ns, name⟩).isSome ||
    (preparesOnServer d && d.schemaQualifiers.any (Names.schemaSecretName d.owner.name · == name))

/-- Stage 1: on a database server the schema Secrets, the deletion of the earlier preparation Jobs
and the creation of the Job after `counter` Jobs, then the status; on an embedded database the
status alone; nothing without schemas or without a database. -/
def schemaCalls (d : Deployable) (counter : Nat) : List String :=
  if d.schemaQualifiers = [] then []
  else match d.database with
    | none => []
    | some db =>
      if db.vendor.isExternalServer then
        d.schemaQualifiers.map (fun schema => "create_secret:" ++ Names.schemaSecretName d.owner.name schema) ++
          ["delete_jobs:" ++ dbPreparationLabel ++ "=" ++ Names.deploymentLabel d.owner.name d.qualifier,
           "create_job:" ++ schemaJobName d counter, statusWriteCall d]
      else [statusWriteCall d]

/-- Stage 2: the claim of each container with a volume, then the status. -/
def claimCalls (d : Deployable) : List String :=
  d.containers.filterMap (fun c => c.volume.map fun _ => "apply_pvc:" ++ d.claimName c) ++
    [statusWriteCall d]

/-- The CA Secret mirrored into the namespace when a container trusts the CA, one is configured
and the namespace does not have it (`present`). -/
def caMirrorCalls (config : OperatorConfig) (d : Deployable) (present : String → Bool) : List String :=
  if d.trustsCa then
    match config.caSecretName.filter (· ≠ "") with
    | some name => if present name then [] else ["create_secret:" ++ name]
    | none => []
  else []

/-- The ServiceAccount, then its Role and RoleBinding when it has rules; nothing without one. -/
def accountCallsOf (d : Deployable) : List String :=
  match d.serviceAccount with
  | none => []
  | some req =>
    ["apply_service_account:" ++ req.name] ++
      if req.rules.isEmpty then []
      else ["apply_role:" ++ Names.standardName d.owner.name d.qualifier "role",
            "apply_role_binding:" ++ Names.standardName d.owner.name d.qualifier "rolebinding"]

/-- The deployable's Secrets, its ServiceAccount, its Service, then the status. -/
def serviceCalls (d : Deployable) : List String :=
  d.secrets.map (fun s => "create_secret:" ++ nameOf s.metadata) ++ accountCallsOf d ++
    ["apply_service:" ++ d.serviceName, statusWriteCall d]

/-- Stage 3: the CA Secret when it is needed, then the deployable's own support objects. -/
def supportCalls (config : OperatorConfig) (d : Deployable) (present : String → Bool) : List String :=
  caMirrorCalls config d present ++ serviceCalls d

/-- Stage 4: the shared Ingress when a container is served over HTTP, then the status. -/
def ingressCalls (d : Deployable) : List String :=
  match d.ingress with
  | some req => if Children.routes d = [] then [] else ["apply_ingress:" ++ req.ingressName, statusWriteCall d]
  | none => []

/-- Stage 5: the Secret of each Keycloak client, the Deployment, then the status. -/
def deploymentCalls (d : Deployable) : List String :=
  (clientAccesses d).map (fun access => "create_secret:" ++ Names.clientSecretName access.client.clientId) ++
    ["apply_deployment:" ++ d.deploymentName, statusWriteCall d]

/-- The cluster calls of a pass from `w` that completes every stage, stage by stage. -/
def callPlan (config : OperatorConfig) (d : Deployable) (w : World) : List (List String) :=
  [schemaCalls d w.jobCounter, claimCalls d, supportCalls config d (secretAfterSchemas d w),
   ingressCalls d, deploymentCalls d]

/-! ## Calls through the world -/

/-- `w'` is `w` with the cluster calls `made` and the Keycloak calls `madeSso` added to its logs. -/
structure Logged (w w' : World) (made madeSso : List String) : Prop where
  calls : w'.calls = w.calls ++ made
  ssoCalls : w'.ssoCalls = w.ssoCalls ++ madeSso

namespace Logged

theorem refl (w : World) : Logged w w [] [] := ⟨(List.append_nil _).symm, (List.append_nil _).symm⟩

theorem trans {a b c : World} {made₁ sso₁ made₂ sso₂ : List String} (first : Logged a b made₁ sso₁)
    (second : Logged b c made₂ sso₂) : Logged a c (made₁ ++ made₂) (sso₁ ++ sso₂) :=
  ⟨by rw [second.calls, first.calls, List.append_assoc], by rw [second.ssoCalls, first.ssoCalls, List.append_assoc]⟩

theorem congr {w w' : World} {made sso made' sso' : List String} (logged : Logged w w' made sso)
    (calls : made = made') (ssoCalls : sso = sso') : Logged w w' made' sso' :=
  calls ▸ ssoCalls ▸ logged

end Logged

section Calls

variable (w : World)

theorem logged_logWrite (d : Deployable) : Logged w (w.logWrite d.qualifier) [statusWriteCall d] [] :=
  ⟨rfl, (List.append_nil _).symm⟩

theorem logged_withSecrets (ss : List Secret) :
    Logged w (w.withSecrets ss) (ss.map fun s => "create_secret:" ++ nameOf s.metadata) [] :=
  ⟨rfl, (List.append_nil _).symm⟩

theorem logged_withService (service : Service) :
    Logged w (w.withService service) ["apply_service:" ++ nameOf service.metadata] [] :=
  ⟨rfl, (List.append_nil _).symm⟩

theorem logged_withIngress (ingress : Ingress) :
    Logged w (w.withIngress ingress) ["apply_ingress:" ++ nameOf ingress.metadata] [] :=
  ⟨rfl, (List.append_nil _).symm⟩

theorem logged_withDeployment (deployment : Deployment) :
    Logged w (w.withDeployment deployment) ["apply_deployment:" ++ nameOf deployment.metadata] [] :=
  ⟨rfl, (List.append_nil _).symm⟩

theorem logged_withAccountOf (d : Deployable) : Logged w (w.withAccountOf d) (accountCallsOf d) [] := by
  unfold World.withAccountOf accountCallsOf
  cases d.serviceAccount with
  | none => exact Logged.refl w
  | some req =>
    refine ⟨?_, (List.append_nil _).symm⟩
    unfold World.withAccount World.accountCalls Children.accountObjects
    dsimp only
    cases req.rules.isEmpty <;> rfl

/-- Registering Keycloak clients logs their calls on Keycloak and the Secrets of their credentials
on the cluster. -/
theorem logged_withClients (d : Deployable) (accesses : List KeycloakAccess) :
    Logged w (withClients w d accesses)
      (accesses.map fun access => "create_secret:" ++ Names.clientSecretName access.client.clientId)
      (accesses.flatMap (clientCalls d)) :=
  ⟨by simp [withClients, World.withSecrets, clientSecret, Secret.clientCredentials, nameOf, keyOf, Reference.ownedMeta], rfl⟩

end Calls

/-! ## The stages -/

section Stages

variable (rt : Runtime) (images : ImageResolver) (d : Deployable) (w : World)

@[simp] theorem jobName_preparation (db : ConnectionInfo) (counter : Nat) :
    (preparation d images db).jobName counter = schemaJobName d counter := rfl

/-- A preparation on a database server up to its wait: the schema Secrets, the cleanup and the Job. -/
theorem logged_prepared (db : ConnectionInfo) (strategy : VendorStrategy) :
    Logged w ((preparation d images db).prepared rt strategy w)
      (d.schemaQualifiers.map (fun schema => "create_secret:" ++ Names.schemaSecretName d.owner.name schema) ++
        ["delete_jobs:" ++ dbPreparationLabel ++ "=" ++ Names.deploymentLabel d.owner.name d.qualifier,
         "create_job:" ++ schemaJobName d w.jobCounter]) [] :=
  ⟨SchemaPreparation.calls_prepared (preparation d images db) rt strategy w, (List.append_nil _).symm⟩

theorem schemaEffect_logged : Logged w (schemaEffect rt images d w).2 (schemaCalls d w.jobCounter) [] := by
  unfold schemaEffect schemaCalls
  by_cases none : d.schemaQualifiers = []
  · simp only [if_pos none]
    exact Logged.refl w
  simp only [if_neg none]
  cases d.database with
  | none => exact Logged.refl w
  | some db =>
    dsimp only
    cases server : db.vendor.isExternalServer with
    | false => exact logged_logWrite w d
    | true =>
      simp only [if_true]
      -- the Job's outcome decides the result, not the calls: both end with the status write
      have logged := (logged_prepared rt images d w db (VendorStrategy.ofVendor db.vendor)).trans
        (logged_logWrite _ d)
      split <;> exact logged.congr (by simp only [List.append_assoc, List.cons_append, List.nil_append]) rfl

/-- The Secrets the namespace has after the schema stage. -/
theorem schemaEffect_secret_present (name : String) :
    ((schemaEffect rt images d w).2.secrets.get? ⟨d.owner.ns, name⟩).isSome = secretAfterSchemas d w name := by
  unfold schemaEffect secretAfterSchemas preparesOnServer
  by_cases none : d.schemaQualifiers = []
  · simp [none]
  simp only [if_neg none]
  cases d.database with
  | none => simp
  | some db =>
    cases server : db.vendor.isExternalServer with
    | false => simp [server, World.logWrite]
    | true =>
      simp only [server, if_true]
      -- the preparation creates the schema Secrets, each under its schema's Secret name
      have created : (((preparation d images db).prepared rt (VendorStrategy.ofVendor db.vendor) w).secrets.get?
          ⟨d.owner.ns, name⟩).isSome = ((w.secrets.get? ⟨d.owner.ns, name⟩).isSome ||
            d.schemaQualifiers.any fun schema => Names.schemaSecretName d.owner.name schema == name) := by
        change ((w.withSecrets (d.schemaQualifiers.map ((preparation d images db).credentialSecret rt
          (VendorStrategy.ofVendor db.vendor)))).secrets.get? ⟨d.owner.ns, name⟩).isSome = _
        rw [World.withSecrets, isSome_get?_foldl_putSecret]
        simp [SchemaPreparation.secretKey, preparation, Function.comp_def, beq_eq_decide]
      have filled : d.schemaQualifiers.isEmpty = false := List.isEmpty_eq_false_iff.mpr none
      split <;> simpa [World.logWrite, filled, server] using created

theorem logged_withClaims (config : OperatorConfig) :
    Logged w (w.withClaims (Children.claims d config))
      (d.containers.filterMap fun c => c.volume.map fun _ => "apply_pvc:" ++ d.claimName c) [] := by
  refine ⟨?_, (List.append_nil _).symm⟩
  simp only [World.withClaims, Children.claims, List.map_filterMap, Option.map_map]
  rfl

theorem claimsStage_logged :
    Logged w (written (w.withClaims (Children.claims d rt.config)) d.qualifier).2 (claimCalls d) [] :=
  ((logged_withClaims d w rt.config).trans (logged_logWrite _ d)).congr rfl rfl

/-- The CA stage mirrors the CA Secret when a container trusts it and the namespace lacks it; when
the stage fails it has made no call. -/
theorem caEffect_logged (config : OperatorConfig) :
    Logged w (caEffect config d w).2
      (match (caEffect config d w).1 with
        | .ok _ => caMirrorCalls config d fun name => (w.secrets.get? ⟨d.owner.ns, name⟩).isSome
        | .error _ => []) [] := by
  unfold caEffect caMirrorCalls
  cases d.trustsCa with
  | false => exact Logged.refl w
  | true =>
    unfold caSecretEffect
    dsimp only
    cases config.caSecretName.filter (· ≠ "") with
    | none => exact Logged.refl w
    | some name =>
      dsimp only
      by_cases present : (w.secrets.get? ⟨d.owner.ns, name⟩).isSome = true
      · simp only [present, if_true]
        exact Logged.refl w
      · simp only [present, Bool.false_eq_true, if_false]
        cases w.secrets.get? ⟨config.operatorNamespace, name⟩ with
        | none => exact Logged.refl w
        | some source => exact logged_withSecrets w [caMirror d.owner.ns name source]

theorem serviceStage_logged :
    Logged w (written (((w.withSecrets d.secrets).withAccountOf d).withService (Children.service d))
      d.qualifier).2 (serviceCalls d) [] :=
  (((logged_withSecrets w d.secrets).trans (logged_withAccountOf _ d)).trans
    ((logged_withService _ _).trans (logged_logWrite _ d))).congr rfl rfl

/-- The Ingress stage applies the shared Ingress and writes the status exactly when a container is
served over HTTP. -/
theorem ingressEffect_logged : Logged w (ingressEffect d w).2 (ingressCalls d) [] := by
  unfold ingressEffect ingressCalls
  cases d.ingress with
  | none => exact Logged.refl w
  | some req =>
    simp only [Option.bind_some, Children.ingress_eq]
    by_cases unrouted : Children.routes d = []
    · simp only [unrouted, if_true]
      exact Logged.refl w
    · simp only [unrouted, if_false]
      exact ((logged_withIngress w _).trans (logged_logWrite _ d)).congr rfl rfl

theorem deploymentStage_logged (inputs : Children.DeploymentInputs) :
    Logged w (written ((withClients w d (clientAccesses d)).withDeployment (Children.deployment d inputs))
      d.qualifier).2 (deploymentCalls d) ((clientAccesses d).flatMap (clientCalls d)) :=
  ((logged_withClients w d (clientAccesses d)).trans
    ((logged_withDeployment _ _).trans (logged_logWrite _ d))).congr rfl (List.append_nil _)

end Stages

/-! ## A whole pass -/

section Pass

variable (rt : Runtime) (images : ImageResolver) (d : Deployable)

/-- The steps make the calls of the plan's first `k` stages; they complete all five unless they fail. -/
theorem stepsEffect_logged (w : World) :
    ∃ k ≤ 5, Logged w (stepsEffect rt images d w).2 ((callPlan rt.config d w).take k).flatten
        (if k = 5 then (clientAccesses d).flatMap (clientCalls d) else []) ∧
      (k < 5 → ∃ e, (stepsEffect rt images d w).1 = .error e) := by
  unfold stepsEffect
  -- each stage is cut out of the pass with the facts about it, then split on its result
  have logged₁ := schemaEffect_logged rt images d w
  have present := schemaEffect_secret_present rt images d w
  generalize schemaEffect rt images d w = step₁ at logged₁ present ⊢
  rcases step₁ with ⟨_ | schemas, w₁⟩
  · exact ⟨1, by omega, logged₁.congr (by simp [callPlan]) (by simp), fun _ => ⟨_, rfl⟩⟩
  dsimp only at logged₁ present ⊢
  have logged₂ := logged₁.trans (claimsStage_logged rt d w₁)
  have kept : (written (w₁.withClaims (Children.claims d rt.config)) d.qualifier).2.secrets = w₁.secrets := rfl
  generalize written (w₁.withClaims (Children.claims d rt.config)) d.qualifier = step₂ at logged₂ kept ⊢
  rcases step₂ with ⟨_ | ⟨⟩, w₂⟩
  · exact ⟨2, by omega, logged₂.congr (by simp [callPlan]) (by simp), fun _ => ⟨_, rfl⟩⟩
  dsimp only at logged₂ kept ⊢
  -- the CA Secret is looked up in the namespace as the schema stage left it
  have mirrored := caEffect_logged d w₂ rt.config
  rw [kept, show (fun name => (w₁.secrets.get? ⟨d.owner.ns, name⟩).isSome) = secretAfterSchemas d w
    from funext present] at mirrored
  generalize caEffect rt.config d w₂ = step₃ at mirrored ⊢
  rcases step₃ with ⟨_ | caSecretName, w₃⟩
  · exact ⟨2, by omega, (logged₂.trans mirrored).congr (by simp [callPlan]) (by simp), fun _ => ⟨_, rfl⟩⟩
  dsimp only at mirrored ⊢
  have logged₄ := (logged₂.trans mirrored).trans (serviceStage_logged d w₃)
  generalize written (((w₃.withSecrets d.secrets).withAccountOf d).withService (Children.service d))
    d.qualifier = step₄ at logged₄ ⊢
  rcases step₄ with ⟨_ | ⟨⟩, w₄⟩
  · exact ⟨3, by omega, logged₄.congr (by simp [callPlan, supportCalls]) (by simp), fun _ => ⟨_, rfl⟩⟩
  dsimp only at logged₄ ⊢
  have logged₅ := logged₄.trans (ingressEffect_logged d w₄)
  generalize ingressEffect d w₄ = step₅ at logged₅ ⊢
  rcases step₅ with ⟨_ | _, w₅⟩
  · exact ⟨4, by omega, logged₅.congr (by simp [callPlan, supportCalls]) (by simp), fun _ => ⟨_, rfl⟩⟩
  dsimp only at logged₅ ⊢
  have logged₆ := logged₅.trans (deploymentStage_logged d w₅
    { config := rt.config, images, schemas, caSecretName })
  generalize written ((withClients w₅ d (clientAccesses d)).withDeployment
    (Children.deployment d { config := rt.config, images, schemas, caSecretName })) d.qualifier = step₆ at logged₆ ⊢
  rcases step₆ with ⟨_ | ⟨⟩, w₆⟩ <;>
    exact ⟨5, le_rfl, logged₆.congr (by simp [callPlan, supportCalls]) (by simp), fun early => absurd early (by omega)⟩

/-- A pass that passes its checks makes the calls of the plan's first `k` stages and then writes its
final status; it completes all five stages unless it fails. -/
theorem executeEffect_logged (sso : Bool) (w : World) (checked : checksPass d sso) :
    ∃ k ≤ 5, Logged w (executeEffect rt images d sso w).2
        (((callPlan rt.config d w).take k).flatten ++ [statusWriteCall d])
        (if k = 5 then (clientAccesses d).flatMap (clientCalls d) else []) ∧
      (k < 5 → ∃ e, (executeEffect rt images d sso w).1 = .error e) := by
  rw [executeEffect_of_checked checked]
  obtain ⟨k, bounded, logged, stopped⟩ := stepsEffect_logged rt images d w
  generalize stepsEffect rt images d w = effect at logged stopped ⊢
  rcases effect with ⟨_ | ⟨⟩, w'⟩
  · exact ⟨k, bounded, (logged.trans (logged_logWrite w' d)).congr rfl (List.append_nil _),
      fun _ => ⟨_, rfl⟩⟩
  · refine ⟨k, bounded, (logged.trans (logged_logWrite w' d)).congr rfl (List.append_nil _), fun early => ?_⟩
    obtain ⟨e, failed⟩ := stopped early
    cases failed

/-- A pass that fails its checks fails at once and leaves the world as it is. -/
theorem executeEffect_unchecked (sso : Bool) (w : World) (unchecked : ¬checksPass d sso) :
    ∃ e, executeEffect rt images d sso w = (.error e, w) := by
  unfold executeEffect
  by_cases unowned : (d.owner.name.isEmpty || d.owner.ns.isEmpty) = true
  · exact ⟨_, if_pos unowned⟩
  rw [if_neg unowned]
  simp only [Bool.or_eq_true, String.isEmpty_iff, not_or] at unowned
  -- with a persisted owner, only a missing Keycloak session fails the checks
  have unsupported : (d.needsKeycloak && !sso) = true := by
    cases needed : d.needsKeycloak with
    | false => exact absurd ⟨unowned.1, unowned.2, fun h => by rw [needed] at h; cases h⟩ unchecked
    | true =>
      cases sso with
      | false => rfl
      | true => exact absurd ⟨unowned.1, unowned.2, fun _ => rfl⟩ unchecked
  exact ⟨_, if_pos unsupported⟩

/-- A schema Job on a database server that does not succeed fails the steps with a database
preparation error naming the Job. -/
theorem stepsEffect_jobFailure (w : World) (onServer : preparesOnServer d = true)
    (failing : w.jobOutcome ≠ .succeed) :
    ∃ e, (stepsEffect rt images d w).1 = .error (.databasePreparation "Could not init database schemas" e) ∧
      e.failedObject = some ⟨"Job", d.owner.ns, schemaJobName d w.jobCounter⟩ := by
  obtain ⟨needed, db, hosted, server⟩ : d.schemaQualifiers ≠ [] ∧ ∃ db, d.database = some db ∧
      db.vendor.isExternalServer = true := by
    simp only [preparesOnServer, Bool.and_eq_true, Bool.not_eq_true', List.isEmpty_eq_false_iff,
      Option.any_eq_true] at onServer
    exact ⟨onServer.1, onServer.2⟩
  obtain ⟨e, failed, named⟩ : ∃ e, (preparation d images db).jobFailure rt w.jobOutcome
      ((preparation d images db).jobName w.jobCounter) = some e ∧
      e.failedObject = some ⟨"Job", d.owner.ns, schemaJobName d w.jobCounter⟩ := by
    unfold SchemaPreparation.jobFailure
    cases outcome : w.jobOutcome with
    | succeed => exact absurd outcome failing
    | fail => exact ⟨_, rfl, rfl⟩
    | hang => exact ⟨_, rfl, rfl⟩
  refine ⟨e, ?_, named⟩
  unfold stepsEffect schemaEffect
  simp only [if_neg needed, hosted, server, if_true, failed]

end Pass

theorem eq_error_of_map_eq_error {α β : Type} {r : Except Error α} {f : α → β} {e : Error}
    (mapped : r.map f = .error e) : r = .error e := by
  cases r with
  | error e' => cases mapped; rfl
  | ok a => cases mapped

/-- The calls of a pass come in the order of its steps. A pass that fails its checks makes none.
Any other pass makes the calls of the first `k` stages of its plan and then writes its final
status, with the Keycloak registrations made exactly when it reaches the last stage; a pass that
stops short of it has failed. A schema Job on a database server that does not succeed fails the
pass with a database preparation error naming the Job, and when status writes are taken the
stored status of the qualifier names the Job. -/
theorem execute_calls_in_step_order (rt : Runtime) (images : ImageResolver) (d : Deployable) (sso : Bool)
    (w : World) :
    let run := ((execute World.backend.cluster rt images d (World.ssoSession sso)).run.run w).run
    (¬checksPass d sso → (∃ e, run.1 = .error e) ∧ run.2.calls = w.calls ∧ run.2.ssoCalls = w.ssoCalls) ∧
    (checksPass d sso → ∃ k ≤ 5,
      run.2.calls = w.calls ++ ((callPlan rt.config d w).take k).flatten ++ [statusWriteCall d] ∧
      run.2.ssoCalls = w.ssoCalls ++ (if k = 5 then (clientAccesses d).flatMap (clientCalls d) else []) ∧
      (k < 5 → ∃ e, run.1 = .error e)) ∧
    (checksPass d sso → preparesOnServer d = true → w.jobOutcome ≠ .succeed →
      ∃ e, run.1 = .error (.databasePreparation "Could not init database schemas" e) ∧
        e.failedObject = some ⟨"Job", d.owner.ns, schemaJobName d w.jobCounter⟩ ∧
        (w.failStatusWrites = false → ∃ last f,
          (run.2.statuses.get? (statusKey d.owner)).bind (·.servers.get? d.qualifier) = some last ∧
          last.failure = some f ∧ f.kind = some "Job" ∧ f.ns = some d.owner.ns ∧
          f.name = some (schemaJobName d w.jobCounter))) := by
  intro run
  obtain ⟨result, ⟨statuses, world⟩, stored⟩ := execute_effect rt images d sso w
  refine ⟨fun unchecked => ?_, fun checked => ?_, fun checked onServer failing => ?_⟩
  · obtain ⟨e, unchanged⟩ := executeEffect_unchecked rt images d sso w unchecked
    rw [unchanged] at result world
    exact ⟨⟨e, eq_error_of_map_eq_error result⟩, by rw [world]; rfl, by rw [world]; rfl⟩
  · obtain ⟨k, bounded, logged, stopped⟩ := executeEffect_logged rt images d sso w checked
    refine ⟨k, bounded, ?_, ?_, fun early => ?_⟩
    · rw [world, List.append_assoc]
      exact logged.calls
    · rw [world]
      exact logged.ssoCalls
    · obtain ⟨e, failed⟩ := stopped early
      rw [failed] at result
      exact ⟨e, eq_error_of_map_eq_error result⟩
  · obtain ⟨e, failed, named⟩ := stepsEffect_jobFailure rt images d w onServer failing
    have refused : (executeEffect rt images d sso w).1 =
        .error (.databasePreparation "Could not init database schemas" e) := by
      obtain ⟨nameless, placeless, session⟩ := checked
      unfold executeEffect
      rw [if_neg (by simp [nameless, placeless]), if_neg (by cases sso <;> simp_all)]
      generalize stepsEffect rt images d w = effect at failed ⊢
      rcases effect with ⟨_ | ⟨⟩, w'⟩ <;> cases failed
      rfl
    rw [refused] at result
    have ended := eq_error_of_map_eq_error result
    refine ⟨e, ended, named, fun writable => ?_⟩
    obtain ⟨last, found, recorded⟩ := stored checked writable
    rw [ended] at recorded
    refine ⟨last, _, found, recorded, ?_⟩
    simp [ControllerFailure.ofError, Error.failedObject, named]

end StackOperator.Deploy
