import Mathlib.Control.Monad.Basic
import StackOperator.Proofs.Addressing

/-!
# Configuration errors come before the writes

A controller checks what its resource and the operator's configuration ask for before it changes
the cluster: the Keycloak server and its admin Secret, the route, the database and, for an external
database, the description of the server. A configuration error raised by these checks leaves the
cluster as it was.

One configuration error is found later: a pass whose containers trust the operator's CA mirrors the
CA Secret into the namespace in its third step, after the claims and a status write, and fails when
the source Secret is missing from the operator's namespace (`caSecretMissing`).

* **Rules.** `Silent` computations make no mutating call, `LateOnly` ones raise only late
  configuration errors, and `ChecksFirst` ones raise their other configuration errors before any
  mutating call. Binds, loops and the failure wrapper keep these (`ChecksFirst.bind_silent`,
  `ChecksFirst.bind_lateOnly`, `LateOnly.forIn`, `LateOnly.onFailure`).
* **A pass** raises only the CA Secret's configuration error (`stepsEffect_config`,
  `execute_lateOnly`), and a database server's pass none at all.
* **The controllers.** An application checks first but for the CA Secret (`deployApp_checksFirst`);
  a database service checks first without exception (`deployDatabaseService_checksFirst`).
-/

namespace StackOperator.Cluster

variable {α β γ : Type} {late : String → Prop}

/-! ## Computations that check before they write -/

/-- A computation that makes no mutating call. -/
def Silent (x : Op α) : Prop := ∀ w, (x.run.run w).run.2.calls = w.calls

/-- A computation whose configuration errors are all `late` ones. -/
def LateOnly (late : String → Prop) (x : Op α) : Prop :=
  ∀ w m, (x.run.run w).run.1 = .error (.config m) → late m

/-- A computation that raises a configuration error only before its first mutating call, unless the
error is a `late` one. -/
def ChecksFirst (late : String → Prop) (x : Op α) : Prop :=
  ∀ w m, (x.run.run w).run.1 = .error (.config m) → (x.run.run w).run.2.calls = w.calls ∨ late m

theorem Silent.pure (a : α) : Silent (pure a : Op α) := fun _ => rfl

theorem Silent.throw (e : Error) : Silent (throw e : Op α) := fun _ => rfl

theorem Silent.throw_bind (e : Error) (f : α → Op β) : Silent (MonadExcept.throw e >>= f) := fun _ => rfl

theorem Silent.liftExcept (e : Except Error α) : Silent (liftExcept e : Op α) := by
  intro w
  rw [liftExcept_run]

theorem LateOnly.mono {late' : String → Prop} (weaker : ∀ m, late m → late' m) {x : Op α}
    (only : LateOnly late x) : LateOnly late' x :=
  fun w m failed => weaker m (only w m failed)

theorem LateOnly.pure (a : α) : LateOnly late (pure a : Op α) := by
  intro w m failed
  rw [pure_run] at failed
  cases failed

theorem LateOnly.bind {x : Op α} {f : α → Op β} (first : LateOnly late x) (rest : ∀ a, LateOnly late (f a)) :
    LateOnly late (x >>= f) := by
  intro w m failed
  rw [Op.bind_run] at failed
  generalize ran : (x.run.run w).run = r at failed
  rcases r with ⟨_ | a, w'⟩
  · cases failed
    exact first w m (by rw [ran])
  · exact rest a w' m failed

/-- A loop whose body raises only late configuration errors raises only late ones. -/
theorem LateOnly.forIn {f : α → γ → Op (ForInStep γ)} (body : ∀ a b, LateOnly late (f a b)) (l : List α)
    (init : γ) : LateOnly late (forIn l init f) :=
  Deploy.forIn_of_pure_of_bind (LateOnly late) LateOnly.pure LateOnly.bind l (fun a _ => body a) init

/-- The failure wrapper reports every error as a failure on its object, never as a configuration
error. -/
theorem LateOnly.onFailure (kind ns name : String) (x : Op α) : LateOnly late (Deploy.onFailure kind ns name x) := by
  intro w m failed
  simp only [Deploy.onFailure, ExceptT.run_tryCatch, StateT.run_bind, Id.run_bind] at failed
  generalize (x.run.run w).run = r at failed
  rcases r with ⟨_ | a, w'⟩ <;> cases failed

theorem ChecksFirst.of_silent {x : Op α} (quiet : Silent x) : ChecksFirst late x :=
  fun w _ _ => .inl (quiet w)

theorem ChecksFirst.of_lateOnly {x : Op α} (only : LateOnly late x) : ChecksFirst late x :=
  fun w m failed => .inr (only w m failed)

/-- A silent computation followed by computations that check first checks first. -/
theorem ChecksFirst.bind_silent {x : Op α} {f : α → Op β} (first : Silent x) (rest : ∀ a, ChecksFirst late (f a)) :
    ChecksFirst late (x >>= f) := by
  intro w m failed
  have kept := first w
  rw [Op.bind_run] at failed ⊢
  generalize (x.run.run w).run = r at failed kept ⊢
  rcases r with ⟨_ | a, w'⟩
  · exact .inl kept
  · rcases rest a w' m failed with same | isLate
    · exact .inl (same.trans kept)
    · exact .inr isLate

/-- A computation that checks first, followed by computations whose configuration errors are all
late, checks first. -/
theorem ChecksFirst.bind_lateOnly {x : Op α} {f : α → Op β} (first : ChecksFirst late x)
    (rest : ∀ a, LateOnly late (f a)) : ChecksFirst late (x >>= f) := by
  intro w m failed
  rw [Op.bind_run] at failed ⊢
  have checked := first w m
  generalize (x.run.run w).run = r at failed checked ⊢
  rcases r with ⟨_ | a, w'⟩
  · cases failed
    exact checked rfl
  · exact .inr (rest a w' m failed)

/-- A check of a computed result: its failure is raised before anything else. -/
theorem ChecksFirst.liftExcept_bind {e : Except Error α} {f : α → Op β} (rest : ∀ a, e = .ok a → ChecksFirst late (f a)) :
    ChecksFirst late (liftExcept e >>= f) := by
  intro w m failed
  rw [Op.bind_run, liftExcept_run] at failed ⊢
  cases e with
  | error e => exact .inl rfl
  | ok a => exact rest a rfl w m failed

/-- A computed result after the writes: its failure must be a late one. -/
theorem LateOnly.liftExcept_bind {e : Except Error α} {f : α → Op β} (checked : ∀ m, e = .error (.config m) → late m)
    (rest : ∀ a, e = .ok a → LateOnly late (f a)) : LateOnly late (liftExcept e >>= f) := by
  intro w m failed
  rw [Op.bind_run, liftExcept_run] at failed
  cases e with
  | error e =>
    cases failed
    exact checked m rfl
  | ok a => exact rest a rfl w m failed

end StackOperator.Cluster

namespace StackOperator.Deploy

open Cluster K8s

/-- The message of the missing CA Secret: a CA Secret is configured and its source is missing from
the operator's namespace. -/
def caSecretMissing (config : OperatorConfig) (m : String) : Prop :=
  ∃ name, config.caSecretName.filter (· ≠ "") = some name ∧
    m = "CA secret " ++ config.operatorNamespace ++ "/" ++ name ++ " does not exist"

/-! ## The one late configuration error of a pass -/

section Pass

variable (rt : Runtime) (images : ImageResolver) (d : Deployable) {w : World} {m : String}

/-- A status write fails only as the refused status subresource. -/
theorem writeOutcome_ne_config (w : World) (m : String) : w.writeOutcome ≠ .error (.config m) := by
  unfold World.writeOutcome
  split <;> simp

theorem writeOutcome_map_ne_config {β : Type} (f : Unit → β) (w : World) (m : String) :
    w.writeOutcome.map f ≠ .error (.config m) := by
  unfold World.writeOutcome
  split <;> simp [Except.map]

/-- The schema step fails on a missing database, a failed Job or the status write. -/
theorem schemaEffect_ne_config (w : World) (m : String) : (schemaEffect rt images d w).1 ≠ .error (.config m) := by
  unfold schemaEffect
  split
  · simp
  split
  · simp
  split
  · dsimp only
    split
    · simp
    · exact writeOutcome_map_ne_config _ _ m
  · exact writeOutcome_map_ne_config _ _ m

theorem ingressEffect_ne_config (w : World) (m : String) : (ingressEffect d w).1 ≠ .error (.config m) := by
  unfold ingressEffect
  split
  · simp
  · exact writeOutcome_map_ne_config _ _ m

theorem readinessOutcome_ne_config (w : World) (m : String) : readinessOutcome rt d w ≠ .error (.config m) := by
  unfold readinessOutcome
  split <;> simp [Error.onResource]

/-- The CA step fails only on a trusted CA Secret whose source is missing. -/
theorem caEffect_config (failed : (caEffect rt.config d w).1 = .error (.config m)) :
    d.trustsCa = true ∧ caSecretMissing rt.config m := by
  unfold caEffect at failed
  split at failed
  · rename_i trusted
    refine ⟨trusted, ?_⟩
    unfold caSecretEffect at failed
    split at failed
    · cases failed
    · rename_i name configured
      split at failed
      · cases failed
      · split at failed
        · cases failed
        · cases failed
          exact ⟨name, configured, rfl⟩
  · cases failed

/-- An error the steps end with is an error of one of the steps, from some world. -/
theorem stepsEffect_error (P : Error → Prop)
    (schema : ∀ w e, (schemaEffect rt images d w).1 = .error e → P e)
    (write : ∀ (w : World) e, w.writeOutcome = .error e → P e)
    (ca : ∀ w e, (caEffect rt.config d w).1 = .error e → P e)
    (ingress : ∀ w e, (ingressEffect d w).1 = .error e → P e)
    (ready : ∀ w e, readinessOutcome rt d w = .error e → P e)
    {e : Error} (failed : (stepsEffect rt images d w).1 = .error e) : P e := by
  unfold stepsEffect written at failed
  generalize ran₁ : schemaEffect rt images d w = step₁ at failed
  rcases step₁ with ⟨_ | schemas, w₁⟩
  · cases failed
    exact schema w _ (by rw [ran₁])
  dsimp only at failed
  generalize ran₂ : (w₁.withClaims (Children.claims d rt.config)).writeOutcome = step₂ at failed
  rcases step₂ with _ | ⟨⟩
  · cases failed
    exact write _ _ (by rw [ran₂])
  dsimp only at failed
  generalize ran₃ : caEffect rt.config d _ = step₃ at failed
  rcases step₃ with ⟨_ | caSecretName, w₃⟩
  · cases failed
    exact ca _ _ (by rw [ran₃])
  dsimp only at failed
  generalize ran₄ : (((w₃.withSecrets d.secrets).withAccountOf d).withService (Children.service d)).writeOutcome =
    step₄ at failed
  rcases step₄ with _ | ⟨⟩
  · cases failed
    exact write _ _ (by rw [ran₄])
  dsimp only at failed
  generalize ran₅ : ingressEffect d _ = step₅ at failed
  rcases step₅ with ⟨_ | _, w₅⟩
  · cases failed
    exact ingress _ _ (by rw [ran₅])
  dsimp only at failed
  generalize ran₆ : ((withClients w₅ d (clientAccesses d)).withDeployment
    (Children.deployment d { config := rt.config, images, schemas, caSecretName })).writeOutcome = step₆ at failed
  rcases step₆ with _ | ⟨⟩
  · cases failed
    exact write _ _ (by rw [ran₆])
  exact ready _ e failed

/-- The only configuration error of the steps is the trusted CA Secret's missing source. -/
theorem stepsEffect_config (failed : (stepsEffect rt images d w).1 = .error (.config m)) :
    d.trustsCa = true ∧ caSecretMissing rt.config m :=
  stepsEffect_error rt images d (fun e => e = .config m → d.trustsCa = true ∧ caSecretMissing rt.config m)
    (fun w _ failed isConfig => absurd (isConfig ▸ failed) (schemaEffect_ne_config rt images d w m))
    (fun w _ failed isConfig => absurd (isConfig ▸ failed) (writeOutcome_ne_config w m))
    (fun _ _ failed isConfig => caEffect_config rt d (isConfig ▸ failed))
    (fun w _ failed isConfig => absurd (isConfig ▸ failed) (ingressEffect_ne_config d w m))
    (fun w _ failed isConfig => absurd (isConfig ▸ failed) (readinessOutcome_ne_config rt d w m))
    failed rfl

theorem executeEffect_config {sso : Bool} (failed : (executeEffect rt images d sso w).1 = .error (.config m)) :
    d.trustsCa = true ∧ caSecretMissing rt.config m := by
  unfold executeEffect at failed
  split at failed
  · cases failed
  split at failed
  · cases failed
  -- the steps failed, or the final status write did
  generalize ran : stepsEffect rt images d w = steps at failed
  rcases steps with ⟨_ | ⟨⟩, w'⟩
  · exact stepsEffect_config rt images d (by rw [ran]; exact failed)
  · exact absurd failed (writeOutcome_ne_config w' m)

/-- A pass raises a configuration error only for the CA Secret its containers trust. -/
theorem execute_lateOnly (sso : Bool) :
    LateOnly (fun m => d.trustsCa = true ∧ caSecretMissing rt.config m)
      (execute World.backend.cluster rt images d (World.ssoSession sso)) := by
  intro w m failed
  have agrees := (execute_effect rt images d sso w).1
  rw [failed] at agrees
  exact executeEffect_config rt images d agrees.symm

end Pass

end StackOperator.Deploy

namespace StackOperator

/-- A database server trusts no CA: its one container mounts none. -/
theorem DatabasePlan.make_trustsCa {owner : K8s.Reference} {vendor : Vendor} {databaseName storageClass : Option String}
    {extraEnv : List K8s.EnvVar} {passwords : Cluster.ObjectKey → String} {plan : DatabasePlan}
    (made : DatabasePlan.make owner vendor databaseName storageClass extraEnv passwords = .ok plan) :
    plan.deployable.trustsCa = false := by
  rcases DatabasePlan.make_eq_ok made with rfl | rfl <;> cases made <;> rfl

/-- An application whose route is valid has its three deployables. -/
theorem AppPlan.Context.built_of_routed {c : AppPlan.Context} {route : IngressRequirements}
    (routed : c.app.ingress c.config = .ok route) :
    (∃ d, c.server = .ok d) ∧ (∃ d, c.appBuilder = .ok d) ∧ (∃ d, c.componentManager = .ok d) := by
  unfold AppPlan.Context.server AppPlan.Context.appBuilder AppPlan.Context.componentManager AppPlan.Context.base
  rw [routed]
  exact ⟨⟨_, rfl⟩, ⟨_, rfl⟩, ⟨_, rfl⟩⟩

end StackOperator

namespace StackOperator.Controller

open Cluster Deploy

variable {β : Type} {late : String → Prop}

/-! ## The controllers -/

theorem imageResolver_silent (config : OperatorConfig) : Silent (imageResolver World.backend.cluster config) := by
  intro w
  rw [imageResolver_run]

theorem resolveKeycloak_silent (ns : String) (toUse : Option KeycloakToUse) :
    Silent (resolveKeycloak World.backend.cluster ns toUse) := by
  intro w
  rw [resolveKeycloak_world]

/-- A login writes nothing, and what follows it runs with the simulated session. -/
theorem checksFirst_login_bind {url ns name : String} {f : SsoClient (StateM World) → Op β}
    (rest : ChecksFirst late (f ssoClient)) : ChecksFirst late (login World.backend url ns name >>= f) := by
  intro w m failed
  rw [Op.bind_run] at failed ⊢
  generalize ran : ((login World.backend url ns name).run.run w).run = r at failed ⊢
  rcases r with ⟨_ | client, w'⟩
  · rw [login_run_error ran]
    exact .inl rfl
  · obtain ⟨_, _, _, _, rfl, rfl⟩ := login_run_ok ran
    exact rest _ m failed

/-- A database server's pass raises no configuration error. -/
theorem execute_database_lateOnly {owner : K8s.Reference} {vendor : Vendor} {databaseName storageClass : Option String}
    {extraEnv : List K8s.EnvVar} {passwords : Cluster.ObjectKey → String} {plan : DatabasePlan}
    (made : DatabasePlan.make owner vendor databaseName storageClass extraEnv passwords = .ok plan)
    (rt : Runtime) (images : ImageResolver) :
    LateOnly late (execute World.backend.cluster rt images plan.deployable none) :=
  (execute_lateOnly rt images plan.deployable false).mono fun _ trusted =>
    absurd trusted.1 (by simp [DatabasePlan.make_trustsCa made])

/-- Resolving a database checks first: a service that is missing, not ready or has no connection is
reported before any write, and the pass of a dedicated server raises no configuration error. -/
theorem resolveDatabase_checksFirst (rt : Runtime) (images : ImageResolver) (owner : K8s.Reference) (vendor : Vendor)
    (storageClass : Option String) :
    ChecksFirst late (resolveDatabase World.backend.cluster rt images owner vendor storageClass) := by
  unfold resolveDatabase
  split
  · exact ChecksFirst.of_silent (Silent.pure _)
  refine ChecksFirst.bind_silent (fun w => by rw [backend_listDatabaseServices, listDatabaseServices_run])
    fun services => ?_
  dsimp only
  split
  · exact ChecksFirst.of_silent (Silent.liftExcept _)
  split
  · exact ChecksFirst.of_silent (Silent.throw _)
  refine ChecksFirst.liftExcept_bind fun plan made => ChecksFirst.of_lateOnly ?_
  exact (execute_database_lateOnly made rt images).bind fun _ => LateOnly.pure _

theorem deployApp_checksFirst (rt : Runtime) (app : App) :
    ChecksFirst (caSecretMissing rt.config) (deployApp World.backend rt app) := by
  unfold deployApp loginResolved
  dsimp only
  refine ChecksFirst.bind_silent (imageResolver_silent _) fun images => ?_
  refine ChecksFirst.bind_silent (resolveKeycloak_silent _ _) fun sso => ?_
  refine checksFirst_login_bind ?_
  refine ChecksFirst.liftExcept_bind fun route routed => ?_
  refine ChecksFirst.bind_lateOnly (resolveDatabase_checksFirst rt images _ _ _) fun database => ?_
  -- past the database, the route is valid: the three deployables build, and what is left are their
  -- passes and the grant
  obtain ⟨⟨_, builtServer⟩, ⟨_, builtAppBuilder⟩, ⟨_, builtComponentManager⟩⟩ :=
    AppPlan.Context.built_of_routed (c := { app, database, keycloak := sso.connection, config := rt.config }) routed
  refine LateOnly.liftExcept_bind (fun _ failed => by rw [builtServer] at failed; cases failed) fun server _ => ?_
  refine LateOnly.liftExcept_bind (fun _ failed => by rw [builtAppBuilder] at failed; cases failed)
    fun appBuilder _ => ?_
  refine LateOnly.liftExcept_bind (fun _ failed => by rw [builtComponentManager] at failed; cases failed)
    fun componentManager _ => ?_
  refine LateOnly.bind (LateOnly.forIn (fun d _ => ?_) _ _) fun _ => LateOnly.onFailure _ _ _ _
  exact ((execute_lateOnly rt images d true).mono fun _ trusted => trusted.2).bind fun _ => LateOnly.pure _

/-- Applying a Service never fails. -/
theorem applyService_lateOnly (service : K8s.Service) : LateOnly late (World.backend.cluster.applyService service) := by
  intro w m failed
  rw [backend_applyService, applyService_run] at failed
  cases failed

/-- A status write fails only as the refused status subresource. -/
theorem updateServerStatus_lateOnly (owner : K8s.Reference) (s : ServerStatus) :
    LateOnly late (World.backend.cluster.updateServerStatus owner s) := by
  intro w m failed
  rw [backend_updateServerStatus, updateServerStatus_run] at failed
  split at failed <;> cases failed

theorem deployDatabaseService_checksFirst (rt : Runtime) (dbs : DatabaseService) :
    ChecksFirst late (deployDatabaseService World.backend.cluster rt dbs) := by
  unfold deployDatabaseService
  dsimp only
  split
  · -- a deployed server: the plan is checked first, and the server's pass raises no configuration error
    refine ChecksFirst.bind_silent (imageResolver_silent _) fun images => ?_
    refine ChecksFirst.liftExcept_bind fun plan made => ChecksFirst.of_lateOnly ?_
    exact (execute_database_lateOnly made rt images).bind fun _ => LateOnly.pure _
  -- an external server: the vendor, the host, the admin Secret's name and the admin Secret in turn,
  -- then the Service and the status, which raise no configuration error
  split
  · refine ChecksFirst.bind_silent (Silent.pure _) fun strategy => ?_
    split
    · refine ChecksFirst.bind_silent (Silent.pure _) fun host => ?_
      split
      · refine ChecksFirst.bind_silent (Silent.pure _) fun secretName => ?_
        refine ChecksFirst.bind_silent (fun w => by rw [backend_loadSecret, loadSecret_run]) fun stored => ?_
        split
        · exact ChecksFirst.of_silent (Silent.throw_bind _ _)
        · exact ChecksFirst.of_lateOnly ((applyService_lateOnly _).bind fun _ => updateServerStatus_lateOnly _ _)
      · exact ChecksFirst.of_silent (Silent.throw_bind _ _)
    · exact ChecksFirst.of_silent (Silent.throw_bind _ _)
  · exact ChecksFirst.of_silent (Silent.throw_bind _ _)

/-- **Configuration errors come before the writes, but for the CA Secret.** A pass of an application
that fails with a configuration error has made no mutating call, unless the error is the missing
source of the CA Secret, which is mirrored after the first writes of a pass whose containers trust
it. A pass of a database service that fails with a configuration error has made no mutating call,
whether it deploys its server or exposes an external one. -/
theorem configuration_errors_precede_writes (rt : Runtime) :
    (∀ (app : App) (w : World) (m : String),
      ((deployApp World.backend rt app).run.run w).run.1 = .error (.config m) →
        ((deployApp World.backend rt app).run.run w).run.2.calls = w.calls ∨ caSecretMissing rt.config m) ∧
    (∀ (dbs : DatabaseService) (w : World) (m : String),
      ((deployDatabaseService World.backend.cluster rt dbs).run.run w).run.1 = .error (.config m) →
        ((deployDatabaseService World.backend.cluster rt dbs).run.run w).run.2.calls = w.calls) :=
  ⟨fun app => deployApp_checksFirst rt app, fun dbs w m failed =>
    ((deployDatabaseService_checksFirst rt dbs : ChecksFirst (fun _ => False) _) w m failed).resolve_right id⟩

/-- An application whose Keycloak server has no admin Secret, and an external database service
without a host, fail on their configuration without a write. -/
theorem configuration_errors_precede_writes_without_secret_or_host :
    let rt : Runtime := { config := {}, now := ⟨0, 0⟩, password := fun _ => "changeit" }
    let recorded : ServerStatus := { qualifier := "server", externalBaseUrl := some "https://sso.example.com/auth" }
    let kc : KeycloakServer :=
      { metadata := { name := some "kc", ns := some "my-namespace" }, spec := { isDefault := true },
        status := some { servers := .singleton "server" recorded } }
    let w : World := { keycloakServers := [kc] }
    let app : App := { metadata := { name := some "my-app", ns := some "my-namespace" }, spec := {} }
    let dbs : DatabaseService :=
      { metadata := { name := some "my-db", ns := some "my-namespace" }, spec := { dbms := .postgresql } }
    let unsecured := "Keycloak admin secret my-namespace/kc-admin-secret does not exist"
    let unhosted := "EntandoDatabaseService my-namespace/my-db needs spec.host when createDeployment is false"
    (((deployApp World.backend rt app).run.run w).run.1 = .error (.config unsecured) ∧
      (((deployApp World.backend rt app).run.run w).run.2.calls = w.calls ∨ caSecretMissing rt.config unsecured)) ∧
    (((deployDatabaseService World.backend.cluster rt dbs).run.run w).run.1 = .error (.config unhosted) ∧
      ((deployDatabaseService World.backend.cluster rt dbs).run.run w).run.2.calls = w.calls) := by
  intro rt recorded kc w app dbs unsecured unhosted
  have appFailed : ((deployApp World.backend rt app).run.run w).run.1 = .error (.config unsecured) := by
    decide +kernel
  have dbsFailed : ((deployDatabaseService World.backend.cluster rt dbs).run.run w).run.1 = .error (.config unhosted) := by
    decide +kernel
  exact ⟨⟨appFailed, (configuration_errors_precede_writes rt).1 app w unsecured appFailed⟩,
    ⟨dbsFailed, (configuration_errors_precede_writes rt).2 dbs w unhosted dbsFailed⟩⟩

/-- An application whose containers trust a CA Secret missing from the operator's namespace fails
with a configuration error after its server's pass has written its status and claimed its volume. -/
theorem caSecret_checked_after_writes :
    let rt : Runtime :=
      { config := { operatorNamespace := "entando-operator", defaultRoutingSuffix := some "apps.example.com",
                    caSecretName := some "missing-ca", podCompletionTimeoutMs := 30, podReadinessTimeoutMs := 30,
                    pollIntervalMs := 5 },
        now := ⟨0, 0⟩, password := fun _ => "changeit" }
    let recorded : ServerStatus :=
      { qualifier := "server", adminSecretName := some "kc-admin-secret",
        externalBaseUrl := some "https://sso.example.com/auth" }
    let kc : KeycloakServer :=
      { metadata := { name := some "kc", ns := some "my-namespace", uid := some "kc-uid", generation := some 1 },
        spec := { isDefault := true, ingressHostName := some "sso.example.com" },
        status := some { phase := some .successful, servers := .singleton "server" recorded } }
    let admin := K8s.Secret.credentials { name := some "kc-admin-secret", ns := some "my-namespace" } "admin" "pw"
    let w : World := { keycloakServers := [kc], secrets := [(⟨"my-namespace", "kc-admin-secret"⟩, admin)] }
    let app : App :=
      { metadata := { name := some "my-app", ns := some "my-namespace", uid := some "my-app-uid", generation := some 1 },
        spec := {} }
    let run := ((deployApp World.backend rt app).run.run w).run
    run.1 = .error (.config "CA secret entando-operator/missing-ca does not exist") ∧
      run.2.calls = ["update_server_status:server", "apply_pvc:my-app-server-pvc", "update_server_status:server",
        "update_server_status:server"] := by
  intro rt recorded kc admin w app run
  decide +kernel

end StackOperator.Controller
