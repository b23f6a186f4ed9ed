import StackOperator.Proofs.PassOutcome
import StackOperator.Proofs.ConfigChecks

/-!
# Deploying an application end to end

An application is deployed in one controller pass: it resolves its Keycloak server and logs in
as the server's admin user, resolves its database (deploying a dedicated server when the
namespace has none of the vendor), builds its three qualifiers `server`, `ab` and `cm`, runs their
passes in that order and grants the component manager's client the superuser role of the
server's client.

`deployApp_run_ok_outcome` states what a deployment that succeeds leaves (`AppDeployed`): one
login, the calls of the passes in order, the Keycloak registrations ending with the grant,
finished status entries for the qualifiers it deployed, and on a database server the two schema
Jobs. It is assembled from

* the inversion of a successful run into its stages (`deployApp_run_ok_stages`);
* what the database resolution leaves (`resolveDatabase_run_ok_outcome`);
* what the three passes leave, read off the plan of each qualifier (`server_plan`,
  `appBuilder_plan`, `componentManager_plan`): their calls (`appPasses_logged`), their status
  entries (`appPasses_entries`) and their Jobs (`appPasses_jobs`).
-/

namespace StackOperator.DatabaseService

theorem connection_vendor {dbs : DatabaseService} {conn : ConnectionInfo} (connected : dbs.connection = .ok conn) :
    conn.vendor = dbs.spec.dbms := by
  unfold connection at connected
  simp only [bind, Except.bind, pure, Except.pure] at connected
  -- every branch that does not fail builds the connection of the spec's vendor
  split at connected
  · split at connected
    · cases connected
      rfl
    · split at connected
      · cases connected
        rfl
      · cases connected
  · cases connected

end StackOperator.DatabaseService

namespace StackOperator.DatabasePlan

open Deploy

/-- A database server is deployed for its owner as the `db` qualifier, with no schema and no
Keycloak client. -/
theorem make_deployable {owner : K8s.Reference} {vendor : Vendor} {storageClass : Option String}
    {passwords : Cluster.ObjectKey → String} {plan : DatabasePlan} (made : make owner vendor none storageClass [] passwords = .ok plan) :
    plan.vendor = vendor ∧ plan.deployable.owner = owner ∧ plan.deployable.qualifier = qualifier ∧
      plan.deployable.schemaQualifiers = [] ∧ clientAccesses plan.deployable = [] := by
  rcases make_eq_ok made with rfl | rfl <;>
  · simp only [make, imageOf, VendorStrategy.of?, bind, Except.bind, pure, Except.pure, Except.ok.injEq] at made
    subst made
    exact ⟨rfl, rfl, rfl, rfl, rfl⟩

end StackOperator.DatabasePlan

namespace StackOperator.Deploy

/-- The Keycloak calls that register a client of a realm served through an Ingress. -/
def registrationCalls (connection : Keycloak.Connection) (clientId : String) : List String :=
  ["ensure_realm:" ++ connection.realm,
   "create_public_client:" ++ connection.realm ++ "/" ++ connection.publicClientId,
   "prepare_client:" ++ connection.realm ++ "/" ++ clientId]

end StackOperator.Deploy

namespace StackOperator.AppPlan.Context

open Deploy

/-! ## The plans of the three qualifiers -/

/-- The application server prepares `portdb` and `servdb` on the application's database and
registers the server's client, which declares the role the component manager is granted. -/
theorem server_plan {c : Context} {server : Deployable} (built : c.server = .ok server) :
    server.owner = c.owner ∧ server.qualifier = "server" ∧ server.database = some c.database ∧
      server.schemaQualifiers = ["portdb", "servdb"] ∧
      (clientAccesses server).flatMap (clientCalls server) =
        registrationCalls c.keycloak (Names.serverClientId c.owner.name) ∧
      ∃ access ∈ clientAccesses server, access.client.clientId = (superuserPermission c.owner.name).clientId ∧
        (superuserPermission c.owner.name).role ∈ access.client.roles.map (·.code) := by
  unfold Context.server at built
  obtain ⟨ingress, routed, built⟩ := bind_base_eq_ok built
  simp only [routed, bind, Except.bind, pure, Except.pure, Except.ok.injEq] at built
  subst built
  exact ⟨rfl, rfl, rfl, rfl, rfl, _, List.mem_singleton_self _, rfl, by simp [superuserPermission, superuserRole]⟩

/-- The App Builder has no schema and no client of its own. -/
theorem appBuilder_plan {c : Context} {appBuilder : Deployable} (built : c.appBuilder = .ok appBuilder) :
    appBuilder.owner = c.owner ∧ appBuilder.qualifier = "ab" ∧ appBuilder.schemaQualifiers = [] ∧
      clientAccesses appBuilder = [] := by
  unfold Context.appBuilder at built
  obtain ⟨ingress, -, built⟩ := bind_base_eq_ok built
  simp only [pure, Except.pure, Except.ok.injEq] at built
  subst built
  exact ⟨rfl, rfl, rfl, rfl⟩

/-- The component manager prepares `dedb` on the application's database and registers its own
client. -/
theorem componentManager_plan {c : Context} {componentManager : Deployable}
    (built : c.componentManager = .ok componentManager) :
    componentManager.owner = c.owner ∧ componentManager.qualifier = "cm" ∧
      componentManager.database = some c.database ∧ componentManager.schemaQualifiers = ["dedb"] ∧
      (clientAccesses componentManager).flatMap (clientCalls componentManager) =
        registrationCalls c.keycloak (Names.componentManagerClientId c.owner.name) := by
  unfold Context.componentManager at built
  obtain ⟨ingress, routed, built⟩ := bind_base_eq_ok built
  simp only [routed, bind, Except.bind, pure, Except.pure, Except.ok.injEq] at built
  subst built
  exact ⟨rfl, rfl, rfl, rfl, rfl⟩

end StackOperator.AppPlan.Context

namespace StackOperator.Cluster

@[simp] theorem assignRole_run (realm clientId : String) (p : Keycloak.Permission) (w : World) :
    ((assignRole realm clientId p).run.run w).run =
      if w.failRoleAssignment then (.error (.keycloak "role assignment rejected"), w)
      else (.ok (), { w with ssoCalls := w.ssoCalls ++
        ["assign_role:" ++ realm ++ "/" ++ clientId ++ ":" ++ p.clientId ++ "/" ++ p.role] }) := by
  simp only [assignRole, Op.bind_run, get_run]
  cases fails : w.failRoleAssignment <;>
    simp only [fails, Bool.false_eq_true, if_false, if_true, recordSso_run, Op.bind_run, throw_run]

end StackOperator.Cluster

namespace StackOperator.Controller

open Cluster Deploy

theorem onFailure_run_eq_ok {α : Type} {x : Op α} {a : α} {w w' : World} {kind ns name : String}
    (ran : ((onFailure kind ns name x).run.run w).run = (.ok a, w')) : (x.run.run w).run = (.ok a, w') := by
  simp only [onFailure, ExceptT.run_tryCatch, StateT.run_bind, Id.run_bind] at ran
  rcases first : (x.run.run w).run with ⟨_ | b, w₁⟩
  · rw [first] at ran
    cases ran
  · rw [first] at ran
    exact ran

/-! ## The database -/

/-- The database a resolution answers is on a server exactly when the vendor asked for is one. -/
theorem resolveDatabase_run_ok_vendor {rt : Runtime} {images : ImageResolver} {owner : K8s.Reference}
    {vendor : Vendor} {storageClass : Option String} {w w' : World} {conn : ConnectionInfo}
    (ran : ((resolveDatabase World.backend.cluster rt images owner vendor storageClass).run.run w).run =
      (.ok conn, w')) :
    conn.vendor.isExternalServer = vendor.isExternalServer := by
  unfold resolveDatabase at ran
  by_cases embedded : vendor.isExternalServer = false
  · simp only [embedded, Bool.not_false, if_true, pure_run] at ran
    cases ran
    rw [embedded]
    rfl
  have server : vendor.isExternalServer = true := by simpa using embedded
  simp only [server, Bool.not_true, Bool.false_eq_true, if_false, Op.bind_run, backend_listDatabaseServices,
    listDatabaseServices_run] at ran
  split at ran
  · -- a ready service of the vendor
    rename_i dbs ready
    obtain ⟨connected, -⟩ := liftExcept_run_eq_ok.mp ran
    have candidate := List.mem_of_find?_eq_some ready
    rw [List.mem_filter, beq_iff_eq] at candidate
    rw [DatabaseService.connection_vendor connected, candidate.2]
  · split at ran
    · simp at ran
    · -- a dedicated server, deployed for the owner
      obtain ⟨plan, w₁, lifted, ran⟩ := Op.bind_run_eq_ok.mp ran
      obtain ⟨made, -⟩ := liftExcept_run_eq_ok.mp lifted
      obtain ⟨_, w₂, -, ran⟩ := Op.bind_run_eq_ok.mp ran
      simp only [pure_run, Prod.mk.injEq, Except.ok.injEq] at ran
      rw [← ran.1, DatabasePlan.connection, (DatabasePlan.make_deployable made).1]

/-- The calls of the pass of the database server that resolving a database deploys for its owner,
if it deploys one. -/
def dedicatedCalls (rt : Runtime) (owner : K8s.Reference) (vendor : Vendor) (storageClass : Option String)
    (w : World) : List String :=
  if needsDedicated w owner.ns vendor then
    match DatabasePlan.make owner vendor none storageClass [] rt.password with
    | .ok plan => passCalls rt.config plan.deployable w
    | .error _ => []
  else []

/-- A database resolution that succeeds makes the calls of the dedicated server's pass when it
deploys one, and then leaves its `db` entry finished; it touches no other status entry, no Job and
no Keycloak server, and changes nothing when it deploys nothing. -/
theorem resolveDatabase_run_ok_outcome {rt : Runtime} {images : ImageResolver} {owner : K8s.Reference}
    {vendor : Vendor} {storageClass : Option String} {w w' : World} {conn : ConnectionInfo}
    (ran : ((resolveDatabase World.backend.cluster rt images owner vendor storageClass).run.run w).run =
      (.ok conn, w')) :
    Logged w w' (dedicatedCalls rt owner vendor storageClass w) [] ∧ w'.logins = w.logins ∧
      w'.jobs = w.jobs ∧ w'.jobCounter = w.jobCounter ∧
      World.SameEntriesBut (statusKey owner) DatabasePlan.qualifier w w' ∧
      (needsDedicated w owner.ns vendor = true →
        w'.FinishedEntry rt.now (statusKey owner) DatabasePlan.qualifier) ∧
      (needsDedicated w owner.ns vendor = false → w' = w) := by
  rcases resolveDatabase_run_ok ran with ⟨unneeded, rfl⟩ | ⟨needed, plan, deployed, made, -, passed⟩
  · refine ⟨⟨?_, (List.append_nil _).symm⟩, rfl, rfl, rfl, .refl _, fun needed => ?_, fun _ => rfl⟩
    · simp [dedicatedCalls, unneeded]
    · rw [unneeded] at needed
      cases needed
  · obtain ⟨-, owned, qualified, plain, unregistered⟩ := DatabasePlan.make_deployable made
    have unprepared : preparesOnServer plan.deployable = false := by simp [preparesOnServer, plain]
    have logged := execute_run_ok_logged rt images plan.deployable false passed
    obtain ⟨jobs, counter⟩ := execute_run_ok_jobs_unprepared rt images plan.deployable false unprepared passed
    obtain ⟨framed, finished⟩ := execute_run_ok_finished rt images plan.deployable false passed
    rw [owned, qualified] at framed finished
    refine ⟨⟨?_, ?_⟩, execute_run_ok_logins rt images plan.deployable false passed, jobs, counter, framed,
      fun _ => finished, fun unneeded => ?_⟩
    · rw [logged.calls]
      simp [dedicatedCalls, needed, made]
    · rw [logged.ssoCalls, unregistered]
      rfl
    · rw [unneeded] at needed
      cases needed

/-! ## The passes of the three qualifiers -/

/-- The passes of the application's qualifiers, one after the other, each to success. -/
structure AppPasses (rt : Runtime) (images : ImageResolver) (server appBuilder componentManager : Deployable)
    (w₀ w₁ w₂ w₃ : World) : Prop where
  server : ∃ deployed,
    ((execute World.backend.cluster rt images server (World.ssoSession true)).run.run w₀).run = (.ok deployed, w₁)
  appBuilder : ∃ deployed,
    ((execute World.backend.cluster rt images appBuilder (World.ssoSession true)).run.run w₁).run = (.ok deployed, w₂)
  componentManager : ∃ deployed,
    ((execute World.backend.cluster rt images componentManager (World.ssoSession true)).run.run w₂).run =
      (.ok deployed, w₃)

section Passes

variable {rt : Runtime} {images : ImageResolver} {c : AppPlan.Context}
  {server appBuilder componentManager : Deployable} {w₀ w₁ w₂ w₃ : World}

/-- The passes make the calls of the server, then of the App Builder, then of the component
manager, and register the server's client and then the component manager's. -/
theorem appPasses_logged (builtServer : c.server = .ok server) (builtAppBuilder : c.appBuilder = .ok appBuilder)
    (builtComponentManager : c.componentManager = .ok componentManager)
    (passes : AppPasses rt images server appBuilder componentManager w₀ w₁ w₂ w₃) :
    Logged w₀ w₃ (passCalls rt.config server w₀ ++ passCalls rt.config appBuilder w₁ ++
        passCalls rt.config componentManager w₂)
      (registrationCalls c.keycloak (Names.serverClientId c.owner.name) ++
        registrationCalls c.keycloak (Names.componentManagerClientId c.owner.name)) ∧
      w₃.logins = w₀.logins := by
  obtain ⟨-, -, -, -, registeredServer, -⟩ := AppPlan.Context.server_plan builtServer
  obtain ⟨-, -, -, unregistered⟩ := AppPlan.Context.appBuilder_plan builtAppBuilder
  obtain ⟨-, -, -, -, registeredComponentManager⟩ := AppPlan.Context.componentManager_plan builtComponentManager
  obtain ⟨_, ranServer⟩ := passes.server
  obtain ⟨_, ranAppBuilder⟩ := passes.appBuilder
  obtain ⟨_, ranComponentManager⟩ := passes.componentManager
  have loggedServer := execute_run_ok_logged rt images server true ranServer
  have loggedAppBuilder := execute_run_ok_logged rt images appBuilder true ranAppBuilder
  have loggedComponentManager := execute_run_ok_logged rt images componentManager true ranComponentManager
  rw [registeredServer] at loggedServer
  rw [unregistered] at loggedAppBuilder
  rw [registeredComponentManager] at loggedComponentManager
  refine ⟨(loggedServer.trans loggedAppBuilder |>.trans loggedComponentManager).congr rfl (by simp), ?_⟩
  rw [execute_run_ok_logins rt images componentManager true ranComponentManager,
    execute_run_ok_logins rt images appBuilder true ranAppBuilder,
    execute_run_ok_logins rt images server true ranServer]

/-- The passes leave the entries of `server`, `ab` and `cm` finished and touch no other entry. -/
theorem appPasses_entries (builtServer : c.server = .ok server) (builtAppBuilder : c.appBuilder = .ok appBuilder)
    (builtComponentManager : c.componentManager = .ok componentManager)
    (passes : AppPasses rt images server appBuilder componentManager w₀ w₁ w₂ w₃) :
    (∀ q ∈ ["server", "ab", "cm"], w₃.FinishedEntry rt.now (statusKey c.owner) q) ∧
      ∀ k q, (k = statusKey c.owner → q ∉ ["server", "ab", "cm"]) → w₃.entry k q = w₀.entry k q := by
  obtain ⟨ownerServer, server, -⟩ := AppPlan.Context.server_plan builtServer
  obtain ⟨ownerAppBuilder, appBuilder, -⟩ := AppPlan.Context.appBuilder_plan builtAppBuilder
  obtain ⟨ownerComponentManager, componentManager, -⟩ := AppPlan.Context.componentManager_plan builtComponentManager
  obtain ⟨_, ranServer⟩ := passes.server
  obtain ⟨_, ranAppBuilder⟩ := passes.appBuilder
  obtain ⟨_, ranComponentManager⟩ := passes.componentManager
  obtain ⟨framed₁, finished₁⟩ := execute_run_ok_finished rt images _ true ranServer
  obtain ⟨framed₂, finished₂⟩ := execute_run_ok_finished rt images _ true ranAppBuilder
  obtain ⟨framed₃, finished₃⟩ := execute_run_ok_finished rt images _ true ranComponentManager
  rw [ownerServer, server] at framed₁ finished₁
  rw [ownerAppBuilder, appBuilder] at framed₂ finished₂
  rw [ownerComponentManager, componentManager] at framed₃ finished₃
  refine ⟨fun q listed => ?_, fun k q other => ?_⟩
  · -- each pass writes its own entry, and the later passes keep it
    simp only [List.mem_cons, List.not_mem_nil, or_false] at listed
    rcases listed with rfl | rfl | rfl
    · exact (finished₁.of_sameEntriesBut framed₂ (by decide)).of_sameEntriesBut framed₃ (by decide)
    · exact finished₂.of_sameEntriesBut framed₃ (by decide)
    · exact finished₃
  · have kept : ∀ q', q' ∈ ["server", "ab", "cm"] → k = statusKey c.owner → q ≠ q' :=
      fun q' listed same equal => other same (equal ▸ listed)
    rw [framed₃ k q (kept "cm" (by simp)), framed₂ k q (kept "ab" (by simp)),
      framed₁ k q (kept "server" (by simp))]

/-- On a database server the passes of `server` and `cm` each create their preparation Job, with
a container per schema, and both Jobs are left; on an embedded database no pass touches a Job. -/
theorem appPasses_jobs (builtServer : c.server = .ok server) (builtAppBuilder : c.appBuilder = .ok appBuilder)
    (builtComponentManager : c.componentManager = .ok componentManager)
    (passes : AppPasses rt images server appBuilder componentManager w₀ w₁ w₂ w₃) :
    (c.database.vendor.isExternalServer = true → w₃.jobCounter = w₀.jobCounter + 2 ∧
      (∃ j, w₃.jobs.get? ⟨c.owner.ns, schemaJobName server w₀.jobCounter⟩ = some j ∧
        j.containerNames = ["portdb-schema-creation-job", "servdb-schema-creation-job"]) ∧
      (∃ j, w₃.jobs.get? ⟨c.owner.ns, schemaJobName componentManager (w₀.jobCounter + 1)⟩ = some j ∧
        j.containerNames = ["dedb-schema-creation-job"])) ∧
    (c.database.vendor.isExternalServer = false → w₃.jobs = w₀.jobs ∧ w₃.jobCounter = w₀.jobCounter) := by
  obtain ⟨ownerServer, qualifiedServer, hostedServer, schemasServer, -⟩ := AppPlan.Context.server_plan builtServer
  obtain ⟨-, -, schemasAppBuilder, -⟩ := AppPlan.Context.appBuilder_plan builtAppBuilder
  obtain ⟨ownerComponentManager, qualifiedComponentManager, hostedComponentManager, schemasComponentManager, -⟩ :=
    AppPlan.Context.componentManager_plan builtComponentManager
  obtain ⟨_, ranServer⟩ := passes.server
  obtain ⟨_, ranAppBuilder⟩ := passes.appBuilder
  obtain ⟨_, ranComponentManager⟩ := passes.componentManager
  -- the App Builder has no schema, so its pass touches no Job
  obtain ⟨jobs₂, counter₂⟩ := execute_run_ok_jobs_unprepared rt images appBuilder true
    (by simp [preparesOnServer, schemasAppBuilder]) ranAppBuilder
  refine ⟨fun onServer => ?_, fun embedded => ?_⟩
  · obtain ⟨db₁, -, counter₁, created₁, -⟩ := execute_run_ok_jobs_prepared rt images server true
      (by simp [preparesOnServer, schemasServer, hostedServer, onServer]) ranServer
    obtain ⟨db₃, -, counter₃, created₃, kept₃⟩ := execute_run_ok_jobs_prepared rt images componentManager true
      (by simp [preparesOnServer, schemasComponentManager, hostedComponentManager, onServer]) ranComponentManager
    rw [counter₂, counter₁] at counter₃ created₃ kept₃
    rw [jobs₂] at kept₃
    -- the component manager's cleanup spares the server's Job: its name and its label differ
    have named : (⟨server.owner.ns, schemaJobName server w₀.jobCounter⟩ : ObjectKey) ≠
        ⟨componentManager.owner.ns, schemaJobName componentManager (w₀.jobCounter + 1)⟩ := by
      intro same
      have names := congrArg (fun k : ObjectKey => k.name.toList) same
      simp [schemaJobName, ownerServer, ownerComponentManager, qualifiedServer, qualifiedComponentManager] at names
    have labelled : ¬PreparesFor componentManager ⟨server.owner.ns, schemaJobName server w₀.jobCounter⟩
        (createdJob w₀ ((preparation server images db₁).job rt)) := by
      intro prepares
      have labels := prepares.2
      rw [label_createdJob] at labels
      simp only [Option.some.injEq, Names.deploymentLabel, ownerServer, ownerComponentManager, qualifiedServer,
        qualifiedComponentManager] at labels
      have chars := congrArg String.toList labels
      simp at chars
    refine ⟨by rw [counter₃], ⟨createdJob w₀ ((preparation server images db₁).job rt), ?_, ?_⟩,
      ⟨createdJob w₂ ((preparation componentManager images db₃).job rt), ?_, ?_⟩⟩
    · rw [← ownerServer]
      exact kept₃ _ _ created₁ named labelled
    · rw [containerNames_createdJob, schemasServer]
      rfl
    · rw [← ownerComponentManager]
      exact created₃
    · rw [containerNames_createdJob, schemasComponentManager]
      rfl
  · obtain ⟨jobs₁, counter₁⟩ := execute_run_ok_jobs_unprepared rt images server true
      (by simp [preparesOnServer, hostedServer, embedded]) ranServer
    obtain ⟨jobs₃, counter₃⟩ := execute_run_ok_jobs_unprepared rt images componentManager true
      (by simp [preparesOnServer, hostedComponentManager, embedded]) ranComponentManager
    exact ⟨by rw [jobs₃, jobs₂, jobs₁], by rw [counter₃, counter₂, counter₁]⟩

end Passes

/-! ## The whole deployment -/

/-- A deployment that succeeds resolved its Keycloak server without a change, logged in as the
user of the server's admin Secret, resolved its database, built its three qualifiers, ran their
passes in turn and granted the superuser role. -/
theorem deployApp_run_ok_stages {rt : Runtime} {app : App} {w w' : World}
    (ran : ((deployApp World.backend rt app).run.run w).run = (.ok (), w')) :
    ∃ (images : ImageResolver) (sso : ResolvedKeycloak) (user : String) (conn : ConnectionInfo)
      (server appBuilder componentManager : Deployable) (w₀ w₁ w₂ w₃ : World),
      ((resolveKeycloak World.backend.cluster app.reference.ns app.spec.keycloakToUse).run.run w).run =
        (.ok sso, w) ∧
      (∃ secret, w.secrets.get? ⟨sso.adminSecretNamespace, sso.adminSecretName⟩ = some secret ∧
        secret.value "username" = some user) ∧
      ((resolveDatabase World.backend.cluster rt images app.reference (rt.config.effectiveDbms app.spec.dbms)
        app.spec.storageClass).run.run (w.withLogin sso.connection.internalBaseUrl user)).run = (.ok conn, w₀) ∧
      ({ app, database := conn, keycloak := sso.connection, config := rt.config } : AppPlan.Context).server =
        .ok server ∧
      ({ app, database := conn, keycloak := sso.connection, config := rt.config } : AppPlan.Context).appBuilder =
        .ok appBuilder ∧
      ({ app, database := conn, keycloak := sso.connection, config := rt.config } : AppPlan.Context).componentManager =
        .ok componentManager ∧
      AppPasses rt images server appBuilder componentManager w₀ w₁ w₂ w₃ ∧
      w' = { w₃ with ssoCalls := w₃.ssoCalls ++ ["assign_role:" ++ sso.connection.realm ++ "/" ++
        Names.componentManagerClientId app.name ++ ":" ++ Names.serverClientId app.name ++ "/" ++
        AppPlan.superuserRole] } := by
  unfold deployApp loginResolved at ran
  dsimp only at ran
  obtain ⟨images, v₁, resolvedImages, ran₁⟩ := Op.bind_run_eq_ok.mp ran
  rw [imageResolver_run] at resolvedImages
  cases resolvedImages
  obtain ⟨sso, v₂, resolved, ran₂⟩ := Op.bind_run_eq_ok.mp ran₁
  have unchanged := resolveKeycloak_world app.reference.ns app.spec.keycloakToUse w
  rw [resolved] at unchanged
  obtain rfl : w = v₂ := unchanged.symm
  obtain ⟨client, v₃, loggedIn, ran₃⟩ := Op.bind_run_eq_ok.mp ran₂
  obtain ⟨secret, user, stored, named, rfl, rfl⟩ := login_run_ok loggedIn
  obtain ⟨route, v₄, routed, ran₄⟩ := Op.bind_run_eq_ok.mp ran₃
  obtain ⟨-, rfl⟩ := liftExcept_run_eq_ok.mp routed
  obtain ⟨conn, w₀, connected, ran₅⟩ := Op.bind_run_eq_ok.mp ran₄
  obtain ⟨server, v₅, lifted₁, ran₆⟩ := Op.bind_run_eq_ok.mp ran₅
  obtain ⟨builtServer, rfl⟩ := liftExcept_run_eq_ok.mp lifted₁
  obtain ⟨appBuilder, v₆, lifted₂, ran₇⟩ := Op.bind_run_eq_ok.mp ran₆
  obtain ⟨builtAppBuilder, rfl⟩ := liftExcept_run_eq_ok.mp lifted₂
  obtain ⟨componentManager, v₇, lifted₃, ran₈⟩ := Op.bind_run_eq_ok.mp ran₇
  obtain ⟨builtComponentManager, rfl⟩ := liftExcept_run_eq_ok.mp lifted₃
  -- the loop over the three qualifiers: one pass after the other, each to success
  obtain ⟨_, w₃, passes, granting⟩ := Op.bind_run_eq_ok.mp ran₈
  simp only [List.forIn_cons, List.forIn_nil, bind_assoc, pure_bind] at passes
  obtain ⟨_, w₁, passedServer, passes₁⟩ := Op.bind_run_eq_ok.mp passes
  obtain ⟨_, w₂, passedAppBuilder, passes₂⟩ := Op.bind_run_eq_ok.mp passes₁
  obtain ⟨_, w₃', passedComponentManager, passes₃⟩ := Op.bind_run_eq_ok.mp passes₂
  cases passes₃
  -- the grant goes through only when the role assignment is taken
  have granted := onFailure_run_eq_ok granting
  rw [show ssoClient.assignRole = assignRole from rfl, assignRole_run] at granted
  split at granted
  · cases granted
  · cases granted
    exact ⟨_, sso, user, conn, server, appBuilder, componentManager, _, w₁, w₂, _, resolved,
      ⟨secret, stored, named⟩, connected, builtServer, builtAppBuilder, builtComponentManager,
      ⟨⟨_, passedServer⟩, ⟨_, passedAppBuilder⟩, ⟨_, passedComponentManager⟩⟩, rfl⟩

/-- What a deployment of `app` that succeeds from `w` leaves in `w'`. It resolved the Keycloak
server `sso` and the database `conn`, and built its three qualifiers from them. Then:

* it logged in once, at the server's internal URL, as the user of the server's admin Secret;
* it made the calls of the dedicated database's pass, if it deployed one, and then those of the
  passes of `server`, `ab` and `cm`, in that order, each planned on the world it started from;
* it registered the server's client, which declares the role the component manager is granted,
  then the component manager's client, and last granted that role;
* it left the entries of its qualifiers finished and without failure, wrote the `db` entry only
  when it deployed the database, and left every other entry as it found it;
* on a database server it created the two schema Jobs of the server and the component manager,
  with a container per schema, and otherwise touched no Job. -/
def AppDeployed (rt : Runtime) (app : App) (w w' : World) : Prop :=
  let owner := app.reference
  let dbms := rt.config.effectiveDbms app.spec.dbms
  let dedicated := needsDedicated w owner.ns dbms
  ∃ (sso : ResolvedKeycloak) (user : String) (conn : ConnectionInfo)
    (server appBuilder componentManager : Deployable) (w₀ w₁ w₂ : World),
    let context : AppPlan.Context := { app, database := conn, keycloak := sso.connection, config := rt.config }
    ((resolveKeycloak World.backend.cluster owner.ns app.spec.keycloakToUse).run.run w).run = (.ok sso, w) ∧
    conn.vendor.isExternalServer = dbms.isExternalServer ∧
    context.server = .ok server ∧ context.appBuilder = .ok appBuilder ∧
    context.componentManager = .ok componentManager ∧
    -- the login
    (∃ secret, w.secrets.get? ⟨sso.adminSecretNamespace, sso.adminSecretName⟩ = some secret ∧
      secret.value "username" = some user) ∧
    w'.logins = w.logins ++ [user ++ "@" ++ sso.connection.internalBaseUrl] ∧
    -- the cluster calls
    w'.calls = w.calls ++ dedicatedCalls rt owner dbms app.spec.storageClass w ++ passCalls rt.config server w₀ ++
      passCalls rt.config appBuilder w₁ ++ passCalls rt.config componentManager w₂ ∧
    -- the Keycloak calls
    (∃ access ∈ clientAccesses server, access.client.clientId = (AppPlan.superuserPermission owner.name).clientId ∧
      (AppPlan.superuserPermission owner.name).role ∈ access.client.roles.map (·.code)) ∧
    w'.ssoCalls = w.ssoCalls ++ registrationCalls sso.connection (Names.serverClientId owner.name) ++
      registrationCalls sso.connection (Names.componentManagerClientId owner.name) ++
      ["assign_role:" ++ sso.connection.realm ++ "/" ++ Names.componentManagerClientId owner.name ++ ":" ++
        Names.serverClientId owner.name ++ "/" ++ AppPlan.superuserRole] ∧
    -- the status entries
    (∀ q ∈ ["server", "ab", "cm"], w'.FinishedEntry rt.now (statusKey owner) q) ∧
    (dedicated = true → w'.FinishedEntry rt.now (statusKey owner) DatabasePlan.qualifier) ∧
    (dedicated = false →
      w'.entry (statusKey owner) DatabasePlan.qualifier = w.entry (statusKey owner) DatabasePlan.qualifier) ∧
    (∀ k q, (k = statusKey owner → q ∉ [DatabasePlan.qualifier, "server", "ab", "cm"]) →
      w'.entry k q = w.entry k q) ∧
    -- the schema Jobs
    (dbms.isExternalServer = true → w'.jobCounter = w.jobCounter + 2 ∧
      (∃ j, w'.jobs.get? ⟨owner.ns, schemaJobName server w.jobCounter⟩ = some j ∧
        j.containerNames = ["portdb-schema-creation-job", "servdb-schema-creation-job"]) ∧
      (∃ j, w'.jobs.get? ⟨owner.ns, schemaJobName componentManager (w.jobCounter + 1)⟩ = some j ∧
        j.containerNames = ["dedb-schema-creation-job"])) ∧
    (dbms.isExternalServer = false → w'.jobs = w.jobs ∧ w'.jobCounter = w.jobCounter)

/-- **An application deployment that succeeds** logs in once, runs the passes of its dedicated
database, if any, and of `server`, `ab` and `cm` in turn, registers both clients and then grants
the superuser role, leaves its qualifiers' status entries finished, and on a database server
creates exactly the two schema Jobs. -/
theorem deployApp_run_ok_outcome {rt : Runtime} {app : App} {w w' : World}
    (ran : ((deployApp World.backend rt app).run.run w).run = (.ok (), w')) : AppDeployed rt app w w' := by
  obtain ⟨images, sso, user, conn, server, appBuilder, componentManager, w₀, w₁, w₂, w₃, resolved, login,
    connected, builtServer, builtAppBuilder, builtComponentManager, passes, rfl⟩ := deployApp_run_ok_stages ran
  obtain ⟨loggedDb, loginsDb, jobsDb, counterDb, framedDb, finishedDb, unchangedDb⟩ :=
    resolveDatabase_run_ok_outcome connected
  obtain ⟨logged, logins⟩ := appPasses_logged builtServer builtAppBuilder builtComponentManager passes
  obtain ⟨finished, framed⟩ := appPasses_entries builtServer builtAppBuilder builtComponentManager passes
  obtain ⟨onServer, embedded⟩ := appPasses_jobs builtServer builtAppBuilder builtComponentManager passes
  have vendor := resolveDatabase_run_ok_vendor connected
  obtain ⟨-, -, -, -, -, role⟩ := AppPlan.Context.server_plan builtServer
  -- the `db` entry is none of the qualifiers' entries, so their passes keep it
  have keptDb : w₃.entry (statusKey app.reference) DatabasePlan.qualifier =
      w₀.entry (statusKey app.reference) DatabasePlan.qualifier :=
    framed _ _ fun _ => by decide
  refine ⟨sso, user, conn, server, appBuilder, componentManager, w₀, w₁, w₂, resolved, vendor, builtServer,
    builtAppBuilder, builtComponentManager, login, ?_, ?_, role, ?_, finished, fun dedicated => ?_,
    fun unneeded => ?_, fun k q other => ?_, fun external => ?_, fun internal => ?_⟩
  · show w₃.logins = _
    rw [logins, loginsDb]
    rfl
  · show w₃.calls = _
    rw [logged.calls, loggedDb.calls]
    simp only [List.append_assoc]
    rfl
  · show w₃.ssoCalls ++ _ = _
    rw [logged.ssoCalls, loggedDb.ssoCalls]
    simp only [List.append_nil, List.append_assoc]
    rfl
  · obtain ⟨s, stored, rest⟩ := finishedDb dedicated
    exact ⟨s, keptDb.trans stored, rest⟩
  · show w₃.entry _ _ = _
    rw [keptDb, unchangedDb unneeded]
    rfl
  · show w₃.entry k q = _
    rw [framed k q fun same listed => other same (List.mem_cons_of_mem _ listed),
      framedDb k q fun same equal => other same (equal ▸ List.mem_cons_self)]
    rfl
  · obtain ⟨counter, serverJob, componentManagerJob⟩ := onServer (vendor.trans external)
    rw [counterDb] at counter serverJob componentManagerJob
    exact ⟨counter, serverJob, componentManagerJob⟩
  · obtain ⟨jobs, counter⟩ := embedded (vendor.trans internal)
    exact ⟨jobs.trans jobsDb, counter.trans counterDb⟩

/-- An application on an embedded database, in a namespace whose default Keycloak server has
completed its pass and keeps its admin Secret. -/
theorem deployApp_run_ok_outcome_on_embedded :
    let rt : Runtime :=
      { config := { operatorNamespace := "entando-operator", defaultRoutingSuffix := some "apps.example.com",
                    podCompletionTimeoutMs := 30, podReadinessTimeoutMs := 30, pollIntervalMs := 5 },
        now := ⟨0, 0⟩, password := fun _ => "changeit" }
    let recorded : ServerStatus :=
      { qualifier := "server", adminSecretName := some "kc-admin-secret",
        externalBaseUrl := some "https://sso.example.com/auth" }
    let kc : KeycloakServer :=
      { metadata := { name := some "kc", ns := some "my-namespace", uid := some "kc-uid", generation := some 1 },
        spec := { isDefault := true, ingressHostName := some "sso.example.com" },
        status := some { phase := some .successful, servers := .singleton "server" recorded } }
    let admin := K8s.Secret.credentials { name := some "kc-admin-secret", ns := some "my-namespace" } "admin" "pw"
    let w : World := { keycloakServers := [kc], secrets := [(⟨"my-namespace", "kc-admin-secret"⟩, admin)] }
    let app : App :=
      { metadata := { name := some "my-app", ns := some "my-namespace", uid := some "my-app-uid", generation := some 1 },
        spec := { dbms := some .embedded } }
    let run := ((deployApp World.backend rt app).run.run w).run
    run = (.ok (), run.2) ∧ AppDeployed rt app w run.2 := by
  intro rt recorded kc admin w app run
  have ran : run = (.ok (), run.2) := run_eq_ok_of_toBool (by decide +kernel)
  exact ⟨ran, deployApp_run_ok_outcome ran⟩

end StackOperator.Controller
