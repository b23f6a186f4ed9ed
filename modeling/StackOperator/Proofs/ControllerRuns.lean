import StackOperator.Proofs.KeycloakResolution

/-!
# What a controller does around its passes

Before it deploys anything, a controller reads what it needs: the image catalogue, the Keycloak
server a resource uses, the admin Secret it logs in with, and the database the resource keeps its
schemas on. This module gives each of these reads its run against the simulated cluster.

* **Reads.** The image catalogue and the Keycloak server are read without any change to the
  cluster (`imageResolver_run`, `resolveKeycloak_world`); a resolved Keycloak server is one the
  cluster stores (`resolveKeycloak_run_ok`).
* **Logging in** changes nothing but the log of logins, and only when it succeeds, as the user the
  admin Secret names (`login_run_ok`, `login_run_error`).
* **Resolving a database** reads the database services of the namespace. It deploys a server only
  when the vendor is a server and no service of the vendor exists; a resolution that succeeds
  otherwise changes nothing (`resolveDatabase_run_ok`).
-/

namespace StackOperator.Cluster

open K8s

variable {α β : Type}

@[simp] theorem backend_loadConfigMap : World.backend.cluster.loadConfigMap = loadConfigMap := rfl
@[simp] theorem backend_listDatabaseServices :
    World.backend.cluster.listDatabaseServices = listDatabaseServices := rfl
@[simp] theorem backend_loadKeycloakServer : World.backend.cluster.loadKeycloakServer = loadKeycloakServer := rfl
@[simp] theorem backend_listKeycloakServers : World.backend.cluster.listKeycloakServers = listKeycloakServers :=
  rfl

@[simp] theorem loadConfigMap_run (ns name : String) (w : World) :
    ((loadConfigMap ns name).run.run w).run = (.ok (w.configMaps.get? ⟨ns, name⟩), w) := rfl

/-- The database services of a namespace. -/
def World.databaseServicesIn (w : World) (ns : String) : List DatabaseService :=
  w.databaseServices.filter (·.metadata.ns == some ns)

@[simp] theorem listDatabaseServices_run (ns : String) (w : World) :
    ((listDatabaseServices ns).run.run w).run = (.ok (w.databaseServicesIn ns), w) := rfl

@[simp] theorem loadKeycloakServer_run (ns name : String) (w : World) :
    ((loadKeycloakServer ns name).run.run w).run =
      (.ok (w.keycloakServers.find? fun k => k.metadata.ns == some ns && k.name == name), w) := rfl

@[simp] theorem listKeycloakServers_run (w : World) :
    (listKeycloakServers.run.run w).run = (.ok w.keycloakServers, w) := rfl

@[simp] theorem liftExcept_run (e : Except Error α) (w : World) :
    ((liftExcept e : Op α).run.run w).run = (e, w) := by
  cases e <;> rfl

@[simp] theorem pure_run (a : α) (w : World) : ((pure a : Op α).run.run w).run = (.ok a, w) := rfl

@[simp] theorem throw_run (e : Error) (w : World) :
    ((throw e : Op α).run.run w).run = (.error e, w) := rfl

/-- The log of logins after one more, as `user@url`. -/
def World.withLogin (w : World) (url user : String) : World :=
  { w with logins := w.logins ++ [user ++ "@" ++ url] }

/-- A login to the simulated Keycloak is recorded as its user and URL, and opens the simulated
session. -/
@[simp] theorem backend_login_run (url user password : String) (w : World) :
    ((World.backend.sso.login url user password).run.run w).run = (.ok ssoClient, w.withLogin url user) :=
  rfl

end StackOperator.Cluster

namespace StackOperator.Controller

open Cluster Deploy

variable {α : Type}

/-- The image catalogue is read, and nothing changes. -/
theorem imageResolver_run (config : OperatorConfig) (w : World) :
    ((imageResolver World.backend.cluster config).run.run w).run =
      (.ok (ImageResolver.ofConfig config
        (((w.configMaps.get? ⟨config.operatorNamespace, config.imageInfoConfigMap⟩).bind (·.data)).elim []
          (·.entries))), w) :=
  rfl

/-- Resolving a Keycloak server reads the cluster and changes nothing. -/
theorem resolveKeycloak_world (ns : String) (toUse : Option KeycloakToUse) (w : World) :
    ((resolveKeycloak World.backend.cluster ns toUse).run.run w).run.2 = w := by
  unfold resolveKeycloak
  -- the server is looked up by name or as the default; either way only the lookup runs
  split
  · simp only [Op.bind_run, backend_loadKeycloakServer, loadKeycloakServer_run]
    split <;> simp only [Op.bind_run, pure_run, throw_run, liftExcept_run]
  · simp only [Op.bind_run, backend_listKeycloakServers, listKeycloakServers_run]
    split <;> simp only [Op.bind_run, pure_run, throw_run, liftExcept_run]

/-- A resolved Keycloak server is one the cluster stores, and the connection is the one its
status gives. -/
theorem resolveKeycloak_run_ok {ns : String} {toUse : Option KeycloakToUse} {w w' : World}
    {resolved : ResolvedKeycloak}
    (ran : ((resolveKeycloak World.backend.cluster ns toUse).run.run w).run = (.ok resolved, w')) :
    ∃ server ∈ w.keycloakServers, keycloakConnection server toUse = .ok resolved := by
  unfold resolveKeycloak at ran
  split at ran
  · simp only [Op.bind_run, backend_loadKeycloakServer, loadKeycloakServer_run] at ran
    split at ran
    · rename_i server stored
      simp only [Op.bind_run, pure_run, liftExcept_run, Prod.mk.injEq] at ran
      exact ⟨server, List.mem_of_find?_eq_some stored, ran.1⟩
    · simp at ran
  · simp only [Op.bind_run, backend_listKeycloakServers, listKeycloakServers_run] at ran
    split at ran
    · rename_i server stored
      simp only [Op.bind_run, pure_run, liftExcept_run, Prod.mk.injEq] at ran
      exact ⟨server, List.mem_of_find?_eq_some stored, ran.1⟩
    · simp at ran

/-- A login that succeeds read the admin Secret and logged in as the user it names, at the URL
given, and opened the simulated session; nothing else changes. -/
theorem login_run_ok {url ns name : String} {w w' : World} {client : SsoClient (StateM World)}
    (ran : ((login World.backend url ns name).run.run w).run = (.ok client, w')) :
    ∃ secret user, w.secrets.get? ⟨ns, name⟩ = some secret ∧ secret.value "username" = some user ∧
      client = ssoClient ∧ w' = w.withLogin url user := by
  unfold login at ran
  simp only [Op.bind_run, backend_loadSecret, loadSecret_run] at ran
  cases stored : w.secrets.get? ⟨ns, name⟩ with
  | none => simp [stored] at ran
  | some secret =>
    simp only [stored, Op.bind_run, pure_run] at ran
    cases named : secret.value "username" with
    | none => simp [named] at ran
    | some user =>
      cases given : secret.value "password" with
      | none => simp [named, given] at ran
      | some password =>
        simp only [named, given, pure_run, backend_login_run, Prod.mk.injEq, Except.ok.injEq] at ran
        exact ⟨secret, user, rfl, named, ran.1.symm, ran.2.symm⟩

/-- A login that fails changes nothing. -/
theorem login_run_error {url ns name : String} {w w' : World} {e : Error}
    (ran : ((login World.backend url ns name).run.run w).run = (.error e, w')) : w' = w := by
  unfold login at ran
  simp only [Op.bind_run, backend_loadSecret, loadSecret_run] at ran
  cases stored : w.secrets.get? ⟨ns, name⟩ with
  | none => simp only [stored, Op.bind_run, throw_run, Prod.mk.injEq] at ran; exact ran.2.symm
  | some secret =>
    simp only [stored, Op.bind_run, pure_run] at ran
    cases named : secret.value "username" with
    | none => simp only [named, throw_run, Prod.mk.injEq] at ran; exact ran.2.symm
    | some user =>
      cases given : secret.value "password" with
      | none => simp only [named, given, pure_run, throw_run, Prod.mk.injEq] at ran; exact ran.2.symm
      | some password => simp [named, given] at ran

/-- A login changes at most the log of logins. -/
theorem login_calls (url ns name : String) (w : World) :
    ((login World.backend url ns name).run.run w).run.2.calls = w.calls ∧
      ((login World.backend url ns name).run.run w).run.2.ssoCalls = w.ssoCalls := by
  rcases ran : ((login World.backend url ns name).run.run w).run with ⟨_ | client, w'⟩
  · rw [login_run_error ran]
    exact ⟨rfl, rfl⟩
  · obtain ⟨_, _, _, _, -, rfl⟩ := login_run_ok ran
    exact ⟨rfl, rfl⟩

/-- The database services of a namespace that serve a vendor. -/
def databaseCandidates (w : World) (ns : String) (vendor : Vendor) : List DatabaseService :=
  (w.databaseServicesIn ns).filter (·.spec.dbms == vendor)

/-- Whether resolving a database deploys a server for the resource: the vendor is a server and the
namespace has no database service of it. -/
def needsDedicated (w : World) (ns : String) (vendor : Vendor) : Bool :=
  vendor.isExternalServer && (databaseCandidates w ns vendor).isEmpty

/-- A database resolved on the simulated cluster: without a pass, leaving the cluster as it is, or,
when a server is needed, through the pass of the server deployed for the owner, whose connection
is the result. -/
theorem resolveDatabase_run_ok {rt : Runtime} {images : ImageResolver} {owner : K8s.Reference}
    {vendor : Vendor} {storageClass : Option String} {w w' : World} {conn : ConnectionInfo}
    (ran : ((resolveDatabase World.backend.cluster rt images owner vendor storageClass).run.run w).run =
      (.ok conn, w')) :
    (needsDedicated w owner.ns vendor = false ∧ w' = w) ∨
      (needsDedicated w owner.ns vendor = true ∧ ∃ plan deployed,
        DatabasePlan.make owner vendor none storageClass [] rt.password = .ok plan ∧ conn = plan.connection ∧
        ((execute World.backend.cluster rt images plan.deployable none).run.run w).run = (.ok deployed, w')) := by
  unfold resolveDatabase at ran
  by_cases embedded : vendor.isExternalServer = false
  · simp only [embedded, Bool.not_false, if_true, pure_run] at ran
    cases ran
    exact .inl ⟨by simp [needsDedicated, embedded], rfl⟩
  have server : vendor.isExternalServer = true := by simpa using embedded
  simp only [server, Bool.not_true, Bool.false_eq_true, if_false, Op.bind_run, backend_listDatabaseServices,
    listDatabaseServices_run] at ran
  -- a service of the vendor decides without a pass; only its absence deploys a server
  split at ran
  · rename_i dbs ready
    obtain ⟨-, unchanged⟩ := liftExcept_run_eq_ok.mp ran
    refine .inl ⟨?_, unchanged⟩
    have present : databaseCandidates w owner.ns vendor ≠ [] := List.ne_nil_of_mem (List.mem_of_find?_eq_some ready)
    simp [needsDedicated, server, present]
  · split at ran
    · simp at ran
    · rename_i none
      obtain ⟨plan, w₁, lifted, ran⟩ := Op.bind_run_eq_ok.mp ran
      obtain ⟨made, unchanged⟩ := liftExcept_run_eq_ok.mp lifted
      subst w₁
      obtain ⟨deployed, w₂, deployedRun, ran⟩ := Op.bind_run_eq_ok.mp ran
      simp only [pure_run, Prod.mk.injEq, Except.ok.injEq] at ran
      obtain ⟨rfl, rfl⟩ := ran
      exact .inr ⟨by simp [needsDedicated, databaseCandidates, server, none], plan, deployed, made, rfl, deployedRun⟩

end StackOperator.Controller
