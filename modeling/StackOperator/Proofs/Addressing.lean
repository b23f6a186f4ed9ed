import StackOperator.Proofs.ControllerRuns
import StackOperator.Proofs.DatabaseReach

/-!
# How one deployable addresses another

The operator never looks a Service up: a deployable that talks to another writes the other's
address down from its name, with the host made by `Names.internalHostname` from a Service name and
a namespace. Each such address is assembled by hand, apart from the builder of the Service it
must reach (`Children.service`, or the `ExternalName` Service of an external database). This
module proves that they meet.

* **The application server.** The component manager reaches the server through the server's own
  Service, on the port of the server's container and under its web context
  (`componentManager_reaches_server`).
* **Keycloak.** Resolving a Keycloak server picks one the cluster stores
  (`resolveKeycloak_run_ok`), and the internal URL it logs in with names the Service of that
  server's deployable, on its container's port and under `/auth` (`internalBaseUrl_reaches_service`).
* **Deployed databases.** The connection of a deployed database server names the server's Service
  and the one port that Service exposes (`connection_reaches_service`).
* **Database services.** The host consumers get for a database service names the Service its
  controller creates, the deployed server's or the `ExternalName` one (`connection_host_names_service`).

Main statement: `deployables_address_their_services`.
-/

namespace StackOperator

open K8s Cluster

/-- The cluster-internal host name of a Service. -/
def serviceHost (service : Service) : String :=
  Names.internalHostname (keyOf service.metadata).name (keyOf service.metadata).ns

/-- The address of a port under a path of a Service, as the operator writes it down. -/
def serviceUrl (service : Service) (port : Int) (path : String) : String :=
  "http://" ++ serviceHost service ++ ":" ++ toString port ++ path

/-- Port 8080, the port of the application server and of Keycloak, as the operator writes it. -/
theorem serviceUrl_8080 (service : Service) (path : String) :
    serviceUrl service 8080 path = "http://" ++ serviceHost service ++ ":8080" ++ path := by
  have digits : ":" ++ toString (8080 : Int) = ":8080" := by decide
  rw [serviceUrl, ← digits]
  simp only [String.append_assoc]

/-- The value of the first variable of a container with a name. -/
def ContainerPlan.envValue? (c : ContainerPlan) (name : String) : Option String :=
  (c.env.find? (·.name == name)).bind (·.value)

/-- The Service of a deployable is named after it, in its owner's namespace. -/
@[simp] theorem keyOf_service (d : Deployable) : keyOf (Children.service d).metadata = ⟨d.owner.ns, d.serviceName⟩ :=
  rfl

namespace AppPlan.Context

/-- The qualifiers of an application are built exactly when its route is. -/
theorem base_eq_ok {c : Context} {qualifier : String} {d : Deployable} (built : c.base qualifier = .ok d) :
    ∃ ingress, c.app.ingress c.config = .ok ingress ∧
      d = { owner := c.owner, qualifier, ingress := some ingress, storageClass := c.app.spec.storageClass } := by
  unfold base at built
  obtain ⟨ingress, routed, built⟩ := Json.Decode.exists_of_bind_eq_ok built
  cases built
  exact ⟨ingress, routed, rfl⟩

/-- A builder that starts from a qualifier's base gets past it only on a resolved route, and then
goes on from the base made of that route. -/
theorem bind_base_eq_ok {c : Context} {qualifier : String} {k : Deployable → Except Error Deployable}
    {d : Deployable} (built : c.base qualifier >>= k = .ok d) :
    ∃ ingress, c.app.ingress c.config = .ok ingress ∧
      k { owner := c.owner, qualifier, ingress := some ingress, storageClass := c.app.spec.storageClass } = .ok d := by
  obtain ⟨b, based, built⟩ := Json.Decode.exists_of_bind_eq_ok built
  obtain ⟨ingress, routed, rfl⟩ := base_eq_ok based
  exact ⟨ingress, routed, built⟩

/-- The application server: one container, on port 8080, served under the application's web
context. -/
theorem server_eq_ok {c : Context} {server : Deployable} (built : c.server = .ok server) :
    server.owner = c.owner ∧ server.qualifier = "server" ∧
      ∃ sc, server.containers = [sc] ∧ sc.port = 8080 ∧ sc.ingressing.map (·.path) = some c.webContext := by
  unfold Context.server at built
  obtain ⟨ingress, routed, built⟩ := bind_base_eq_ok built
  simp only [routed, bind, Except.bind, pure, Except.pure, Except.ok.injEq] at built
  subst built
  exact ⟨rfl, rfl, _, rfl, rfl, rfl⟩

/-- The component manager is given the address of the server's Service on port 8080, under the
application's web context, as its `ENTANDO_URL`. -/
theorem componentManager_eq_ok {c : Context} {cm : Deployable} (built : c.componentManager = .ok cm) :
    ∃ cmc, cm.containers = [cmc] ∧
      cmc.envValue? "ENTANDO_URL" = some ("http://" ++
        Names.internalHostname (Names.standardName c.owner.name "server" Names.serviceSuffix) c.owner.ns ++
        ":8080" ++ c.webContext) := by
  unfold Context.componentManager at built
  obtain ⟨ingress, routed, built⟩ := bind_base_eq_ok built
  simp only [routed, bind, Except.bind, pure, Except.pure, Except.ok.injEq] at built
  subst built
  refine ⟨_, rfl, ?_⟩
  simp [ContainerPlan.envValue?, K8s.EnvVar.plain]

/-- **The component manager reaches the application server.** Whenever both are built, the
`ENTANDO_URL` of the component manager's container is the address of the server's Service, on the
port of the server's container and under that container's web context; the Service exposes that
port. -/
theorem componentManager_reaches_server {c : Context} {server cm : Deployable}
    (builtServer : c.server = .ok server) (builtCm : c.componentManager = .ok cm) :
    ∃ sc cmc path, server.containers = [sc] ∧ cm.containers = [cmc] ∧
      sc.ingressing.map (·.path) = some path ∧ sc.port ∈ (Children.service server).exposedPorts ∧
      cmc.envValue? "ENTANDO_URL" = some (serviceUrl (Children.service server) sc.port path) := by
  obtain ⟨owned, qualified, sc, only, port, path⟩ := server_eq_ok builtServer
  obtain ⟨cmc, onlyCm, url⟩ := componentManager_eq_ok builtCm
  refine ⟨sc, cmc, c.webContext, only, onlyCm, path, ?_, ?_⟩
  · rw [Children.exposedPorts_service, only]
    exact List.mem_singleton_self _
  · rw [url, port, serviceUrl_8080, serviceHost, keyOf_service, Deployable.serviceName, owned, qualified]

end AppPlan.Context

namespace KeycloakPlan

/-- A Keycloak server's deployable is owned by the server: one container, on port 8080, served
under `/auth`. -/
theorem deployable_eq_ok {server : KeycloakServer} {dbms : Vendor} {database : Option ConnectionInfo}
    {config : OperatorConfig} {passwords : Cluster.ObjectKey → String} {d : Deployable}
    (built : deployable server dbms database config passwords = .ok d) :
    d.owner = server.reference ∧ d.qualifier = qualifier ∧
      ∃ kc, d.containers = [kc] ∧ kc.port = 8080 ∧ kc.ingressing.map (·.path) = some context := by
  unfold deployable at built
  obtain ⟨ingress, -, built⟩ := Json.Decode.exists_of_bind_eq_ok built
  cases built
  exact ⟨rfl, rfl, _, rfl, rfl, rfl⟩

/-- **The URL a Keycloak server is logged into reaches its Service.** The internal URL of a
server, for any deployable built for it, is the address of that deployable's Service in the
server's namespace, on the port of its one container and under that container's web context,
`/auth`; the Service exposes that port. -/
theorem internalBaseUrl_reaches_service {server : KeycloakServer} {dbms : Vendor}
    {database : Option ConnectionInfo} {config : OperatorConfig} {passwords : Cluster.ObjectKey → String} {d : Deployable}
    (built : deployable server dbms database config passwords = .ok d) :
    ∃ kc, d.containers = [kc] ∧ kc.ingressing.map (·.path) = some context ∧
      kc.port ∈ (Children.service d).exposedPorts ∧
      Names.keycloakInternalBaseUrl server.name server.ns = serviceUrl (Children.service d) kc.port context := by
  obtain ⟨owned, qualified, kc, only, port, path⟩ := deployable_eq_ok built
  refine ⟨kc, only, path, ?_, ?_⟩
  · rw [Children.exposedPorts_service, only]
    exact List.mem_singleton_self _
  · have suffix : ":8080" ++ context = ":8080/auth" := by decide
    rw [port, serviceUrl_8080, serviceHost, keyOf_service, Deployable.serviceName, owned, qualified]
    simp only [Names.keycloakInternalBaseUrl, String.append_assoc, suffix]
    rfl

end KeycloakPlan

namespace DatabasePlan

/-- Only MySQL and PostgreSQL servers are deployed by the operator. -/
theorem make_eq_ok {owner : K8s.Reference} {vendor : Vendor} {databaseName storageClass : Option String}
    {extraEnv : List K8s.EnvVar} {passwords : Cluster.ObjectKey → String} {plan : DatabasePlan}
    (made : make owner vendor databaseName storageClass extraEnv passwords = .ok plan) :
    vendor = .mysql ∨ vendor = .postgresql := by
  cases vendor with
  | mysql => exact .inl rfl
  | postgresql => exact .inr rfl
  | oracle | embedded | none => simp [make, imageOf, bind, Except.bind] at made

/-- **A deployed database is reached at its own Service.** The connection of every database
server the operator can deploy names the host of the server's Service and the one port that
Service exposes. -/
theorem connection_reaches_service {owner : K8s.Reference} {vendor : Vendor}
    {databaseName storageClass : Option String} {extraEnv : List K8s.EnvVar} {passwords : Cluster.ObjectKey → String}
    {plan : DatabasePlan} (made : make owner vendor databaseName storageClass extraEnv passwords = .ok plan) :
    plan.connection.host = serviceHost (Children.service plan.deployable) ∧
      (Children.service plan.deployable).exposedPorts = [plan.connection.port] := by
  obtain ⟨plan', made', owned, -, -, -, owned', qualified, ports⟩ :=
    make_of_deployable (make_eq_ok made) owner databaseName storageClass extraEnv passwords
  rw [made] at made'
  cases made'
  refine ⟨?_, ?_⟩
  · rw [host_connection plan (owned'.trans owned.symm) qualified, owned, serviceHost, keyOf_service, owned']
    rfl
  · rw [Children.exposedPorts_service, ports]
    rfl

end DatabasePlan

namespace DatabaseService

/-- The host of a database service's connection: its `db` Service in its namespace. -/
theorem connection_host {dbs : DatabaseService} {conn : ConnectionInfo} (connected : dbs.connection = .ok conn) :
    conn.host = Names.internalHostname (Names.standardName dbs.name "db" Names.serviceSuffix) dbs.ns := by
  unfold connection at connected
  cases known : VendorStrategy.of? dbs.spec.dbms with
  | none => simp [known, bind, Except.bind, throw, throwThe, MonadExceptOf.throw] at connected
  | some strategy =>
    by_cases deployed : dbs.spec.createDeployment = true
    · simp only [known, deployed, if_true, bind, Except.bind, pure, Except.pure, Except.ok.injEq] at connected
      rw [← connected]
    · cases secret : dbs.spec.secretName with
      | none => simp [known, deployed, secret, bind, Except.bind, pure, Except.pure, throw, throwThe,
          MonadExceptOf.throw] at connected
      | some s =>
        simp only [known, deployed, secret, Bool.false_eq_true, if_false, bind, Except.bind, pure, Except.pure,
          Except.ok.injEq] at connected
        rw [← connected]

/-- **Consumers of a database service reach the Service its controller creates.** When the
service deploys its server, the host names the Service of every plan made for it; otherwise it
names the `ExternalName` Service, for any external host and port. -/
theorem connection_host_names_service {dbs : DatabaseService} {conn : ConnectionInfo}
    (connected : dbs.connection = .ok conn) :
    (dbs.spec.createDeployment = true → ∀ extraEnv passwords plan,
      DatabasePlan.make dbs.reference dbs.spec.dbms dbs.spec.databaseName dbs.spec.storageClass extraEnv passwords =
        .ok plan → conn.host = serviceHost (Children.service plan.deployable)) ∧
    (dbs.spec.createDeployment = false → ∀ host port, conn.host = serviceHost (dbs.externalService host port)) := by
  rw [connection_host connected]
  refine ⟨fun _ extraEnv passwords plan made => ?_, fun _ host port => rfl⟩
  obtain ⟨plan', made', -, -, -, -, owned, qualified, -⟩ :=
    DatabasePlan.make_of_deployable (DatabasePlan.make_eq_ok made) dbs.reference dbs.spec.databaseName
      dbs.spec.storageClass extraEnv passwords
  rw [made] at made'
  cases made'
  rw [serviceHost, keyOf_service, Deployable.serviceName, owned, qualified]
  rfl

end DatabaseService

namespace Controller

/-- The internal URL of a resolved Keycloak server is the one its name and namespace give. -/
theorem keycloakConnection_internalBaseUrl {server : KeycloakServer} {toUse : Option KeycloakToUse}
    {resolved : ResolvedKeycloak} (connected : keycloakConnection server toUse = .ok resolved) :
    resolved.connection.internalBaseUrl = Names.keycloakInternalBaseUrl server.name server.ns := by
  unfold keycloakConnection at connected
  dsimp only at connected
  split at connected
  · cases connected
  · cases connected
    rfl

end Controller

open Controller in
/-- **Every address one deployable gives another names the Service it must reach.**
* the `ENTANDO_URL` of an application's component manager is the address of the server's Service,
  on the port of the server's container and under its web context;
* the internal URL of any Keycloak server a resolution picks is the address of the Service of that
  server's deployable, in its namespace, on its container's port and under `/auth`;
* the connection of every database server the operator deploys names the host of the server's
  Service and the one port that Service exposes;
* the host of a database service's connection names the Service its controller creates, the
  deployed server's or the `ExternalName` one. -/
theorem deployables_address_their_services :
    (∀ (c : AppPlan.Context) (server cm : Deployable), c.server = .ok server → c.componentManager = .ok cm →
      ∃ sc cmc path, server.containers = [sc] ∧ cm.containers = [cmc] ∧
        sc.ingressing.map (·.path) = some path ∧ sc.port ∈ (Children.service server).exposedPorts ∧
        cmc.envValue? "ENTANDO_URL" = some (serviceUrl (Children.service server) sc.port path)) ∧
    (∀ (ns : String) (toUse : Option KeycloakToUse) (w w' : World) (resolved : ResolvedKeycloak),
      ((resolveKeycloak World.backend.cluster ns toUse).run.run w).run = (.ok resolved, w') →
      ∃ server ∈ w.keycloakServers, keycloakConnection server toUse = .ok resolved ∧
        ∀ dbms database config passwords d, KeycloakPlan.deployable server dbms database config passwords = .ok d →
          ∃ kc, d.containers = [kc] ∧ kc.ingressing.map (·.path) = some KeycloakPlan.context ∧
            kc.port ∈ (Children.service d).exposedPorts ∧
            resolved.connection.internalBaseUrl = serviceUrl (Children.service d) kc.port KeycloakPlan.context) ∧
    (∀ owner vendor databaseName storageClass extraEnv passwords (plan : DatabasePlan),
      DatabasePlan.make owner vendor databaseName storageClass extraEnv passwords = .ok plan →
      plan.connection.host = serviceHost (Children.service plan.deployable) ∧
        (Children.service plan.deployable).exposedPorts = [plan.connection.port]) ∧
    (∀ (dbs : DatabaseService) (conn : ConnectionInfo), dbs.connection = .ok conn →
      (dbs.spec.createDeployment = true → ∀ extraEnv passwords plan,
        DatabasePlan.make dbs.reference dbs.spec.dbms dbs.spec.databaseName dbs.spec.storageClass extraEnv
          passwords = .ok plan → conn.host = serviceHost (Children.service plan.deployable)) ∧
      (dbs.spec.createDeployment = false → ∀ host port,
        conn.host = serviceHost (dbs.externalService host port))) := by
  refine ⟨fun c server cm builtServer builtCm => AppPlan.Context.componentManager_reaches_server builtServer builtCm,
    fun ns toUse w w' resolved ran => ?_,
    fun _ _ _ _ _ _ _ made => DatabasePlan.connection_reaches_service made,
    fun dbs conn connected => DatabaseService.connection_host_names_service connected⟩
  obtain ⟨server, stored, connected⟩ := resolveKeycloak_run_ok ran
  refine ⟨server, stored, connected, fun dbms database config passwords d built => ?_⟩
  rw [keycloakConnection_internalBaseUrl connected]
  exact KeycloakPlan.internalBaseUrl_reaches_service built

open Controller in
/-- An application, the Keycloak server it names and a PostgreSQL service, in one namespace. -/
theorem deployables_address_their_services_in_my_namespace :
    let app : App := { metadata := { name := some "my-app", ns := some "my-namespace" },
                       spec := { ingressHostName := some "my-app.example.com" } }
    let c : AppPlan.Context := { app, database := .embedded, keycloak := {}, config := {} }
    let recorded : ServerStatus := { qualifier := "server", externalBaseUrl := some "https://sso.example.com/auth" }
    let kc : KeycloakServer :=
      { metadata := { name := some "my-kc", ns := some "my-namespace" }, spec := {},
        status := some { servers := .singleton "server" recorded } }
    let toUse : Option KeycloakToUse := some { name := some "my-kc" }
    let w : World := { keycloakServers := [kc] }
    let dbs : DatabaseService :=
      { metadata := { name := some "my-db", ns := some "my-namespace" },
        spec := { dbms := .postgresql, createDeployment := true } }
    (∃ server cm, c.server = .ok server ∧ c.componentManager = .ok cm ∧
      ∃ sc cmc path, server.containers = [sc] ∧ cm.containers = [cmc] ∧
        sc.ingressing.map (·.path) = some path ∧ sc.port ∈ (Children.service server).exposedPorts ∧
        cmc.envValue? "ENTANDO_URL" = some (serviceUrl (Children.service server) sc.port path)) ∧
    (∃ resolved, ((resolveKeycloak World.backend.cluster "my-namespace" toUse).run.run w).run = (.ok resolved, w) ∧
      ∃ server ∈ w.keycloakServers, keycloakConnection server toUse = .ok resolved ∧
        ∀ dbms database config passwords d, KeycloakPlan.deployable server dbms database config passwords = .ok d →
          ∃ kc, d.containers = [kc] ∧ kc.ingressing.map (·.path) = some KeycloakPlan.context ∧
            kc.port ∈ (Children.service d).exposedPorts ∧
            resolved.connection.internalBaseUrl = serviceUrl (Children.service d) kc.port KeycloakPlan.context) ∧
    (∃ plan : DatabasePlan, DatabasePlan.make dbs.reference .postgresql none none [] (fun _ => "changeit") = .ok plan ∧
      plan.connection.host = serviceHost (Children.service plan.deployable) ∧
        (Children.service plan.deployable).exposedPorts = [plan.connection.port]) ∧
    (∃ conn, dbs.connection = .ok conn ∧ ∀ plan,
      DatabasePlan.make dbs.reference dbs.spec.dbms dbs.spec.databaseName dbs.spec.storageClass [] (fun _ => "changeit") =
        .ok plan → conn.host = serviceHost (Children.service plan.deployable)) := by
  intro app c recorded kc toUse w dbs
  obtain ⟨appAddresses, keycloakAddresses, databaseAddresses, serviceAddresses⟩ := deployables_address_their_services
  refine ⟨⟨_, _, rfl, rfl, appAddresses c _ _ rfl rfl⟩, ⟨_, rfl, keycloakAddresses "my-namespace" toUse w w _ rfl⟩,
    ⟨_, rfl, databaseAddresses dbs.reference .postgresql none none [] (fun _ => "changeit") _ rfl⟩,
    ⟨_, rfl, fun plan made => ?_⟩⟩
  exact (serviceAddresses dbs _ rfl).1 rfl [] (fun _ => "changeit") plan made

end StackOperator
