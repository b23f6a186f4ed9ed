import StackOperator.Controller.Deploy

/-!
# Reaching a deployed database service

Consumers of an `EntandoDatabaseService` connect through `DatabaseService.connection`. When the
service deploys a server of its own, the controller deploys the `DatabasePlan` of its vendor,
whose one container and Service listen on the vendor's default port.

* `make_of_deployable` — MySQL and PostgreSQL servers always have a plan, on the default port.
* `connection_of_deployed` — the connection of a deployed service: its `db` Service, its database
  and the deployed admin Secret, and the port the resource asks for, else the default one.
* `connection_agrees_with_deployment` — the connection and what is deployed name the same Service
  host, database and admin Secret, but the port the connection gives is the one the Service
  exposes exactly when the resource sets no port or the default one.
* `connection_port_unserved` — so a PostgreSQL service asking for port 5433 is reached on 5433,
  while its Service serves 5432.
-/

namespace StackOperator

/-- The port numbers a Service exposes, in order. -/
def K8s.Service.exposedPorts (s : K8s.Service) : List Int := ((s.spec.bind (·.ports)).getD []).map (·.port)

/-- The Service of a deployable exposes the port of each container, in order. -/
theorem Children.exposedPorts_service (d : Deployable) :
    (Children.service d).exposedPorts = d.containers.map (·.port) := by
  simp [K8s.Service.exposedPorts, Children.service, Function.comp_def]

namespace DatabasePlan

/-- The plan of a MySQL or PostgreSQL server: one container, on the vendor's default port, in a
deployable of qualifier `db` owned by the resource. -/
theorem make_of_deployable {vendor : Vendor} (deployable : vendor = .mysql ∨ vendor = .postgresql)
    (owner : K8s.Reference) (databaseName storageClass : Option String) (extraEnv : List K8s.EnvVar)
    (passwords : Cluster.ObjectKey → String) :
    ∃ plan, make owner vendor databaseName storageClass extraEnv passwords = .ok plan ∧
      plan.owner = owner ∧ plan.vendor = vendor ∧ plan.port = (VendorStrategy.ofVendor vendor).defaultPort ∧
      plan.databaseName = databaseName.getD (Names.defaultDatabaseName owner.name) ∧
      plan.deployable.owner = owner ∧ plan.deployable.qualifier = qualifier ∧
      plan.deployable.containers.map (·.port) = [plan.port] := by
  rcases deployable with rfl | rfl <;> exact ⟨_, rfl, rfl, rfl, rfl, rfl, rfl, rfl, rfl⟩

/-- The Service a plan deploys is the one its connection names. -/
theorem host_connection (p : DatabasePlan) (owned : p.deployable.owner = p.owner)
    (qualified : p.deployable.qualifier = qualifier) :
    p.connection.host = Names.internalHostname (Cluster.nameOf (Children.service p.deployable).metadata) p.owner.ns := by
  simp [connection, serviceName, Children.service, Deployable.serviceName, K8s.Reference.ownedMeta,
    Cluster.nameOf, Cluster.keyOf, owned, qualified]

end DatabasePlan

namespace DatabaseService

/-- The connection of a service that deploys its server: through its `db` Service, to its database,
with the admin Secret of the deployed server, on the port the resource asks for or else the
vendor's default port. -/
theorem connection_of_deployed (dbs : DatabaseService) (deployed : dbs.spec.createDeployment = true)
    {strategy : VendorStrategy} (known : VendorStrategy.of? dbs.spec.dbms = some strategy) :
    dbs.connection = .ok
      { vendor := dbs.spec.dbms,
        host := Names.internalHostname (Names.standardName dbs.name "db" Names.serviceSuffix) dbs.ns,
        port := dbs.spec.port.getD strategy.defaultPort,
        databaseName := dbs.spec.databaseName.getD (Names.defaultDatabaseName dbs.name),
        adminSecretName := Names.databaseAdminSecretName dbs.name,
        tablespace := dbs.spec.tablespace, jdbcParameters := dbs.spec.jdbcParameters.getD .empty } := by
  simp only [connection, known, deployed, if_true]
  rfl

/-- **Where consumers of a deployed database service connect.** For a service that deploys a
MySQL or PostgreSQL server, whatever its port, database name, tablespace and JDBC parameters: the
server has a plan and the service a connection; the connection names the host of the plan's
Service, the plan's database and its admin Secret; that Service exposes the plan's port alone; and
the connection's port is that port exactly when the resource sets no port or sets that one. -/
theorem connection_agrees_with_deployment (dbs : DatabaseService) (deployed : dbs.spec.createDeployment = true)
    (deployable : dbs.spec.dbms = .mysql ∨ dbs.spec.dbms = .postgresql) (extraEnv : List K8s.EnvVar)
    (passwords : Cluster.ObjectKey → String) :
    ∃ plan conn,
      DatabasePlan.make dbs.reference dbs.spec.dbms dbs.spec.databaseName dbs.spec.storageClass extraEnv passwords =
        .ok plan ∧ dbs.connection = .ok conn ∧
      conn.host = plan.connection.host ∧
      conn.host = Names.internalHostname (Cluster.nameOf (Children.service plan.deployable).metadata) dbs.ns ∧
      conn.databaseName = plan.connection.databaseName ∧ conn.adminSecretName = plan.connection.adminSecretName ∧
      (Children.service plan.deployable).exposedPorts = [plan.connection.port] ∧
      (conn.port = plan.connection.port ↔ dbs.spec.port = none ∨ dbs.spec.port = some plan.connection.port) := by
  obtain ⟨plan, made, owner, vendor, port, databaseName, owned, qualified, ports⟩ :=
    DatabasePlan.make_of_deployable deployable dbs.reference dbs.spec.databaseName dbs.spec.storageClass extraEnv
      passwords
  have known : VendorStrategy.of? dbs.spec.dbms = some (VendorStrategy.ofVendor dbs.spec.dbms) := by
    rcases deployable with server | server <;> rw [server] <;> rfl
  have sameHost : Names.internalHostname (Names.standardName dbs.name "db" Names.serviceSuffix) dbs.ns =
      plan.connection.host := by
    simp [DatabasePlan.connection, DatabasePlan.serviceName, DatabasePlan.qualifier, owner, Resource.reference]
  refine ⟨plan, _, made, connection_of_deployed dbs deployed known, sameHost, ?_, ?_, ?_, ?_, ?_⟩
  · rw [sameHost, DatabasePlan.host_connection plan (owned.trans owner.symm) qualified, owner]
    rfl
  · simp [DatabasePlan.connection, databaseName, owner, Resource.reference]
  · simp [DatabasePlan.connection, owner, Resource.reference]
  · rw [Children.exposedPorts_service, ports]
    rfl
  · -- the plan listens on the default port, the connection on the resource's port when it sets one
    simp only [DatabasePlan.connection, port]
    cases dbs.spec.port <;> simp

/-- A MySQL service deployed on a port of its own choosing. -/
theorem connection_agrees_with_deployment_of_mysql :
    let dbs : DatabaseService :=
      { metadata := { name := some "orders", ns := some "shop" },
        spec := { dbms := .mysql, createDeployment := true, port := some 3307, databaseName := some "sales" } }
    dbs.spec.createDeployment = true ∧ (dbs.spec.dbms = .mysql ∨ dbs.spec.dbms = .postgresql) ∧
    ∃ plan conn,
      DatabasePlan.make dbs.reference dbs.spec.dbms dbs.spec.databaseName dbs.spec.storageClass [] (fun _ => "changeit") =
        .ok plan ∧ dbs.connection = .ok conn ∧
      conn.host = plan.connection.host ∧
      conn.host = Names.internalHostname (Cluster.nameOf (Children.service plan.deployable).metadata) dbs.ns ∧
      conn.databaseName = plan.connection.databaseName ∧ conn.adminSecretName = plan.connection.adminSecretName ∧
      (Children.service plan.deployable).exposedPorts = [plan.connection.port] ∧
      (conn.port = plan.connection.port ↔ dbs.spec.port = none ∨ dbs.spec.port = some plan.connection.port) :=
  ⟨rfl, .inl rfl, connection_agrees_with_deployment _ rfl (.inl rfl) [] (fun _ => "changeit")⟩

end DatabaseService

/-- A PostgreSQL service deployed with port 5433 is reached on port 5433, while the Service of its
server exposes 5432 only. -/
theorem connection_port_unserved :
    let dbs : DatabaseService :=
      { metadata := { name := some "my-db", ns := some "my-namespace" },
        spec := { dbms := .postgresql, createDeployment := true, port := some 5433 } }
    dbs.connection.map (·.port) = .ok 5433 ∧
      (DatabasePlan.make dbs.reference .postgresql none none [] (fun _ => "changeit")).map
        (fun plan => (Children.service plan.deployable).exposedPorts) = .ok [5432] :=
  ⟨rfl, rfl⟩

end StackOperator
