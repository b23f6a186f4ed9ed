import StackOperator.Deployable.Basic

/-!
# The deployable of an in-cluster database

The operator can deploy MySQL and PostgreSQL servers itself, as qualifier
`db`, keeping their data on a volume. The admin credentials live in
`<name>-db-admin-secret`, created once with a generated password, and
consumers reach the server through `<name>-db-service` (`DatabasePlan.connection`).
Other vendors have to be provided as external database services.
-/

namespace StackOperator

/-- A database server deployed for a resource. -/
structure DatabasePlan where
  owner : K8s.Reference
  vendor : Vendor
  databaseName : String
  port : Int
  deployable : Deployable

namespace DatabasePlan

/-- The qualifier of a deployed database. -/
def qualifier : String := "db"

/-- `<name>-db-service`. -/
def serviceName (p : DatabasePlan) : String :=
  Names.standardName p.owner.name qualifier Names.serviceSuffix

/-- How consumers reach the deployed server. -/
def connection (p : DatabasePlan) : ConnectionInfo :=
  { vendor := p.vendor, host := Names.internalHostname p.serviceName p.owner.ns, port := p.port,
    databaseName := p.databaseName, adminSecretName := Names.databaseAdminSecretName p.owner.name }

/-- The image and data directory of a vendor the operator can deploy. -/
def imageOf : Vendor → Option (String × String)
  | .mysql => some ("centos/mysql-80-centos7", "/var/lib/mysql/data")
  | .postgresql => some ("centos/postgresql-12-centos7", "/var/lib/pgsql/data")
  | _ => none

/-- The plan of a database server for `owner`; a configuration error for
vendors the operator cannot deploy. `passwords` gives the generated admin password. -/
def make (owner : K8s.Reference) (vendor : Vendor) (databaseName storageClass : Option String)
    (extraEnv : List K8s.EnvVar) (passwords : Cluster.ObjectKey → String) : Except Error DatabasePlan := do
  let (repository, dataPath) ← match imageOf vendor with
    | some x => pure x
    | none => throw (.config (vendor.name ++
        " databases cannot be deployed by the operator, configure an external EntandoDatabaseService instead"))
  let strategy ← match VendorStrategy.of? vendor with
    | some s => pure s
    | none => throw (.illegalState ("no strategy for vendor " ++ vendor.name))
  let secretName := Names.databaseAdminSecretName owner.name
  let database := databaseName.getD (Names.defaultDatabaseName owner.name)
  let adminSecret :=
    K8s.Secret.credentials (owner.ownedMeta secretName qualifier) strategy.adminUser (passwords ⟨owner.ns, secretName⟩)
  let env : List K8s.EnvVar :=
    (if vendor = .mysql then [.fromSecret "MYSQL_ROOT_PASSWORD" secretName "password"]
     else [.fromSecret "POSTGRESQL_ADMIN_PASSWORD" secretName "password",
           .plain "POSTGRESQL_DATABASE" database, .plain "POSTGRESQL_USER" (database ++ "_owner"),
           .fromSecret "POSTGRESQL_PASSWORD" secretName "password"]) ++ extraEnv
  let container : ContainerPlan :=
    { qualifier, imageRepository := repository, port := strategy.defaultPort, memoryMi := 1024,
      cpuMillis := 1000, env, volume := some { mountPath := dataPath, storageClass } }
  pure { owner, vendor, databaseName := database, port := strategy.defaultPort,
         deployable := { owner, qualifier, containers := [container], secrets := [adminSecret] } }

end DatabasePlan

end StackOperator
