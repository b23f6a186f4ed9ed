import StackOperator.Resource.Basic
import StackOperator.Database.Connection
import StackOperator.K8s.Network

/-!
# Database services

An `EntandoDatabaseService` either deploys a database server in the cluster
(`createDeployment`) or describes an external one by host, port and the
Secret with its admin credentials. Either way the other resources in the
same namespace reach it through the Service `<name>-db-service`, and
`DatabaseService.connection` says how.
-/

namespace StackOperator

open Json

/-- The specification of a database service. -/
structure DatabaseServiceSpec where
  dbms : Vendor
  host : Option String := none
  port : Option Int := none
  databaseName : Option String := none
  secretName : Option String := none
  createDeployment : Bool := false
  tablespace : Option String := none
  jdbcParameters : Option (KeyMap String) := none
  storageClass : Option String := none
  environmentVariables : List SpecVariable := []
  deriving DecidableEq, Inhabited, Repr

namespace DatabaseServiceSpec

/-- The stored form. -/
def toValue (s : DatabaseServiceSpec) : Value :=
  .build [("dbms", some (.str s.dbms.name)), ("host", s.host.map .str), ("port", s.port.map .ofInt),
    ("databaseName", s.databaseName.map .str), ("secretName", s.secretName.map .str),
    ("createDeployment", some (.bool s.createDeployment)), ("tablespace", s.tablespace.map .str),
    ("jdbcParameters", s.jdbcParameters.map KeyMap.toValue), ("storageClass", s.storageClass.map .str),
    ("environmentVariables", if s.environmentVariables.isEmpty then none
      else some (.arr (s.environmentVariables.map SpecVariable.toValue)))]

/-- The members in declaration order. -/
def members : List Decode.MemberSpec :=
  [.needed "dbms" Vendor.decode,
   .withDefault "host" (Decode.option Decode.string),
   .withDefault "port" (Decode.option Decode.i32),
   .withDefault "databaseName" (Decode.option Decode.string),
   .withDefault "secretName" (Decode.option Decode.string),
   .withDefault "createDeployment" Decode.bool,
   .withDefault "tablespace" (Decode.option Decode.string),
   .withDefault "jdbcParameters" (Decode.option (Decode.map Decode.string)),
   .withDefault "storageClass" (Decode.option Decode.string),
   .withDefault "environmentVariables" (Decode.list SpecVariable.decode)]

/-- Read the stored form; the DBMS is required. -/
def decode : Decoder DatabaseServiceSpec := fun v => do
  let fs ← Decode.recordOf "struct EntandoDatabaseServiceSpec" members v
  let createDeployment ← Decode.fieldOr fs "createDeployment" Decode.bool false
  let databaseName ← Decode.optField fs "databaseName" Decode.string
  let dbms ← Decode.presentField fs "dbms" Vendor.decode
  let environmentVariables ← Decode.fieldOr fs "environmentVariables" (Decode.list SpecVariable.decode) []
  let host ← Decode.optField fs "host" Decode.string
  let jdbcParameters ← Decode.optField fs "jdbcParameters" (Decode.map Decode.string)
  let port ← Decode.optField fs "port" Decode.i32
  let secretName ← Decode.optField fs "secretName" Decode.string
  let storageClass ← Decode.optField fs "storageClass" Decode.string
  let tablespace ← Decode.optField fs "tablespace" Decode.string
  let dbms ← Decode.required "dbms" dbms
  pure { dbms, host, port, databaseName, secretName, createDeployment, tablespace, jdbcParameters,
         storageClass, environmentVariables }

end DatabaseServiceSpec

instance : ResourceKind DatabaseServiceSpec := ⟨"EntandoDatabaseService", "entandodatabaseservices"⟩

/-- A database service resource. -/
abbrev DatabaseService := Resource DatabaseServiceSpec

namespace DatabaseService

/-- How consumers reach the database of a database service: through its
`db` Service, with the deployed server's admin Secret or the external one's. -/
def connection (dbs : DatabaseService) : Except Error ConnectionInfo := do
  let name := dbs.name
  let ns := dbs.ns
  let spec := dbs.spec
  let strategy ← match VendorStrategy.of? spec.dbms with
    | some s => pure s
    | none => throw (.config ("EntandoDatabaseService " ++ ns ++ "/" ++ name ++ " uses " ++
        spec.dbms.name ++ " which is not a database server"))
  let adminSecretName ←
    if spec.createDeployment then pure (Names.databaseAdminSecretName name)
    else match spec.secretName with
      | some s => pure s
      | none => throw (.config ("EntandoDatabaseService " ++ ns ++ "/" ++ name ++
          " has no secretName for its external database"))
  pure { vendor := spec.dbms,
         host := Names.internalHostname (Names.standardName name "db" Names.serviceSuffix) ns,
         port := spec.port.getD strategy.defaultPort,
         databaseName := spec.databaseName.getD (Names.defaultDatabaseName name),
         adminSecretName, tablespace := spec.tablespace,
         jdbcParameters := spec.jdbcParameters.getD .empty }

/-- The `ExternalName` Service that exposes an external database host under
the database service's `db` Service name. -/
def externalService (dbs : DatabaseService) (host : String) (port : Int) : K8s.Service :=
  let owner := dbs.reference
  { metadata := owner.ownedMeta (Names.standardName owner.name "db" Names.serviceSuffix) "db",
    spec := some { type := some "ExternalName", externalName := some host,
                   ports := some [{ name := some "db-port", port, protocol := some "TCP" }] } }

/-- Has the database service been deployed successfully? -/
def isReady (dbs : DatabaseService) : Bool :=
  (dbs.status.bind (·.phase)) == some .successful

end DatabaseService

end StackOperator
