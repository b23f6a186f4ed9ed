import StackOperator.Database.Vendor
import StackOperator.K8s.Pod

/-!
# Database connections and prepared schemas

A `ConnectionInfo` describes a database server that the applications in
a namespace can reach: vendor, host, port, database, the Secret with its admin
credentials, an optional tablespace and JDBC parameters. Preparing a schema
on it yields a `SchemaResult`, which tells a container how to connect: the
JDBC URL and the variables that carry the schema's user name and password,
read from the schema's Secret. A schema without a Secret lives in an embedded
database and uses the embedded user for both.
-/

namespace StackOperator

/-- A database server reachable from a namespace. -/
structure ConnectionInfo where
  vendor : Vendor
  host : String := ""
  port : Int := 0
  databaseName : String := ""
  adminSecretName : String := ""
  tablespace : Option String := none
  jdbcParameters : KeyMap String := .empty
  deriving DecidableEq, Inhabited, Repr

/-- An in-container database: nothing to prepare. -/
def ConnectionInfo.embedded : ConnectionInfo := { vendor := .embedded }

/-- A prepared schema and how to connect to it. -/
structure SchemaResult where
  vendor : Vendor
  host : String := ""
  port : Int := 0
  databaseName : String := ""
  schemaName : String := ""
  /-- The Secret with the schema's `username` and `password`; embedded schemas have none. -/
  schemaSecretName : Option String := none
  jdbcParameters : KeyMap String := .empty
  deriving DecidableEq, Inhabited, Repr

namespace SchemaResult

/-- The connection settings of the schema's vendor. -/
def strategy (r : SchemaResult) : VendorStrategy := VendorStrategy.ofVendor r.vendor

/-- The JDBC URL of the schema. -/
def jdbcUrl (r : SchemaResult) : String :=
  r.strategy.jdbcUrl r.host r.port r.databaseName r.schemaName r.jdbcParameters

/-- The pool's connection checker class. -/
def connectionChecker (r : SchemaResult) : String := r.strategy.connectionChecker

/-- The pool's exception sorter class. -/
def exceptionSorter (r : SchemaResult) : String := r.strategy.exceptionSorter

/-- The variable carrying the schema's user name. -/
def usernameVariable (r : SchemaResult) (name : String) : K8s.EnvVar :=
  match r.schemaSecretName with
  | some secret => .fromSecret name secret "username"
  | none => .plain name VendorStrategy.embedded.adminUser

/-- The variable carrying the schema's password. -/
def passwordVariable (r : SchemaResult) (name : String) : K8s.EnvVar :=
  match r.schemaSecretName with
  | some secret => .fromSecret name secret "password"
  | none => .plain name VendorStrategy.embedded.adminUser

end SchemaResult

end StackOperator
