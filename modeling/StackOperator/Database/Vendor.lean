import StackOperator.Json.Decode

/-!
# Database vendors

The DBMS a custom resource asks for, and what the operator knows of each:
its default port, its administrator, the longest user name it accepts, the
connection checker and exception sorter class names the application images
configure their pools with, and the JDBC URL of a schema. MySQL has no
schemas inside a database, so its URL names the schema as the database;
Oracle takes no URL parameters; embedded and absent databases live in a
Derby directory inside the container.
-/

namespace StackOperator

/-- The DBMS vendor requested by a custom resource. -/
inductive Vendor where
  | mysql
  | postgresql
  | oracle
  | embedded
  | none
  deriving DecidableEq, Inhabited, Repr

namespace Vendor

/-- The lower-case name of a vendor. -/
def name : Vendor → String
  | .mysql => "mysql"
  | .postgresql => "postgresql"
  | .oracle => "oracle"
  | .embedded => "embedded"
  | .none => "none"

/-- All vendors, in declaration order. -/
def all : List Vendor := [.mysql, .postgresql, .oracle, .embedded, .none]

/-- Read a vendor from its lower-case name. -/
def decode : Json.Decoder Vendor := Json.Decode.variant (all.map fun v => (v.name, v))

/-- Does the vendor run as a database server of its own? -/
def isExternalServer : Vendor → Bool
  | .mysql | .postgresql | .oracle => true
  | .embedded | .none => false

end Vendor

/-- What the operator knows about connecting to one vendor's databases. -/
structure VendorStrategy where
  vendor : Vendor
  defaultPort : Int
  adminUser : String
  maxUsernameLength : Nat
  connectionChecker : String
  exceptionSorter : String
  deriving DecidableEq, Inhabited, Repr

namespace VendorStrategy

/-- The package of the pool adapters. -/
def adapters : String := "org.jboss.jca.adapters.jdbc.extensions."

/-- The connection settings of embedded databases (also used when none is known). -/
def embedded : VendorStrategy :=
  ⟨.embedded, 0, "agile", 128, adapters ++ "novendor.NullValidConnectionChecker",
    adapters ++ "novendor.NullExceptionSorter"⟩

/-- The settings of a vendor; nothing for `none`. -/
def of? : Vendor → Option VendorStrategy
  | .mysql => some ⟨.mysql, 3306, "root", 32, adapters ++ "mysql.MySQLValidConnectionChecker",
      adapters ++ "mysql.MySQLExceptionSorter"⟩
  | .postgresql => some ⟨.postgresql, 5432, "postgres", 63,
      adapters ++ "postgres.PostgreSQLValidConnectionChecker",
      adapters ++ "postgres.PostgreSQLExceptionSorter"⟩
  | .oracle => some ⟨.oracle, 1521, "system", 30, adapters ++ "oracle.OracleValidConnectionChecker",
      adapters ++ "oracle.OracleExceptionSorter"⟩
  | .embedded => some embedded
  | .none => none

/-- The settings of a vendor, falling back to the embedded ones. -/
def ofVendor (v : Vendor) : VendorStrategy := (of? v).getD embedded

/-- Where embedded databases keep their files. -/
def embeddedDataDir : String := "/entando-data/databases"

/-- `?k=v&k2=v2` for non-empty parameters, in key order. -/
def query (parameters : KeyMap String) : String :=
  if parameters.isEmpty then ""
  else "?" ++ "&".intercalate (parameters.entries.map fun (k, v) => k ++ "=" ++ v)

/-- The JDBC URL of a schema. -/
def jdbcUrl (s : VendorStrategy) (host : String) (port : Int) (database schema : String)
    (parameters : KeyMap String) : String :=
  match s.vendor with
  | .mysql => "jdbc:mysql://" ++ host ++ ":" ++ toString port ++ "/" ++ schema ++ query parameters
  | .postgresql => "jdbc:postgresql://" ++ host ++ ":" ++ toString port ++ "/" ++ database ++ query parameters
  | .oracle => "jdbc:oracle:thin:@//" ++ host ++ ":" ++ toString port ++ "/" ++ database
  | .embedded | .none => "jdbc:derby:" ++ embeddedDataDir ++ "/" ++ schema ++ ";create=true"

end VendorStrategy

end StackOperator
