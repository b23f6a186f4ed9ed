import StackOperator.Text.Sha256

/-!
# Names of child objects

Every object the operator creates for a custom resource is named from the
resource's name, a qualifier (`server`, `ab`, `cm`, `db`, …) and a suffix, so
that a second pass finds the objects of the first. Database identifiers are
made from names by `sanitise`, which keeps ASCII letters and digits (in lower
case) and turns every other character into `_`; `schemaUsername` caps such an
identifier at a vendor's length limit, replacing the cut-off end by `_` and
six hexadecimal digits of the SHA-256 of the whole identifier.

Main statements: `sanitise_length` (one output character per input
character) and `schemaUsername_of_fits`.
-/

namespace StackOperator.Names

/-- Suffix of a Service name. -/
def serviceSuffix : String := "service"
/-- Suffix of a Deployment name. -/
def deploymentSuffix : String := "deployment"
/-- Suffix of a PersistentVolumeClaim name. -/
def pvcSuffix : String := "pvc"
/-- Suffix of a Secret name. -/
def secretSuffix : String := "secret"

/-- Label carried by every object of one qualifier's deployment. -/
def deploymentLabelKey : String := "entando.org/deployment"
/-- Label naming the kind of the owning custom resource. -/
def ownerKindLabelKey : String := "entando.org/owner-kind"
/-- Label naming the owning custom resource. -/
def ownerNameLabelKey : String := "entando.org/owner-name"
/-- Label of the schema preparation Jobs of one qualifier. -/
def dbPreparationLabelKey : String := "entando.org/db-preparation"

/-- `<resource>-<qualifier>-<suffix>`, the name of a per-qualifier child object. -/
def standardName (resource qualifier suffix : String) : String :=
  resource ++ "-" ++ qualifier ++ "-" ++ suffix

/-- `<resource>-ingress`: one Ingress per custom resource. -/
def ingressName (resource : String) : String := resource ++ "-ingress"

/-- `<resource>-admin-secret`. -/
def adminSecretName (resource : String) : String := resource ++ "-admin-secret"

/-- `<resource>-<schema>-secret`, the credentials of one schema. -/
def schemaSecretName (resource schema : String) : String :=
  standardName resource schema secretSuffix

/-- `<clientId>-secret`, the credentials of a confidential Keycloak client. -/
def clientSecretName (clientId : String) : String := clientId ++ "-" ++ secretSuffix

/-- `<resource>-<qualifier>`, the label value shared by a Deployment, its pods and Service. -/
def deploymentLabel (resource qualifier : String) : String := resource ++ "-" ++ qualifier

/-- The cluster-internal DNS name of a Service. -/
def internalHostname (service ns : String) : String := service ++ "." ++ ns ++ ".svc.cluster.local"

/-- The Keycloak client of an application's server. -/
def serverClientId (app : String) : String := app ++ "-server"

/-- The Keycloak client of an application's component manager. -/
def componentManagerClientId (app : String) : String := app ++ "-de"

/-- The in-cluster base URL of a Keycloak server, with its `/auth` context. -/
def keycloakInternalBaseUrl (name ns : String) : String :=
  "http://" ++ internalHostname (standardName name "server" serviceSuffix) ns ++ ":8080/auth"

/-- A name as an SQL identifier: ASCII letters and digits in lower case, `_` for the rest. -/
def sanitiseChar (c : Char) : Char :=
  if c.isAlphanum then c.toLower else '_'

/-- A name as an SQL identifier, one character for each character of the name. -/
def sanitise (name : String) : String := String.ofList (name.toList.map sanitiseChar)

theorem sanitise_length (name : String) : (sanitise name).length = name.length := by
  simp [sanitise, String.length_toList]

/-- The database user name of a schema, at most `maxLen` bytes long when
`maxLen ≥ 7`: the sanitised `<resource>_<schema>`, or its first `maxLen - 7`
characters, `_` and six hexadecimal digits of the hash of the whole. -/
def schemaUsername (resource schema : String) (maxLen : Nat) : String :=
  let full := sanitise (resource ++ "_" ++ schema)
  if full.utf8ByteSize ≤ maxLen then full
  else
    let hash := String.ofList ((Text.sha256Hex full).toList.take 6)
    String.ofList (full.toList.take (maxLen - 7)) ++ "_" ++ hash

/-- The admin Secret of a database deployed for a resource. -/
def databaseAdminSecretName (resource : String) : String := standardName resource "db" "admin-secret"

/-- The database created on a server deployed for a resource. -/
def defaultDatabaseName (resource : String) : String := sanitise resource ++ "_db"

theorem schemaUsername_of_fits (resource schema : String) (maxLen : Nat)
    (h : (sanitise (resource ++ "_" ++ schema)).utf8ByteSize ≤ maxLen) :
    schemaUsername resource schema maxLen = sanitise (resource ++ "_" ++ schema) := by
  simp [schemaUsername, h]

end StackOperator.Names
