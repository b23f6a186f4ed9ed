import StackOperator.Json.Value

/-!
# Custom resource definitions

The cluster learns the three kinds of the operator from their definitions:
the group `entando.org`, the names of the kind, the columns the command-line
tools show and an OpenAPI schema of the resource, version `v1`, with a
status subresource.

A schema is built from small ones: strings, enumerations, integers of a
format, booleans, maps of strings, arrays and objects with their properties
and required properties, each optionally with a description, a default or
`nullable`. The status schema is shared by the three kinds; so are the
schemas of the requested DBMS and of the environment variables.

Main statement: `definitions_apart`, each definition goes to the file named
after its kind, and no two share a kind, a plural or a short name.
-/

namespace StackOperator.Definition

open Json Value

/-- A string. -/
def string : Value := object [("type", .str "string")]

/-- A boolean. -/
def boolean : Value := object [("type", .str "boolean")]

/-- An integer of a format such as `int32`. -/
def integer (format : String) : Value := object [("format", .str format), ("type", .str "integer")]

/-- A timestamp. -/
def dateTime : Value := object [("format", .str "date-time"), ("type", .str "string")]

/-- One of a list of strings. -/
def enumOf (values : List String) : Value := object [("enum", ofStrs values), ("type", .str "string")]

/-- A map of strings to values of a schema. -/
def mapOf (values : Value) : Value := object [("additionalProperties", values), ("type", .str "object")]

/-- A map of strings to strings. -/
def stringMap : Value := mapOf string

/-- An array of items of a schema. -/
def arrayOf (items : Value) : Value := object [("items", items), ("type", .str "array")]

/-- An object with properties, of which some are required. -/
def objectOf (properties : List (String × Value)) (required : List String) : Value :=
  object ([("properties", object properties), ("type", .str "object")] ++
    if required.isEmpty then [] else [("required", ofStrs required)])

/-- A schema that also admits null. -/
def nullable (s : Value) : Value := s.insert "nullable" (.bool true)

/-- A schema with a description. -/
def described (description : String) (s : Value) : Value := s.insert "description" (.str description)

/-- A schema with a default. -/
def defaulting (d : Value) (s : Value) : Value := s.insert "default" d

/-- A string that may be null. -/
def optionalString : Value := nullable string

/-- The overall phase of a resource. -/
def phase : Value :=
  described "Overall deployment phase of a custom resource."
    (enumOf ["requested", "started", "successful", "failed"])

/-- The record of an object that could not be reconciled. -/
def controllerFailure : Value :=
  described "Immutable record of the object that could not be reconciled."
    (objectOf
      [("detailMessage", string), ("failedObjectApiVersion", optionalString),
       ("failedObjectKind", optionalString), ("failedObjectName", optionalString),
       ("failedObjectNamespace", optionalString), ("message", string)]
      ["detailMessage", "message"])

/-- The status of one qualifier's workload. -/
def serverStatus : Value :=
  described "Status of one qualifier's sub-deployment."
    (objectOf
      [("adminSecretName", optionalString), ("deploymentPhases", stringMap),
       ("derivedDeploymentParameters", stringMap),
       ("entandoControllerFailure", nullable controllerFailure),
       ("externalBaseUrl", optionalString), ("finished", nullable dateTime),
       ("ingressName", optionalString), ("persistentVolumeClaimPhases", stringMap),
       ("podPhases", stringMap), ("qualifier", string), ("serviceName", optionalString),
       ("servicePhases", stringMap), ("ssoClientId", optionalString), ("ssoRealm", optionalString),
       ("started", nullable dateTime),
       ("type", defaulting (.str "WebServerStatus")
          (described "Whether a qualifier's workload is exposed over HTTP or is a backing service."
            (enumOf ["WebServerStatus", "DbServerStatus"]))),
       ("webContexts", stringMap)]
      ["qualifier"])

/-- The status of a resource, shared by the three kinds. -/
def status : Value :=
  nullable (described "Wire form of [`EntandoCustomResourceStatus`] including the legacy phase field."
    (objectOf
      [("entandoDeploymentPhase", nullable phase), ("observedGeneration", nullable (integer "int64")),
       ("phase", nullable phase), ("serverStatuses", mapOf serverStatus)]
      []))

/-- The DBMS a resource requests. -/
def dbms : Value :=
  described "DBMS vendor requested by a custom resource."
    (enumOf ["mysql", "postgresql", "oracle", "embedded", "none"])

/-- The environment variables a resource declares. -/
def environmentVariables : Value :=
  arrayOf (described "A plain name/value environment variable declared in a custom resource spec."
    (objectOf [("name", string), ("value", defaulting (.str "") string)] ["name"]))

/-- The number of replicas, one by default. -/
def replicas : Value := defaulting (.num (.int 1)) (integer "int32")

/-- The specification of an `EntandoApp`. -/
def appSpec : Value :=
  described ("EntandoApp deploys the Entando application server, the App Builder UI and " ++
      "the component manager behind one Ingress.")
    (objectOf
      [("customServerImage", optionalString), ("dbms", nullable dbms),
       ("environmentVariables", environmentVariables), ("ingressHostName", optionalString),
       ("ingressPath", optionalString),
       ("keycloakToUse", nullable (described
          "Reference to the EntandoKeycloakServer an application authenticates against."
          (objectOf [("name", optionalString), ("namespace", optionalString),
                     ("publicClientId", optionalString), ("realm", optionalString)] []))),
       ("replicas", replicas), ("serviceAccountToUse", optionalString),
       ("standardServerImage", nullable (described
          "Application server flavour of the entando-de-app image." (enumOf ["wildfly", "eap"]))),
       ("storageClass", optionalString), ("tlsSecretName", optionalString)]
      [])

/-- The specification of an `EntandoKeycloakServer`. -/
def keycloakServerSpec : Value :=
  described "EntandoKeycloakServer deploys the SSO server applications authenticate against."
    (objectOf
      [("customImage", optionalString), ("dbms", nullable dbms),
       ("default", defaulting (.bool false) (described
          "Used by applications that do not name a Keycloak server explicitly." boolean)),
       ("environmentVariables", environmentVariables), ("frontEndUrl", optionalString),
       ("ingressHostName", optionalString), ("replicas", replicas),
       ("standardImage", nullable (described "Which SSO distribution to run."
          (enumOf ["keycloak", "redhat-sso"]))),
       ("storageClass", optionalString), ("tlsSecretName", optionalString)]
      [])

/-- The specification of an `EntandoDatabaseService`. -/
def databaseServiceSpec : Value :=
  described ("EntandoDatabaseService either deploys a database server in-cluster or describes " ++
      "an external one that other resources can prepare schemas on.")
    (objectOf
      [("createDeployment", defaulting (.bool false) boolean), ("databaseName", optionalString),
       ("dbms", dbms), ("environmentVariables", environmentVariables),
       ("host", nullable (described
          "Hostname of an external database. Required unless `createDeployment` is set." string)),
       ("jdbcParameters", nullable stringMap), ("port", nullable (integer "int32")),
       ("secretName", nullable (described
          "Secret with the admin `username` and `password` of an external database." string)),
       ("storageClass", optionalString), ("tablespace", optionalString)]
      ["dbms"])

/-- A column the command-line tools show for a kind. -/
structure Column where
  name : String
  type : String
  jsonPath : String

/-- The value of a column. -/
def Column.toValue (c : Column) : Value :=
  object [("jsonPath", .str c.jsonPath), ("name", .str c.name), ("type", .str c.type)]

/-- The phase column. -/
def phaseColumn : Column := ⟨"Phase", "string", ".status.phase"⟩

/-- The host column. -/
def hostColumn : Column := ⟨"Host", "string", ".spec.ingressHostName"⟩

/-- The age column. -/
def ageColumn : Column := ⟨"Age", "date", ".metadata.creationTimestamp"⟩

/-- The definition of a kind. -/
structure Kind where
  kind : String
  shortName : String
  columns : List Column
  spec : Value

/-- The singular name of a kind: its name in lower case. -/
def Kind.singular (k : Kind) : String := k.kind.toLower

/-- The plural name of a kind. -/
def Kind.plural (k : Kind) : String := k.singular ++ "s"

/-- The schema of a resource of a kind. -/
def Kind.schema (k : Kind) : Value :=
  described ("Auto-generated derived type for " ++ k.kind ++ "Spec via `CustomResource`")
    ((objectOf [("spec", k.spec), ("status", status)] ["spec"]).insert "title" (.str k.kind))

/-- The definition of a kind as the cluster reads it. -/
def Kind.toValue (k : Kind) : Value :=
  object
    [("apiVersion", .str "apiextensions.k8s.io/v1"),
     ("kind", .str "CustomResourceDefinition"),
     ("metadata", object [("name", .str (k.plural ++ ".entando.org"))]),
     ("spec", object
       [("group", .str "entando.org"),
        ("names", object
          [("categories", .arr []), ("kind", .str k.kind), ("plural", .str k.plural),
           ("shortNames", ofStrs [k.shortName]), ("singular", .str k.singular)]),
        ("scope", .str "Namespaced"),
        ("versions", .arr
          [object
            [("additionalPrinterColumns", .arr (k.columns.map Column.toValue)),
             ("name", .str "v1"),
             ("schema", object [("openAPIV3Schema", k.schema)]),
             ("served", .bool true),
             ("storage", .bool true),
             ("subresources", object [("status", object [])])]])])]

/-- The definition of `EntandoApp`. -/
def app : Kind := ⟨"EntandoApp", "app", [phaseColumn, hostColumn, ageColumn], appSpec⟩

/-- The definition of `EntandoKeycloakServer`. -/
def keycloakServer : Kind :=
  ⟨"EntandoKeycloakServer", "kc", [phaseColumn, hostColumn, ageColumn], keycloakServerSpec⟩

/-- The definition of `EntandoDatabaseService`. -/
def databaseService : Kind :=
  ⟨"EntandoDatabaseService", "edbs", [⟨"Vendor", "string", ".spec.dbms"⟩, phaseColumn, ageColumn],
    databaseServiceSpec⟩

/-- The definitions of the three kinds, each with the name of its file. -/
def definitions : List (String × Kind) :=
  [("entandoapp-crd.yaml", app), ("entandokeycloakserver-crd.yaml", keycloakServer),
   ("entandodatabaseservice-crd.yaml", databaseService)]

/-- Each definition is written to the file named after its kind, and no two definitions share a
kind, a plural or a short name, so the cluster accepts all three side by side. -/
theorem definitions_apart :
    (∀ d ∈ definitions, d.1 = d.2.singular ++ "-crd.yaml") ∧ (definitions.map (·.2.kind)).Nodup ∧
      (definitions.map (·.2.plural)).Nodup ∧ (definitions.map (·.2.shortName)).Nodup := by
  refine ⟨?_, ?_, ?_, ?_⟩ <;> decide +kernel

end StackOperator.Definition
