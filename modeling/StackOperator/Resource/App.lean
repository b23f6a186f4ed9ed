import StackOperator.Resource.Basic

/-!
# Applications

An `EntandoApp` deploys an Entando application: the application server, the
App Builder UI and the component manager, behind one Ingress and
authenticated by one Keycloak realm. Its specification chooses the DBMS, the
server image, the host and path it is served under, the replica count, the
Keycloak server to use, extra variables, the storage class and the
ServiceAccount of the component manager.
-/

namespace StackOperator

open Json

/-- The application server flavour of the application image. -/
inductive JeeServer where
  | wildfly
  | eap
  deriving DecidableEq, Inhabited, Repr

namespace JeeServer

/-- The name of a flavour. -/
def name : JeeServer → String
  | .wildfly => "wildfly"
  | .eap => "eap"

/-- The image repository of a flavour. -/
def imageRepository : JeeServer → String
  | .wildfly => "entando/entando-de-app-wildfly"
  | .eap => "entando/entando-de-app-eap"

/-- Read a flavour from its name. -/
def decode : Decoder JeeServer := Decode.variant [("wildfly", .wildfly), ("eap", .eap)]

end JeeServer

/-- The Keycloak server, realm and public client an application uses. -/
structure KeycloakToUse where
  name : Option String := none
  ns : Option String := none
  realm : Option String := none
  publicClientId : Option String := none
  deriving DecidableEq, Inhabited, Repr

namespace KeycloakToUse

/-- The stored form. -/
def toValue (k : KeycloakToUse) : Value :=
  .build [("name", k.name.map .str), ("namespace", k.ns.map .str), ("realm", k.realm.map .str),
    ("publicClientId", k.publicClientId.map .str)]

/-- The members in declaration order. -/
def members : List Decode.MemberSpec :=
  ["name", "namespace", "realm", "publicClientId"].map fun k => .withDefault k (Decode.option Decode.string)

/-- Read the stored form. -/
def decode : Decoder KeycloakToUse := fun v => do
  let fs ← Decode.recordOf "struct KeycloakToUse" members v
  let name ← Decode.optField fs "name" Decode.string
  let ns ← Decode.optField fs "namespace" Decode.string
  let publicClientId ← Decode.optField fs "publicClientId" Decode.string
  let realm ← Decode.optField fs "realm" Decode.string
  pure { name, ns, realm, publicClientId }

end KeycloakToUse

/-- The specification of an application. -/
structure AppSpec where
  dbms : Option Vendor := none
  standardServerImage : Option JeeServer := none
  customServerImage : Option String := none
  ingressHostName : Option String := none
  tlsSecretName : Option String := none
  ingressPath : Option String := none
  replicas : Int := 1
  keycloakToUse : Option KeycloakToUse := none
  environmentVariables : List SpecVariable := []
  storageClass : Option String := none
  serviceAccountToUse : Option String := none
  deriving DecidableEq, Inhabited, Repr

namespace AppSpec

/-- The stored form. -/
def toValue (s : AppSpec) : Value :=
  .build [("dbms", s.dbms.map fun d => .str d.name),
    ("standardServerImage", s.standardServerImage.map fun j => .str j.name),
    ("customServerImage", s.customServerImage.map .str),
    ("ingressHostName", s.ingressHostName.map .str), ("tlsSecretName", s.tlsSecretName.map .str),
    ("ingressPath", s.ingressPath.map .str), ("replicas", some (.ofInt s.replicas)),
    ("keycloakToUse", s.keycloakToUse.map KeycloakToUse.toValue),
    ("environmentVariables", if s.environmentVariables.isEmpty then none
      else some (.arr (s.environmentVariables.map SpecVariable.toValue))),
    ("storageClass", s.storageClass.map .str), ("serviceAccountToUse", s.serviceAccountToUse.map .str)]

/-- The members in declaration order. -/
def members : List Decode.MemberSpec :=
  [.withDefault "dbms" (Decode.option Vendor.decode),
   .withDefault "standardServerImage" (Decode.option JeeServer.decode),
   .withDefault "customServerImage" (Decode.option Decode.string),
   .withDefault "ingressHostName" (Decode.option Decode.string),
   .withDefault "tlsSecretName" (Decode.option Decode.string),
   .withDefault "ingressPath" (Decode.option Decode.string),
   .withDefault "replicas" Decode.i32,
   .withDefault "keycloakToUse" (Decode.option KeycloakToUse.decode),
   .withDefault "environmentVariables" (Decode.list SpecVariable.decode),
   .withDefault "storageClass" (Decode.option Decode.string),
   .withDefault "serviceAccountToUse" (Decode.option Decode.string)]

/-- Read the stored form. -/
def decode : Decoder AppSpec := fun v => do
  let fs ← Decode.recordOf "struct EntandoAppSpec" members v
  let customServerImage ← Decode.optField fs "customServerImage" Decode.string
  let dbms ← Decode.optField fs "dbms" Vendor.decode
  let environmentVariables ← Decode.fieldOr fs "environmentVariables" (Decode.list SpecVariable.decode) []
  let ingressHostName ← Decode.optField fs "ingressHostName" Decode.string
  let ingressPath ← Decode.optField fs "ingressPath" Decode.string
  let keycloakToUse ← Decode.optField fs "keycloakToUse" KeycloakToUse.decode
  let replicas ← Decode.fieldOr fs "replicas" Decode.i32 1
  let serviceAccountToUse ← Decode.optField fs "serviceAccountToUse" Decode.string
  let standardServerImage ← Decode.optField fs "standardServerImage" JeeServer.decode
  let storageClass ← Decode.optField fs "storageClass" Decode.string
  let tlsSecretName ← Decode.optField fs "tlsSecretName" Decode.string
  pure { dbms, standardServerImage, customServerImage, ingressHostName, tlsSecretName, ingressPath,
         replicas, keycloakToUse, environmentVariables, storageClass, serviceAccountToUse }

end AppSpec

instance : ResourceKind AppSpec := ⟨"EntandoApp", "entandoapps"⟩

/-- An application resource. -/
abbrev App := Resource AppSpec

/-- The route of an application: the host and certificate its specification names. -/
def App.ingress (app : App) (config : OperatorConfig) : Except Error IngressRequirements :=
  IngressRequirements.resolve app.reference app.spec.ingressHostName app.spec.tlsSecretName config

end StackOperator
