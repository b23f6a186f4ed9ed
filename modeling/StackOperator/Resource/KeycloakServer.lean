import StackOperator.Resource.Basic

/-!
# Keycloak servers

An `EntandoKeycloakServer` deploys the single sign-on server applications
authenticate against. Its specification chooses the DBMS the server keeps
its data in, the distribution (Keycloak or Red Hat SSO) or a custom image,
the host and certificate, the front-end URL, the replica count and whether
it is the default server of applications that name none.
-/

namespace StackOperator

open Json

/-- The single sign-on distribution to run. -/
inductive KeycloakImage where
  | keycloak
  | redhatSso
  deriving DecidableEq, Inhabited, Repr

namespace KeycloakImage

/-- The name of a distribution. -/
def name : KeycloakImage → String
  | .keycloak => "keycloak"
  | .redhatSso => "redhat-sso"

/-- The image repository of a distribution. -/
def imageRepository : KeycloakImage → String
  | .keycloak => "entando/entando-keycloak"
  | .redhatSso => "entando/entando-redhat-sso"

/-- Read a distribution from its name. -/
def decode : Decoder KeycloakImage := Decode.variant [("keycloak", .keycloak), ("redhat-sso", .redhatSso)]

end KeycloakImage

/-- The specification of a Keycloak server. -/
structure KeycloakServerSpec where
  dbms : Option Vendor := none
  standardImage : Option KeycloakImage := none
  customImage : Option String := none
  ingressHostName : Option String := none
  tlsSecretName : Option String := none
  frontEndUrl : Option String := none
  replicas : Int := 1
  isDefault : Bool := false
  environmentVariables : List SpecVariable := []
  storageClass : Option String := none
  deriving DecidableEq, Inhabited, Repr

namespace KeycloakServerSpec

/-- The stored form. -/
def toValue (s : KeycloakServerSpec) : Value :=
  .build [("dbms", s.dbms.map fun d => .str d.name),
    ("standardImage", s.standardImage.map fun i => .str i.name),
    ("customImage", s.customImage.map .str),
    ("ingressHostName", s.ingressHostName.map .str), ("tlsSecretName", s.tlsSecretName.map .str),
    ("frontEndUrl", s.frontEndUrl.map .str), ("replicas", some (.ofInt s.replicas)),
    ("default", some (.bool s.isDefault)),
    ("environmentVariables", if s.environmentVariables.isEmpty then none
      else some (.arr (s.environmentVariables.map SpecVariable.toValue))),
    ("storageClass", s.storageClass.map .str)]

/-- The members in declaration order. -/
def members : List Decode.MemberSpec :=
  [.withDefault "dbms" (Decode.option Vendor.decode),
   .withDefault "standardImage" (Decode.option KeycloakImage.decode),
   .withDefault "customImage" (Decode.option Decode.string),
   .withDefault "ingressHostName" (Decode.option Decode.string),
   .withDefault "tlsSecretName" (Decode.option Decode.string),
   .withDefault "frontEndUrl" (Decode.option Decode.string),
   .withDefault "replicas" Decode.i32,
   .withDefault "default" Decode.bool,
   .withDefault "environmentVariables" (Decode.list SpecVariable.decode),
   .withDefault "storageClass" (Decode.option Decode.string)]

/-- Read the stored form. -/
def decode : Decoder KeycloakServerSpec := fun v => do
  let fs ← Decode.recordOf "struct EntandoKeycloakServerSpec" members v
  let customImage ← Decode.optField fs "customImage" Decode.string
  let dbms ← Decode.optField fs "dbms" Vendor.decode
  let isDefault ← Decode.fieldOr fs "default" Decode.bool false
  let environmentVariables ← Decode.fieldOr fs "environmentVariables" (Decode.list SpecVariable.decode) []
  let frontEndUrl ← Decode.optField fs "frontEndUrl" Decode.string
  let ingressHostName ← Decode.optField fs "ingressHostName" Decode.string
  let replicas ← Decode.fieldOr fs "replicas" Decode.i32 1
  let standardImage ← Decode.optField fs "standardImage" KeycloakImage.decode
  let storageClass ← Decode.optField fs "storageClass" Decode.string
  let tlsSecretName ← Decode.optField fs "tlsSecretName" Decode.string
  pure { dbms, standardImage, customImage, ingressHostName, tlsSecretName, frontEndUrl, replicas,
         isDefault, environmentVariables, storageClass }

end KeycloakServerSpec

instance : ResourceKind KeycloakServerSpec := ⟨"EntandoKeycloakServer", "entandokeycloakservers"⟩

/-- A Keycloak server resource. -/
abbrev KeycloakServer := Resource KeycloakServerSpec

/-- The route of a Keycloak server. -/
def KeycloakServer.ingress (server : KeycloakServer) (config : OperatorConfig) :
    Except Error IngressRequirements :=
  IngressRequirements.resolve server.reference server.spec.ingressHostName server.spec.tlsSecretName config

end StackOperator
