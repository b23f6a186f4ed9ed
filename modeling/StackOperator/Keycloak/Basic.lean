/-!
# Single sign-on clients

Containers behind the Ingress authenticate through OIDC clients registered
with a Keycloak server. A `KeycloakConnection` says where the server is
(externally and inside the cluster) and which realm and public browser client
to use; a `ClientConfig` is the desired state of a confidential client: its
redirect URIs and web origins, the roles it exposes and the roles of other
clients its service account is granted (`Permission`).
-/

namespace StackOperator.Keycloak

/-- The realm every component registers its clients in, unless told otherwise. -/
def defaultRealm : String := "entando"

/-- The public client browser front ends use, unless told otherwise. -/
def defaultPublicClient : String := "entando-web"

/-- Where a container finds its Keycloak server. -/
structure Connection where
  /-- The external base URL, with the `/auth` context. -/
  baseUrl : String := ""
  internalBaseUrl : String := ""
  realm : String := ""
  publicClientId : String := ""
  deriving DecidableEq, Inhabited, Repr

/-- A role of another client granted to a client's service account. -/
structure Permission where
  clientId : String
  role : String
  deriving DecidableEq, Inhabited, Repr

/-- A role a client exposes. -/
structure Role where
  code : String
  name : String
  deriving DecidableEq, Inhabited, Repr

/-- The desired state of a confidential client. -/
structure ClientConfig where
  realm : String
  clientId : String
  clientName : String
  redirectUris : List String := []
  webOrigins : List String := []
  roles : List Role := []
  permissions : List Permission := []
  deriving DecidableEq, Inhabited, Repr

end StackOperator.Keycloak
