import StackOperator.Json.Value

/-!
# A Keycloak server's realms

What a Keycloak server holds for the operator: its realms, each with its
clients, the client roles granted to service accounts, and how many access
tokens it has issued. The `master` realm always exists.

A client is registered from its representation. It gets the id
`id-<clientId>`; a confidential client gets the secret `secret-<clientId>`,
a public one none; each role it declares becomes a client role with the id
`role-<clientId>-<role>`. The representation is kept without its roles.

A server is described leniently: members of the wrong type are taken as
absent.

Main statement: `seed_master`, a seeded server has a `master` realm.
-/

namespace StackOperator.Keycloak

open Json

/-- A client registered in a realm. -/
structure RegisteredClient where
  clientId : String
  /-- The representation it was registered with, without its roles. -/
  representation : Fields
  roles : List String
  serviceAccountsEnabled : Bool
  publicClient : Bool

namespace RegisteredClient

/-- A member of a representation if it is a boolean, else `false`. -/
def flag (fs : Fields) (key : String) : Bool := ((Fields.get? fs key).bind Value.bool?).getD false

/-- Register a client from its representation. -/
def ofRepresentation (fs : Fields) : RegisteredClient :=
  { clientId := ((Fields.get? fs "clientId").bind Value.str?).getD "",
    representation := Fields.erase fs "roles",
    roles := (((Fields.get? fs "roles").bind Value.arr?).getD []).filterMap Value.str?,
    serviceAccountsEnabled := flag fs "serviceAccountsEnabled",
    publicClient := flag fs "publicClient" }

/-- The stored form of a client role. -/
def roleValue (clientId role : String) : Value :=
  .object [("clientRole", .bool true), ("id", .str ("role-" ++ clientId ++ "-" ++ role)),
    ("name", .str role)]

/-- The stored form of a client. -/
def toValue (c : RegisteredClient) : Value :=
  .object [("clientId", .str c.clientId), ("id", .str ("id-" ++ c.clientId)),
    ("representation", .obj c.representation),
    ("roles", .object (c.roles.map fun r => (r, roleValue c.clientId r))),
    ("secret", if c.publicClient then .null else .str ("secret-" ++ c.clientId)),
    ("serviceAccountsEnabled", .bool c.serviceAccountsEnabled)]

end RegisteredClient

/-- The state of a Keycloak server. -/
structure SsoServer where
  /-- The realms by name, each with its clients in registration order. -/
  realms : List (String × List RegisteredClient) := []
  /-- The path under which the server answers. -/
  basePath : String := "/auth"
  roleMappings : List Value := []
  tokensIssued : Nat := 0

namespace SsoServer

/-- The host at which the server answers. -/
def host : String := "http://keycloak.test"

/-- The URL at which the server answers. -/
def baseUrl (s : SsoServer) : String := host ++ s.basePath

/-- Add the `master` realm unless there is one. -/
def withMaster (realms : List (String × List RegisteredClient)) : List (String × List RegisteredClient) :=
  if realms.any (·.1 == "master") then realms else realms ++ [("master", [])]

/-- A server as described by `{realms, base_path}`: each realm a list of
client representations. -/
def seed (v : Value) : SsoServer :=
  let described := ((v.field? "realms").bind Value.obj?).getD []
  let realms := described.map fun (name, clients) =>
    (name, ((clients.arr?).getD []).filterMap fun c => c.obj?.map RegisteredClient.ofRepresentation)
  { realms := withMaster realms,
    basePath := ((v.field? "base_path").bind Value.str?).getD "/auth" }

theorem withMaster_master (realms : List (String × List RegisteredClient)) :
    (withMaster realms).any (·.1 == "master") = true := by
  unfold withMaster
  split
  · assumption
  · simp

theorem seed_master (v : Value) : (seed v).realms.any (·.1 == "master") = true :=
  withMaster_master _

/-- The state as `{realms, role_mappings, tokens_issued}`. -/
def toValue (s : SsoServer) : Value :=
  .object [("realms", .object (s.realms.map fun (name, clients) => (name, .arr (clients.map (·.toValue))))),
    ("role_mappings", .arr s.roleMappings), ("tokens_issued", .ofInt s.tokensIssued)]

end SsoServer

end StackOperator.Keycloak
