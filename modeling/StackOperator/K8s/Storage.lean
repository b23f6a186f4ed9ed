import StackOperator.K8s.Meta
import StackOperator.Text.Base64

/-!
# Secrets, ConfigMaps and volume claims

A Secret holds credentials as bytes (`data`); a caller may also give text
values (`stringData`), which the API server moves into `data` when it stores
the Secret (`Secret.persisted`). `Secret.value` reads a key from either, the
stored bytes winning. A PersistentVolumeClaim asks for storage of a size and
class.
-/

namespace StackOperator.K8s

open Json

/-- A Secret. -/
structure Secret where
  metadata : ObjectMeta := {}
  data : Option (KeyMap (List UInt8)) := none
  stringData : Option (KeyMap String) := none
  type : Option String := none
  deriving DecidableEq, Inhabited, Repr

namespace Secret

/-- The JSON form of a Secret; bytes in padded base64. -/
def toValue (s : Secret) : Value :=
  .build [("apiVersion", some (.str "v1")), ("kind", some (.str "Secret")),
    ("metadata", some s.metadata.toValue),
    ("data", s.data.map fun d => .obj (d.entries.map fun (k, bytes) => (k, .str (Text.base64 bytes)))),
    ("stringData", s.stringData.map KeyMap.toValue), ("type", s.type.map .str)]

/-- The Secret as the API server stores it: text values moved into the bytes. -/
def persisted (s : Secret) : Secret :=
  match s.stringData with
  | none => s
  | some texts =>
    let data := texts.entries.foldl (fun d (k, v) => KeyMap.put d k v.toUTF8.toList) (s.data.getD .empty)
    { s with data := some data, stringData := none }

/-- A key's value: the stored bytes read as UTF-8 (invalid sequences replaced), else the text value. -/
def value (s : Secret) (key : String) : Option String :=
  match s.data.bind (KeyMap.get? · key) with
  | some bytes => some (Text.decodeUtf8Lossy bytes)
  | none => s.stringData.bind (KeyMap.get? · key)

/-- An opaque Secret with a user name and password. -/
def credentials (metadata : ObjectMeta) (username password : String) : Secret :=
  { metadata, type := some "Opaque",
    stringData := some ⟨[("password", password), ("username", username)],
      show ["password", "username"].Pairwise (· < ·) by decide⟩ }

/-- An opaque Secret with the identifier and secret of a client. -/
def clientCredentials (metadata : ObjectMeta) (clientId clientSecret : String) : Secret :=
  { metadata, type := some "Opaque",
    stringData := some ⟨[("clientId", clientId), ("clientSecret", clientSecret)],
      show ["clientId", "clientSecret"].Pairwise (· < ·) by decide⟩ }

end Secret

/-- Text settings keyed by name. -/
structure ConfigMap where
  metadata : ObjectMeta := {}
  data : Option (KeyMap String) := none
  deriving DecidableEq, Inhabited, Repr

/-- The JSON form of a ConfigMap. -/
def ConfigMap.toValue (c : ConfigMap) : Value :=
  .build [("apiVersion", some (.str "v1")), ("kind", some (.str "ConfigMap")),
    ("metadata", some c.metadata.toValue), ("data", c.data.map KeyMap.toValue)]

/-- A claim for persistent storage. -/
structure PersistentVolumeClaim where
  metadata : ObjectMeta := {}
  accessModes : Option (List String) := none
  /-- The requested size, such as `2Gi`. -/
  storageRequest : Option String := none
  storageClassName : Option String := none
  deriving DecidableEq, Inhabited, Repr

/-- The JSON form of a claim. -/
def PersistentVolumeClaim.toValue (c : PersistentVolumeClaim) : Value :=
  .build [("apiVersion", some (.str "v1")), ("kind", some (.str "PersistentVolumeClaim")),
    ("metadata", some c.metadata.toValue),
    ("spec", some (.build [("accessModes", c.accessModes.map .ofStrs),
      ("resources", c.storageRequest.map fun q => .object [("requests", .object [("storage", .str q)])]),
      ("storageClassName", c.storageClassName.map .str)]))]

end StackOperator.K8s
