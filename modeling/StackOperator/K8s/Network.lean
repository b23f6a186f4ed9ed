import StackOperator.K8s.Meta

/-!
# Services and Ingresses

A Service gives a deployment's pods one cluster-internal address and port per
container. An Ingress routes external requests for a host to Services by path
prefix, optionally over TLS with a certificate Secret. Ingresses are also read
from callers, so they have a decoder: a given Ingress is checked against the
API's shape, and the members the operator looks at (host rules with their
paths and TLS entries) are kept.
-/

namespace StackOperator.K8s

open Json

/-- A port of a Service. -/
structure ServicePort where
  name : Option String := none
  port : Int
  targetPort : Option Int := none
  protocol : Option String := none
  deriving DecidableEq, Inhabited, Repr

/-- The JSON form of a Service port. -/
def ServicePort.toValue (p : ServicePort) : Value :=
  .build [("name", p.name.map .str), ("port", some (.ofInt p.port)),
    ("protocol", p.protocol.map .str), ("targetPort", p.targetPort.map .ofInt)]

/-- The specification of a Service. -/
structure ServiceSpec where
  selector : Option (KeyMap String) := none
  type : Option String := none
  ports : Option (List ServicePort) := none
  externalName : Option String := none
  deriving DecidableEq, Inhabited, Repr

/-- A Service. -/
structure Service where
  metadata : ObjectMeta := {}
  spec : Option ServiceSpec := none
  deriving DecidableEq, Inhabited, Repr

/-- The JSON form of a Service. -/
def Service.toValue (s : Service) : Value :=
  .build [("apiVersion", some (.str "v1")), ("kind", some (.str "Service")),
    ("metadata", some s.metadata.toValue),
    ("spec", s.spec.map fun sp => .build [("externalName", sp.externalName.map .str),
      ("ports", sp.ports.map fun ps => .arr (ps.map ServicePort.toValue)),
      ("selector", sp.selector.map KeyMap.toValue), ("type", sp.type.map .str)])]

/-- An object of a kind in the same namespace, such as a storage bucket. -/
structure ObjectRef where
  apiGroup : Option String := none
  kind : String
  name : String
  deriving DecidableEq, Inhabited, Repr

/-- A port of a Service, by number or by name; neither may be given. -/
structure BackendPort where
  number : Option Int := none
  name : Option String := none
  deriving DecidableEq, Inhabited, Repr

/-- The Service and port, or the other object, a path of an Ingress routes to. -/
structure IngressBackend where
  serviceName : Option String := none
  port : Option BackendPort := none
  resource : Option ObjectRef := none
  deriving DecidableEq, Inhabited, Repr

/-- A path of an Ingress rule. -/
structure IngressPath where
  path : Option String := none
  pathType : String := ""
  backend : IngressBackend := {}
  deriving DecidableEq, Inhabited, Repr

/-- The routes of one host. -/
structure IngressRule where
  host : Option String := none
  /-- The paths, when the rule routes HTTP. -/
  paths : Option (List IngressPath) := none
  deriving DecidableEq, Inhabited, Repr

/-- A TLS entry: hosts and the Secret with their certificate. -/
structure IngressTls where
  hosts : Option (List String) := none
  secretName : Option String := none
  deriving DecidableEq, Inhabited, Repr

/-- The specification of an Ingress. -/
structure IngressSpec where
  defaultBackend : Option IngressBackend := none
  ingressClassName : Option String := none
  rules : Option (List IngressRule) := none
  tls : Option (List IngressTls) := none
  deriving DecidableEq, Inhabited, Repr

/-- An Ingress. -/
structure Ingress where
  metadata : ObjectMeta := {}
  spec : Option IngressSpec := none
  /-- The state of a given Ingress, in its stored form. -/
  status : Option Value := none
  deriving DecidableEq, Inhabited, Repr

namespace Ingress

/-- The JSON form of a backend. -/
def backendValue (b : IngressBackend) : Value :=
  .build [("resource", b.resource.map fun r =>
      .build [("apiGroup", r.apiGroup.map .str), ("kind", some (.str r.kind)), ("name", some (.str r.name))]),
    ("service", b.serviceName.map fun n =>
    .build [("name", some (.str n)),
      ("port", b.port.map fun p => .build [("name", p.name.map .str), ("number", p.number.map .ofInt)])])]

/-- The JSON form of a path. -/
def pathValue (p : IngressPath) : Value :=
  .build [("backend", some (backendValue p.backend)), ("path", p.path.map .str),
    ("pathType", some (.str p.pathType))]

/-- The JSON form of a rule. -/
def ruleValue (r : IngressRule) : Value :=
  .build [("host", r.host.map .str),
    ("http", r.paths.map fun ps => .object [("paths", .arr (ps.map pathValue))])]

/-- The JSON form of an Ingress. -/
def toValue (i : Ingress) : Value :=
  .build [("apiVersion", some (.str "networking.k8s.io/v1")), ("kind", some (.str "Ingress")),
    ("metadata", some i.metadata.toValue),
    ("status", i.status),
    ("spec", i.spec.map fun s => .build [("defaultBackend", s.defaultBackend.map backendValue),
      ("ingressClassName", s.ingressClassName.map .str),
      ("rules", s.rules.map fun rs => .arr (rs.map ruleValue)),
      ("tls", s.tls.map fun ts => .arr (ts.map fun t =>
        .build [("hosts", t.hosts.map .ofStrs), ("secretName", t.secretName.map .str)]))])]

/-- Read a reference to an object of a kind. -/
def decodeObjectRef : Decoder ObjectRef := fun v => do
  let fs ← Decode.record "TypedLocalObjectReference" v
  let apiGroup ← Decode.optField fs "apiGroup" Decode.string
  let kind ← Decode.optField fs "kind" Decode.string
  let name ← Decode.optField fs "name" Decode.string
  pure { apiGroup, kind := kind.getD "", name := name.getD "" }

/-- Read a backend. -/
def decodeBackend : Decoder IngressBackend := fun v => do
  let fs ← Decode.record "IngressBackend" v
  let resource ← Decode.optField fs "resource" decodeObjectRef
  let service ← Decode.optField fs "service" (Decode.record "IngressServiceBackend")
  match service with
  | none => pure { resource }
  | some sfs =>
    let name ← Decode.optField sfs "name" Decode.string
    let port ← Decode.optField sfs "port" (Decode.record "ServiceBackendPort")
    match port with
    | none => pure { serviceName := some (name.getD ""), resource }
    | some pfs =>
      let portName ← Decode.optField pfs "name" Decode.string
      let portNumber ← Decode.optField pfs "number" Decode.i32
      pure { serviceName := some (name.getD ""), port := some ⟨portNumber, portName⟩, resource }

/-- Read a path. -/
def decodePath : Decoder IngressPath := fun v => do
  let fs ← Decode.record "HTTPIngressPath" v
  let backend ← Decode.optField fs "backend" decodeBackend
  let path ← Decode.optField fs "path" Decode.string
  let pathType ← Decode.optField fs "pathType" Decode.string
  pure { path, pathType := pathType.getD "", backend := backend.getD {} }

/-- Read a rule. -/
def decodeRule : Decoder IngressRule := fun v => do
  let fs ← Decode.record "IngressRule" v
  let host ← Decode.optField fs "host" Decode.string
  let http ← Decode.optField fs "http" (Decode.record "HTTPIngressRuleValue")
  let paths ← match http with
    | none => pure none
    | some hfs => do
      let ps ← Decode.optField hfs "paths" (Decode.list decodePath)
      pure (some (ps.getD []))
  pure { host, paths }

/-- Read a TLS entry. -/
def decodeTls : Decoder IngressTls := fun v => do
  let fs ← Decode.record "IngressTLS" v
  let hosts ← Decode.optField fs "hosts" (Decode.list Decode.string)
  let secretName ← Decode.optField fs "secretName" Decode.string
  pure { hosts, secretName }

/-- Read an Ingress given by a caller, checked against the API's shape first. -/
def decode : Decoder Ingress := fun v => do
  let fs ← Decode.record "Ingress" (← Shapes.ingress.read v)
  let metadata ← Decode.optField fs "metadata" ObjectMeta.decode
  let spec ← Decode.optField fs "spec" fun sv => do
    let sfs ← Decode.record "IngressSpec" sv
    let defaultBackend ← Decode.optField sfs "defaultBackend" decodeBackend
    let ingressClassName ← Decode.optField sfs "ingressClassName" Decode.string
    let rules ← Decode.optField sfs "rules" (Decode.list decodeRule)
    let tls ← Decode.optField sfs "tls" (Decode.list decodeTls)
    pure { defaultBackend, ingressClassName, rules, tls }
  pure { metadata := metadata.getD {}, spec, status := Fields.get? fs "status" }

end Ingress

end StackOperator.K8s
