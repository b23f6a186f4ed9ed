import StackOperator.Status.Basic
import StackOperator.Json.Decode

/-!
# The status as stored on a custom resource

Statuses are stored with camelCase member names. Optional members that are
not set and empty phase maps are left out. The overall phase is written twice,
as `phase` and under the older name `entandoDeploymentPhase`; on reading,
`phase` wins and the older name is the fallback. Timestamps are RFC 3339 texts
in UTC.

Members are read in key order, so a fault in the first faulty member is the
one reported; a missing required member is reported after all present
members were read.
-/

namespace StackOperator

open Json

namespace Phase

/-- Read a phase from its name. -/
def decode : Decoder Phase := Decode.variant (all.map fun p => (p.name, p))

end Phase

namespace ControllerFailure

/-- The stored form of a failure. -/
def toValue (f : ControllerFailure) : Value :=
  .build [("failedObjectApiVersion", f.apiVersion.map .str), ("failedObjectKind", f.kind.map .str),
    ("failedObjectNamespace", f.ns.map .str), ("failedObjectName", f.name.map .str),
    ("message", some (.str f.message)), ("detailMessage", some (.str f.detailMessage))]

/-- The members of a failure in declaration order. -/
def members : List Decode.MemberSpec :=
  (["failedObjectApiVersion", "failedObjectKind", "failedObjectNamespace", "failedObjectName"].map
    fun k => .withDefault k (Decode.option Decode.string)) ++
  [.needed "message" Decode.string, .needed "detailMessage" Decode.string]

/-- Read a stored failure. -/
def decode : Decoder ControllerFailure := fun v => do
  let fs ← Decode.recordOf "struct EntandoControllerFailure" members v
  let detail ← Decode.presentField fs "detailMessage" Decode.string
  let apiVersion ← Decode.optField fs "failedObjectApiVersion" Decode.string
  let kind ← Decode.optField fs "failedObjectKind" Decode.string
  let name ← Decode.optField fs "failedObjectName" Decode.string
  let ns ← Decode.optField fs "failedObjectNamespace" Decode.string
  let message ← Decode.presentField fs "message" Decode.string
  let message ← Decode.required "message" message
  let detailMessage ← Decode.required "detailMessage" detail
  pure { apiVersion, kind, ns, name, message, detailMessage }

end ControllerFailure

/-- Read a server kind from its name. -/
def ServerKind.decode : Decoder ServerKind :=
  Decode.variant [(ServerKind.web.name, .web), (ServerKind.db.name, .db)]

namespace ServerStatus

/-- A map member, left out when empty. -/
def mapMember (key : String) (m : KeyMap String) : String × Option Value :=
  (key, if m.isEmpty then none else some (KeyMap.toValue m))

/-- The stored form of a server status. -/
def toValue (s : ServerStatus) : Value :=
  .build [("qualifier", some (.str s.qualifier)), ("type", some (.str s.kind.name)),
    ("started", s.started.map fun t => .str t.render),
    ("finished", s.finished.map fun t => .str t.render),
    mapMember "podPhases" s.podPhases, mapMember "deploymentPhases" s.deploymentPhases,
    mapMember "servicePhases" s.servicePhases,
    mapMember "persistentVolumeClaimPhases" s.claimPhases,
    mapMember "derivedDeploymentParameters" s.derivedParameters,
    mapMember "webContexts" s.webContexts,
    ("adminSecretName", s.adminSecretName.map .str), ("ssoRealm", s.ssoRealm.map .str),
    ("ssoClientId", s.ssoClientId.map .str), ("serviceName", s.serviceName.map .str),
    ("ingressName", s.ingressName.map .str), ("externalBaseUrl", s.externalBaseUrl.map .str),
    ("entandoControllerFailure", s.failure.map ControllerFailure.toValue)]

/-- The members of a server status in declaration order. -/
def members : List Decode.MemberSpec :=
  [.needed "qualifier" Decode.string, .withDefault "type" ServerKind.decode,
   .withDefault "started" (Decode.option Instant.decode), .withDefault "finished" (Decode.option Instant.decode)] ++
  (["podPhases", "deploymentPhases", "servicePhases", "persistentVolumeClaimPhases",
    "derivedDeploymentParameters", "webContexts"].map fun k => .withDefault k (Decode.map Decode.string)) ++
  (["adminSecretName", "ssoRealm", "ssoClientId", "serviceName", "ingressName", "externalBaseUrl"].map
    fun k => .withDefault k (Decode.option Decode.string)) ++
  [.withDefault "entandoControllerFailure" (Decode.option ControllerFailure.decode)]

/-- Read a stored server status. -/
def decode : Decoder ServerStatus := fun v => do
  let fs ← Decode.recordOf "struct ServerStatus" members v
  let strMap : Decoder (KeyMap String) := Decode.map Decode.string
  let adminSecretName ← Decode.optField fs "adminSecretName" Decode.string
  let deploymentPhases ← Decode.fieldOr fs "deploymentPhases" strMap .empty
  let derivedParameters ← Decode.fieldOr fs "derivedDeploymentParameters" strMap .empty
  let failure ← Decode.optField fs "entandoControllerFailure" ControllerFailure.decode
  let externalBaseUrl ← Decode.optField fs "externalBaseUrl" Decode.string
  let finished ← Decode.optField fs "finished" Instant.decode
  let ingressName ← Decode.optField fs "ingressName" Decode.string
  let claimPhases ← Decode.fieldOr fs "persistentVolumeClaimPhases" strMap .empty
  let podPhases ← Decode.fieldOr fs "podPhases" strMap .empty
  let qualifier ← Decode.presentField fs "qualifier" Decode.string
  let serviceName ← Decode.optField fs "serviceName" Decode.string
  let servicePhases ← Decode.fieldOr fs "servicePhases" strMap .empty
  let ssoClientId ← Decode.optField fs "ssoClientId" Decode.string
  let ssoRealm ← Decode.optField fs "ssoRealm" Decode.string
  let started ← Decode.optField fs "started" Instant.decode
  let kind ← Decode.fieldOr fs "type" ServerKind.decode .web
  let webContexts ← Decode.fieldOr fs "webContexts" strMap .empty
  let qualifier ← Decode.required "qualifier" qualifier
  pure { qualifier, kind, started, finished, podPhases, deploymentPhases, servicePhases,
         claimPhases, derivedParameters, webContexts, adminSecretName, ssoRealm, ssoClientId,
         serviceName, ingressName, externalBaseUrl, failure }

end ServerStatus

namespace ResourceStatus

/-- The stored form of a resource status; the phase is written under both names. -/
def toValue (r : ResourceStatus) : Value :=
  let phase := r.phase.map fun p => Value.str p.name
  .build [("observedGeneration", r.observedGeneration.map .ofInt), ("phase", phase),
    ("entandoDeploymentPhase", phase),
    ("serverStatuses", if r.servers.isEmpty then none
      else some (.obj (r.servers.entries.map fun (k, s) => (k, s.toValue))))]

/-- The members of a stored status in declaration order. -/
def members : List Decode.MemberSpec :=
  [.withDefault "observedGeneration" (Decode.option Decode.i64),
   .withDefault "phase" (Decode.option Phase.decode),
   .withDefault "entandoDeploymentPhase" (Decode.option Phase.decode),
   .withDefault "serverStatuses" (Decode.map ServerStatus.decode)]

/-- Read a stored resource status; `phase` wins over `entandoDeploymentPhase`. -/
def decode : Decoder ResourceStatus := fun v => do
  let fs ← Decode.recordOf "struct SerializedStatus" members v
  let legacy ← Decode.optField fs "entandoDeploymentPhase" Phase.decode
  let observedGeneration ← Decode.optField fs "observedGeneration" Decode.i64
  let phase ← Decode.optField fs "phase" Phase.decode
  let servers ← Decode.fieldOr fs "serverStatuses" (Decode.map ServerStatus.decode) .empty
  pure { observedGeneration, phase := phase <|> legacy, servers }

end ResourceStatus

end StackOperator
