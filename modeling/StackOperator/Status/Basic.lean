import StackOperator.KeyMap
import StackOperator.Error
import StackOperator.K8s.Meta
import StackOperator.Time.Instant

/-!
# Deployment status of a custom resource

A custom resource carries one `ServerStatus` per qualifier (`server`, `db`,
`cm`, …) and an overall `Phase`. A server status records when its deployment
pass started and finished, the phases of the objects it touched, derived
parameters such as JDBC URLs, and at most one `ControllerFailure`: the first
one recorded is kept, so a status names the first object that could not be
reconciled.

* `ServerStatus.finish` stamps the finish time once; later calls keep it
  (`finish_finish`).
* `ResourceStatus.put` stores a server status under its own qualifier
  (`serverStatus_put`).
* The final phase is `failed` exactly when some server status has failed.
-/

namespace StackOperator

/-- Overall deployment phase of a custom resource. -/
inductive Phase where
  | requested
  | started
  | successful
  | failed
  deriving DecidableEq, Inhabited, Repr

namespace Phase

/-- The lower-case name of a phase. -/
def name : Phase → String
  | .requested => "requested"
  | .started => "started"
  | .successful => "successful"
  | .failed => "failed"

/-- All phases, in declaration order. -/
def all : List Phase := [.requested, .started, .successful, .failed]

end Phase

/-- The record of an object that could not be reconciled. -/
structure ControllerFailure where
  apiVersion : Option String := none
  kind : Option String := none
  ns : Option String := none
  name : Option String := none
  message : String
  detailMessage : String
  deriving DecidableEq, Inhabited, Repr

/-- The failure record of an error: the innermost object the error names, or
the fallback resource (with its API version) when it names none. -/
def ControllerFailure.ofError (e : Error) (fallback : K8s.Reference) : ControllerFailure :=
  match e.failedObject with
  | some o => { kind := some o.kind, ns := some o.ns, name := some o.name,
                message := e.message, detailMessage := e.detail }
  | none => { apiVersion := some fallback.apiVersion, kind := some fallback.kind,
              ns := some fallback.ns, name := some fallback.name,
              message := e.message, detailMessage := e.detail }

/-- Whether a qualifier's workload is served over HTTP or backs other workloads. -/
inductive ServerKind where
  | web
  | db
  deriving DecidableEq, Inhabited, Repr

/-- The name of a server kind. -/
def ServerKind.name : ServerKind → String
  | .web => "WebServerStatus"
  | .db => "DbServerStatus"

/-- Status of one qualifier's deployment. -/
structure ServerStatus where
  qualifier : String
  kind : ServerKind := .web
  started : Option Instant := none
  finished : Option Instant := none
  podPhases : KeyMap String := .empty
  deploymentPhases : KeyMap String := .empty
  servicePhases : KeyMap String := .empty
  claimPhases : KeyMap String := .empty
  derivedParameters : KeyMap String := .empty
  webContexts : KeyMap String := .empty
  adminSecretName : Option String := none
  ssoRealm : Option String := none
  ssoClientId : Option String := none
  serviceName : Option String := none
  ingressName : Option String := none
  externalBaseUrl : Option String := none
  failure : Option ControllerFailure := none
  deriving DecidableEq, Inhabited, Repr

namespace ServerStatus

/-- A status that starts at `now`. -/
def startedAt (qualifier : String) (kind : ServerKind) (now : Instant) : ServerStatus :=
  { qualifier, kind, started := some now }

/-- Has a failure been recorded? -/
def hasFailed (s : ServerStatus) : Bool := s.failure.isSome

/-- Has the pass finished? -/
def isFinished (s : ServerStatus) : Bool := s.finished.isSome

/-- Stamp the finish time, unless one is already stamped. -/
def finish (s : ServerStatus) (now : Instant) : ServerStatus :=
  match s.finished with
  | some _ => s
  | none => { s with finished := some now }

/-- Record a failure, unless one is already recorded, and finish. -/
def finishWith (s : ServerStatus) (f : ControllerFailure) (now : Instant) : ServerStatus :=
  let s' := match s.failure with
    | some _ => s
    | none => { s with failure := some f }
  s'.finish now

/-- Record a derived deployment parameter. -/
def putDerived (s : ServerStatus) (key value : String) : ServerStatus :=
  { s with derivedParameters := KeyMap.put s.derivedParameters key value }

theorem finish_finish (s : ServerStatus) (a b : Instant) :
    (s.finish a).finish b = s.finish a := by
  unfold finish
  cases h : s.finished <;> simp [h]

theorem hasFailed_finishWith (s : ServerStatus) (f : ControllerFailure) (now : Instant) :
    (s.finishWith f now).hasFailed = true := by
  unfold finishWith finish hasFailed
  cases hf : s.failure <;> cases hs : s.finished <;> simp [hf, hs]

end ServerStatus

/-- The status of a custom resource. -/
structure ResourceStatus where
  observedGeneration : Option Int := none
  phase : Option Phase := none
  servers : KeyMap ServerStatus := .empty
  deriving DecidableEq, Inhabited, Repr

namespace ResourceStatus

/-- Has any server status failed? -/
def hasFailed (r : ResourceStatus) : Bool := r.servers.entries.any (·.2.hasFailed)

/-- Has a server status that started at or after `since` failed? Failures of
earlier passes are ignored. -/
def hasFailedSince (r : ResourceStatus) (since : Instant) : Bool :=
  r.servers.entries.any fun (_, s) => s.hasFailed && s.started.any (since ≤ ·)

/-- The latest finish time of all server statuses. -/
def lastFinished (r : ResourceStatus) : Option Instant :=
  r.servers.entries.foldl (fun acc (_, s) =>
    match acc, s.finished with
    | some a, some b => some (Instant.max a b)
    | none, b => b
    | a, none => a) none

/-- The server status of a qualifier. -/
def serverStatus? (r : ResourceStatus) (qualifier : String) : Option ServerStatus :=
  KeyMap.get? r.servers qualifier

/-- Store a server status under its own qualifier, replacing the one there. -/
def put (r : ResourceStatus) (s : ServerStatus) : ResourceStatus :=
  { r with servers := KeyMap.put r.servers s.qualifier s }

/-- The phase implied by the server statuses. -/
def finalPhase (r : ResourceStatus) : Phase := if r.hasFailed then .failed else .successful

theorem serverStatus_put (r : ResourceStatus) (s : ServerStatus) :
    (r.put s).serverStatus? s.qualifier = some s :=
  KeyMap.get?_put_self _ _ _

end ResourceStatus

end StackOperator
