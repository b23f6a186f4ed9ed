import StackOperator.Request.Rules
import StackOperator.Status.Wire

/-!
# Requests about statuses and failures

`status` reads a stored status and answers its summary; `status_ops` runs a
sequence of status operations on one status and answers each step; `failure`
turns an error into the failure record a status would carry. Errors are
described by an error specification (`errorOf`), which can nest.
-/

namespace StackOperator.Request

open Json

/-- The error an error specification describes. -/
def errorOf : Nat → Value → Outcome Error
  | 0, _ => malformed "error specification nested too deeply"
  | fuel + 1, v => do
    let kind ← text v "kind"
    match kind with
    | "Config" => return .config (← text v "message")
    | "Timeout" => return .timeout (← text v "message")
    | "ResourceCreation" => return .resourceCreation (← text v "message")
    | "Keycloak" => return .keycloak (← text v "message")
    | "IllegalState" => return .illegalState (← text v "message")
    | "ResourceOperation" =>
      let resourceKind ← text v "resource_kind"
      let ns ← text v "namespace"
      let name ← text v "name"
      let source ← errorOf fuel (member v "source")
      return source.onResource resourceKind ns name
    | "DatabasePreparation" =>
      let message ← text v "message"
      let source ← errorOf fuel (member v "source")
      return .databasePreparation message source
    | "Kube" =>
      let st ← text v "status"
      let message ← text v "message"
      let reason ← text v "reason"
      let code ← withDefault Decode.u16 v "code" 0
      return .api (.status st message reason code)
    | "Serde" =>
      let json ← text v "json"
      match Json.read json with
      | .error e => return .decode e.message
      | .ok _ => malformed "json parses"
    | other => malformed ("unknown error kind " ++ other)

/-- The error of a request member. A request is read at most 128 levels
deep, so its error specifications never run out of levels here. -/
def errorIn (request : Value) (key : String) : Outcome Error :=
  errorOf 128 (member request key)

/-- A timestamp as an answer. -/
def instantValue : Option Instant → Value
  | some t => .str t.render
  | none => .null

/-- The summary of a status that every answer about one carries. -/
def statusSummary (r : ResourceStatus) : Value :=
  .object [("serialized", r.toValue), ("has_failed", .bool r.hasFailed),
    ("final_phase", .str r.finalPhase.name), ("last_finished", instantValue r.lastFinished)]

/-- A timestamp member. -/
def instantOf (v : Value) (key : String) : Outcome Instant := do
  let s ← text v key
  match Instant.parse s with
  | .ok t => pure t
  | .error f => malformed f.text

/-- The summary of a stored status, with the queries the request asks for. -/
def status (request : Value) : Outcome Value := do
  let r ← typed ResourceStatus.decode request "status"
  let since ← match member request "since" with
    | .null => pure none
    | _ => some <$> instantOf request "since"
  let qualifier ← maybe Decode.string request "qualifier"
  let base := (statusSummary r).insert "phase" (match r.phase with
    | some p => .str p.name
    | none => .null)
  let withSince := base.insertSome "has_failed_since" (since.map fun t => .bool (r.hasFailedSince t))
  pure (withSince.insertSome "server_status" (qualifier.map fun q =>
    match r.serverStatus? q with
    | some s => s.toValue
    | none => .null))

/-- A server kind named by a request, web when absent. -/
def serverKind (v : Value) : Outcome ServerKind := do
  match ← maybe Decode.string v "type" with
  | none | some "WebServerStatus" => pure .web
  | some "DbServerStatus" => pure .db
  | some other => malformed ("unknown server status type " ++ other)

/-- One status operation: the status after it and what the step answers. -/
def statusStep (now : Instant) (r : ResourceStatus) (step : Value) :
    ResourceStatus × Outcome Value :=
  let report (r : ResourceStatus) (q : String) : Value :=
    match r.serverStatus? q with
    | some s => .object [("server_has_failed", .bool s.hasFailed), ("server_is_finished", .bool s.isFinished)]
    | none => .object [("server_has_failed", .null), ("server_is_finished", .null)]
  let change (q : String) (f : ServerStatus → Outcome ServerStatus) : ResourceStatus × Outcome Value :=
    match r.serverStatus? q with
    | none => (r, malformed ("no server status " ++ q))
    | some s =>
      match f s with
      | .ok s' => let r' := r.put s'; (r', .ok (report r' q))
      | .error e => (r, .error e)
  let result : Outcome (ResourceStatus × Outcome Value) := do
    let op ← text step "op"
    let q ← text step "qualifier"
    match op with
    | "new" =>
      let kind ← serverKind step
      let r' := r.put { qualifier := q, kind }
      pure (r', .ok (report r' q))
    | "started_now" =>
      let kind ← serverKind step
      let r' := r.put (ServerStatus.startedAt q kind now)
      pure (r', .ok (report r' q))
    | "put" =>
      let s ← typed ServerStatus.decode step "server_status"
      let r' := r.put s
      pure (r', .ok (report r' q))
    | "finish" => pure (change q fun s => pure (s.finish now))
    | "finish_with" => pure (change q fun s => do
        let f ← typed ControllerFailure.decode step "failure"
        pure (s.finishWith f now))
    | "put_derived" => pure (change q fun s => do
        let key ← text step "key"
        let value ← text step "value"
        pure (s.putDerived key value))
    | "set_phase" =>
      let phase ← typed (Decode.option Phase.decode) step "phase"
      let r' := { r with phase }
      pure (r', .ok (report r' q))
    | "set_observed_generation" =>
      let generation ← maybe Decode.i64 step "generation"
      let r' := { r with observedGeneration := generation }
      pure (r', .ok (report r' q))
    | "has_failed_since" =>
      let since ← instantOf step "since"
      pure (r, .ok (.object [("has_failed_since", .bool (r.hasFailedSince since))]))
    | other => malformed ("unknown status op " ++ other)
  match result with
  | .ok res => res
  | .error e => (r, .error e)

/-- Each step's answer with the summary of the status after it. -/
def runStatusSteps (now : Instant) : ResourceStatus → List Value → List Value
  | _, [] => []
  | r, step :: rest =>
    let (r', answer) := statusStep now r step
    (answerOf answer).insert "status" (statusSummary r') :: runStatusSteps now r' rest

/-- A sequence of operations on one status. -/
def statusOps (now : Instant) (request : Value) : Outcome Value := do
  let initial ← match member request "initial" with
    | .null => pure {}
    | _ => typed ResourceStatus.decode request "initial"
  let steps ← withDefault (Decode.list pure) request "ops" []
  pure (.object [("steps", .arr (runStatusSteps now initial steps))])

/-- The failure record of an error, with the error's own answer. -/
def failure (request : Value) : Outcome Value := do
  let e ← errorIn request "error"
  let fallback ← reference (member request "fallback")
  pure (.object [("failure", (ControllerFailure.ofError e fallback).toValue),
    ("error_info", errorValue e)])

end StackOperator.Request
