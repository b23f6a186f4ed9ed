import StackOperator.Request.Pipeline
import StackOperator.Request.Clients
import StackOperator.Controller.Handle
import StackOperator.Time.Span

/-!
# The operator against its servers

An `operator` request runs the operator's controllers and capabilities
against an API server and a Keycloak server that the request describes, with
no route to either. Each step answers its result or error and the requests
each server received during it, and the request answers the steps, the
objects of the API server and the state of the Keycloak server.

* `reconcile_resource` hands a resource to the controller of its kind, with
  a given work or else the resource's deployment as the pass, and answers
  what the controller does next with it.
* `run_controller` runs the controller of a kind for a while; without a
  route to the API server it sees no resource, and answers that it waited.
* `image_resolver` resolves images with the cluster's image-info ConfigMap.
* The steps of a pipeline that deploy or resolve something read the
  image-info ConfigMap first, then run as in a pipeline but against these
  servers, and a deployable deployed on its own gets no Keycloak session.

Each step runs a nanosecond after the one before.
-/

namespace StackOperator.Request

open Json Cluster

/-- A step of an `operator` request. -/
inductive OperatorStep where
  /-- Handle a resource with `work` as its pass, or its deployment when none is given. -/
  | handle (resource : Controller.Managed) (mainQualifier : String) (work : Option Action)
  | runController (kind : String) (waitMs : Nat)
  /-- Resolve images given by repository and optional version. -/
  | resolveImages (queries : List (String × Option String))
  | act (action : Action)

/-- A resource of one of the three kinds. -/
def managedOf (kind : String) (v : Value) : Outcome Controller.Managed :=
  match kind with
  | "EntandoApp" => .app <$> resourceOf AppSpec.decode v
  | "EntandoKeycloakServer" => .keycloakServer <$> resourceOf KeycloakServerSpec.decode v
  | "EntandoDatabaseService" => .databaseService <$> resourceOf DatabaseServiceSpec.decode v
  | other => malformed ("unknown kind " ++ other)

/-- Read a step of an `operator` request. -/
def operatorStepOf (v : Value) : Outcome OperatorStep := do
  match ← text v "do" with
  | "reconcile_resource" =>
    let resource ← managedOf (← text v "kind") (member v "resource")
    let mainQualifier ← text v "main_qualifier"
    let work ← match member v "work" with
      | .null => pure none
      | w => some <$> workOf w
    return .handle resource mainQualifier work
  | "run_controller" =>
    let kind ← text v "kind"
    let _ ← managedKind kind
    return .runController kind (← withDefault Decode.u64 v "wait_ms" 0)
  | "image_resolver" =>
    let queries ← (← withDefault (Decode.list pure) v "queries" []).mapM fun q => do
      pure (← text q "repository", ← maybe Decode.string q "version")
    return .resolveImages queries
  | _ => return .act (← workOf v)
where
  /-- A kind the operator has a controller for. -/
  managedKind (kind : String) : Outcome Unit :=
    if ["EntandoApp", "EntandoKeycloakServer", "EntandoDatabaseService"].contains kind then pure ()
    else malformed ("unknown kind " ++ kind)

/-- What the controller does next with a resource, as it logs it. -/
def requeueText : Controller.Requeue → String
  | .awaitChange => "Action \x7b requeue_after: None \x7d"
  | .after nanos => "Action \x7b requeue_after: Some(" ++ Span.render nanos ++ ") \x7d"

/-- Run a step; its answer. -/
def OperatorStep.run {n : Type → Type} [Monad n] (s : Setting n) : OperatorStep → ExceptT Error n Value
  | .handle m mainQualifier work => do
    let pass : ExceptT Error n Unit := match work with
      | some a => do let _ ← a.run s
      | none => m.deploy s.backend s.rt
    let next ← Controller.handle s.backend.cluster s.rt.now m mainQualifier pass
    pure (.object [("action", .str (requeueText next))])
  | .runController _ _ => pure (.object [("result", .str "waited")])
  | .resolveImages queries => do
    let images ← s.images
    pure (.object [("result", .arr (queries.map fun (repository, version) =>
      .str (images.uri repository version)))])
  | .act a => a.answer s

/-- The operator's view of servers it cannot reach. -/
def offline (rt : Deploy.Runtime) : Setting Id :=
  { backend := Backend.unreachable, rt, images := Controller.imageResolver unreachableApi rt.config,
    session := none, configure := fun _ => pure () }

/-- What a step answers: its answer, and the requests each server received. -/
def operatorStepOutput (answer : Value) : Value :=
  .object [("answer", answer), ("kube_requests", .arr []), ("keycloak_requests", .arr [])]

/-- Run steps in turn, each a nanosecond after the one before. -/
def operatorSteps (rt : Deploy.Runtime) : List Value → List Value
  | [] => []
  | step :: rest =>
    let answer : Outcome Value := do
      let s ← operatorStepOf step
      match ((s.run (offline rt)).run : Except Error Value) with
      | .ok v => pure v
      | .error e => .error (.operator e)
    operatorStepOutput (answerOf answer) :: operatorSteps { rt with now := rt.now.later 1 } rest

/-- Run the operator against the servers a request describes. -/
def operator (now : Instant) (request : Value) : Outcome Value := do
  let config ← configOf request
  let store ← objectStoreOf (member request "api")
  let server := Keycloak.SsoServer.seed (member request "keycloak_server")
  let steps ← withDefault (Decode.list pure) request "steps" []
  let rt : Deploy.Runtime := { config, now, password := fun _ => generatedPassword }
  pure (.object [("steps", .arr (operatorSteps rt steps)), ("store", store.toValue),
    ("keycloak", server.toValue)])

end StackOperator.Request
