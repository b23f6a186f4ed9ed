import StackOperator.Text.Quoted

/-!
# Errors

An `Error` is the cause of a failed step. Two kinds wrap another error and add
context: `resourceOperation` names the object being acted on, and
`databasePreparation` says what was being prepared. The rest are leaves.

Each error has a message (`Error.message`) and a chain of causes
(`Error.causes`): a wrapper's causes are its source's message followed by the
source's causes; a leaf that comes from the cluster API, from decoding or from
the network carries the causes reported under it. `Error.detail` is the
message followed by one `caused by:` line per cause. `Error.failedObject` is
the innermost object named along the wrappers.

Main statements: `detail_eq`, `failedObject_onResource`.
-/

namespace StackOperator

/-- How a request to the cluster API failed. -/
inductive ApiFailure where
  /-- The API server answered with an error status. -/
  | status (status message reason : String) (code : Nat)
  /-- The request never got an answer; the causes below the transport error. -/
  | unreachable (summary : String) (causes : List String)
  deriving DecidableEq, Inhabited

namespace ApiFailure

/-- The message of the client library's error. -/
def text : ApiFailure → String
  | .status st message reason code =>
    let debug := "ErrorResponse \x7b status: " ++ Text.quoted st ++ ", message: " ++
      Text.quoted message ++ ", reason: " ++ Text.quoted reason ++ ", code: " ++ toString code ++ " \x7d"
    "ApiError: " ++ message ++ ": " ++ reason ++ " (" ++ debug ++ ")"
  | .unreachable summary _ => "ServiceError: " ++ summary

/-- The causes under the client library's error. -/
def causes : ApiFailure → List String
  | .status _ message reason _ => [message ++ ": " ++ reason]
  | .unreachable summary rest => summary :: rest

end ApiFailure

/-- The cause of a failed step. -/
inductive Error where
  /-- The cluster API refused or could not be reached. -/
  | api (failure : ApiFailure)
  /-- A value could not be decoded; the decoder's message. -/
  | decode (message : String)
  /-- An HTTP request failed; its message and the causes under it. -/
  | http (message : String) (causes : List String)
  /-- The configuration or the custom resource asks for something impossible. -/
  | config (message : String)
  /-- A failure while acting on one object. -/
  | resourceOperation (kind ns name : String) (source : Error)
  /-- A failure while preparing database schemas. -/
  | databasePreparation (message : String) (source : Error)
  /-- A wait ran out of time. -/
  | timeout (message : String)
  /-- Kubernetes objects could not be brought about. -/
  | resourceCreation (message : String)
  /-- The Keycloak server refused a request. -/
  | keycloak (message : String)
  /-- A precondition of the operator itself does not hold. -/
  | illegalState (message : String)
  deriving DecidableEq, Inhabited

/-- The object a failure is attributed to. -/
structure FailedObject where
  kind : String
  ns : String
  name : String
  deriving DecidableEq, Inhabited, Repr

namespace Error

/-- Tag an error with the object being acted on. -/
def onResource (e : Error) (kind ns name : String) : Error := .resourceOperation kind ns name e

/-- The message of an error; a wrapper ends with its source's message. -/
def message : Error → String
  | .api f => "Kubernetes API error: " ++ f.text
  | .decode m => "Serialization error: " ++ m
  | .http m _ => "HTTP error: " ++ m
  | .config m => "Configuration error: " ++ m
  | .resourceOperation kind ns name src =>
    "Failed to reconcile " ++ kind ++ " " ++ ns ++ "/" ++ name ++ ": " ++ src.message
  | .databasePreparation m src => m ++ ": " ++ src.message
  | .timeout m => "Timed out: " ++ m
  | .resourceCreation m => m
  | .keycloak m => "Keycloak error: " ++ m
  | .illegalState m => "Illegal state: " ++ m

/-- The chain of causes below an error, outermost first. -/
def causes : Error → List String
  | .api f => f.text :: f.causes
  | .decode m => [m]
  | .http m rest => m :: rest
  | .resourceOperation _ _ _ src => src.message :: src.causes
  | .databasePreparation _ src => src.message :: src.causes
  | _ => []

/-- The message and one `caused by:` line for each cause. -/
def detail (e : Error) : String :=
  e.causes.foldl (fun acc c => acc ++ "\ncaused by: " ++ c) e.message

theorem detail_eq (e : Error) :
    e.detail = e.causes.foldl (fun acc c => acc ++ "\ncaused by: " ++ c) e.message := rfl

/-- The innermost object named by the wrappers of an error. -/
def failedObject : Error → Option FailedObject
  | .resourceOperation kind ns name src =>
    match src.failedObject with
    | some o => some o
    | none => some ⟨kind, ns, name⟩
  | .databasePreparation _ src => src.failedObject
  | _ => none

theorem failedObject_onResource (e : Error) (kind ns name : String) :
    (e.onResource kind ns name).failedObject = (e.failedObject <|> some ⟨kind, ns, name⟩) := by
  simp only [onResource, failedObject]
  cases e.failedObject <;> rfl

/-- An optimistic-lock conflict reported by the API server. -/
def isConflict : Error → Bool
  | .api (.status _ _ _ 409) => true
  | _ => false

/-- The name of the kind of error, as answers show it. -/
def kindName : Error → String
  | .api _ => "Kube"
  | .decode _ => "Serde"
  | .http _ _ => "Http"
  | .config _ => "Config"
  | .resourceOperation .. => "ResourceOperation"
  | .databasePreparation .. => "DatabasePreparation"
  | .timeout _ => "Timeout"
  | .resourceCreation _ => "ResourceCreation"
  | .keycloak _ => "Keycloak"
  | .illegalState _ => "IllegalState"

end Error

end StackOperator
