import StackOperator.Json.Read
import StackOperator.Json.Write
import StackOperator.Json.Decode
import StackOperator.Error
import StackOperator.Config
import StackOperator.K8s.Meta

/-!
# Requests and answers

The library answers requests given as JSON objects, one per line. Each request
names an operation in `op` and carries its inputs as members; a member that is
absent and one that is `null` mean the same. An answer is a JSON object: the
operation's result, or an error object.

An error of the operator is answered with its kind, message, detail, the
object it is attributed to and whether it is an optimistic-lock conflict. A
request that cannot be read as the operation's inputs is answered with kind
`DriverInput` and a message.
-/

namespace StackOperator.Request

open Json

/-- Why a request has no result. -/
inductive Failure where
  /-- The operator failed. -/
  | operator (e : Error)
  /-- The request's inputs are malformed. -/
  | malformed (message : String)
  deriving Inhabited

/-- The result of handling a request or a part of it. -/
abbrev Outcome (α : Type) := Except Failure α

/-- A decoding result as an outcome; a decoding fault is a malformed request. -/
def decoded {α : Type} : Decoded α → Outcome α
  | .ok x => .ok x
  | .error m => .error (.malformed m)

/-- An operator result as an outcome. -/
def ofExcept {α : Type} : Except Error α → Outcome α
  | .ok x => .ok x
  | .error e => .error (.operator e)

/-- Fail with a malformed-request message. -/
def malformed {α : Type} (message : String) : Outcome α := .error (.malformed message)

/-- A member, null when absent. -/
def member (v : Value) (key : String) : Value := (v.field? key).getD .null

/-- A required member. -/
def need {α : Type} (d : Decoder α) (v : Value) (key : String) : Outcome α :=
  match v.field? key with
  | none => malformed (Decode.missingField key)
  | some x => decoded (d x)

/-- An optional member: absent and null are `none`. -/
def maybe {α : Type} (d : Decoder α) (v : Value) (key : String) : Outcome (Option α) :=
  match v.field? key with
  | none => .ok none
  | some x => decoded ((d x).map some)

/-- A member with a default for absent and null. -/
def withDefault {α : Type} (d : Decoder α) (v : Value) (key : String) (dflt : α) : Outcome α :=
  (maybe d v key).map (·.getD dflt)

/-- A member decoded as the operator decodes its own data: a fault is a decoding error. -/
def typed {α : Type} (d : Decoder α) (v : Value) (key : String) : Outcome α :=
  match d (member v key) with
  | .ok x => .ok x
  | .error m => .error (.operator (.decode m))

/-- A member decoded as the operator decodes its own data, with a default
when absent or null. -/
def typedOr {α : Type} (d : Decoder α) (v : Value) (key : String) (dflt : α) : Outcome α :=
  match member v key with
  | .null => .ok dflt
  | _ => typed d v key

/-- An optional member decoded as the operator decodes its own data. -/
def typedMaybe {α : Type} (d : Decoder α) (v : Value) (key : String) : Outcome (Option α) :=
  typedOr (fun x => (d x).map some) v key none

/-- A string member, empty when absent. -/
def text (v : Value) (key : String) : Outcome String := withDefault Decode.string v key ""

/-- A map of strings in key order. -/
def strMap : Decoder (KeyMap String) := Decode.map Decode.string

/-- The error object of an operator failure. -/
def errorValue (e : Error) : Value :=
  .object [("error", .str e.kindName), ("message", .str e.message), ("detail", .str e.detail),
    ("failed_object", match e.failedObject with
      | none => .null
      | some o => .object [("kind", .str o.kind), ("namespace", .str o.ns), ("name", .str o.name)]),
    ("is_conflict", .bool e.isConflict)]

/-- The answer of a failure. -/
def Failure.toValue : Failure → Value
  | .operator e => errorValue e
  | .malformed m => .object [("error", .str "DriverInput"), ("message", .str m)]

/-- An outcome as an answer: the result, or the failure's error object. -/
def answerOf (o : Outcome Value) : Value :=
  match o with
  | .ok v => v
  | .error f => f.toValue

/-- Image coordinates `{registry, organization, version}`. -/
def coordinates (v : Value) : Outcome ImageCoordinates := do
  let registry ← maybe Decode.string v "registry"
  let organization ← maybe Decode.string v "organization"
  let version ← maybe Decode.string v "version"
  pure ⟨registry, organization, version⟩

/-- The operator configuration of a request; absent members keep their
defaults. A compliance mode that is not one is refused as soon as it is
read, before the members after it. -/
def config (v : Value) : Outcome OperatorConfig := do
  let dflt : OperatorConfig := {}
  let operatorNamespace ← withDefault Decode.string v "operator_namespace" dflt.operatorNamespace
  let mode ← maybe Decode.string v "compliance_mode"
  let complianceMode ← match mode with
    | none => pure ComplianceMode.community
    | some s => ofExcept (ComplianceMode.parse s)
  let ratio ← withDefault Decode.f64 v "ratio" 0.1
  let memoryRatio ← maybe Decode.f64 v "memory_ratio"
  let cpuRatio ← maybe Decode.f64 v "cpu_ratio"
  let imposeLimits ← withDefault Decode.bool v "impose_limits" true
  let completion ← withDefault Decode.u64 v "pod_completion_timeout_ms" dflt.podCompletionTimeoutMs
  let readiness ← withDefault Decode.u64 v "pod_readiness_timeout_ms" dflt.podReadinessTimeoutMs
  let poll ← withDefault Decode.u64 v "poll_interval_ms" dflt.pollIntervalMs
  let routing ← maybe Decode.string v "default_routing_suffix"
  let tls ← maybe Decode.string v "default_tls_secret_name"
  let ca ← maybe Decode.string v "ca_secret_name"
  let storage ← maybe Decode.string v "default_storage_class"
  let imageInfo ← withDefault Decode.string v "image_info_config_map" dflt.imageInfoConfigMap
  let overrides ← coordinates (member v "overrides")
  let fallbacks ← coordinates (member v "fallbacks")
  let related ← withDefault strMap v "related_images" .empty
  pure { operatorNamespace, complianceMode, ratios := Ratios.ofParts ratio memoryRatio cpuRatio,
         imposeLimits, podCompletionTimeoutMs := completion, podReadinessTimeoutMs := readiness,
         pollIntervalMs := poll, defaultRoutingSuffix := routing, defaultTlsSecretName := tls,
         caSecretName := ca, defaultStorageClass := storage, imageInfoConfigMap := imageInfo,
         imageOverrides := overrides, imageFallbacks := fallbacks, relatedImages := related.entries }

/-- The `config` member of a request. -/
def configOf (request : Value) : Outcome OperatorConfig := config (member request "config")

/-- A resource reference `{api_version, kind, plural, namespace, name, uid, generation}`. -/
def reference (v : Value) : Outcome K8s.Reference := do
  let apiVersion ← text v "api_version"
  let kind ← text v "kind"
  let plural ← text v "plural"
  let ns ← text v "namespace"
  let name ← text v "name"
  let uid ← text v "uid"
  let generation ← maybe Decode.i64 v "generation"
  pure { apiVersion, kind, plural, ns, name, uid, generation }

/-- The JSON form of a reference, as requests give it. -/
def referenceValue (r : K8s.Reference) : Value :=
  .object [("api_version", .str r.apiVersion), ("kind", .str r.kind), ("plural", .str r.plural),
    ("namespace", .str r.ns), ("name", .str r.name), ("uid", .str r.uid),
    ("generation", match r.generation with | some g => .ofInt g | none => .null)]

end StackOperator.Request
