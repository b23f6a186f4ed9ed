import StackOperator.Config
import StackOperator.Decimal.Literal
import StackOperator.Decimal.Unsigned

/-!
# The operator's command-line options

The operator is configured by long options, each of which may instead come
from an environment variable and may have a default. `operatorOptions` lists
them in the order the help shows them; `--operator-namespace` is required.

An option's value is read according to its kind, and a value that cannot be
read is refused with the reason the reader gives:

* a decimal is a floating-point literal: an optional sign, then `inf`,
  `infinity` or `nan` in any case, or digits with an optional fraction and
  an optional exponent, at least one digit before the exponent;
* a count is an unsigned 64-bit integer, optionally after a `+`;
* a flag is `true` or `false`;
* a compliance mode is `community` or `redhat` in any case.

Main statement: `fault_default`, every default is a value its option's kind reads.
-/

namespace StackOperator.Command

/-- How an option's value is read. -/
inductive ValueKind where
  | text
  | decimal
  | count
  | flag
  | mode
  deriving DecidableEq, Repr

/-- A long option of the command. -/
structure OptionSpec where
  long : String
  help : String := ""
  /-- The environment variable that supplies the value when the option is absent. -/
  env : String
  default : Option String := none
  kind : ValueKind := .text
  required : Bool := false
  deriving Repr

namespace OptionSpec

/-- The placeholder of the value: the name in upper case with underscores. -/
def valueName (o : OptionSpec) : String :=
  String.ofList (o.long.toList.map fun c => if c = '-' then '_' else c.toUpper)

/-- `--name <NAME>`. -/
def display (o : OptionSpec) : String := "--" ++ o.long ++ " <" ++ o.valueName ++ ">"

end OptionSpec

/-- The name of the program. -/
def programName : String := "entando-k8s-operator"

/-- What the program is. -/
def about : String := "Kubernetes operator for Entando apps, Keycloak servers and databases"

/-- The options of the operator, in the order the help shows them. -/
def operatorOptions : List OptionSpec :=
  [{ long := "operator-namespace", env := "OPERATOR_NAMESPACE", required := true,
     help := "Namespace where the operator is deployed (image info, CA secret)" },
   { long := "compliance-mode", env := "ENTANDO_K8S_OPERATOR_COMPLIANCE_MODE", default := some "community",
     kind := .mode, help := "\"community\" or \"redhat\": selects the default DBMS and images" },
   { long := "request-to-limit-ratio", env := "ENTANDO_K8S_OPERATOR_REQUEST_TO_LIMIT_RATIO",
     default := some "0.1", kind := .decimal, help := "Request-to-limit ratio applied to memory and CPU" },
   { long := "memory-request-to-limit-ratio", env := "ENTANDO_K8S_OPERATOR_MEMORY_REQUEST_TO_LIMIT_RATIO",
     kind := .decimal },
   { long := "cpu-request-to-limit-ratio", env := "ENTANDO_K8S_OPERATOR_CPU_REQUEST_TO_LIMIT_RATIO",
     kind := .decimal },
   { long := "impose-limits", env := "ENTANDO_K8S_OPERATOR_IMPOSE_LIMITS", default := some "true",
     kind := .flag, help := "Emit resource limits and requests on containers" },
   { long := "pod-completion-timeout-seconds", env := "ENTANDO_POD_COMPLETION_TIMEOUT_SECONDS",
     default := some "600", kind := .count, help := "Bound on database preparation jobs" },
   { long := "pod-readiness-timeout-seconds", env := "ENTANDO_POD_READINESS_TIMEOUT_SECONDS",
     default := some "600", kind := .count, help := "Bound on waiting for a Ready pod" },
   { long := "pod-poll-interval-millis", env := "ENTANDO_POD_POLL_INTERVAL_MILLIS", default := some "2000",
     kind := .count },
   { long := "default-routing-suffix", env := "ENTANDO_DEFAULT_ROUTING_SUFFIX",
     help := "Host suffix for resources without an ingress host name" },
   { long := "tls-secret-name", env := "ENTANDO_TLS_SECRET_NAME" },
   { long := "ca-secret-name", env := "ENTANDO_CA_SECRET_NAME",
     help := "CA bundle Secret in the operator namespace" },
   { long := "default-storage-class", env := "ENTANDO_DEFAULT_STORAGE_CLASS" },
   { long := "docker-image-info-configmap", env := "ENTANDO_DOCKER_IMAGE_INFO_CONFIGMAP",
     default := some "entando-docker-image-info" },
   { long := "docker-registry-override", env := "ENTANDO_DOCKER_REGISTRY_OVERRIDE" },
   { long := "docker-registry-fallback", env := "ENTANDO_DOCKER_REGISTRY_FALLBACK" },
   { long := "docker-image-org-override", env := "ENTANDO_DOCKER_IMAGE_ORG_OVERRIDE" },
   { long := "docker-image-org-fallback", env := "ENTANDO_DOCKER_IMAGE_ORG_FALLBACK" },
   { long := "docker-image-version-override", env := "ENTANDO_DOCKER_IMAGE_VERSION_OVERRIDE" },
   { long := "docker-image-version-fallback", env := "ENTANDO_DOCKER_IMAGE_VERSION_FALLBACK" },
   { long := "health-probe-bind-address", env := "HEALTH_PROBE_BIND_ADDRESS", default := some ":8081",
     help := "Bind address for health probe endpoints (/healthz, /readyz)" },
   { long := "log-format", env := "LOG_FORMAT", default := some "text",
     help := "Log format: \"text\" for human-readable, \"json\" for structured" }]

/-- Why a text is not a decimal, if it is not. -/
def decimalFault (s : String) : Option String :=
  if s.isEmpty then some "cannot parse float from empty string"
  else if Decimal.isLiteral s then none
  else some "invalid float literal"

/-- The largest unsigned 64-bit integer. -/
def countLimit : Nat := 18446744073709551615

/-- The value of a text that `countFault` accepts. -/
def countValue (s : String) : Nat :=
  match s.toList with
  | '+' :: rest => Decimal.digitsValue rest
  | cs => Decimal.digitsValue cs

/-- Why a text is not a count, if it is not. -/
def countFault (s : String) : Option String :=
  match Decimal.readUnsigned countLimit s with
  | .ok _ => none
  | .error f => some f.message

/-- Why a value of an option cannot be read. -/
inductive ValueFault where
  /-- The reader refused the value for a reason. -/
  | refused (reason : String)
  /-- The value is not one of the possible ones. -/
  | notPossible (possible : List String)
  deriving DecidableEq, Repr

/-- The possible values of a flag. -/
def flagValues : List String := ["true", "false"]

/-- Why a value cannot be read for an option of a kind, if it cannot. -/
def ValueKind.fault : ValueKind → String → Option ValueFault
  | .text, _ => none
  | .decimal, s => (decimalFault s).map .refused
  | .count, s => (countFault s).map .refused
  | .flag, s => if flagValues.contains s then none else some (.notPossible flagValues)
  | .mode, s =>
    match ComplianceMode.parse s with
    | .ok _ => none
    | .error e => some (.refused e.message)

/-- Every option's default is a value its kind reads. -/
theorem fault_default {o : OptionSpec} (listed : o ∈ operatorOptions) {v : String} (given : o.default = some v) :
    o.kind.fault v = none := by
  -- the defaults are read once, all together
  have checked : operatorOptions.all (fun o => o.default.all fun v => (o.kind.fault v).isNone) = true := by
    decide +kernel
  have read := List.all_eq_true.mp checked o listed
  simpa [given] using read

/-- The possible values an option shows, none for most. -/
def ValueKind.possible : ValueKind → List String
  | .flag => flagValues
  | _ => []

end StackOperator.Command
