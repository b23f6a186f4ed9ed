import StackOperator.Command.Parse
import StackOperator.Command.Cluster
import StackOperator.Net.Address
import StackOperator.KeyMap

/-!
# Starting the operator

The command line and the environment decide how the operator starts:

* with `--help` or `-h` it prints the help and exits with status 0;
* a command line it refuses is reported on the error stream with status 2;
* a health probe address that is no socket address is reported with
  status 1; the address `:port` stands for `0.0.0.0:port`;
* without a cluster to work on, neither from a kubeconfig file nor from
  inside one, it reports both reasons with status 1;
* otherwise it serves with the configuration the options give, and with
  the images named by the `RELATED_IMAGE_` variables that are not empty.

Main statement: `launch_serves_socketAddress`, the operator serves its health
probes only at a socket address.
-/

namespace StackOperator.Command

/-- How the operator starts. -/
inductive Launch where
  /-- Print the help and exit successfully. -/
  | help (text : String)
  /-- Refuse the command line. -/
  | refused (message : String)
  /-- Stop before starting, with an error. -/
  | failed (message : String)
  /-- Serve with a configuration, answering health probes at an address. -/
  | serve (config : OperatorConfig) (health : String)

/-- The exit status of a start that ends at once. -/
def Launch.exitCode? : Launch → Option Nat
  | .help _ => some 0
  | .refused _ => some 2
  | .failed _ => some 1
  | .serve _ _ => none

/-- The address the health probes listen on: `:port` is `0.0.0.0:port`. -/
def healthAddress (given : String) : String :=
  if given.startsWith ":" then "0.0.0.0:" ++ (given.drop 1).toString else given

/-- The report of a health probe address that is no socket address. -/
def badHealthAddress : String :=
  "Error: invalid --health-probe-bind-address\n\nCaused by:\n    invalid socket address syntax\n"

/-- The prefix of the variables that name related images. -/
def relatedImagePrefix : String := "RELATED_IMAGE_"

/-- The related images the environment names, by the rest of the variable's name. -/
def relatedImages (env : Environment) : KeyMap String :=
  KeyMap.ofList (env.filterMap fun (k, v) =>
    if k.startsWith relatedImagePrefix && !v.isEmpty then
      some ((k.drop relatedImagePrefix.length).toString, v)
    else none)

/-- The configuration the values of the options give. -/
def configOf (env : Environment) (values : List (String × String)) : OperatorConfig :=
  let opt (name : String) := values.lookup name
  let text (name : String) := (opt name).getD ""
  let count (name : String) := countValue (text name)
  { operatorNamespace := text "operator-namespace"
    complianceMode := match ComplianceMode.parse (text "compliance-mode") with
      | .ok m => m
      | .error _ => .community
    ratios := Ratios.ofParts (Decimal.value (text "request-to-limit-ratio"))
      ((opt "memory-request-to-limit-ratio").map Decimal.value)
      ((opt "cpu-request-to-limit-ratio").map Decimal.value)
    imposeLimits := text "impose-limits" == "true"
    podCompletionTimeoutMs := count "pod-completion-timeout-seconds" * 1000
    podReadinessTimeoutMs := count "pod-readiness-timeout-seconds" * 1000
    pollIntervalMs := count "pod-poll-interval-millis"
    defaultRoutingSuffix := opt "default-routing-suffix"
    defaultTlsSecretName := opt "tls-secret-name"
    caSecretName := opt "ca-secret-name"
    defaultStorageClass := opt "default-storage-class"
    imageInfoConfigMap := text "docker-image-info-configmap"
    imageOverrides := ⟨opt "docker-registry-override", opt "docker-image-org-override",
      opt "docker-image-version-override"⟩
    imageFallbacks := ⟨opt "docker-registry-fallback", opt "docker-image-org-fallback",
      opt "docker-image-version-fallback"⟩
    relatedImages := (relatedImages env).entries }

/-- How the operator starts with a command line in an environment, reaching
its cluster as `access` says. -/
def launch (env : Environment) (args : List String) (access : ClusterAccess) : Launch :=
  match parse env args with
  | .error .help => .help (helpText env)
  | .error (.refused e) => .refused e.render
  | .ok values =>
    let health := healthAddress ((values.lookup "health-probe-bind-address").getD "")
    if !Net.isSocketAddress health then .failed badHealthAddress
    else match access with
      | .missing inCluster kubeconfig => .failed (noClusterReport inCluster kubeconfig)
      | .found => .serve (configOf env values) health

/-- The operator serves its health probes only at a socket address. -/
theorem launch_serves_socketAddress {env : Environment} {args : List String} {access : ClusterAccess}
    {config : OperatorConfig} {health : String} (serving : launch env args access = .serve config health) :
    Net.isSocketAddress health = true := by
  unfold launch at serving
  split at serving
  · cases serving
  · cases serving
  · -- the address is checked before the cluster is looked at
    dsimp only at serving
    split at serving
    · cases serving
    · rename_i checked
      split at serving
      · cases serving
      · cases serving
        simpa using checked

end StackOperator.Command
