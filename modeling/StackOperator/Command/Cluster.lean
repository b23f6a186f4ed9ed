import StackOperator.Command.Help
import StackOperator.Disk
import StackOperator.Net.Address
import StackOperator.Net.Uri
import StackOperator.Decimal.Unsigned
import StackOperator.Text.Quoted

/-!
# Finding the cluster

The operator works on the cluster its environment leads to. It first tries
its kubeconfig files: the paths that `KUBECONFIG` lists, separated by colons
with empty ones skipped, or else `.kube/config` in the home directory. The
files are read in turn and the first that cannot be read is the fault; files
that hold nothing name no current context, and a file that holds a
configuration is taken to name a cluster.

When the kubeconfig files fail it tries the cluster it runs in: the
variables `KUBERNETES_SERVICE_HOST` and `KUBERNETES_SERVICE_PORT` must both
be set, the port must be a number below 65536, the service address
`https://host:port` must be a URI (the port left out when it is 443; an IP
address always makes one), and the service account's namespace and
certificate files must be readable.

When both fail, the start stops and reports both reasons, then the chain of
causes of the kubeconfig's.

Main statement: `readKubeconfigs_ok`, the kubeconfig files lead to a cluster
exactly when each of them reads and one holds something.
-/

namespace StackOperator.Command

/-- Why the cluster the operator runs in cannot be used. -/
inductive InClusterFault where
  /-- A service variable is not set. -/
  | variableMissing
  /-- The service port is not a port number. -/
  | badPort (fault : Decimal.UnsignedFault)
  /-- The service address is not a URI. -/
  | badUrl (fault : Net.UriFault)
  /-- The service account's namespace file cannot be read. -/
  | namespaceUnread (fault : Fault)
  /-- The service account's certificate file cannot be read. -/
  | certificateUnread (fault : Fault)
  deriving DecidableEq, Repr

/-- The report of an in-cluster fault. -/
def InClusterFault.message : InClusterFault → String
  | .variableMissing => "failed to read an incluster environment variable: environment variable not found"
  | .badPort f => "failed to parse cluster port: " ++ f.message
  | .badUrl f => "failed to parse cluster url: " ++ f.message
  | .namespaceUnread f => "failed to read the default namespace: " ++ f.message
  | .certificateUnread f => "failed to read a certificate bundle: " ++ f.message

/-- Why the kubeconfig files name no cluster. -/
inductive KubeconfigFault where
  /-- A file cannot be read. -/
  | unreadable (path : String) (fault : Fault)
  /-- The files name no current context. -/
  | noCurrentContext
  deriving DecidableEq, Repr

/-- The report of a kubeconfig fault. -/
def KubeconfigFault.message : KubeconfigFault → String
  | .unreadable path f => "failed to read kubeconfig from '" ++ Text.quoted path ++ "': " ++ f.message
  | .noCurrentContext => "failed to determine current context"

/-- The causes below a kubeconfig fault, outermost first. -/
def KubeconfigFault.causes : KubeconfigFault → List String
  | .unreadable _ f => [f.message]
  | .noCurrentContext => []

/-- How the operator reaches the cluster it works on. -/
inductive ClusterAccess where
  /-- Through a kubeconfig file or from inside the cluster. -/
  | found
  /-- Neither way, for these reasons. -/
  | missing (inCluster : InClusterFault) (kubeconfig : KubeconfigFault)
  deriving DecidableEq, Repr

/-- Causes, each on its own line after its number. -/
def numberedCauses (i : Nat) : List String → String
  | [] => ""
  | c :: rest => "    " ++ toString i ++ ": " ++ c ++ "\n" ++ numberedCauses (i + 1) rest

/-- The report of a start without a cluster: the error, then the chain of
its causes. -/
def noClusterReport (inCluster : InClusterFault) (kubeconfig : KubeconfigFault) : String :=
  let inferred := "failed to infer config: in-cluster: (" ++ inCluster.message ++ "), kubeconfig: (" ++
    kubeconfig.message ++ ")"
  "Error: Failed to infer configuration: " ++ inferred ++ "\n\nCaused by:\n" ++
    numberedCauses 0 (inferred :: kubeconfig.message :: kubeconfig.causes)

/-- The variables of the environment that lead to the cluster. -/
def clusterVariables : List String :=
  ["KUBECONFIG", "HOME", "KUBERNETES_SERVICE_HOST", "KUBERNETES_SERVICE_PORT"]

/-- The kubeconfig files to read: the paths listed, or else the one in the
home directory. -/
def kubeconfigFiles (listed : List String) (home : String) : List String :=
  if listed.isEmpty then [joinPath (joinPath home ".kube") "config"] else listed

/-- The kubeconfig files of an environment: the paths `KUBECONFIG` lists
between colons, empty ones skipped, or else the one in the home directory. -/
def kubeconfigPaths (env : Environment) : List String :=
  kubeconfigFiles ((((env.lookup "KUBECONFIG").getD "").splitOn ":").filter (!·.isEmpty))
    ((env.lookup "HOME").getD "")

/-- The file that holds the service account's namespace. -/
def namespacePath : String := "/var/run/secrets/kubernetes.io/serviceaccount/namespace"

/-- The file that holds the cluster's certificates. -/
def certificatePath : String := "/var/run/secrets/kubernetes.io/serviceaccount/ca.crt"

/-- Read the kubeconfig files in turn. -/
def readKubeconfigs (read : String → Except Fault String) : List String → Bool → Except KubeconfigFault Unit
  | [], named => if named then .ok () else .error .noCurrentContext
  | path :: rest, named =>
    match read path with
    | .error f => .error (.unreadable path f)
    | .ok contents => readKubeconfigs read rest (named || !contents.isEmpty)

/-- The kubeconfig files name a cluster exactly when every one of them reads and one holds
something (or one read earlier did). -/
theorem readKubeconfigs_ok {read : String → Except Fault String} :
    ∀ (paths : List String) (named : Bool),
      readKubeconfigs read paths named = .ok () ↔
        (∀ p ∈ paths, ∃ contents, read p = .ok contents) ∧
          (named = true ∨ ∃ p ∈ paths, ∃ contents, read p = .ok contents ∧ contents ≠ "")
  | [], named => by cases named <;> simp [readKubeconfigs]
  | p :: rest, named => by
    rw [readKubeconfigs]
    cases reading : read p with
    | error f =>
      -- the first file that cannot be read is the fault
      simp only [reduceCtorEq, false_iff, not_and]
      intro each
      obtain ⟨c, readOk⟩ := each p List.mem_cons_self
      rw [reading] at readOk
      cases readOk
    | ok contents =>
      have each : (∀ q ∈ p :: rest, ∃ c, read q = .ok c) ↔ ∀ q ∈ rest, ∃ c, read q = .ok c := by
        simp [reading]
      have oneHolds : (∃ q ∈ p :: rest, ∃ c, read q = .ok c ∧ c ≠ "") ↔
          contents ≠ "" ∨ ∃ q ∈ rest, ∃ c, read q = .ok c ∧ c ≠ "" := by
        simp [reading]
      have holds : (named || !contents.isEmpty) = true ↔ named = true ∨ contents ≠ "" := by
        simp
      rw [readKubeconfigs_ok rest, each, oneHolds, holds, or_assoc]

/-- Why the service address is not a URI, if it is not. -/
def serviceUrlFault? (host : String) (port : Nat) : Option Net.UriFault :=
  if Net.isIpAddress host then none
  else Net.httpsFault? (if port = 443 then host else host ++ ":" ++ toString port)

/-- Try the cluster the operator runs in. -/
def inCluster (env : Environment) (read : String → Except Fault String) : Except InClusterFault Unit := do
  let some host := env.lookup "KUBERNETES_SERVICE_HOST" | throw .variableMissing
  let some portText := env.lookup "KUBERNETES_SERVICE_PORT" | throw .variableMissing
  let port ← (Decimal.readUnsigned 65535 portText).mapError .badPort
  if let some f := serviceUrlFault? host port then throw (.badUrl f)
  if let .error f := read namespacePath then throw (.namespaceUnread f)
  if let .error f := read certificatePath then throw (.certificateUnread f)

/-- How the operator reaches its cluster in an environment, reading files
with `read`: the kubeconfig files first, then from inside the cluster. -/
def findCluster (env : Environment) (read : String → Except Fault String) : ClusterAccess :=
  match readKubeconfigs read (kubeconfigPaths env) false with
  | .ok () => .found
  | .error kubeconfig =>
    match inCluster env read with
    | .ok () => .found
    | .error f => .missing f kubeconfig

end StackOperator.Command
