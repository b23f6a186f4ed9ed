import StackOperator.K8s.Pod

/-!
# Deployments and Jobs

A Deployment keeps a number of replicas of a pod template running; its status
says how far a rollout has come. A Job runs its pods to completion once; its
status counts the pods that succeeded, failed or are still running, and
`Job.phase` names the outcome.
-/

namespace StackOperator.K8s

open Json

/-- The specification of a Deployment. -/
structure DeploymentSpec where
  replicas : Option Int := none
  /-- The labels that select the Deployment's pods. -/
  matchLabels : Option (KeyMap String) := none
  /-- `RollingUpdate` or `Recreate`. -/
  strategy : Option String := none
  template : PodTemplateSpec := {}
  deriving DecidableEq, Inhabited, Repr

/-- How far a Deployment's rollout has come. -/
structure DeploymentStatus where
  observedGeneration : Option Int := none
  replicas : Option Int := none
  updatedReplicas : Option Int := none
  availableReplicas : Option Int := none
  deriving DecidableEq, Inhabited, Repr

/-- A Deployment. -/
structure Deployment where
  metadata : ObjectMeta := {}
  spec : Option DeploymentSpec := none
  status : Option DeploymentStatus := none
  deriving DecidableEq, Inhabited, Repr

namespace Deployment

/-- The JSON form of a Deployment. -/
def toValue (d : Deployment) : Value :=
  .build [("apiVersion", some (.str "apps/v1")), ("kind", some (.str "Deployment")),
    ("metadata", some d.metadata.toValue),
    ("spec", d.spec.map fun s => .build [("replicas", s.replicas.map .ofInt),
      ("selector", some (.build [("matchLabels", s.matchLabels.map KeyMap.toValue)])),
      ("strategy", s.strategy.map fun t => .object [("type", .str t)]),
      ("template", some s.template.toValue)]),
    ("status", d.status.map fun s => .build [("observedGeneration", s.observedGeneration.map .ofInt),
      ("replicas", s.replicas.map .ofInt), ("updatedReplicas", s.updatedReplicas.map .ofInt),
      ("availableReplicas", s.availableReplicas.map .ofInt)])]

end Deployment

/-- The specification of a Job. -/
structure JobSpec where
  backoffLimit : Option Int := none
  ttlSecondsAfterFinished : Option Int := none
  activeDeadlineSeconds : Option Int := none
  template : PodTemplateSpec := {}
  deriving DecidableEq, Inhabited, Repr

/-- How many of a Job's pods succeeded, failed or are running. -/
structure JobStatus where
  succeeded : Option Int := none
  failed : Option Int := none
  active : Option Int := none
  deriving DecidableEq, Inhabited, Repr

/-- A Job. -/
structure Job where
  metadata : ObjectMeta := {}
  spec : Option JobSpec := none
  status : Option JobStatus := none
  deriving DecidableEq, Inhabited, Repr

namespace Job

/-- The JSON form of a Job. -/
def toValue (j : Job) : Value :=
  .build [("apiVersion", some (.str "batch/v1")), ("kind", some (.str "Job")),
    ("metadata", some j.metadata.toValue),
    ("spec", j.spec.map fun s => .build [("backoffLimit", s.backoffLimit.map .ofInt),
      ("ttlSecondsAfterFinished", s.ttlSecondsAfterFinished.map .ofInt),
      ("activeDeadlineSeconds", s.activeDeadlineSeconds.map .ofInt),
      ("template", some s.template.toValue)]),
    ("status", j.status.map fun s => .build [("succeeded", s.succeeded.map .ofInt),
      ("failed", s.failed.map .ofInt), ("active", s.active.map .ofInt)])]

/-- A count of the status, zero when absent. -/
def count (j : Job) (field : JobStatus → Option Int) : Int :=
  (j.status.bind field).getD 0

/-- The outcome of a Job: a success wins over a failure, a failure over a running pod. -/
def phase (j : Job) : String :=
  if j.count (·.succeeded) > 0 then "Succeeded"
  else if j.count (·.failed) > 0 then "Failed"
  else if j.count (·.active) > 0 then "Running"
  else "Pending"

/-- Has the Job finished, one way or the other? -/
def isFinished (j : Job) : Bool := j.phase == "Succeeded" || j.phase == "Failed"

end Job

end StackOperator.K8s
