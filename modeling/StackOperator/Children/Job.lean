import StackOperator.K8s.Workload

/-!
# Run-to-completion Jobs

The operator runs one-off work, such as preparing database schemas, as Jobs
owned by a custom resource. Kubernetes never retries them (`backoffLimit: 0`):
a failed run is reported to the reconciliation, which owns the retry policy.
Finished Jobs are removed by the cluster after fifteen minutes. The server
names each Job from a prefix.
-/

namespace StackOperator.Children

open K8s

/-- What a Job is made from. -/
structure JobPlan where
  /-- The prefix the server completes into the Job's name. -/
  generateName : String
  owner : Reference
  labels : KeyMap String := .empty
  containers : List Container := []
  /-- Seconds after which a running Job is stopped. -/
  activeDeadline : Option Int := none
  deriving Inhabited

namespace JobPlan

/-- Add labels; a label given again takes the new value. -/
def withLabels (p : JobPlan) (labels : KeyMap String) : JobPlan :=
  { p with labels := KeyMap.union p.labels labels }

/-- The Job: labelled on itself and on its pods, owned, never retried. -/
def build (p : JobPlan) : Job :=
  { metadata := { generateName := some p.generateName, ns := some p.owner.ns,
                  labels := some p.labels, ownerReferences := some [p.owner.ownerReference] },
    spec := some { backoffLimit := some 0, ttlSecondsAfterFinished := some 900,
                   activeDeadlineSeconds := p.activeDeadline,
                   template := { metadata := some { labels := some p.labels },
                                 spec := some { containers := p.containers,
                                                restartPolicy := some "Never" } } } }

end JobPlan

end StackOperator.Children
