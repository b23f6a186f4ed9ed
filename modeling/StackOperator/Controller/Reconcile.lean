import StackOperator.Deploy.Pass

/-!
# Reconciling a resource

A pass over a resource marks it `started`, runs the work and writes the
terminal phase together with the generation it reflects. The phase is
`failed` when a server status that started during the pass recorded a
failure, `successful` otherwise.

When the work fails, the failure is recorded on the main qualifier's status
unless a step of the pass recorded one already; that status is restarted at
the pass's instant so that it counts as this pass's. The phase becomes
`failed`, and the pass fails with the work's error. Writes that fail while a
failure is being recorded are ignored.
-/

namespace StackOperator.Controller

open Cluster Deploy

/-- Run a pass of `work` over the resource `target` at instant `now`, with
`mainQualifier` the qualifier that a failure is recorded on. -/
def reconcileStatus {n : Type → Type} [Monad n] {α : Type} (api : ClusterApi n) (now : Instant)
    (target : K8s.Reference) (mainQualifier : String) (work : ExceptT Error n α) :
    ExceptT Error n (Phase × α) := do
  api.updatePhase target .started none
  match ← attempt work with
  | .ok v =>
    let status ← api.loadStatus target
    let phase : Phase := if status.hasFailedSince now then .failed else .successful
    api.updatePhase target phase target.generation
    pure (phase, v)
  | .error e =>
    let status := match ← attempt (api.loadStatus target) with
      | .ok s => s
      | .error _ => {}
    if !status.hasFailedSince now then
      let server := (status.serverStatus? mainQualifier).getD (ServerStatus.startedAt mainQualifier .web now)
      let restarted := { server with started := some now, finished := none, failure := none }
      ignoring (api.updateServerStatus target (restarted.finishWith (ControllerFailure.ofError e target) now))
    ignoring (api.updatePhase target .failed target.generation)
    throw e

end StackOperator.Controller
