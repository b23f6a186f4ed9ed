import StackOperator.Controller.Deploy
import StackOperator.Controller.Reconcile

/-!
# Handling a resource

The controller of each kind hands every resource it sees to `handle`.

* A resource whose current generation is deployed is left until it changes.
* A resource whose current generation failed less than thirty seconds ago is
  looked at again once they are over, so that the status writes of the
  failed pass do not start the next one at once.
* Any other resource gets a pass around its deployment, with failures
  recorded on its main qualifier. A pass that succeeds leaves the resource
  until it changes; one in which a server status recorded a failure is
  retried after thirty seconds; one that fails fails the handling.

Main statement: `handle_upToDate`, a deployed resource is left alone without
a single call.
-/

namespace StackOperator.Controller

open Cluster Deploy

/-- A resource the operator manages. -/
inductive Managed where
  | app (a : App)
  | keycloakServer (s : KeycloakServer)
  | databaseService (s : DatabaseService)

/-- What the controller does next with a resource. -/
inductive Requeue where
  /-- Wait until the resource changes. -/
  | awaitChange
  /-- Look at the resource again after this many nanoseconds. -/
  | after (nanos : Nat)
  deriving DecidableEq, Repr

namespace Managed

/-- The identity of the resource. -/
def reference : Managed → K8s.Reference
  | .app a => a.reference
  | .keycloakServer s => s.reference
  | .databaseService s => s.reference

/-- Whether the current generation has been deployed successfully. -/
def isUpToDate : Managed → Bool
  | .app a => a.isUpToDate
  | .keycloakServer s => s.isUpToDate
  | .databaseService s => s.isUpToDate

/-- How long the resource still waits after a failure, in nanoseconds. -/
def failureBackoff (now : Instant) : Managed → Option Nat
  | .app a => a.failureBackoff now
  | .keycloakServer s => s.failureBackoff now
  | .databaseService s => s.failureBackoff now

/-- Deploy the resource. -/
def deploy {n : Type → Type} [Monad n] (b : Backend n) (rt : Runtime) : Managed → ExceptT Error n Unit
  | .app a => deployApp b rt a
  | .keycloakServer s => deployKeycloakServer b rt s
  | .databaseService s => deployDatabaseService b.cluster rt s

end Managed

/-- Handle a resource with `work` as its deployment, recording failures on
`mainQualifier`. -/
def handle {n : Type → Type} [Monad n] (api : ClusterApi n) (now : Instant) (m : Managed)
    (mainQualifier : String) (work : ExceptT Error n Unit) : ExceptT Error n Requeue := do
  if m.isUpToDate then return .awaitChange
  match m.failureBackoff now with
  | some wait => return .after wait
  | none =>
    let (phase, _) ← reconcileStatus api now m.reference mainQualifier work
    pure (if phase == .successful then .awaitChange else .after Resource.failureBackoffNanos)

theorem handle_upToDate {n : Type → Type} [Monad n] [LawfulMonad n] (api : ClusterApi n) (now : Instant)
    (m : Managed) (mainQualifier : String) (work : ExceptT Error n Unit) (h : m.isUpToDate = true) :
    handle api now m mainQualifier work = pure .awaitChange := by
  simp [handle, h]

end StackOperator.Controller
