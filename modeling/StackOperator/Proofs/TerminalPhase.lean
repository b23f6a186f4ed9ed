import StackOperator.Controller.Reconcile
import StackOperator.Proofs.PassEffect

/-!
# The terminal phase of a pass

`reconcileStatus` marks a resource `started`, runs the work of a pass and writes the phase the
pass ends in. This module follows it against the simulated cluster while status writes succeed,
for any work that leaves the observed generation and the status writes alone (`WorkFrame`); which
server statuses the work writes, and what else it does to the cluster, does not matter.

* `reconcileStatus_run_ok`, `reconcileStatus_run_error` — the run of a pass, once the work has
  run, as a closed form: one phase write after a successful work, and after a failed one the
  failure record, unless a status of the pass carries one already, then the `failed` phase.

* `hasFailedSince_eq_any` — only the statuses of the pass count: `hasFailedSince` looks at the
  server statuses started at or after the pass's instant and at nothing else.
* `reconcileStatus_terminal_phase` — the stored phase is `successful` exactly when the work
  succeeded and no status of the pass carries a failure, `failed` otherwise; the pass returns that
  phase with the work's value, or else the work's error; the observed generation becomes the
  target's when it has one and is kept otherwise; and a failed work leaves a failure among the
  statuses of the pass: one the work recorded, or else the main qualifier's status restarted and
  finished at the pass's instant with the failure record of the work's error.
-/

namespace StackOperator

theorem Instant.le_refl (t : Instant) : t ≤ t := Or.inr ⟨rfl, Nat.le_refl _⟩

namespace ResourceStatus

/-- The server statuses that started at or after `since`: those of a pass that started then. -/
def startedSince (r : ResourceStatus) (since : Instant) : List ServerStatus :=
  (r.servers.entries.map (·.2)).filter (·.started.any (since ≤ ·))

/-- A failure counts from `since` on exactly when a server status started since then carries it;
statuses started earlier are not looked at. -/
theorem hasFailedSince_eq_any (r : ResourceStatus) (since : Instant) :
    r.hasFailedSince since = (r.startedSince since).any (·.hasFailed) := by
  simp only [hasFailedSince, startedSince, List.any_filter, List.any_map, Function.comp_def, Bool.and_comm]

theorem all_not_hasFailed (r : ResourceStatus) (since : Instant) :
    (r.startedSince since).all (!·.hasFailed) = !r.hasFailedSince since := by
  rw [hasFailedSince_eq_any, List.not_any_eq_all_not]

/-- A status put under its qualifier is among the statuses of the resource. -/
theorem mem_servers_put (r : ResourceStatus) (s : ServerStatus) : s ∈ (r.put s).servers.entries.map (·.2) :=
  List.mem_map.mpr ⟨(s.qualifier, s), KeyMap.mem_of_get? (serverStatus_put r s), rfl⟩

end ResourceStatus

namespace Cluster

open K8s

/-- The status of a custom resource as stored, empty when none was written. -/
def World.statusOf (w : World) (target : Reference) : ResourceStatus :=
  (w.statuses.get? (statusKey target)).getD {}

/-- A phase write: the call is recorded, and the phase is stored, with the generation when one is
given. -/
def World.withPhase (w : World) (target : Reference) (phase : Phase) (observed : Option Int) : World :=
  { w with calls := w.calls ++ ["update_phase:" ++ phase.name],
           statuses := w.statuses.put (statusKey target)
             { (w.statusOf target) with
               phase := some phase
               observedGeneration := if observed.isSome then observed else (w.statusOf target).observedGeneration } }

@[simp] theorem backend_loadStatus : World.backend.cluster.loadStatus = loadStatus := rfl
@[simp] theorem backend_updatePhase : World.backend.cluster.updatePhase = updatePhase := rfl

@[simp] theorem loadStatus_run (target : Reference) (w : World) :
    ((loadStatus target).run.run w).run = (.ok (w.statusOf target), w) := rfl

@[simp] theorem updatePhase_run (target : Reference) (phase : Phase) (observed : Option Int) (w : World) :
    ((updatePhase target phase observed).run.run w).run = (.ok (), w.withPhase target phase observed) := by
  simp only [updatePhase, Op.bind_run, record_run, modify_run]
  unfold World.withPhase World.statusOf
  rfl

namespace World

variable (w : World) (target : Reference)

@[simp] theorem failStatusWrites_withPhase (phase : Phase) (observed : Option Int) :
    (w.withPhase target phase observed).failStatusWrites = w.failStatusWrites := rfl

theorem statusOf_withPhase (phase : Phase) (observed : Option Int) :
    (w.withPhase target phase observed).statusOf target =
      { (w.statusOf target) with
        phase := some phase
        observedGeneration := observed.or (w.statusOf target).observedGeneration } := by
  simp only [statusOf, withPhase, Store.get?_put_self, Option.getD_some]
  cases observed <;> rfl

/-- A status write that the cluster takes puts the status into the resource's status. -/
theorem statusOf_writeStatus {w : World} (writable : w.failStatusWrites = false) (s : ServerStatus) :
    (w.writeStatus target s).statusOf target = (w.statusOf target).put s := by
  simp [statusOf, writeStatus, writable, Store.get?_put_self]

end World

/-- From `w` to `w'`, the work of a pass leaves alone what the pass itself writes besides the
server statuses: the generation the target's status observes, and whether status writes fail. -/
structure WorkFrame (target : Reference) (w w' : World) : Prop where
  writable : w'.failStatusWrites = w.failStatusWrites
  observedGeneration : (w'.statusOf target).observedGeneration = (w.statusOf target).observedGeneration

end Cluster

namespace Controller

open Cluster Deploy

variable {α : Type}

/-- A pass whose work succeeds in `w'` writes the phase its statuses call for, with the target's
generation. -/
theorem reconcileStatus_run_ok (now : Instant) (target : K8s.Reference) (main : String) {work : Op α}
    {w w' : World} {v : α} (worked : (work.run.run (w.withPhase target .started none)).run = (.ok v, w')) :
    let phase : Phase := if (w'.statusOf target).hasFailedSince now then .failed else .successful
    ((reconcileStatus World.backend.cluster now target main work).run.run w).run =
      (.ok (phase, v), w'.withPhase target phase target.generation) := by
  simp only [reconcileStatus, Op.bind_run, backend_updatePhase, updatePhase_run, attempt_run, worked,
    backend_loadStatus, loadStatus_run]
  rfl

/-- A pass whose work fails in `w'` records the failure on the main qualifier's status unless a
status of the pass already carries one, marks the resource failed and fails with the work's error.
The failure record is written whatever the cluster answers. -/
theorem reconcileStatus_run_error (now : Instant) (target : K8s.Reference) (main : String) {work : Op α}
    {w w' : World} {e : Error} (worked : (work.run.run (w.withPhase target .started none)).run = (.error e, w')) :
    let server := ((w'.statusOf target).serverStatus? main).getD (ServerStatus.startedAt main .web now)
    let restarted := { server with started := some now, finished := none, failure := none }
    let recorded := if (w'.statusOf target).hasFailedSince now then w'
      else w'.writeStatus target (restarted.finishWith (ControllerFailure.ofError e target) now)
    ((reconcileStatus World.backend.cluster now target main work).run.run w).run =
      (.error e, recorded.withPhase target .failed target.generation) := by
  simp only [reconcileStatus, Op.bind_run, backend_updatePhase, updatePhase_run, attempt_run, worked,
    backend_loadStatus, loadStatus_run]
  by_cases failed : (w'.statusOf target).hasFailedSince now = true
  · simp only [failed, Bool.not_true, Bool.false_eq_true, if_false, if_true, Op.bind_run, ignoring_run,
      updatePhase_run]
    rfl
  · simp only [failed, Bool.not_false, if_true, Op.bind_run, ignoring_run, updatePhase_run,
      backend_updateServerStatus, World.updateServerStatus_writes]
    rfl

/-- **The terminal phase of a pass.** Against the simulated cluster, while status writes succeed,
take a work that keeps the observed generation and the status writes working, run in the world
where the pass has marked the resource started; the statuses it writes may have started at any
time. The stored phase is `successful` when the work succeeded and no status started at or after
the pass's instant `now` carries a failure, `failed` otherwise: statuses started before `now` take
no part. The pass returns that phase with the work's value, or the work's error. The observed
generation becomes the target's when it has one and stays otherwise. When the work fails, some
status started since `now` carries a failure: one already there after the work, or else the main
qualifier's status, restarted and finished at `now` with the failure record of the work's error. -/
theorem reconcileStatus_terminal_phase (now : Instant) (target : K8s.Reference) (main : String) (work : Op α)
    (w : World) (writable : w.failStatusWrites = false)
    (confined : ∀ w, WorkFrame target w (work.run.run w).run.2) :
    let run := ((reconcileStatus World.backend.cluster now target main work).run.run w).run
    let worked := (work.run.run (w.withPhase target .started none)).run
    let final := run.2.statusOf target
    let phase : Phase :=
      if worked.1.isOk ∧ (final.startedSince now).all (!·.hasFailed) then .successful else .failed
    final.phase = some phase ∧ run.1 = worked.1.map (phase, ·) ∧
      final.observedGeneration = target.generation.or (w.statusOf target).observedGeneration ∧
      ∀ e, worked.1 = .error e → (final.startedSince now).any (·.hasFailed) ∧
        ((worked.2.statusOf target).hasFailedSince now ∧ final.servers = (worked.2.statusOf target).servers ∨
          let server := ((worked.2.statusOf target).serverStatus? main).getD (ServerStatus.startedAt main .web now)
          final.serverStatus? server.qualifier = some { server with
            started := some now, finished := some now, failure := some (ControllerFailure.ofError e target) }) := by
  dsimp only
  obtain ⟨stillWritable, generation⟩ := confined (w.withPhase target .started none)
  rcases worked : (work.run.run (w.withPhase target .started none)).run with ⟨r, w'⟩
  rw [worked] at stillWritable generation
  simp only [World.failStatusWrites_withPhase, writable] at stillWritable
  simp only [World.statusOf_withPhase, Option.or] at generation
  cases r with
  | ok v =>
    -- the work succeeded: the phase is read off the statuses it left
    rw [reconcileStatus_run_ok now target main worked]
    have recent : ∀ g p, (ResourceStatus.mk g p (w'.statusOf target).servers).startedSince now =
        (w'.statusOf target).startedSince now := fun _ _ => rfl
    simp only [World.statusOf_withPhase, recent, ResourceStatus.all_not_hasFailed]
    cases (w'.statusOf target).hasFailedSince now <;> simp [generation, Except.map, Except.isOk, Except.toBool]
  | error e =>
    rw [reconcileStatus_run_error now target main worked]
    by_cases failed : (w'.statusOf target).hasFailedSince now = true
    · -- a status of the pass carries a failure already, and the statuses are left as they are
      have recent : ∀ g p, (ResourceStatus.mk g p (w'.statusOf target).servers).startedSince now =
          (w'.statusOf target).startedSince now := fun _ _ => rfl
      simp only [if_pos failed, World.statusOf_withPhase, recent]
      refine ⟨by simp [Except.isOk, Except.toBool], rfl, by rw [generation], fun _ same => ?_⟩
      cases same
      exact ⟨by rw [← ResourceStatus.hasFailedSince_eq_any]; exact failed, Or.inl ⟨failed, trivial⟩⟩
    · -- the failure is recorded on the main qualifier's status, restarted at the pass's instant
      let server := ((w'.statusOf target).serverStatus? main).getD (ServerStatus.startedAt main .web now)
      let written : ServerStatus := { server with
        started := some now, finished := some now, failure := some (ControllerFailure.ofError e target) }
      simp only [if_neg failed, World.statusOf_withPhase, World.statusOf_writeStatus target stillWritable]
      have ofPass : written ∈ ((w'.statusOf target).put written).startedSince now :=
        List.mem_filter.mpr ⟨ResourceStatus.mem_servers_put _ _, by simp [written, Instant.le_refl]⟩
      refine ⟨by simp [Except.isOk, Except.toBool], rfl, by rw [← generation]; rfl, fun _ same => ?_⟩
      cases same
      exact ⟨List.any_eq_true.mpr ⟨written, ofPass, rfl⟩, Or.inr (ResourceStatus.serverStatus_put _ written)⟩

/-- A pass whose work fails, over a resource whose main status still carries the failure of an
earlier pass. -/
theorem reconcileStatus_terminal_phase_over_old_failure :
    let now : Instant := ⟨0, 0⟩
    let target : K8s.Reference := { name := "app", ns := "apps", generation := some 2 }
    let old : ServerStatus := { qualifier := "server", started := some ⟨-60, 0⟩,
                                failure := some { message := "earlier", detailMessage := "earlier" } }
    let w : World := { statuses := [(statusKey target, { servers := .singleton "server" old })] }
    let work : Op Unit := throw (.config "no database")
    w.failStatusWrites = false ∧ (∀ w, WorkFrame target w (work.run.run w).run.2) ∧
    let run := ((reconcileStatus World.backend.cluster now target "server" work).run.run w).run
    let worked := (work.run.run (w.withPhase target .started none)).run
    let final := run.2.statusOf target
    let phase : Phase :=
      if worked.1.isOk ∧ (final.startedSince now).all (!·.hasFailed) then .successful else .failed
    final.phase = some phase ∧ run.1 = worked.1.map (phase, ·) ∧
      final.observedGeneration = target.generation.or (w.statusOf target).observedGeneration ∧
      ∀ e, worked.1 = .error e → (final.startedSince now).any (·.hasFailed) ∧
        ((worked.2.statusOf target).hasFailedSince now ∧ final.servers = (worked.2.statusOf target).servers ∨
          let server := ((worked.2.statusOf target).serverStatus? "server").getD
            (ServerStatus.startedAt "server" .web now)
          final.serverStatus? server.qualifier = some { server with
            started := some now, finished := some now, failure := some (ControllerFailure.ofError e target) }) := by
  intro now target old w work
  exact ⟨rfl, fun _ => ⟨rfl, rfl⟩,
    reconcileStatus_terminal_phase now target "server" work w rfl fun _ => ⟨rfl, rfl⟩⟩

end Controller

end StackOperator
