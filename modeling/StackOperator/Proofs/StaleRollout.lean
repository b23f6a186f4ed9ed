import StackOperator.Proofs.PassEffect
import StackOperator.Proofs.ObjectReferences

/-!
# A rollout held back by the pods of an earlier template

The simulated cluster can hold the pods of every Deployment back (`podsReady` off) while pods of
an earlier template linger (`stalePods`), ready or not, in any namespace and under any labels. Its
rollout status then counts the ready stale pods as the available replicas and adds them to the
replicas, so the rollout check of a pass holds only when no stale pod is ready and the Deployment
wants no replica at all (`rolledOut_unready_iff`). Even then the selector lists no ready pod, so
the wait for one never ends with a pod (`readyPodIn_unready`), whatever the stale pods and the
replica count, zero and negative counts included.

Main statement: `execute_unready_outcome`. On such a cluster a pass never succeeds. A pass that
gets past step 8 fails with the wait's timeout on its Deployment `<owner>-<qualifier>-deployment`.
When the cluster takes status writes, the status it stores names that Deployment as the failed
object and records the phase of each pod the selector listed. Pod phases are kept by pod name, so
a listed pod is only recorded when no later listed pod has its name; of two listed pods of one
name the later one wins. The simulated cluster lists its own pod, `<label value>-pod`, after the
stale ones, and a stale pod of that name loses its phase (`stalePod_phase_replaced`).
-/

namespace StackOperator.Deploy

open Cluster K8s

/-! ## The rollout status of held-back pods -/

/-- With pods held back, a Deployment counts as rolled out exactly when no stale pod is ready and it
wants at most zero replicas. -/
theorem rolledOut_unready_iff {w : World} (unready : w.podsReady = false) (dep : Deployment) :
    rolledOut { dep with status := some (rolloutStatus w dep) } = true ↔
      (∀ p ∈ w.stalePods, p.isReady = false) ∧ (dep.spec.bind (·.replicas)).getD 1 ≤ 0 := by
  have counted : ((w.stalePods.filter (·.isReady)).length : Int) = 0 ↔
      ∀ p ∈ w.stalePods, p.isReady = false := by
    simp [List.filter_eq_nil_iff]
  unfold rolledOut rolloutStatus
  -- the generation is always observed; what is left is the arithmetic of the replica counts
  cases dep.metadata.generation <;> simp [unready] <;> rw [← counted] <;> omega

/-- A selector lists no ready pod while pods are held back and no stale pod is ready. -/
theorem find?_isReady_podsOf {w : World} (unready : w.podsReady = false)
    (stale : ∀ p ∈ w.stalePods, p.isReady = false) (ns selector : String) :
    (podsOf w ns selector).find? (·.isReady) = none := by
  rw [List.find?_eq_none]
  intro p listed
  simp [podsOf, unready] at listed
  rcases listed with ⟨kept, -⟩ | rfl
  · simp [stale p kept]
  · simp [pendingPod, Pod.isReady]

/-- While pods are held back the readiness probe finds no pod, whatever the stale pods and the
replica count. -/
theorem readyPodIn_unready {w : World} (unready : w.podsReady = false) (ns name selector : String) :
    readyPodIn w ns name selector = none := by
  unfold readyPodIn
  cases w.deployments.get? ⟨ns, name⟩ with
  | none => rfl
  | some dep =>
    cases rolled : rolledOut { dep with status := some (rolloutStatus w dep) } with
    | false => simp [rolled]
    | true =>
      -- rolled out only with no ready stale pod, and then the listed pods have none either
      have stale := ((rolledOut_unready_iff unready dep).1 rolled).1
      simp [find?_isReady_podsOf unready stale]

/-! ## The pod phases step 9 records -/

theorem get?_recordPhases_of_absent (pods : List Pod) (phases : KeyMap String) {name : String}
    (absent : ∀ q ∈ pods, nameOf q.metadata ≠ name) :
    (recordPhases pods phases).get? name = phases.get? name := by
  induction pods generalizing phases with
  | nil => rfl
  | cons q rest ih =>
    have other : name ≠ nameOf q.metadata := (absent q (.head rest)).symm
    calc (recordPhases (q :: rest) phases).get? name
        = (recordPhases rest (phases.put (nameOf q.metadata) q.phase)).get? name := rfl
      _ = (phases.put (nameOf q.metadata) q.phase).get? name :=
          ih _ fun q' mem => absent q' (.tail q mem)
      _ = phases.get? name := KeyMap.get?_put_ne _ _ other

/-- A listed pod that no later listed pod shares its name with keeps its phase. -/
theorem get?_recordPhases_of_last (before after : List Pod) (p : Pod) (phases : KeyMap String)
    (later : ∀ q ∈ after, nameOf q.metadata ≠ nameOf p.metadata) :
    (recordPhases (before ++ p :: after) phases).get? (nameOf p.metadata) = some p.phase := by
  have split : recordPhases (before ++ p :: after) phases =
      recordPhases after ((recordPhases before phases).put (nameOf p.metadata) p.phase) := by
    simp only [recordPhases, List.foldl_append, List.foldl_cons]
  rw [split, get?_recordPhases_of_absent _ _ later, KeyMap.get?_put_self]

/-! ## A pass on a cluster that holds its pods back -/

/-- Steps 1 to 8 change neither the stale pods nor whether pods are held back, so the selector
lists the same pods after them. -/
theorem podsOf_throughDeployment (rt : Runtime) (images : ImageResolver) (d : Deployable) (w : World)
    (ns selector : String) : podsOf (throughDeployment rt images d w).2 ns selector = podsOf w ns selector := by
  obtain ⟨-, ready, -, stale⟩ := stepsEffect_knobs rt images d w
  rw [throughDeployment_snd]
  unfold podsOf
  rw [ready, stale]

theorem throughDeployment_unready (rt : Runtime) (images : ImageResolver) (d : Deployable) {w : World}
    (unready : w.podsReady = false) : (throughDeployment rt images d w).2.podsReady = false := by
  rw [throughDeployment_snd, (stepsEffect_knobs rt images d w).2.1, unready]

/-- Steps that get past step 8 end as the wait does. -/
theorem stepsEffect_of_reached (rt : Runtime) (images : ImageResolver) (d : Deployable) (w : World)
    (reached : (throughDeployment rt images d w).1 = .ok ()) :
    (stepsEffect rt images d w).1 = readinessOutcome rt d (throughDeployment rt images d w).2 := by
  rw [stepsEffect_eq_wait]
  rcases stepped : throughDeployment rt images d w with ⟨_ | ⟨⟩, w'⟩
  · rw [stepped] at reached
    cases reached
  · rfl

theorem readinessOutcome_unready (rt : Runtime) (d : Deployable) {w : World} (unready : w.podsReady = false) :
    readinessOutcome rt d w = .error ((timedOut ("waiting for a Ready pod of Deployment " ++ d.owner.ns ++ "/" ++
      d.deploymentName) rt.config.podReadinessTimeoutMs).onResource "Deployment" d.owner.ns d.deploymentName) := by
  rw [readinessOutcome, readyPodIn_unready unready]

theorem stepsEffect_unready (rt : Runtime) (images : ImageResolver) (d : Deployable) {w : World}
    (unready : w.podsReady = false) : ∃ e, (stepsEffect rt images d w).1 = .error e := by
  have ready := throughDeployment_unready rt images d unready
  rw [stepsEffect_eq_wait]
  rcases stepped : throughDeployment rt images d w with ⟨_ | ⟨⟩, w'⟩
  · exact ⟨_, rfl⟩
  · rw [stepped] at ready
    exact ⟨_, readinessOutcome_unready rt d ready⟩

/-- A pass that passes its checks fails with the error its steps fail with. -/
theorem executeEffect_of_failed {rt : Runtime} {images : ImageResolver} {d : Deployable} {sso : Bool}
    {w : World} {e : Error} (checked : checksPass d sso) (failed : (stepsEffect rt images d w).1 = .error e) :
    (executeEffect rt images d sso w).1 = .error e := by
  have owned : (d.owner.name.isEmpty || d.owner.ns.isEmpty) = false := by
    simp [checked.1, checked.2.1]
  have supported : (d.needsKeycloak && !sso) = false := by
    cases sso <;> simp_all [checksPass]
  simp only [executeEffect, owned, supported, Bool.false_eq_true, if_false]
  rcases effect : stepsEffect rt images d w with ⟨_ | ⟨⟩, w'⟩
  · rw [effect] at failed
    exact failed
  · rw [effect] at failed
    cases failed

theorem executeEffect_unready (rt : Runtime) (images : ImageResolver) (d : Deployable) (sso : Bool)
    {w : World} (unready : w.podsReady = false) : ∃ e, (executeEffect rt images d sso w).1 = .error e := by
  obtain ⟨e, failed⟩ := stepsEffect_unready rt images d unready
  unfold executeEffect
  -- the two checks fail on their own; past them the pass fails as its steps do
  split
  · exact ⟨_, rfl⟩
  split
  · exact ⟨_, rfl⟩
  rcases effect : stepsEffect rt images d w with ⟨_ | ⟨⟩, w'⟩
  · exact ⟨_, rfl⟩
  · rw [effect] at failed
    cases failed

theorem eq_error_of_map {α β : Type} {f : α → β} {r : Except Error α} {e : Error}
    (mapped : r.map f = .error e) : r = .error e := by
  cases r with
  | ok _ => cases mapped
  | error _ =>
    cases mapped
    rfl

/-- A checked pass that gets past step 8 stores, while the cluster takes status writes, a status
whose pod phases are those recorded from the pods its selector lists. -/
theorem execute_records_listed (rt : Runtime) (images : ImageResolver) (d : Deployable) (sso : Bool)
    (w : World) (checked : checksPass d sso) (reached : (throughDeployment rt images d w).1 = .ok ())
    (writable : w.failStatusWrites = false) :
    let run := ((execute World.backend.cluster rt images d (World.ssoSession sso)).run.run w).run
    ∃ last phases, (run.2.statuses.get? (statusKey d.owner)).bind (·.servers.get? d.qualifier) = some last ∧
      last.podPhases = recordPhases (podsOf w d.owner.ns (d.owner.deploymentSelector d.qualifier)) phases := by
  have session : sso = true ∨ d.needsKeycloak = false := by
    cases sso <;> simp_all [checksPass]
  obtain ⟨phases, recorded⟩ := steps_run_listed rt images d
    (ServerStatus.startedAt d.qualifier (if d.ingress.isSome = true then .web else .db) rt.now) sso session rfl w
    reached
  rw [podsOf_throughDeployment] at recorded
  refine ⟨_, phases, execute_stored rt images d sso w checked writable, ?_⟩
  -- finishing the status, with or without a failure, keeps its pod phases
  split <;> simpa using recorded

/-- A pass on a cluster that holds every pod back, whatever the stale pods and the replica count,
never succeeds. One that passes its checks and gets past step 8 fails with the timeout of the wait
for a ready pod, on its Deployment `<owner>-<qualifier>-deployment`; while the cluster takes status
writes, the status it stores names that Deployment as the failed object and holds the phase of
every listed pod that no later listed pod shares its name with. -/
theorem execute_unready_outcome (rt : Runtime) (images : ImageResolver) (d : Deployable) (sso : Bool)
    (w : World) (unready : w.podsReady = false) :
    let run := ((execute World.backend.cluster rt images d (World.ssoSession sso)).run.run w).run
    let name := d.owner.name ++ "-" ++ d.qualifier ++ "-" ++ "deployment"
    let listed := podsOf w d.owner.ns (d.owner.deploymentSelector d.qualifier)
    (∃ e, run.1 = .error e) ∧
    (checksPass d sso → (throughDeployment rt images d w).1 = .ok () →
      run.1 = .error (.resourceOperation "Deployment" d.owner.ns name
        (timedOut ("waiting for a Ready pod of Deployment " ++ d.owner.ns ++ "/" ++ name)
          rt.config.podReadinessTimeoutMs)) ∧
      (w.failStatusWrites = false → ∃ last f,
        (run.2.statuses.get? (statusKey d.owner)).bind (·.servers.get? d.qualifier) = some last ∧
        last.failure = some f ∧ f.kind = some "Deployment" ∧ f.ns = some d.owner.ns ∧ f.name = some name ∧
        ∀ before p after, listed = before ++ p :: after → (∀ q ∈ after, nameOf q.metadata ≠ nameOf p.metadata) →
          last.podPhases.get? (nameOf p.metadata) = some p.phase)) := by
  intro run name listed
  have agrees := (execute_effect rt images d sso w).1
  obtain ⟨e, failed⟩ := executeEffect_unready rt images d sso unready
  refine ⟨⟨e, eq_error_of_map (agrees.trans failed)⟩, fun checked reached => ?_⟩
  have waited := (stepsEffect_of_reached rt images d w reached).trans
    (readinessOutcome_unready rt d (throughDeployment_unready rt images d unready))
  have result := eq_error_of_map (agrees.trans (executeEffect_of_failed checked waited))
  refine ⟨result, fun writable => ?_⟩
  obtain ⟨last, stored, failure⟩ := (execute_effect rt images d sso w).2.2 checked writable
  obtain ⟨last', phases, stored', recorded⟩ := execute_records_listed rt images d sso w checked reached writable
  have same : last' = last := Option.some.inj (stored'.symm.trans stored)
  simp only [result] at failure
  -- the failure record of the timeout names the Deployment the error is wrapped on
  refine ⟨last, _, stored, failure, rfl, rfl, rfl, fun before p after split later => ?_⟩
  rw [← same, recorded]
  simp only [listed] at split
  rw [split]
  exact get?_recordPhases_of_last before after p phases later

theorem execute_unready_outcome_with_stale_pod :
    let stale : Pod :=
      { metadata := { (storedMeta "my-app-server-pod" "my-namespace") with
          labels := some (.singleton "entando.org/deployment" "my-app-server") }
        status := some { phase := some "Running", conditions := some [⟨"Ready", "True"⟩] } }
    let d : Deployable := { owner := { name := "my-app", ns := "my-namespace" }, qualifier := "server" }
    let rt : Runtime := { config := {}, now := ⟨0, 0⟩, password := fun _ => "changeit" }
    let w : World := { podsReady := false, stalePods := [stale] }
    let run := ((execute World.backend.cluster rt {} d (World.ssoSession false)).run.run w).run
    let name := d.owner.name ++ "-" ++ d.qualifier ++ "-" ++ "deployment"
    let listed := podsOf w d.owner.ns (d.owner.deploymentSelector d.qualifier)
    w.podsReady = false ∧ checksPass d false ∧ (throughDeployment rt {} d w).1 = .ok () ∧
      w.failStatusWrites = false ∧ (∃ e, run.1 = .error e) ∧
      run.1 = .error (.resourceOperation "Deployment" d.owner.ns name
        (timedOut ("waiting for a Ready pod of Deployment " ++ d.owner.ns ++ "/" ++ name)
          rt.config.podReadinessTimeoutMs)) ∧
      ∃ last f, (run.2.statuses.get? (statusKey d.owner)).bind (·.servers.get? d.qualifier) = some last ∧
        last.failure = some f ∧ f.kind = some "Deployment" ∧ f.ns = some d.owner.ns ∧ f.name = some name ∧
        ∀ before p after, listed = before ++ p :: after → (∀ q ∈ after, nameOf q.metadata ≠ nameOf p.metadata) →
          last.podPhases.get? (nameOf p.metadata) = some p.phase := by
  intro stale d rt w run name listed
  have checked : checksPass d false := ⟨by decide, by decide, by decide⟩
  have reached : (throughDeployment rt {} d w).1 = .ok () := rfl
  obtain ⟨failed, waited⟩ := execute_unready_outcome rt {} d false w rfl
  exact ⟨rfl, checked, reached, rfl, failed, (waited checked reached).1, (waited checked reached).2 rfl⟩

/-- A ready stale pod that has the name of the simulated cluster's own pod is listed, but its
phase is not the one the stored status records under its name. -/
theorem stalePod_phase_replaced :
    let stale : Pod :=
      { metadata := { (storedMeta "my-app-server-pod" "my-namespace") with
          labels := some (.singleton "entando.org/deployment" "my-app-server") }
        status := some { phase := some "Running", conditions := some [⟨"Ready", "True"⟩] } }
    let d : Deployable := { owner := { name := "my-app", ns := "my-namespace" }, qualifier := "server" }
    let rt : Runtime := { config := {}, now := ⟨0, 0⟩, password := fun _ => "changeit" }
    let w : World := { podsReady := false, stalePods := [stale] }
    let run := ((execute World.backend.cluster rt {} d (World.ssoSession false)).run.run w).run
    ∃ last, (run.2.statuses.get? (statusKey d.owner)).bind (·.servers.get? d.qualifier) = some last ∧
      stale ∈ podsOf w d.owner.ns (d.owner.deploymentSelector d.qualifier) ∧
      last.podPhases.get? (nameOf stale.metadata) ≠ some stale.phase := by
  intro stale d rt w run
  have checked : checksPass d false := ⟨by decide, by decide, by decide⟩
  have reached : (throughDeployment rt {} d w).1 = .ok () := rfl
  have listed : podsOf w d.owner.ns (d.owner.deploymentSelector d.qualifier) =
      [stale] ++ pendingPod "my-app-server-pod" "my-namespace" :: [] := by
    have selector : splitSelector (d.owner.deploymentSelector d.qualifier) =
        ("entando.org/deployment", "my-app-server") := splitSelector_append _ _ (by decide)
    unfold podsOf
    rw [selector]
    decide
  obtain ⟨last, phases, stored, recorded⟩ := execute_records_listed rt {} d false w checked reached rfl
  refine ⟨last, stored, by simp [listed], ?_⟩
  -- the simulated cluster's pending pod comes last under the same name, and its phase is kept
  have replaced := get?_recordPhases_of_last [stale] [] (pendingPod "my-app-server-pod" "my-namespace") phases
    (by simp)
  rw [recorded, listed, show nameOf stale.metadata =
    nameOf (pendingPod "my-app-server-pod" "my-namespace").metadata from rfl, replaced]
  decide

end StackOperator.Deploy
