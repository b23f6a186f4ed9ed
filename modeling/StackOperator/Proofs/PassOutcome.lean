import StackOperator.Proofs.StatusFrame
import StackOperator.Proofs.Convergence

/-!
# What a pass that succeeds leaves

A pass of a deployable that succeeds went through every stage of its plan. This module reads off
the world it leaves:

* the cluster calls of every stage and the final status write, and the Keycloak registrations of
  its clients (`execute_run_ok_logged`), with the logins untouched (`execute_run_ok_logins`);
* its status entry, finished and without failure (`execute_run_ok_finished`);
* its preparation Job: on a database server the pass deletes the earlier Jobs of its qualifier,
  creates one and keeps every other Job (`execute_run_ok_jobs_prepared`); otherwise it touches no
  Job (`execute_run_ok_jobs_unprepared`).
-/

namespace StackOperator.Cluster.Store

variable {α : Type}

/-- An entry that the filter keeps is found in the filtered store. -/
theorem get?_filter_of_get? {s : Store α} {key : ObjectKey} {v : α} {p : ObjectKey × α → Bool}
    (stored : get? s key = some v) (kept : p (key, v) = true) : get? (s.filter p) key = some v := by
  induction s with
  | nil => cases stored
  | cons e rest ih =>
    obtain ⟨k, u⟩ := e
    by_cases same : k = key
    · subst same
      simp only [get?, if_pos] at stored
      cases stored
      simp [kept, get?]
    · simp only [get?, if_neg same] at stored
      by_cases keeps : p (k, u) = true
      · simp [keeps, get?, same, ih stored]
      · simp [keeps, ih stored]

/-- An object found in a filtered store is one the filter keeps. -/
theorem kept_of_get?_filter {s : Store α} {key : ObjectKey} {v : α} {p : ObjectKey × α → Bool}
    (stored : get? (s.filter p) key = some v) : p (key, v) = true := by
  induction s with
  | nil => cases stored
  | cons e rest ih =>
    obtain ⟨k, u⟩ := e
    by_cases keeps : p (k, u) = true
    · rw [List.filter_cons_of_pos keeps] at stored
      by_cases same : k = key
      · subst same
        simp only [get?, if_pos, Option.some.injEq] at stored
        exact stored ▸ keeps
      · simp only [get?, if_neg same] at stored
        exact ih stored
    · rw [List.filter_cons_of_neg keeps] at stored
      exact ih stored

end StackOperator.Cluster.Store

namespace StackOperator.K8s

/-- The names of the containers of a Job's pods. -/
def Job.containerNames (j : Job) : List String :=
  ((j.spec.bind (·.template.spec)).map fun spec => spec.containers.map (·.name)).getD []

end StackOperator.K8s

namespace StackOperator.Cluster

/-- The entry of qualifier `q` under `key` is the status of a pass started at `now` that finished
without failure. -/
def World.FinishedEntry (w : World) (now : Instant) (key : ObjectKey) (q : String) : Prop :=
  ∃ s, w.entry key q = some s ∧ s.started = some now ∧ s.finished.isSome ∧ s.failure = none

/-- A finished entry outlives a world change that writes another entry. -/
theorem World.FinishedEntry.of_sameEntriesBut {w w' : World} {now : Instant} {key : ObjectKey} {q q' : String}
    (finished : w.FinishedEntry now key q) (same : World.SameEntriesBut key q' w w') (other : q ≠ q') :
    w'.FinishedEntry now key q := by
  obtain ⟨s, stored, rest⟩ := finished
  exact ⟨s, (same key q fun _ => other).trans stored, rest⟩

end StackOperator.Cluster

namespace StackOperator.Deploy

open Cluster K8s

/-- The cluster calls of a pass of `d` that succeeds from `w`: every stage of its plan, then the
final status write. -/
def passCalls (config : OperatorConfig) (d : Deployable) (w : World) : List String :=
  (callPlan config d w).flatten ++ [statusWriteCall d]

/-- A preparation Job of `d`: a Job of its namespace labelled with its qualifier. -/
def PreparesFor (d : Deployable) (key : ObjectKey) (j : Job) : Prop :=
  key.ns = d.owner.ns ∧
    j.metadata.labels.bind (KeyMap.get? · dbPreparationLabel) = some (Names.deploymentLabel d.owner.name d.qualifier)

namespace SchemaPreparation

/-- A preparation Job of the qualifier of `p`: a Job of the owner's namespace labelled with the
qualifier. -/
def Marks (p : SchemaPreparation) (key : ObjectKey) (j : Job) : Prop :=
  key.ns = p.owner.ns ∧
    j.metadata.labels.bind (KeyMap.get? · dbPreparationLabel) = some (Names.deploymentLabel p.owner.name p.qualifier)

variable (p : SchemaPreparation) (rt : Runtime) (strategy : VendorStrategy) (w : World)

theorem splitSelector_jobSelector :
    splitSelector p.jobSelector = (dbPreparationLabel, Names.deploymentLabel p.owner.name p.qualifier) :=
  splitSelector_append _ _ (by decide)

/-- The cleanup before a preparation keeps every Job but the preparation Jobs of the qualifier. -/
theorem cleanedUp_get? {key : ObjectKey} {j : Job} (stored : w.jobs.get? key = some j) (other : ¬p.Marks key j) :
    (p.cleanedUp rt strategy w).jobs.get? key = some j := by
  refine Store.get?_filter_of_get? stored ?_
  rw [splitSelector_jobSelector]
  unfold Marks at other
  simp only [bne_iff_ne, ne_eq, Bool.or_eq_true]
  by_cases inNs : key.ns = p.owner.ns
  · exact .inr fun labelled => other ⟨inNs, labelled⟩
  · exact .inl inNs

/-- No preparation Job of the qualifier outlives the cleanup. -/
theorem not_marks_of_cleanedUp_get? {key : ObjectKey} {j : Job}
    (stored : (p.cleanedUp rt strategy w).jobs.get? key = some j) : ¬p.Marks key j := by
  have kept := Store.kept_of_get?_filter stored
  rw [splitSelector_jobSelector] at kept
  simp only [bne_iff_ne, ne_eq, Bool.or_eq_true] at kept
  rintro ⟨inNs, labelled⟩
  rcases kept with outside | unlabelled
  · exact outside inNs
  · exact unlabelled labelled

theorem jobs_prepared_self :
    (p.prepared rt strategy w).jobs.get? ⟨p.owner.ns, p.jobName w.jobCounter⟩ = some (createdJob w (p.job rt)) :=
  Store.get?_put_self _ _ _

theorem jobs_prepared_ne {key : ObjectKey} (other : key ≠ ⟨p.owner.ns, p.jobName w.jobCounter⟩) :
    (p.prepared rt strategy w).jobs.get? key = (p.cleanedUp rt strategy w).jobs.get? key :=
  Store.get?_put_ne _ _ _ _ other

/-- The only preparation Job of the qualifier left is the new one. -/
theorem eq_of_marks_prepared {key : ObjectKey} {j : Job} (stored : (p.prepared rt strategy w).jobs.get? key = some j)
    (marked : p.Marks key j) : key = ⟨p.owner.ns, p.jobName w.jobCounter⟩ := by
  by_contra other
  rw [p.jobs_prepared_ne rt strategy w other] at stored
  exact p.not_marks_of_cleanedUp_get? rt strategy w stored marked

/-- Every Job but the qualifier's preparation Jobs and the new one is kept. -/
theorem jobs_prepared_of_unmarked {key : ObjectKey} {j : Job} (stored : w.jobs.get? key = some j)
    (other : ¬p.Marks key j) (apart : key ≠ ⟨p.owner.ns, p.jobName w.jobCounter⟩) :
    (p.prepared rt strategy w).jobs.get? key = some j := by
  rw [p.jobs_prepared_ne rt strategy w apart]
  exact p.cleanedUp_get? rt strategy w stored other

/-- The preparation Job has one container per schema. -/
theorem containerNames_createdJob :
    (createdJob w (p.job rt)).containerNames = p.schemas.map (· ++ "-schema-creation-job") := by
  simp [Job.containerNames, createdJob, SchemaPreparation.job, Children.JobPlan.withLabels,
    Children.JobPlan.build, creationContainer]

/-- The preparation Job is labelled with the qualifier. -/
theorem label_createdJob :
    (createdJob w (p.job rt)).metadata.labels.bind (KeyMap.get? · dbPreparationLabel) =
      some (Names.deploymentLabel p.owner.name p.qualifier) := by
  simp [createdJob, SchemaPreparation.job, Children.JobPlan.withLabels, Children.JobPlan.build, KeyMap.get?_union]

end SchemaPreparation

section OnePass

variable (rt : Runtime) (images : ImageResolver) (d : Deployable) (sso : Bool) {w w' : World}
  {deployed : Deployed}

/-! ## The calls, the logins and the status entry -/

theorem execute_run_ok_effect
    (ran : ((execute World.backend.cluster rt images d (World.ssoSession sso)).run.run w).run = (.ok deployed, w')) :
    (executeEffect rt images d sso w).1 = .ok () ∧
      ∃ statuses, w' = (executeEffect rt images d sso w).2.withStatusStore statuses := by
  obtain ⟨result, ⟨statuses, world⟩, -⟩ := execute_effect rt images d sso w
  rw [ran] at result world
  exact ⟨result.symm, statuses, world⟩

/-- A pass that succeeds made the calls of all five stages of its plan and the final status write,
and registered its clients. -/
theorem execute_run_ok_logged
    (ran : ((execute World.backend.cluster rt images d (World.ssoSession sso)).run.run w).run = (.ok deployed, w')) :
    Logged w w' (passCalls rt.config d w) ((clientAccesses d).flatMap (clientCalls d)) := by
  obtain ⟨passed, statuses, rfl⟩ := execute_run_ok_effect rt images d sso ran
  obtain ⟨checked, -⟩ := executeEffect_ok rt images d w passed
  obtain ⟨k, bounded, logged, stopped⟩ := executeEffect_logged rt images d sso w checked
  -- a pass that stops short of its last stage fails
  have full : k = 5 := by
    by_contra short
    obtain ⟨e, failed⟩ := stopped (by omega)
    rw [passed] at failed
    cases failed
  subst full
  exact ⟨logged.calls, logged.ssoCalls⟩

theorem stepsEffect_logins (w : World) : (stepsEffect rt images d w).2.logins = w.logins := by
  refine stepsEffect_keeps rt images d (fun w w' => w'.logins = w.logins)
    (fun _ _ _ first second => second.trans first) ?_ (fun _ => rfl) (fun _ => rfl) ?_ ?_ ?_ (fun _ _ => rfl) w
  · intro w
    unfold schemaEffect
    dsimp only
    repeat' split
    all_goals rfl
  · intro w
    unfold caEffect caSecretEffect
    repeat' split
    all_goals rfl
  · intro w
    unfold World.withAccountOf
    split <;> rfl
  · intro w
    unfold ingressEffect
    split <;> rfl

/-- A pass logs in nowhere. -/
theorem execute_run_ok_logins
    (ran : ((execute World.backend.cluster rt images d (World.ssoSession sso)).run.run w).run = (.ok deployed, w')) :
    w'.logins = w.logins := by
  obtain ⟨passed, statuses, rfl⟩ := execute_run_ok_effect rt images d sso ran
  obtain ⟨-, -, -, effect⟩ := executeEffect_ok rt images d w passed
  rw [World.withStatusStore, effect]
  exact stepsEffect_logins rt images d w

theorem execute_run_ok_finished
    (ran : ((execute World.backend.cluster rt images d (World.ssoSession sso)).run.run w).run = (.ok deployed, w')) :
    World.SameEntriesBut (statusKey d.owner) d.qualifier w w' ∧
      w'.FinishedEntry rt.now (statusKey d.owner) d.qualifier := by
  obtain ⟨framed, stored, -, started, finished, unfailed⟩ := execute_run_ok_entry rt images d sso ran
  exact ⟨framed, deployed.status, stored, started, finished, unfailed⟩

/-! ## The preparation Jobs -/

/-- The cleanup before a preparation keeps every Job but the preparation Jobs of the deployable. -/
theorem cleanedUp_get? (db : ConnectionInfo) (strategy : VendorStrategy) {key : ObjectKey} {j : Job}
    (stored : w.jobs.get? key = some j) (other : ¬PreparesFor d key j) :
    ((preparation d images db).cleanedUp rt strategy w).jobs.get? key = some j :=
  SchemaPreparation.cleanedUp_get? _ rt strategy w stored other

theorem schemaEffect_jobs_unprepared (w : World) (unprepared : preparesOnServer d = false) :
    (schemaEffect rt images d w).2.jobs = w.jobs ∧ (schemaEffect rt images d w).2.jobCounter = w.jobCounter := by
  unfold schemaEffect
  by_cases noSchemas : d.schemaQualifiers = []
  · rw [if_pos noSchemas]
    exact ⟨rfl, rfl⟩
  rw [if_neg noSchemas]
  cases hosted : d.database with
  | none => exact ⟨rfl, rfl⟩
  | some db =>
    have embedded : db.vendor.isExternalServer = false := by
      simpa [preparesOnServer, noSchemas, hosted] using unprepared
    dsimp only
    rw [embedded]
    exact ⟨rfl, rfl⟩

theorem schemaEffect_jobs_prepared (w : World) (onServer : preparesOnServer d = true) :
    ∃ db, d.database = some db ∧ (schemaEffect rt images d w).2.jobCounter = w.jobCounter + 1 ∧
      (schemaEffect rt images d w).2.jobs.get? ⟨d.owner.ns, schemaJobName d w.jobCounter⟩ =
        some (createdJob w ((preparation d images db).job rt)) ∧
      ∀ key j, w.jobs.get? key = some j → key ≠ ⟨d.owner.ns, schemaJobName d w.jobCounter⟩ →
        ¬PreparesFor d key j → (schemaEffect rt images d w).2.jobs.get? key = some j := by
  obtain ⟨schemas, hosted⟩ : d.schemaQualifiers ≠ [] ∧ d.database.any (·.vendor.isExternalServer) = true := by
    simpa [preparesOnServer] using onServer
  obtain ⟨db, hosted, server⟩ := (Option.any_eq_true _ _).mp hosted
  -- whether the Job succeeds or not, the stage leaves the world of the preparation up to its wait
  have prepared : (schemaEffect rt images d w).2 =
      ((preparation d images db).prepared rt (VendorStrategy.ofVendor db.vendor) w).logWrite d.qualifier := by
    unfold schemaEffect
    rw [if_neg schemas, hosted]
    dsimp only
    rw [server, if_pos rfl]
    split <;> rfl
  refine ⟨db, hosted, by rw [prepared]; rfl, ?_, fun key j stored other unlabelled => ?_⟩
  · rw [prepared]
    exact SchemaPreparation.jobs_prepared_self _ rt _ w
  · rw [prepared]
    exact SchemaPreparation.jobs_prepared_of_unmarked _ rt _ w stored unlabelled other

theorem execute_run_ok_schemaJobs
    (ran : ((execute World.backend.cluster rt images d (World.ssoSession sso)).run.run w).run = (.ok deployed, w')) :
    w'.jobs = (schemaEffect rt images d w).2.jobs ∧ w'.jobCounter = (schemaEffect rt images d w).2.jobCounter := by
  obtain ⟨passed, statuses, rfl⟩ := execute_run_ok_effect rt images d sso ran
  obtain ⟨-, stepsPassed, -, effect⟩ := executeEffect_ok rt images d w passed
  rw [effect]
  exact stepsEffect_jobs rt images d w stepsPassed

/-- A pass with nothing to prepare on a server touches no Job. -/
theorem execute_run_ok_jobs_unprepared (unprepared : preparesOnServer d = false)
    (ran : ((execute World.backend.cluster rt images d (World.ssoSession sso)).run.run w).run = (.ok deployed, w')) :
    w'.jobs = w.jobs ∧ w'.jobCounter = w.jobCounter := by
  obtain ⟨jobs, counter⟩ := execute_run_ok_schemaJobs rt images d sso ran
  obtain ⟨jobs₁, counter₁⟩ := schemaEffect_jobs_unprepared rt images d w unprepared
  exact ⟨jobs.trans jobs₁, counter.trans counter₁⟩

/-- A pass that prepares its schemas on a server creates one Job, named after the Jobs created
before it, and keeps every Job but the earlier preparation Jobs of its qualifier. -/
theorem execute_run_ok_jobs_prepared (onServer : preparesOnServer d = true)
    (ran : ((execute World.backend.cluster rt images d (World.ssoSession sso)).run.run w).run = (.ok deployed, w')) :
    ∃ db, d.database = some db ∧ w'.jobCounter = w.jobCounter + 1 ∧
      w'.jobs.get? ⟨d.owner.ns, schemaJobName d w.jobCounter⟩ = some (createdJob w ((preparation d images db).job rt)) ∧
      ∀ key j, w.jobs.get? key = some j → key ≠ ⟨d.owner.ns, schemaJobName d w.jobCounter⟩ →
        ¬PreparesFor d key j → w'.jobs.get? key = some j := by
  obtain ⟨jobs, counter⟩ := execute_run_ok_schemaJobs rt images d sso ran
  obtain ⟨db, hosted, counter₁, created, kept⟩ := schemaEffect_jobs_prepared rt images d w onServer
  refine ⟨db, hosted, counter.trans counter₁, by rw [jobs]; exact created, fun key j stored other unlabelled => ?_⟩
  rw [jobs]
  exact kept key j stored other unlabelled

end OnePass

section CreatedJob

variable (rt : Runtime) (images : ImageResolver) (d : Deployable) (db : ConnectionInfo) (w : World)

/-- The preparation Job has one container per schema of the deployable. -/
theorem containerNames_createdJob :
    (createdJob w ((preparation d images db).job rt)).containerNames =
      d.schemaQualifiers.map (· ++ "-schema-creation-job") :=
  SchemaPreparation.containerNames_createdJob _ rt w

/-- The preparation Job is labelled with the deployable's qualifier. -/
theorem label_createdJob :
    (createdJob w ((preparation d images db).job rt)).metadata.labels.bind (KeyMap.get? · dbPreparationLabel) =
      some (Names.deploymentLabel d.owner.name d.qualifier) :=
  SchemaPreparation.label_createdJob _ rt w

end CreatedJob

end StackOperator.Deploy
