import StackOperator.Proofs.PassOutcome
import Mathlib.Data.List.Induction

/-!
# Preparing schemas on a database server

A preparation on a database server gives each schema a Secret with its credentials, replaces the
preparation Jobs of the qualifier by one Job with a container per schema, waits for that Job and
reads each schema's user name back from the Secret stored under the schema's name. Main statement:
`run_prepares_each_schema`, for every preparation on a database server, status and world:

* the calls: one Secret creation per schema, the cleanup of the qualifier's Jobs and one Job
  creation (`calls_prepared`);
* each schema's Secret is the one stored before, else its credentials as created now
  (`get?_foldl_putSecret`, `secrets_prepared`), which hold the schema's user name
  (`Secret.value_persisted_credentials`); schemas never share a Secret (`secretKey_injective`);
* no earlier preparation Job of the qualifier is left and every other Job is kept
  (`eq_of_marks_prepared`, `jobs_prepared_of_unmarked`); the new Job has one container per schema;
* the Job's phase as the cluster reports it is recorded. A Job that succeeds gives one result per
  schema, named by the user name its stored Secret holds, and the derived parameter
  `<schema>JdbcUrl` is the result's JDBC URL (`get?_withJdbcUrls`); a Job that fails or does not
  finish in time fails the preparation with an error on the Job and derives nothing.
-/

namespace StackOperator.ServerStatus

theorem podPhases_withJdbcUrls (s : ServerStatus) (results : List (String × SchemaResult)) :
    (s.withJdbcUrls results).podPhases = s.podPhases := by
  induction results generalizing s with
  | nil => rfl
  | cons r rest ih => exact ih _

/-- Each schema's JDBC URL is its derived parameter `<schema>JdbcUrl`. -/
theorem get?_withJdbcUrls (s : ServerStatus) (qs : List String) (f : String → SchemaResult) {q : String}
    (mem : q ∈ qs) :
    (s.withJdbcUrls (qs.map fun q => (q, f q))).derivedParameters.get? (q ++ "JdbcUrl") = some (f q).jdbcUrl := by
  -- the parameter is written by the last schema of its name
  induction qs using List.reverseRecOn with
  | nil => cases mem
  | append_singleton rest x ih =>
    simp only [withJdbcUrls, List.map_append, List.map_cons, List.map_nil, List.foldl_append,
      List.foldl_cons, List.foldl_nil, putDerived]
    by_cases same : q = x
    · subst same
      exact KeyMap.get?_put_self _ _ _
    · have apart : q ++ "JdbcUrl" ≠ x ++ "JdbcUrl" := fun names => same ((String.append_left_inj _).mp names)
      rw [KeyMap.get?_put_ne _ _ apart]
      exact ih (by simpa [same] using mem)

end StackOperator.ServerStatus

namespace StackOperator.K8s.Secret

/-- Credentials as the cluster stores them hold the user name they were created with. -/
theorem value_persisted_credentials (metadata : ObjectMeta) (username password : String) :
    (credentials metadata username password).persisted.value "username" = some username := by
  have stored : (credentials metadata username password).persisted.data.bind (KeyMap.get? · "username") =
      some username.toUTF8.toList := by
    show KeyMap.get? (KeyMap.put (KeyMap.put .empty "password" password.toUTF8.toList) "username"
      username.toUTF8.toList) "username" = _
    rw [KeyMap.get?_put_self]
  simp only [value, stored, Text.decodeUtf8Lossy_toUTF8]

end StackOperator.K8s.Secret

namespace StackOperator.Cluster

open K8s

/-- A Secret created unless one of its name exists: under its key the store holds the Secret there
before, else the created Secret as stored. -/
theorem get?_putSecret (store : Store Secret) (s : Secret) (key : ObjectKey) :
    (putSecret store s).2.get? key =
      if keyOf s.metadata = key then (store.get? key).or (some s.persisted) else store.get? key := by
  unfold putSecret Store.getOrPut
  split_ifs with same
  · subst same
    cases stored : store.get? (keyOf s.metadata) with
    | none => exact Store.get?_put_self _ _ _
    | some old => exact stored
  · cases stored : store.get? (keyOf s.metadata) with
    | none => exact Store.get?_put_ne _ _ _ _ (Ne.symm same)
    | some old => rfl

/-- Secrets created in order, each unless one of its name exists: under a key the store holds the
Secret there before, else the first created Secret of that key, as stored. -/
theorem get?_foldl_putSecret (ss : List Secret) (store : Store Secret) (key : ObjectKey) :
    (ss.foldl (fun store s => (putSecret store s).2) store).get? key =
      (store.get? key).or ((ss.find? fun s => decide (keyOf s.metadata = key)).map Secret.persisted) := by
  induction ss generalizing store with
  | nil => simp
  | cons s rest ih =>
    rw [List.foldl_cons, ih, get?_putSecret]
    by_cases same : keyOf s.metadata = key <;> simp [same]

end StackOperator.Cluster

namespace StackOperator.Deploy

open Cluster K8s

namespace SchemaPreparation

variable (p : SchemaPreparation) (rt : Runtime) (strategy : VendorStrategy) (w : World)

/-- No two schemas share a Secret. -/
theorem secretKey_injective {q q' : String} (same : p.secretKey q = p.secretKey q') : q = q' := by
  have named : Names.schemaSecretName p.owner.name q = Names.schemaSecretName p.owner.name q' :=
    congrArg ObjectKey.name same
  unfold Names.schemaSecretName Names.standardName at named
  exact (String.append_right_inj _).mp ((String.append_left_inj _).mp ((String.append_left_inj _).mp named))

/-- Among the schemas' credentials the first Secret of a schema's name is the schema's own. -/
theorem find?_credentialSecret {qs : List String} {q : String} (mem : q ∈ qs) :
    (qs.map (p.credentialSecret rt strategy)).find? (fun s => decide (keyOf s.metadata = p.secretKey q)) =
      some (p.credentialSecret rt strategy q) := by
  induction qs with
  | nil => cases mem
  | cons q' rest ih =>
    by_cases same : q' = q
    · subst same
      simp
    · have apart : p.secretKey q' ≠ p.secretKey q := fun keys => same (p.secretKey_injective keys)
      rw [List.map_cons, List.find?_cons_of_neg (by simp [apart])]
      exact ih (List.mem_of_ne_of_mem (Ne.symm same) mem)

/-- Once the Secrets are created each schema's Secret is the one stored before, else its
credentials as created now. -/
theorem secrets_prepared {q : String} (mem : q ∈ p.schemas) :
    (p.prepared rt strategy w).secrets.get? (p.secretKey q) =
      some ((w.secrets.get? (p.secretKey q)).getD (p.credentialSecret rt strategy q).persisted) := by
  show ((p.schemas.map (p.credentialSecret rt strategy)).foldl (fun store s => (putSecret store s).2)
    w.secrets).get? (p.secretKey q) = _
  rw [get?_foldl_putSecret, p.find?_credentialSecret rt strategy mem, Option.map_some, Option.or_some]

/-! ## The results and the status -/

theorem keys_preparedResults : (p.preparedResults rt strategy w).map (·.1) = p.schemas := by
  simp [preparedResults, Function.comp_def]

/-- The results are listed in the order of their schemas, so the map they make holds them as
listed. -/
theorem entries_ofList_preparedResults :
    (KeyMap.ofList (p.preparedResults rt strategy w)).entries = p.preparedResults rt strategy w :=
  KeyMap.entries_ofList (by
    show ((p.preparedResults rt strategy w).map (·.1)).Pairwise (· < ·)
    rw [keys_preparedResults]
    exact p.schemasAscending)

theorem resultIn_of_mem_preparedResults {q : String} {r : SchemaResult}
    (mem : (q, r) ∈ p.preparedResults rt strategy w) :
    q ∈ p.schemas ∧ r = p.resultIn strategy (p.prepared rt strategy w).secrets q := by
  obtain ⟨q', mem', same⟩ := List.mem_map.mp mem
  cases same
  exact ⟨mem', rfl⟩

variable (s : ServerStatus)

/-- The status records the phase of the Job as the cluster reports it after the wait. -/
theorem podPhases_preparedStatus :
    (p.preparedStatus rt strategy s w).podPhases.get? (p.jobName w.jobCounter) = some (p.reportedJob rt w).phase := by
  have recorded : ((s.withJobPhase (createdJob w (p.job rt))).withJobPhase (p.reportedJob rt w)).podPhases.get?
      (p.jobName w.jobCounter) = some (p.reportedJob rt w).phase :=
    KeyMap.get?_put_self _ _ _
  unfold preparedStatus
  split
  · rw [ServerStatus.podPhases_withJdbcUrls]
    exact recorded
  · exact recorded

theorem derivedParameters_preparedStatus_of_success (succeeded : w.jobOutcome = .succeed) {q : String}
    (mem : q ∈ p.schemas) :
    (p.preparedStatus rt strategy s w).derivedParameters.get? (q ++ "JdbcUrl") =
      some (p.resultIn strategy (p.prepared rt strategy w).secrets q).jdbcUrl := by
  unfold preparedStatus
  rw [succeeded]
  exact ServerStatus.get?_withJdbcUrls _ p.schemas (p.resultIn strategy (p.prepared rt strategy w).secrets) mem

theorem derivedParameters_preparedStatus_of_failure {e : Error}
    (failed : p.jobFailure rt w.jobOutcome (p.jobName w.jobCounter) = some e) :
    (p.preparedStatus rt strategy s w).derivedParameters = s.derivedParameters := by
  unfold preparedStatus
  rw [failed]
  rfl

end SchemaPreparation

open SchemaPreparation in
/-- A preparation on a database server makes one Secret creation per schema, deletes the
qualifier's preparation Jobs and creates one Job with a container per schema. A schema's Secret is
the one stored before, else its credentials as created now, which hold the schema's user name. The
Job's phase is recorded. If the Job succeeds, the preparation returns one result per schema: its schema
name is the user name its stored Secret holds, even a Secret of an earlier pass, its Secret is that
Secret, and its JDBC URL is the derived parameter `<schema>JdbcUrl`. If the Job fails or does not
finish in time, the preparation fails with an error on the Job and derives no parameter. -/
theorem run_prepares_each_schema (p : SchemaPreparation) (rt : Runtime) (s : ServerStatus) (w : World)
    (server : p.database.vendor.isExternalServer = true) :
    let strategy := VendorStrategy.ofVendor p.database.vendor
    let ran := passRun (p.run World.backend.cluster rt) s w
    let name := p.jobName w.jobCounter
    ran.2.calls = w.calls ++
      (p.schemas.map (fun q => "create_secret:" ++ Names.schemaSecretName p.owner.name q) ++
        ["delete_jobs:" ++ dbPreparationLabel ++ "=" ++ Names.deploymentLabel p.owner.name p.qualifier,
         "create_job:" ++ name]) ∧
    (∀ q ∈ p.schemas, ran.2.secrets.get? (p.secretKey q) =
      some ((w.secrets.get? (p.secretKey q)).getD
        (Secret.credentials (p.owner.ownedMeta (Names.schemaSecretName p.owner.name q) p.qualifier)
          (Names.schemaUsername p.owner.name q strategy.maxUsernameLength) (rt.password (p.secretKey q))).persisted)) ∧
    (∀ q ∈ p.schemas, w.secrets.get? (p.secretKey q) = none →
      ∃ stored, ran.2.secrets.get? (p.secretKey q) = some stored ∧
        stored.value "username" = some (Names.schemaUsername p.owner.name q strategy.maxUsernameLength)) ∧
    (∀ key j, ran.2.jobs.get? key = some j → p.Marks key j → key = ⟨p.owner.ns, name⟩) ∧
    (∀ key j, w.jobs.get? key = some j → ¬p.Marks key j → key ≠ ⟨p.owner.ns, name⟩ →
      ran.2.jobs.get? key = some j) ∧
    (∃ job, ran.2.jobs.get? ⟨p.owner.ns, name⟩ = some job ∧ p.Marks ⟨p.owner.ns, name⟩ job ∧
      job.containerNames = p.schemas.map (· ++ "-schema-creation-job")) ∧
    (w.jobOutcome = .succeed →
      ran.1.2.podPhases.get? name = some "Succeeded" ∧
      ∃ results, ran.1.1 = .ok results ∧ results.keys = p.schemas ∧
        ∀ q r, (q, r) ∈ results.entries → ∃ stored, ran.2.secrets.get? (p.secretKey q) = some stored ∧
          r.schemaName = (stored.value "username").getD
            (Names.schemaUsername p.owner.name q strategy.maxUsernameLength) ∧
          r.schemaSecretName = some (Names.schemaSecretName p.owner.name q) ∧
          ran.1.2.derivedParameters.get? (q ++ "JdbcUrl") = some r.jdbcUrl) ∧
    (w.jobOutcome = .fail →
      ran.1.2.podPhases.get? name = some "Failed" ∧
      ran.1.1 = .error ((Error.resourceCreation ("schema preparation Job " ++ name ++ " failed")).onResource
        "Job" p.owner.ns name) ∧
      ran.1.2.derivedParameters = s.derivedParameters) ∧
    (w.jobOutcome = .hang →
      ran.1.2.podPhases.get? name = some "Running" ∧
      ran.1.1 = .error ((timedOut ("waiting for Job " ++ p.owner.ns ++ "/" ++ name ++ " to complete")
        rt.config.podCompletionTimeoutMs).onResource "Job" p.owner.ns name) ∧
      ran.1.2.derivedParameters = s.derivedParameters) := by
  intro strategy ran name
  have run : ran = _ := passRun_run_server p rt strategy server (VendorStrategy.of?_eq_ofVendor server) s w
  rw [run]
  dsimp only
  -- the phase the cluster reports once the wait is over
  have phase := podPhases_preparedStatus p rt strategy w s
  rw [reportedJob, phase_reported] at phase
  refine ⟨calls_prepared p rt strategy w, fun q mem => secrets_prepared p rt strategy w mem,
    fun q mem fresh => ⟨_, secrets_prepared p rt strategy w mem, by
      rw [fresh]
      exact K8s.Secret.value_persisted_credentials _ _ _⟩,
    fun key j stored marked => eq_of_marks_prepared p rt strategy w stored marked,
    fun key j stored other apart => jobs_prepared_of_unmarked p rt strategy w stored other apart,
    ⟨_, jobs_prepared_self p rt strategy w, ⟨rfl, p.label_createdJob rt w⟩, p.containerNames_createdJob rt w⟩,
    fun succeeded => ?_, fun failed => ?_, fun hung => ?_⟩
  -- each outcome: the run's result and the status it leaves
  · rw [succeeded] at phase
    have failure : p.jobFailure rt w.jobOutcome name = none := by rw [succeeded]; rfl
    rw [failure]
    have listed := entries_ofList_preparedResults p rt strategy w
    refine ⟨phase, _, rfl, ?_, fun q r mem => ?_⟩
    · rw [KeyMap.keys, listed, keys_preparedResults]
    rw [listed] at mem
    obtain ⟨inSchemas, rfl⟩ := resultIn_of_mem_preparedResults p rt strategy w mem
    refine ⟨_, secrets_prepared p rt strategy w inSchemas, ?_, rfl,
      derivedParameters_preparedStatus_of_success p rt strategy w s succeeded inSchemas⟩
    simp only [resultIn, secrets_prepared p rt strategy w inSchemas, Option.bind_some]
  · rw [failed] at phase
    have failure : p.jobFailure rt w.jobOutcome name = some ((Error.resourceCreation
        ("schema preparation Job " ++ name ++ " failed")).onResource "Job" p.owner.ns name) := by
      rw [failed]; rfl
    rw [failure]
    exact ⟨phase, rfl, derivedParameters_preparedStatus_of_failure p rt strategy w s failure⟩
  · rw [hung] at phase
    have failure : p.jobFailure rt w.jobOutcome name = some ((timedOut ("waiting for Job " ++ p.owner.ns ++
        "/" ++ name ++ " to complete") rt.config.podCompletionTimeoutMs).onResource "Job" p.owner.ns name) := by
      rw [hung]; rfl
    rw [failure]
    exact ⟨phase, rfl, derivedParameters_preparedStatus_of_failure p rt strategy w s failure⟩

/-- Two schemas on PostgreSQL, one of which keeps the Secret of an earlier pass with another user
name: the Job succeeds, and that schema is named by the user name its Secret holds. -/
theorem run_prepares_each_schema_over_earlier_secret :
    let p : SchemaPreparation :=
      { owner := { ns := "my-namespace", name := "my-app" }, qualifier := "server",
        database := { vendor := .postgresql, host := "pg.my-namespace.svc", port := 5432, databaseName := "appdb" },
        schemas := ["portdb", "servdb"], images := {}, schemasAscending := by decide }
    let rt : Runtime := { config := {}, now := ⟨0, 0⟩, password := fun _ => "fresh" }
    let earlier := (Secret.credentials (p.owner.ownedMeta "my-app-portdb-secret" "server") "legacy_user" "old").persisted
    let w : World := { secrets := [(⟨"my-namespace", "my-app-portdb-secret"⟩, earlier)] }
    p.database.vendor.isExternalServer = true ∧
      ∃ results, (passRun (p.run World.backend.cluster rt) { qualifier := "server" } w).1.1 = .ok results ∧
        results.keys = ["portdb", "servdb"] ∧
        ∀ r, ("portdb", r) ∈ results.entries → r.schemaName = "legacy_user" := by
  intro p rt earlier w
  have server : p.database.vendor.isExternalServer = true := rfl
  obtain ⟨-, kept, -, -, -, -, succeeded, -, -⟩ := run_prepares_each_schema p rt { qualifier := "server" } w server
  obtain ⟨-, results, ran, keys, named⟩ := succeeded rfl
  refine ⟨server, results, ran, keys, fun r mem => ?_⟩
  obtain ⟨stored, found, schemaName, -⟩ := named "portdb" r mem
  have present : w.secrets.get? (p.secretKey "portdb") = some earlier := by decide +kernel
  have earlierKept := kept "portdb" (by decide)
  rw [found, present] at earlierKept
  cases earlierKept
  rw [schemaName, Option.getD_some]
  show ((Secret.credentials (p.owner.ownedMeta "my-app-portdb-secret" "server") "legacy_user" "old").persisted.value
    "username").getD _ = _
  rw [K8s.Secret.value_persisted_credentials]
  rfl

end StackOperator.Deploy
