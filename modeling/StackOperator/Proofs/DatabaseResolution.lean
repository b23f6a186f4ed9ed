import StackOperator.Proofs.AppPass

/-!
# Which database a resource gets

A resource keeps its schemas in the database the controller resolves for the vendor it asks for.
An in-container database needs nothing from the cluster. For a database server, the controller
looks at the `EntandoDatabaseService`s of the vendor in the resource's namespace, in the order the
cluster lists them (`databaseCandidates`): the first one that has deployed successfully serves the
resource; while some exist but none has, the resource has to wait; and only when there is none is
a server deployed for the resource itself, as its `db` qualifier.

Main statement: `resolveDatabase_outcome`, the four cases on the simulated cluster, with what each
returns and that only the last one changes the cluster. The in-container case makes no call on any
cluster at all (`resolveDatabase_inContainer`).
-/

namespace StackOperator.Controller

open Cluster Deploy

/-- An in-container database is resolved without any call, whatever the cluster. -/
theorem resolveDatabase_inContainer {n : Type → Type} [Monad n] (api : ClusterApi n) (rt : Runtime)
    (images : ImageResolver) (owner : K8s.Reference) {vendor : Vendor} (storageClass : Option String)
    (inContainer : vendor.isExternalServer = false) :
    resolveDatabase api rt images owner vendor storageClass = pure ConnectionInfo.embedded := by
  simp [resolveDatabase, inContainer]

/-- The message of a resolution that waits for `dbs`: the service and its phase, `unknown` when it
has none. -/
def waitingMessage (owner : K8s.Reference) (vendor : Vendor) (dbs : DatabaseService) : String :=
  "EntandoDatabaseService " ++ owner.ns ++ "/" ++ dbs.name ++ " for " ++ vendor.name ++
    " is not available yet (phase " ++ ((dbs.status.bind (·.phase)).map (·.name)).getD "unknown" ++ ")"

/-- A dedicated server is planned for the owner as its `db` qualifier; the plan fails only for a
vendor the operator cannot deploy, which among the database servers is Oracle. -/
theorem make_dedicated (owner : K8s.Reference) {vendor : Vendor} (server : vendor.isExternalServer = true)
    (storageClass : Option String) (passwords : Cluster.ObjectKey → String) :
    (∀ e, DatabasePlan.make owner vendor none storageClass [] passwords = .error e → vendor = .oracle) ∧
    (∀ plan, DatabasePlan.make owner vendor none storageClass [] passwords = .ok plan →
      plan.vendor = vendor ∧ plan.deployable.owner = owner ∧ plan.deployable.qualifier = "db") := by
  refine ⟨fun e failed => ?_, fun plan made => ?_⟩
  · cases vendor with
    | oracle => rfl
    | embedded | none => cases server
    | mysql =>
      obtain ⟨plan, made, -⟩ := DatabasePlan.make_of_deployable (.inl rfl) owner none storageClass [] passwords
      rw [made] at failed
      cases failed
    | postgresql =>
      obtain ⟨plan, made, -⟩ := DatabasePlan.make_of_deployable (.inr rfl) owner none storageClass [] passwords
      rw [made] at failed
      cases failed
  · obtain ⟨vendorOf, ownerOf, qualifierOf, -⟩ := DatabasePlan.make_deployable made
    exact ⟨vendorOf, ownerOf, qualifierOf⟩

/-- The database a resource gets. For an in-container database (embedded or none) the resolution
makes no call on any cluster and answers the embedded connection. For a database server it reads
the database services of the vendor in the owner's namespace, in list order:

* when one has deployed successfully, the first such one gives the connection, and the cluster is
  left as it was;
* when some exist but none has, the resolution fails with a configuration error naming the first
  of them and its phase, and the cluster is left as it was;
* when none exists, a server is planned for the owner as its `db` qualifier and deployed by a pass
  of its own; the resolution answers the plan's connection when the pass succeeds and the pass's
  error otherwise, and a plan that cannot be made (Oracle) fails with its error and no call. -/
theorem resolveDatabase_outcome (rt : Runtime) (images : ImageResolver) (owner : K8s.Reference)
    (vendor : Vendor) (storageClass : Option String) (w : World) :
    let run := ((resolveDatabase World.backend.cluster rt images owner vendor storageClass).run.run w).run
    let candidates := databaseCandidates w owner.ns vendor
    ((vendor = .embedded ∨ vendor = .none) → ∀ (n : Type → Type) [Monad n] (api : ClusterApi n),
      resolveDatabase api rt images owner vendor storageClass = pure ConnectionInfo.embedded) ∧
    (vendor.isExternalServer = true → ∀ dbs, candidates.find? (·.isReady) = some dbs →
      run = (dbs.connection, w)) ∧
    (vendor.isExternalServer = true → ∀ first rest, candidates = first :: rest →
      candidates.find? (·.isReady) = none → run = (.error (.config (waitingMessage owner vendor first)), w)) ∧
    (vendor.isExternalServer = true → candidates = [] →
      (∀ e, DatabasePlan.make owner vendor none storageClass [] rt.password = .error e →
        vendor = .oracle ∧ run = (.error e, w)) ∧
      (∀ plan, DatabasePlan.make owner vendor none storageClass [] rt.password = .ok plan →
        plan.vendor = vendor ∧ plan.deployable.owner = owner ∧ plan.deployable.qualifier = "db" ∧
        let pass := ((execute World.backend.cluster rt images plan.deployable none).run.run w).run
        run = (pass.1.map fun _ => plan.connection, pass.2))) := by
  intro run candidates
  refine ⟨fun inContainer n _ api => resolveDatabase_inContainer api rt images owner storageClass
    (by rcases inContainer with rfl | rfl <;> rfl), ?_⟩
  -- a database server: the services of the namespace are listed, and nothing else is read
  refine ⟨fun server dbs ready => ?_, fun server first rest listedFirst none => ?_, fun server absent => ?_⟩
  all_goals
    simp only [candidates, databaseCandidates] at *
    simp only [run, resolveDatabase, server, Bool.not_true, Bool.false_eq_true, if_false, Op.bind_run,
      backend_listDatabaseServices, listDatabaseServices_run]
  · simp only [ready, liftExcept_run]
  · rw [none]
    simp only [listedFirst, throw_run]
    rfl
  · have planned := make_dedicated owner server storageClass rt.password
    refine ⟨fun e failed => ⟨planned.1 e failed, ?_⟩, fun plan made => ⟨(planned.2 plan made).1,
      (planned.2 plan made).2.1, (planned.2 plan made).2.2, ?_⟩⟩
    · simp only [absent, List.find?_nil, Op.bind_run, failed, liftExcept_run]
    · simp only [absent, List.find?_nil, Op.bind_run, made, liftExcept_run]
      rcases ((execute World.backend.cluster rt images plan.deployable none).run.run w).run with
        ⟨_ | _, w'⟩ <;> rfl

end StackOperator.Controller
