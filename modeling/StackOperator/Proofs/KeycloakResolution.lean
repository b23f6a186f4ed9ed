import StackOperator.Proofs.TerminalPhase
import StackOperator.Controller.Deploy

/-!
# Resolving a Keycloak server from its stored status

Applications reach a Keycloak server through `keycloakConnection`, which reads the server's
`server` status: its external URL, and the admin Secret the Keycloak controller recorded. The
controller writes that status twice over a pass. The pass of its deployable records the external
URL of the Ingress as the Ingress step leaves it, and the controller's last call rewrites the
status with the `/auth` context appended and the admin Secret named.

* **successful runs** — a run that succeeds ran each of its parts to success
  (`Op.bind_run_eq_ok`); the pass of a deployable keeps its qualifier (`execute_run_ok_qualifier`);
* **the last write** — a completed Keycloak pass leaves the status of its last call under the
  `server` qualifier (`deployKeycloakServer_run_ok`);
* **resolution** — a server resolved from the status of a completed pass is reached under the
  `/auth` context, through the URL the pass logged in with, with its own admin Secret
  (`keycloakConnection_of_completed_pass`).

The connection reads neither the phase nor the failure of the status. A pass that fails after its
Ingress step leaves the URL without the context, and the server resolves from it all the same
(`keycloakConnection_after_failed_pass`).
-/

namespace StackOperator.Cluster

variable {α β : Type}

/-- A run of `x >>= f` succeeds exactly when `x` succeeds and `f` succeeds on its value, from
the world `x` leaves. -/
theorem Op.bind_run_eq_ok {x : Op α} {f : α → Op β} {w w' : World} {b : β} :
    ((x >>= f).run.run w).run = (.ok b, w') ↔
      ∃ a w₁, (x.run.run w).run = (.ok a, w₁) ∧ ((f a).run.run w₁).run = (.ok b, w') := by
  rw [Op.bind_run]
  rcases first : (x.run.run w).run with ⟨_ | a, w₁⟩
  · simp
  · refine ⟨fun rest => ⟨a, w₁, rfl, rest⟩, ?_⟩
    rintro ⟨_, _, same, rest⟩
    cases same
    exact rest

/-- A run of a computation without result that does not fail returns `()`. -/
theorem run_eq_ok_of_toBool {x : Op Unit} {w : World} (passed : (x.run.run w).run.1.toBool = true) :
    (x.run.run w).run = (.ok (), (x.run.run w).run.2) := by
  rcases ran : (x.run.run w).run with ⟨_ | _, w'⟩ <;> simp_all [Except.toBool]

theorem liftExcept_run_eq_ok {e : Except Error α} {a : α} {w w' : World} :
    ((liftExcept e : Op α).run.run w).run = (.ok a, w') ↔ e = .ok a ∧ w' = w := by
  cases e <;> simp [liftExcept, eq_comm]

/-- A status write that succeeds stores the server status in the resource's status. -/
theorem statusOf_of_updateServerStatus {target : K8s.Reference} {s : ServerStatus} {w w' : World}
    (ran : ((updateServerStatus target s).run.run w).run = (.ok (), w')) :
    w'.statusOf target = (w.statusOf target).put s := by
  rw [updateServerStatus_run] at ran
  split at ran
  · cases ran
  · cases ran
    simp [World.statusOf, Store.get?_put_self]

end StackOperator.Cluster

namespace StackOperator.KeycloakPlan

theorem qualifier_of_deployable {server : KeycloakServer} {dbms : Vendor}
    {database : Option ConnectionInfo} {config : OperatorConfig} {passwords : Cluster.ObjectKey → String} {d : Deployable}
    (built : deployable server dbms database config passwords = .ok d) : d.qualifier = qualifier := by
  unfold deployable at built
  cases ingress : server.ingress config <;> simp [ingress, Functor.map, Except.map] at built
  rw [← built]

end StackOperator.KeycloakPlan

namespace StackOperator.Deploy

open Cluster

/-- The pass of a deployable that succeeds returns a status of the deployable's qualifier. -/
theorem execute_run_ok_qualifier (rt : Runtime) (images : ImageResolver) (d : Deployable) (sso : Bool)
    {w w' : World} {deployed : Deployed}
    (ran : ((execute World.backend.cluster rt images d (World.ssoSession sso)).run.run w).run =
      (.ok deployed, w')) :
    deployed.status.qualifier = d.qualifier := by
  unfold execute at ran
  dsimp only at ran
  -- the checks before the steps: a deployable that fails them is refused
  split at ran
  · simp at ran
  split at ran
  · simp at ran
  rename_i checked
  generalize (if d.ingress.isSome = true then ServerKind.web else ServerKind.db) = kind at ran
  have session : sso = true ∨ d.needsKeycloak = false := by
    cases sso <;> simp_all
  obtain ⟨passed, w₁, ranPass, ran⟩ := Op.bind_run_eq_ok.mp ran
  rw [runPass_run] at ranPass
  cases ranPass
  split at ran
  · obtain ⟨_, w₂, -, ran⟩ := Op.bind_run_eq_ok.mp ran
    split at ran
    · obtain ⟨_, _, thrown, -⟩ := Op.bind_run_eq_ok.mp ran
      cases thrown
    · cases ran
      -- the steps keep the qualifier they start with, and finishing keeps it too
      have kept := (steps_run rt images d (ServerStatus.startedAt d.qualifier kind rt.now) sso session rfl w).1
      simpa [ServerStatus.startedAt] using kept.qualifier
  · obtain ⟨_, w₂, -, ran⟩ := Op.bind_run_eq_ok.mp ran
    simp at ran

end StackOperator.Deploy

namespace StackOperator.Controller

open Cluster Deploy

/-- A Keycloak pass that completes leaves, under the `server` qualifier, the status of its
deployable's pass with the admin Secret named and the external URL under the `/auth` context. -/
theorem deployKeycloakServer_run_ok {rt : Runtime} {server : KeycloakServer} {w w' : World}
    (ran : ((deployKeycloakServer World.backend rt server).run.run w).run = (.ok (), w')) :
    ∃ status : ServerStatus, status.qualifier = KeycloakPlan.qualifier ∧
      (w'.statusOf server.reference).serverStatus? KeycloakPlan.qualifier =
        some { status with adminSecretName := some (Names.adminSecretName server.name),
                           externalBaseUrl := status.externalBaseUrl.map (· ++ KeycloakPlan.context) } := by
  unfold deployKeycloakServer at ran
  dsimp only at ran
  obtain ⟨_, w₁, -, ran⟩ := Op.bind_run_eq_ok.mp ran
  obtain ⟨_, w₂, -, ran⟩ := Op.bind_run_eq_ok.mp ran
  obtain ⟨images, w₃, -, ran⟩ := Op.bind_run_eq_ok.mp ran
  -- an external database is resolved first; the rest of the pass is the same either way
  split at ran
  all_goals
    obtain ⟨database, w₄, -, ran⟩ := Op.bind_run_eq_ok.mp ran
    obtain ⟨d, w₅, built, ran⟩ := Op.bind_run_eq_ok.mp ran
    obtain ⟨result, w₆, deployed, ran⟩ := Op.bind_run_eq_ok.mp ran
    obtain ⟨client, w₇, -, ran⟩ := Op.bind_run_eq_ok.mp ran
    obtain ⟨_, w₈, -, ran⟩ := Op.bind_run_eq_ok.mp ran
    have qualified : result.status.qualifier = KeycloakPlan.qualifier :=
      (execute_run_ok_qualifier rt images d false deployed).trans
        (KeycloakPlan.qualifier_of_deployable (liftExcept_run_eq_ok.mp built).1)
    refine ⟨result.status, qualified, ?_⟩
    -- with or without the public client, the last call writes the status
    have written : ∃ w₉ : World, w'.statusOf server.reference = (w₉.statusOf server.reference).put
        { result.status with adminSecretName := some (Names.adminSecretName server.name),
                             externalBaseUrl := result.status.externalBaseUrl.map (· ++ KeycloakPlan.context) } := by
      split at ran
      · obtain ⟨_, w₉, -, ran⟩ := Op.bind_run_eq_ok.mp ran
        exact ⟨w₉, statusOf_of_updateServerStatus ran⟩
      · exact ⟨w₈, statusOf_of_updateServerStatus ran⟩
    obtain ⟨w₉, written⟩ := written
    rw [written, ← qualified]
    exact ResourceStatus.serverStatus_put _ _

/-- The connection to a server whose `server` status records an external URL: that URL, whatever
phase and failure the status records, with the admin Secret the status names. -/
theorem keycloakConnection_of_status (server : KeycloakServer) {status : ServerStatus}
    (read : server.status.bind (·.serverStatus? KeycloakPlan.qualifier) = some status)
    (toUse : Option KeycloakToUse) (url : String) (recorded : status.externalBaseUrl = some url) :
    keycloakConnection server toUse =
      .ok { connection := { baseUrl := url,
                            internalBaseUrl := Names.keycloakInternalBaseUrl server.name server.ns,
                            realm := (toUse.bind (·.realm)).getD Keycloak.defaultRealm,
                            publicClientId := (toUse.bind (·.publicClientId)).getD Keycloak.defaultPublicClient },
            adminSecretNamespace := server.ns,
            adminSecretName := status.adminSecretName.getD (Names.adminSecretName server.name) } := by
  unfold keycloakConnection
  rw [show server.status.bind (·.serverStatus? "server") = some status from read]
  simp [recorded]
  rfl

/-- **A Keycloak server is reached as its completed pass deployed it.** After a pass of the
Keycloak controller completes, a connection resolved from the status the pass stored, with any
realm and public client, reaches an external URL under the `/auth` context, through the internal
URL the pass logged in with, with the admin Secret of the server's namespace and name. -/
theorem keycloakConnection_of_completed_pass {rt : Runtime} {server : KeycloakServer} {w w' : World}
    (ran : ((deployKeycloakServer World.backend rt server).run.run w).run = (.ok (), w'))
    (toUse : Option KeycloakToUse) :
    let stored : KeycloakServer := { server with status := some (w'.statusOf server.reference) }
    ∀ resolved, keycloakConnection stored toUse = .ok resolved →
      (∃ url, resolved.connection.baseUrl = url ++ KeycloakPlan.context) ∧
        resolved.connection.internalBaseUrl = Names.keycloakInternalBaseUrl server.name server.ns ∧
        resolved.adminSecretNamespace = server.ns ∧
        resolved.adminSecretName = Names.adminSecretName server.name := by
  obtain ⟨status, -, left⟩ := deployKeycloakServer_run_ok ran
  intro stored resolved connected
  cases recorded : status.externalBaseUrl with
  | none =>
    -- the last write records no URL, and a server without one does not resolve
    simp [keycloakConnection, stored, Option.bind_some, show (w'.statusOf server.reference).serverStatus?
      "server" = _ from left, recorded] at connected
  | some url =>
    rw [keycloakConnection_of_status stored left toUse (url ++ KeycloakPlan.context)
      (by simp [recorded])] at connected
    cases connected
    exact ⟨⟨url, rfl⟩, rfl, rfl, rfl⟩

/-- A Keycloak server whose pod becomes ready: its pass completes, and a connection resolved from
the status it leaves has the `/auth` context. -/
theorem keycloakConnection_of_completed_pass_when_ready :
    let server : KeycloakServer :=
      { metadata := { name := some "my-kc", ns := some "my-namespace", uid := some "my-kc-uid",
                      generation := some 1 },
        spec := { ingressHostName := some "sso.example.com" } }
    let rt : Runtime := { config := {}, now := ⟨0, 0⟩, password := fun _ => "changeit" }
    let run := ((deployKeycloakServer World.backend rt server).run.run {}).run
    let stored : KeycloakServer := { server with status := some (run.2.statusOf server.reference) }
    run = (.ok (), run.2) ∧
      ∀ resolved, keycloakConnection stored none = .ok resolved →
        (∃ url, resolved.connection.baseUrl = url ++ KeycloakPlan.context) ∧
          resolved.connection.internalBaseUrl = Names.keycloakInternalBaseUrl server.name server.ns ∧
          resolved.adminSecretNamespace = server.ns ∧
          resolved.adminSecretName = Names.adminSecretName server.name := by
  intro server rt run stored
  have completed : run = (.ok (), run.2) := run_eq_ok_of_toBool (by decide +kernel)
  exact ⟨completed, keycloakConnection_of_completed_pass completed none⟩

/-- A Keycloak server whose pod never becomes ready: its pass fails, and the status it leaves
records the failure, yet the server resolves from that status to its external URL without the
`/auth` context. -/
theorem keycloakConnection_after_failed_pass :
    let server : KeycloakServer :=
      { metadata := { name := some "my-kc", ns := some "my-namespace", uid := some "my-kc-uid",
                      generation := some 1 },
        spec := { ingressHostName := some "sso.example.com" } }
    let rt : Runtime :=
      { config := { podReadinessTimeoutMs := 30, podCompletionTimeoutMs := 30, pollIntervalMs := 5 },
        now := ⟨0, 0⟩, password := fun _ => "changeit" }
    let run := ((reconcileStatus World.backend.cluster rt.now server.reference KeycloakPlan.qualifier
      (deployKeycloakServer World.backend rt server)).run.run { podsReady := false }).run
    let stored : KeycloakServer := { server with status := some (run.2.statusOf server.reference) }
    run.1.toBool = false ∧
      (stored.status.bind (·.serverStatus? KeycloakPlan.qualifier)).map (·.hasFailed) = some true ∧
      (keycloakConnection stored none).toOption.map (·.connection.baseUrl) = some "http://sso.example.com" := by
  intro server rt run stored
  decide +kernel

end StackOperator.Controller
