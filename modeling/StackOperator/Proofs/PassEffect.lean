import StackOperator.Proofs.PassRuns

/-!
# What a deploy pass does to the simulated cluster

A pass run against `World.backend` threads the qualifier's status through its steps. The cluster
sees that status only where it is written: the write is recorded as a call, and the status store
changes. Everything else a pass does depends only on the world it starts from, and this module
states it as a function of that world.

* `stepsEffect`: the error the steps end with, if any, and the world they leave but for its status
  store. It chains one effect per step (`schemaEffect`, `caEffect`, `ingressEffect`, and the
  status writes as `written`), each step running from the world the one before left and stopping
  the pass with its error.
* `steps_wp`: run from any world, the steps leave the world of `stepsEffect` with some status
  store, and end with its error, or succeed when it has none. Steps 1 to 8 alone are
  `throughDeployment`; a pass that gets past them has recorded the phases of the pods its selector
  lists (`steps_wp_listed`).
* `execute_stored`: the status a checked pass stores is the one its steps ended with, finished.
-/

namespace StackOperator.Cluster.World

open K8s

/-- A status write as the rest of the world sees it: the call is recorded. -/
def logWrite (w : World) (qualifier : String) : World :=
  { w with calls := w.calls ++ ["update_server_status:" ++ qualifier] }

/-- The Keycloak admin session a pass is given: the simulated one, or none. -/
def ssoSession : Bool → Option (SsoClient (StateM World))
  | true => some ssoClient
  | false => none

theorem writeStatus_eq_logWrite (w : World) (owner : Reference) (s : ServerStatus) :
    w.writeStatus owner s = (w.logWrite s.qualifier).withStatusStore (w.writeStatus owner s).statuses :=
  rfl

theorem withStatusStore_self (w : World) : w.withStatusStore w.statuses = w := rfl

@[simp] theorem ssoSession_isNone (sso : Bool) : (ssoSession sso).isNone = !sso := by
  cases sso <;> rfl

/-- A status write as a call: its outcome and the world it leaves. -/
theorem updateServerStatus_writes (owner : Reference) (s : ServerStatus) (w : World) :
    ((updateServerStatus owner s).run.run w).run = (w.writeOutcome, w.writeStatus owner s) := by
  rw [updateServerStatus_run]
  unfold writeOutcome writeStatus
  cases w.failStatusWrites <;> rfl

/-- A status write of a qualifier, seen without the status store, is the recorded call. -/
theorem writeStatus_logged {owner : Reference} {s : ServerStatus} {qualifier : String}
    (qualified : s.qualifier = qualifier) (w : World) (statuses : Store ResourceStatus) :
    ∃ statuses', (w.withStatusStore statuses).writeStatus owner s = (w.logWrite qualifier).withStatusStore statuses' :=
  ⟨_, by rw [writeStatus_eq_logWrite, qualified]; rfl⟩

/-- The status a write stores for its qualifier. -/
theorem stored_writeStatus {w : World} (writable : w.failStatusWrites = false) (owner : Reference)
    (s : ServerStatus) :
    ((w.writeStatus owner s).statuses.get? (statusKey owner)).bind (·.servers.get? s.qualifier) = some s := by
  simp [writeStatus, writable, Store.get?_put_self, ResourceStatus.put, KeyMap.get?_put_self]

/-! No call but the status write reads or changes the status store. -/

section StatusStore

variable (w : World) (statuses : Store ResourceStatus)

@[simp] theorem withStatusStore_withStatusStore (statuses' : Store ResourceStatus) :
    (w.withStatusStore statuses).withStatusStore statuses' = w.withStatusStore statuses' := rfl

@[simp] theorem writeOutcome_withStatusStore : (w.withStatusStore statuses).writeOutcome = w.writeOutcome :=
  rfl

@[simp] theorem logWrite_withStatusStore (qualifier : String) :
    (w.withStatusStore statuses).logWrite qualifier = (w.logWrite qualifier).withStatusStore statuses := rfl

@[simp] theorem withSecrets_withStatusStore (ss : List Secret) :
    (w.withStatusStore statuses).withSecrets ss = (w.withSecrets ss).withStatusStore statuses := rfl

@[simp] theorem withAccountOf_withStatusStore (d : Deployable) :
    (w.withStatusStore statuses).withAccountOf d = (w.withAccountOf d).withStatusStore statuses := by
  unfold withAccountOf
  cases d.serviceAccount <;> rfl

@[simp] theorem withService_withStatusStore (service : Service) :
    (w.withStatusStore statuses).withService service = (w.withService service).withStatusStore statuses :=
  rfl

@[simp] theorem withDeployment_withStatusStore (deployment : Deployment) :
    (w.withStatusStore statuses).withDeployment deployment =
      (w.withDeployment deployment).withStatusStore statuses := rfl

end StatusStore

end StackOperator.Cluster.World

namespace StackOperator.ServerStatus

variable (s : ServerStatus) (now : Instant)

@[simp] theorem finish_qualifier : (s.finish now).qualifier = s.qualifier := by
  unfold finish
  split <;> rfl

@[simp] theorem finish_failure : (s.finish now).failure = s.failure := by
  unfold finish
  split <;> rfl

@[simp] theorem finishWith_qualifier (f : ControllerFailure) : (s.finishWith f now).qualifier = s.qualifier := by
  unfold finishWith
  split <;> simp

@[simp] theorem finish_podPhases : (s.finish now).podPhases = s.podPhases := by
  unfold finish
  split <;> rfl

@[simp] theorem finishWith_podPhases (f : ControllerFailure) : (s.finishWith f now).podPhases = s.podPhases := by
  unfold finishWith
  split <;> simp

theorem finishWith_failure {s : ServerStatus} (unfailed : s.failure = none) (f : ControllerFailure)
    (now : Instant) : (s.finishWith f now).failure = some f := by
  simp [finishWith, unfailed]

end StackOperator.ServerStatus

namespace StackOperator.VendorStrategy

/-- Every database server has its strategy. -/
theorem of?_eq_ofVendor {v : Vendor} (server : v.isExternalServer = true) : of? v = some (ofVendor v) := by
  cases v with
  | mysql | postgresql | oracle => rfl
  | embedded | none => cases server

end StackOperator.VendorStrategy

namespace StackOperator.Deploy

open Cluster K8s

variable {α : Type}

/-- A status write after `w`: its outcome, and the world it leaves but for the status store. -/
def written (w : World) (qualifier : String) : Except Error Unit × World :=
  (w.writeOutcome, w.logWrite qualifier)

/-- A world after a status write is the world with the write recorded and some status store. -/
theorem post_writeStatus {post : Except Error α → ServerStatus → World → Prop} {r : Except Error α}
    {s : ServerStatus} {qualifier : String} (qualified : s.qualifier = qualifier) (w : World)
    (owner : Reference) (h : ∀ statuses, post r s ((w.logWrite qualifier).withStatusStore statuses)) :
    post r s (w.writeStatus owner s) := by
  rw [World.writeStatus_eq_logWrite, qualified]
  exact h _

@[simp] theorem withClients_withStatusStore (w : World) (statuses : Store ResourceStatus) (d : Deployable)
    (accesses : List KeycloakAccess) :
    withClients (w.withStatusStore statuses) d accesses = (withClients w d accesses).withStatusStore statuses :=
  rfl

@[simp] theorem readyPodIn_withStatusStore (w : World) (statuses : Store ResourceStatus) (ns name selector : String) :
    readyPodIn (w.withStatusStore statuses) ns name selector = readyPodIn w ns name selector := rfl

@[simp] theorem nameOf_storedDeployment (w : World) (d : Deployable) (inputs : Children.DeploymentInputs) :
    nameOf (storedDeployment w (Children.deployment d inputs)).metadata = d.deploymentName := rfl

/-- The schema step: nothing without schemas, a failure without a database, the status write alone
on an embedded database, and on a database server the preparation and then the status write,
whose failure only counts when the preparation succeeded. -/
def schemaEffect (rt : Runtime) (images : ImageResolver) (d : Deployable) (w : World) :
    Except Error (KeyMap SchemaResult) × World :=
  if d.schemaQualifiers = [] then (.ok .empty, w)
  else match d.database with
    | none => (.error (.illegalState (d.owner.name ++ " " ++ d.qualifier ++
        " declares database schemas but no database")), w)
    | some db =>
      if db.vendor.isExternalServer then
        let p := preparation d images db
        let strategy := VendorStrategy.ofVendor db.vendor
        let prepared := p.prepared rt strategy w
        match p.jobFailure rt w.jobOutcome (p.jobName w.jobCounter) with
        | some e => (.error (.databasePreparation "Could not init database schemas" e),
            prepared.logWrite d.qualifier)
        | none => (prepared.writeOutcome.map fun _ => KeyMap.ofList (d.schemaQualifiers.map fun schema =>
            (schema, p.resultIn strategy prepared.secrets schema)), prepared.logWrite d.qualifier)
      else (w.writeOutcome.map fun _ => embeddedResults d.schemaQualifiers, w.logWrite d.qualifier)

/-- The CA step: the CA Secret mirrored when a container trusts it. -/
def caEffect (config : OperatorConfig) (d : Deployable) (w : World) : Except Error (Option String) × World :=
  if d.trustsCa then caSecretEffect config d.owner.ns w else (.ok none, w)

/-- The Ingress step: the deployable's Ingress, merged with the one of its name, and the status
write; nothing when it serves nothing over HTTP. -/
def ingressEffect (d : Deployable) (w : World) : Except Error (Option Ingress) × World :=
  match d.ingress.bind fun req => Children.ingress d req (w.ingresses.get? ⟨d.owner.ns, req.ingressName⟩) with
  | none => (.ok none, w)
  | some desired =>
    ((w.withIngress desired).writeOutcome.map fun _ => some desired, (w.withIngress desired).logWrite d.qualifier)

/-- The wait for a ready pod of the deployable's Deployment, which times out without one. -/
def readinessOutcome (rt : Runtime) (d : Deployable) (w : World) : Except Error Unit :=
  match readyPodIn w d.owner.ns d.deploymentName (d.owner.deploymentSelector d.qualifier) with
  | some _ => .ok ()
  | none => .error ((timedOut ("waiting for a Ready pod of Deployment " ++ d.owner.ns ++ "/" ++
      d.deploymentName) rt.config.podReadinessTimeoutMs).onResource "Deployment" d.owner.ns d.deploymentName)

/-- The pod phases step 9 records over `phases`: the phase of each listed pod under its name, a
later pod of a name replacing an earlier one. -/
def recordPhases (pods : List Pod) (phases : KeyMap String) : KeyMap String :=
  pods.foldl (fun m p => KeyMap.put m (nameOf p.metadata) p.phase) phases

/-- The steps of a pass on the simulated cluster, but for the status store: the error they end
with, if any, and the world they leave. -/
def stepsEffect (rt : Runtime) (images : ImageResolver) (d : Deployable) (w : World) :
    Except Error Unit × World :=
  match schemaEffect rt images d w with
  | (.error e, w) => (.error e, w)
  | (.ok schemas, w) =>
  match written (w.withClaims (Children.claims d rt.config)) d.qualifier with
  | (.error e, w) => (.error e, w)
  | (.ok (), w) =>
  match caEffect rt.config d w with
  | (.error e, w) => (.error e, w)
  | (.ok caSecretName, w) =>
  match written (((w.withSecrets d.secrets).withAccountOf d).withService (Children.service d)) d.qualifier with
  | (.error e, w) => (.error e, w)
  | (.ok (), w) =>
  match ingressEffect d w with
  | (.error e, w) => (.error e, w)
  | (.ok _, w) =>
  match written ((withClients w d (clientAccesses d)).withDeployment
      (Children.deployment d { config := rt.config, images, schemas, caSecretName })) d.qualifier with
  | (.error e, w) => (.error e, w)
  | (.ok (), w) => (readinessOutcome rt d w, w)

/-- Steps 1 to 8 on the simulated cluster, but for the status store: everything before the wait for
a ready pod, ending with the Deployment applied and the status written. A pass reaches the wait
exactly when these end without an error. -/
def throughDeployment (rt : Runtime) (images : ImageResolver) (d : Deployable) (w : World) :
    Except Error Unit × World :=
  match schemaEffect rt images d w with
  | (.error e, w) => (.error e, w)
  | (.ok schemas, w) =>
  match written (w.withClaims (Children.claims d rt.config)) d.qualifier with
  | (.error e, w) => (.error e, w)
  | (.ok (), w) =>
  match caEffect rt.config d w with
  | (.error e, w) => (.error e, w)
  | (.ok caSecretName, w) =>
  match written (((w.withSecrets d.secrets).withAccountOf d).withService (Children.service d)) d.qualifier with
  | (.error e, w) => (.error e, w)
  | (.ok (), w) =>
  match ingressEffect d w with
  | (.error e, w) => (.error e, w)
  | (.ok _, w) =>
  written ((withClients w d (clientAccesses d)).withDeployment
    (Children.deployment d { config := rt.config, images, schemas, caSecretName })) d.qualifier

/-- The steps are steps 1 to 8 and then the wait, which leaves the world as it is. -/
theorem stepsEffect_eq_wait (rt : Runtime) (images : ImageResolver) (d : Deployable) (w : World) :
    stepsEffect rt images d w = match throughDeployment rt images d w with
      | (.ok (), w') => (readinessOutcome rt d w', w')
      | (.error e, w') => (.error e, w') := by
  unfold stepsEffect throughDeployment
  -- each of steps 1 to 8 stops both with its error or hands both the same world
  rcases schemaEffect rt images d w with ⟨_ | schemas, w₁⟩
  · rfl
  dsimp only
  rcases written (w₁.withClaims (Children.claims d rt.config)) d.qualifier with ⟨_ | ⟨⟩, w₂⟩
  · rfl
  dsimp only
  rcases caEffect rt.config d w₂ with ⟨_ | caSecretName, w₃⟩
  · rfl
  dsimp only
  rcases written (((w₃.withSecrets d.secrets).withAccountOf d).withService (Children.service d))
    d.qualifier with ⟨_ | ⟨⟩, w₄⟩
  · rfl
  dsimp only
  rcases ingressEffect d w₄ with ⟨_ | _, w₅⟩
  · rfl
  dsimp only
  rcases written ((withClients w₅ d (clientAccesses d)).withDeployment
    (Children.deployment d { config := rt.config, images, schemas, caSecretName })) d.qualifier with
    ⟨_ | ⟨⟩, w₆⟩ <;> rfl

/-- The wait leaves the world as steps 1 to 8 left it. -/
theorem throughDeployment_snd (rt : Runtime) (images : ImageResolver) (d : Deployable) (w : World) :
    (throughDeployment rt images d w).2 = (stepsEffect rt images d w).2 := by
  rw [stepsEffect_eq_wait]
  rcases throughDeployment rt images d w with ⟨_ | ⟨⟩, w'⟩ <;> rfl

/-- What every step keeps, the steps keep: a relation between the world before and after, closed
under composition, that each step's world change satisfies holds of the whole effect. -/
theorem stepsEffect_keeps (rt : Runtime) (images : ImageResolver) (d : Deployable)
    (R : World → World → Prop) (trans : ∀ a b c, R a b → R b c → R a c)
    (schema : ∀ w, R w (schemaEffect rt images d w).2)
    (logged : ∀ w, R w (w.logWrite d.qualifier))
    (claims : ∀ w, R w (w.withClaims (Children.claims d rt.config)))
    (ca : ∀ w, R w (caEffect rt.config d w).2)
    (support : ∀ w, R w (((w.withSecrets d.secrets).withAccountOf d).withService (Children.service d)))
    (ingress : ∀ w, R w (ingressEffect d w).2)
    (deployment : ∀ w inputs,
      R w ((withClients w d (clientAccesses d)).withDeployment (Children.deployment d inputs)))
    (w : World) : R w (stepsEffect rt images d w).2 := by
  -- a write after a step: the step's change, then the recorded call
  have written_after : ∀ w w', R w w' → R w (written w' d.qualifier).2 :=
    fun w w' first => trans _ _ _ first (logged w')
  unfold stepsEffect
  have first := schema w
  generalize schemaEffect rt images d w = step₁ at first ⊢
  rcases step₁ with ⟨_ | schemas, w₁⟩
  · exact first
  dsimp only
  have second := trans _ _ _ first (written_after _ _ (claims w₁))
  generalize written (w₁.withClaims (Children.claims d rt.config)) d.qualifier = step₂ at second ⊢
  rcases step₂ with ⟨_ | ⟨⟩, w₂⟩
  · exact second
  dsimp only
  have third := trans _ _ _ second (ca w₂)
  generalize caEffect rt.config d w₂ = step₃ at third ⊢
  rcases step₃ with ⟨_ | caSecretName, w₃⟩
  · exact third
  dsimp only
  have fourth := trans _ _ _ third (written_after _ _ (support w₃))
  generalize written (((w₃.withSecrets d.secrets).withAccountOf d).withService (Children.service d))
    d.qualifier = step₄ at fourth ⊢
  rcases step₄ with ⟨_ | ⟨⟩, w₄⟩
  · exact fourth
  dsimp only
  have fifth := trans _ _ _ fourth (ingress w₄)
  generalize ingressEffect d w₄ = step₅ at fifth ⊢
  rcases step₅ with ⟨_ | _, w₅⟩
  · exact fifth
  dsimp only
  have sixth := trans _ _ _ fifth (written_after _ _ (deployment w₅
    { config := rt.config, images, schemas, caSecretName }))
  generalize written ((withClients w₅ d (clientAccesses d)).withDeployment
    (Children.deployment d { config := rt.config, images, schemas, caSecretName })) d.qualifier = step₆ at sixth ⊢
  rcases step₆ with ⟨_ | ⟨⟩, w₆⟩ <;> exact sixth

/-- No step switches status writes on or off, makes pods ready or unready, changes how Jobs end,
or touches the pods left from earlier templates. -/
theorem stepsEffect_knobs (rt : Runtime) (images : ImageResolver) (d : Deployable) (w : World) :
    (stepsEffect rt images d w).2.failStatusWrites = w.failStatusWrites ∧
      (stepsEffect rt images d w).2.podsReady = w.podsReady ∧
      (stepsEffect rt images d w).2.jobOutcome = w.jobOutcome ∧
      (stepsEffect rt images d w).2.stalePods = w.stalePods := by
  refine stepsEffect_keeps rt images d
    (fun w w' => w'.failStatusWrites = w.failStatusWrites ∧ w'.podsReady = w.podsReady ∧
      w'.jobOutcome = w.jobOutcome ∧ w'.stalePods = w.stalePods)
    (fun _ _ _ first second => ⟨second.1.trans first.1, second.2.1.trans first.2.1,
      second.2.2.1.trans first.2.2.1, second.2.2.2.trans first.2.2.2⟩)
    ?_ (fun _ => ⟨rfl, rfl, rfl, rfl⟩) (fun _ => ⟨rfl, rfl, rfl, rfl⟩) ?_ ?_ ?_ (fun _ _ => ⟨rfl, rfl, rfl, rfl⟩) w
  · intro w
    unfold schemaEffect
    dsimp only
    repeat' split
    all_goals exact ⟨rfl, rfl, rfl, rfl⟩
  · intro w
    unfold caEffect caSecretEffect
    repeat' split
    all_goals exact ⟨rfl, rfl, rfl, rfl⟩
  · intro w
    unfold World.withAccountOf
    split <;> exact ⟨rfl, rfl, rfl, rfl⟩
  · intro w
    unfold ingressEffect
    split <;> exact ⟨rfl, rfl, rfl, rfl⟩

theorem stepsEffect_failStatusWrites (rt : Runtime) (images : ImageResolver) (d : Deployable) (w : World) :
    (stepsEffect rt images d w).2.failStatusWrites = w.failStatusWrites :=
  (stepsEffect_knobs rt images d w).1

section Steps

variable (rt : Runtime) (images : ImageResolver) (d : Deployable) (s : ServerStatus) (W : World)
  (statuses : Store ResourceStatus)

theorem schemaEffect_wp (post : Except Error (KeyMap SchemaResult) → ServerStatus → World → Prop)
    (qualified : s.qualifier = d.qualifier)
    (h : ∀ s' statuses', s.Continues s' →
      post (schemaEffect rt images d W).1 s' ((schemaEffect rt images d W).2.withStatusStore statuses')) :
    wp (prepareDatabase World.backend.cluster rt images d) post s (W.withStatusStore statuses) := by
  unfold schemaEffect at h
  by_cases none : d.schemaQualifiers = []
  · rw [if_pos none] at h
    exact prepareDatabase_wp_none rt images d post s _ none (h s statuses (.refl s))
  · rw [if_neg none] at h
    cases hosted : d.database with
    | none =>
      simp only [hosted] at h
      exact prepareDatabase_wp_unhosted rt images d post s _ none hosted (h s statuses (.refl s))
    | some db =>
      simp only [hosted] at h
      cases server : db.vendor.isExternalServer with
      | false =>
        simp only [server, Bool.false_eq_true, if_false] at h
        exact prepareDatabase_wp_embedded rt images d post s _ db none hosted server
          (post_writeStatus qualified _ _ fun statuses' => h s statuses' (.refl s))
      | true =>
        simp only [server, if_true] at h
        refine prepareDatabase_wp_server rt images d post s _ db _ none hosted server
          (VendorStrategy.of?_eq_ofVendor server) fun s' continues => ?_
        simp only [World.withStatusStore_jobOutcome, World.withStatusStore_jobCounter]
        cases failed : (preparation d images db).jobFailure rt W.jobOutcome
            ((preparation d images db).jobName W.jobCounter) <;>
          simp only [failed] at h <;>
          exact post_writeStatus (continues.qualifier.trans qualified) _ _ fun statuses' =>
            h s' statuses' continues

theorem claimsEffect_wp (post : Except Error Unit → ServerStatus → World → Prop)
    (qualified : s.qualifier = d.qualifier)
    (h : ∀ s' statuses', s.Continues s' →
      post (written (W.withClaims (Children.claims d rt.config)) d.qualifier).1 s'
        ((written (W.withClaims (Children.claims d rt.config)) d.qualifier).2.withStatusStore statuses')) :
    wp (claimsStep World.backend.cluster rt d) post s (W.withStatusStore statuses) :=
  claimsStep_wp d s _ rt post fun s' continues =>
    post_writeStatus (continues.qualifier.trans qualified) _ _ fun statuses' => h s' statuses' continues

/-- A status write of the deployable, followed by the rest of the pass `k`. -/
theorem persist_wp (k : Unit → Pass (StateM World) α) (post : Except Error α → ServerStatus → World → Prop)
    (qualified : s.qualifier = d.qualifier)
    (h : ∀ statuses', match written W d.qualifier with
      | (.ok (), W') => wp (k ()) post s (W'.withStatusStore statuses')
      | (.error e, W') => post (.error e) s (W'.withStatusStore statuses')) :
    wp (persist World.backend.cluster d >>= k) post s (W.withStatusStore statuses) := by
  rw [wp_bind, wp_persist, World.writeStatus_eq_logWrite, qualified]
  simp only [World.writeOutcome_withStatusStore, World.logWrite_withStatusStore,
    World.withStatusStore_withStatusStore]
  have done := h ((W.withStatusStore statuses).writeStatus d.owner s).statuses
  unfold written at done
  generalize W.writeOutcome = outcome at done ⊢
  cases outcome <;> exact done

/-- The CA step, followed by the rest of the pass `k`. -/
theorem caEffect_wp (config : OperatorConfig) (k : Option String → Pass (StateM World) α)
    (post : Except Error α → ServerStatus → World → Prop)
    (h : match caEffect config d W with
      | (.ok caSecretName, W') => wp (k caSecretName) post s (W'.withStatusStore statuses)
      | (.error e, W') => post (.error e) s (W'.withStatusStore statuses)) :
    wp (if d.trustsCa = true then liftCall (ensureCaSecret World.backend.cluster config d.owner.ns) >>= k
      else pure none >>= k) post s (W.withStatusStore statuses) := by
  unfold caEffect at h
  cases trusts : d.trustsCa with
  | false =>
    simp only [trusts, Bool.false_eq_true, if_false] at h ⊢
    rw [pure_bind]
    exact h
  | true =>
    simp only [trusts, if_true] at h ⊢
    rw [wp_bind, wp_liftCall, ensureCaSecret_run, caSecretEffect_statuses]
    generalize caSecretEffect config d.owner.ns W = mirrored at h ⊢
    rcases mirrored with ⟨_ | _, W'⟩ <;> exact h

theorem ingressEffect_wp (post : Except Error (Option Ingress) → ServerStatus → World → Prop)
    (qualified : s.qualifier = d.qualifier)
    (h : ∀ s' statuses', s.Continues s' →
      post (ingressEffect d W).1 s' ((ingressEffect d W).2.withStatusStore statuses')) :
    wp (ingressStep World.backend.cluster d) post s (W.withStatusStore statuses) := by
  refine ingressStep_wp d s _ post fun s' continues => ?_
  unfold ingressEffect at h
  simp only [World.withStatusStore_ingresses]
  cases merged : d.ingress.bind fun req => Children.ingress d req (W.ingresses.get? ⟨d.owner.ns, req.ingressName⟩) with
  | none =>
    simp only [merged] at h
    exact h s' statuses continues
  | some desired =>
    simp only [merged] at h
    exact post_writeStatus (continues.qualifier.trans qualified) _ _ fun statuses' => h s' statuses' continues

/-- With the simulated Keycloak session, or without one when no container needs it, the Keycloak
step registers the client of every container that authenticates through Keycloak. -/
theorem keycloakEffect_wp (sso : Bool) (session : sso = true ∨ d.needsKeycloak = false)
    (post : Except Error Unit → ServerStatus → World → Prop)
    (h : ∀ s', s.Continues s' → post (.ok ()) s' ((withClients W d (clientAccesses d)).withStatusStore statuses)) :
    wp (keycloakStep World.backend.cluster d (World.ssoSession sso)) post s (W.withStatusStore statuses) := by
  cases sso with
  | true => exact keycloakStep_wp d s _ post h
  | false =>
    have unneeded := session.resolve_left Bool.false_ne_true
    rw [clientAccesses_eq_nil unneeded, withClients_nil] at h
    exact keycloakStep_wp_unneeded d s _ post unneeded h

/-- The steps run from a world leave the world of their effect with some status store, and end
with its error, or succeed when it has none. A pass that gets past step 8 has recorded the phases
of the pods its selector lists in the world step 8 left. -/
theorem steps_wp_listed (sso : Bool) (session : sso = true ∨ d.needsKeycloak = false)
    (post : Except Error Deployed → ServerStatus → World → Prop) (qualified : s.qualifier = d.qualifier)
    (h : ∀ s' statuses' (r : Except Error Deployed), s.Continues s' →
      r.map (fun _ => ()) = (stepsEffect rt images d W).1 →
      ((throughDeployment rt images d W).1 = .ok () → ∃ phases, s'.podPhases = recordPhases
        (podsOf (throughDeployment rt images d W).2 d.owner.ns (d.owner.deploymentSelector d.qualifier)) phases) →
      post r s' ((stepsEffect rt images d W).2.withStatusStore statuses')) :
    wp (steps World.backend.cluster rt images d (World.ssoSession sso)) post s (W.withStatusStore statuses) := by
  unfold steps stepsEffect throughDeployment at *
  -- step 1: the schemas
  rw [wp_bind]
  refine schemaEffect_wp rt images d s W statuses _ qualified fun s₁ statuses₁ continues₁ => ?_
  rcases schemaResult : schemaEffect rt images d W with ⟨_ | schemas, W₁⟩
  · simp -zeta only [schemaResult] at h ⊢
    exact h s₁ statuses₁ _ continues₁ rfl (fun reached => by simp at reached)
  simp -zeta only [schemaResult] at h ⊢
  -- step 2: the volume claims
  rw [wp_bind]
  refine claimsEffect_wp rt d s₁ W₁ statuses₁ _ (continues₁.qualifier.trans qualified)
    fun s₂ statuses₂ continues₂ => ?_
  have continues₂ := continues₁.trans continues₂
  rcases claimsResult : written (W₁.withClaims (Children.claims d rt.config)) d.qualifier with
    ⟨_ | ⟨⟩, W₂⟩
  · simp -zeta only [claimsResult] at h ⊢
    exact h s₂ statuses₂ _ continues₂ rfl (fun reached => by simp at reached)
  simp -zeta only [claimsResult] at h ⊢
  -- step 3: the CA Secret
  refine caEffect_wp d s₂ W₂ statuses₂ rt.config _ post ?_
  rcases caResult : caEffect rt.config d W₂ with ⟨_ | caSecretName, W₃⟩
  · simp -zeta only [caResult] at h ⊢
    exact h s₂ statuses₂ _ continues₂ rfl (fun reached => by simp at reached)
  simp only [caResult] at h ⊢
  -- step 3, continued: the deployable's Secrets, its ServiceAccount, its Service and the status
  rw [wp_bind]
  refine wp_forIn _ _ (fun (secret : Secret) w => w.withSecrets [secret]) ?_ _ s₂ _
    fun s₃ continues₃ => ?_
  · intro secret _ s w post next
    rw [wp_bind, backend_createSecretIfAbsent, wp_liftCall, createSecretIfAbsent_run]
    exact next s (.refl s)
  have continues₃ := continues₂.trans continues₃
  rw [World.foldl_withSecrets, World.withSecrets_withStatusStore]
  dsimp only
  rw [wp_call (accountStep_run d _), World.withAccountOf_withStatusStore, backend_applyService,
    wp_call (applyService_run _ _), World.withService_withStatusStore, wp_bind, wp_updateStatus]
  dsimp only
  refine persist_wp d _ _ statuses₂ _ post (continues₃.qualifier.trans qualified) fun statuses₄ => ?_
  rcases supportResult : written (((W₃.withSecrets d.secrets).withAccountOf d).withService
    (Children.service d)) d.qualifier with ⟨_ | ⟨⟩, W₄⟩
  · simp only [supportResult] at h ⊢
    exact h _ statuses₄ _ (continues₃.trans ⟨rfl, rfl⟩) rfl (fun reached => by simp at reached)
  simp only [supportResult] at h ⊢
  -- step 6: the Ingress
  rw [wp_bind]
  refine ingressEffect_wp d _ W₄ statuses₄ _ (continues₃.qualifier.trans qualified)
    fun s₅ statuses₅ continues₅ => ?_
  have continues₅ : s.Continues s₅ :=
    ⟨continues₅.qualifier.trans continues₃.qualifier, continues₅.failure.trans continues₃.failure⟩
  rcases ingressResult : ingressEffect d W₄ with ⟨_ | ingress, W₅⟩
  · simp only [ingressResult] at h ⊢
    exact h _ statuses₅ _ continues₅ rfl (fun reached => by simp at reached)
  simp only [ingressResult] at h ⊢
  -- steps 7 and 8: the Keycloak clients, the Deployment and the status
  rw [wp_bind]
  refine keycloakEffect_wp d _ W₅ statuses₅ sso session _ fun s₆ continues₆ => ?_
  have continues₆ := continues₅.trans continues₆
  dsimp only
  rw [backend_applyDeployment, wp_call (applyDeployment_run _ _), World.withDeployment_withStatusStore,
    wp_bind, wp_updateStatus]
  dsimp only
  refine persist_wp d _ _ statuses₅ _ post (continues₆.qualifier.trans qualified) fun statuses₇ => ?_
  rcases deploymentResult : written ((withClients W₅ d (clientAccesses d)).withDeployment
    (Children.deployment d { config := rt.config, images, schemas, caSecretName })) d.qualifier with
    ⟨_ | ⟨⟩, W₇⟩
  · simp only [deploymentResult] at h ⊢
    exact h _ statuses₇ _ (continues₆.trans ⟨rfl, rfl⟩) rfl (fun reached => by simp at reached)
  simp only [deploymentResult] at h ⊢
  -- step 9: the wait for a ready pod, which leaves the world as it is
  rw [nameOf_storedDeployment]
  obtain ⟨probes, counted⟩ := Nat.exists_eq_add_one.mpr
    (probeCount_pos rt.config.pollIntervalMs rt.config.podReadinessTimeoutMs)
  have probed := readyPod?_run d.owner.ns d.deploymentName (d.owner.deploymentSelector d.qualifier)
    (W₇.withStatusStore statuses₇)
  rw [readyPodIn_withStatusStore] at probed
  unfold pollUntil
  rw [counted]
  cases ready : readyPodIn W₇ d.owner.ns d.deploymentName (d.owner.deploymentSelector d.qualifier) with
  | none =>
    rw [ready] at probed
    rw [wp_call (attempt_pollFor_none probed _ _), wp_bind, wp_liftCall, attempt_run, backend_listPods,
      listPods_run]
    dsimp only
    rw [wp_bind, wp_updateStatus]
    dsimp only
    rw [wp_bind, wp_throw]
    exact h _ statuses₇ _ ⟨continues₆.qualifier, continues₆.failure⟩
      (by simp only [readinessOutcome, ready]; rfl) (fun _ => ⟨_, rfl⟩)
  | some found =>
    rw [ready] at probed
    rw [wp_call (attempt_pollFor_found probed _ _), wp_bind, wp_liftCall, attempt_run, backend_listPods,
      listPods_run]
    dsimp only
    rw [wp_bind, wp_updateStatus]
    dsimp only
    rw [pure_bind, wp_bind, wp_updateStatus]
    dsimp only
    rw [wp_bind, wp_currentStatus]
    dsimp only
    rw [wp_pure]
    exact h _ statuses₇ _ ⟨continues₆.qualifier, continues₆.failure⟩
      (by simp only [readinessOutcome, ready]; rfl) (fun _ => ⟨_, rfl⟩)

theorem steps_wp (sso : Bool) (session : sso = true ∨ d.needsKeycloak = false)
    (post : Except Error Deployed → ServerStatus → World → Prop) (qualified : s.qualifier = d.qualifier)
    (h : ∀ s' statuses' (r : Except Error Deployed), s.Continues s' →
      r.map (fun _ => ()) = (stepsEffect rt images d W).1 →
      post r s' ((stepsEffect rt images d W).2.withStatusStore statuses')) :
    wp (steps World.backend.cluster rt images d (World.ssoSession sso)) post s (W.withStatusStore statuses) :=
  steps_wp_listed rt images d s W statuses sso session post qualified
    fun s' statuses' r continues result _ => h s' statuses' r continues result

theorem ignoring_run (x : Op Unit) (w : World) :
    ((ignoring x).run.run w).run = (.ok (), (x.run.run w).run.2) := by
  simp only [ignoring, ExceptT.run_tryCatch, StateT.run_bind, Id.run_bind]
  rcases (x.run.run w).run with ⟨_ | _, w'⟩ <;> rfl

theorem runPass_run (x : Pass (StateM World) α) (s : ServerStatus) (w : World) :
    ((runPass x s).run.run w).run = (.ok (passRun x s w).1, (passRun x s w).2) := rfl

/-- The steps run from a world leave the world of their effect with some status store, and end
with its error, or succeed when it has none; the status keeps its qualifier and failure. -/
theorem steps_run (sso : Bool) (session : sso = true ∨ d.needsKeycloak = false)
    (qualified : s.qualifier = d.qualifier) (w : World) :
    let run := passRun (steps World.backend.cluster rt images d (World.ssoSession sso)) s w
    s.Continues run.1.2 ∧ run.1.1.map (fun _ => ()) = (stepsEffect rt images d w).1 ∧
      ∃ statuses, run.2 = (stepsEffect rt images d w).2.withStatusStore statuses := by
  have ran := steps_wp rt images d s w w.statuses sso session
    (fun r s' w' => s.Continues s' ∧ r.map (fun _ => ()) = (stepsEffect rt images d w).1 ∧
      ∃ statuses, w' = (stepsEffect rt images d w).2.withStatusStore statuses) qualified
    fun s' statuses r continues result => ⟨continues, result, statuses, rfl⟩
  rw [World.withStatusStore_self] at ran
  exact ran

/-- A run of the steps that gets past step 8 ends with the phases of the pods its selector lists
recorded in its status. -/
theorem steps_run_listed (sso : Bool) (session : sso = true ∨ d.needsKeycloak = false)
    (qualified : s.qualifier = d.qualifier) (w : World) (reached : (throughDeployment rt images d w).1 = .ok ()) :
    ∃ phases, (passRun (steps World.backend.cluster rt images d (World.ssoSession sso)) s w).1.2.podPhases =
      recordPhases (podsOf (throughDeployment rt images d w).2 d.owner.ns
        (d.owner.deploymentSelector d.qualifier)) phases := by
  have ran := steps_wp_listed rt images d s w w.statuses sso session
    (fun _ s' _ => ∃ phases, s'.podPhases = recordPhases (podsOf (throughDeployment rt images d w).2
      d.owner.ns (d.owner.deploymentSelector d.qualifier)) phases) qualified
    fun _ _ _ _ _ recorded => recorded reached
  rw [World.withStatusStore_self] at ran
  exact ran

end Steps

/-- The checks a deployable passes before its steps run: it belongs to a persisted resource, and
it has a Keycloak session when a container needs one. -/
def checksPass (d : Deployable) (sso : Bool) : Prop :=
  d.owner.name ≠ "" ∧ d.owner.ns ≠ "" ∧ (d.needsKeycloak = true → sso = true)

/-- A whole pass on the simulated cluster, but for the status store: the checks, the steps and the
final status write, whose failure only counts when the steps succeeded. -/
def executeEffect (rt : Runtime) (images : ImageResolver) (d : Deployable) (sso : Bool) (w : World) :
    Except Error Unit × World :=
  if d.owner.name.isEmpty || d.owner.ns.isEmpty then
    (.error (.illegalState "deployables must belong to a persisted custom resource"), w)
  else if d.needsKeycloak && !sso then
    (.error (.illegalState (d.owner.name ++ " " ++ d.qualifier ++
      " requires a Keycloak client but none was supplied")), w)
  else match stepsEffect rt images d w with
    | (.ok (), w) => written w d.qualifier
    | (.error e, w) => (.error e, w.logWrite d.qualifier)

/-- Past its checks, a pass has the effect of its steps and then of the final status write, which
is made whether the steps failed or not. -/
theorem executeEffect_of_checked {d : Deployable} {sso : Bool} (checked : checksPass d sso) (rt : Runtime)
    (images : ImageResolver) (w : World) :
    executeEffect rt images d sso w = match stepsEffect rt images d w with
      | (.ok (), w') => written w' d.qualifier
      | (.error e, w') => (.error e, w'.logWrite d.qualifier) := by
  obtain ⟨named, placed, session⟩ := checked
  unfold executeEffect
  rw [if_neg (by simp [named, placed]), if_neg (by cases sso <;> simp_all)]

theorem execute_effect (rt : Runtime) (images : ImageResolver) (d : Deployable) (sso : Bool) (w : World) :
    let run := ((execute World.backend.cluster rt images d (World.ssoSession sso)).run.run w).run
    run.1.map (fun _ => ()) = (executeEffect rt images d sso w).1 ∧
      (∃ statuses, run.2 = (executeEffect rt images d sso w).2.withStatusStore statuses) ∧
      (checksPass d sso → w.failStatusWrites = false → ∃ last,
        (run.2.statuses.get? (statusKey d.owner)).bind (·.servers.get? d.qualifier) = some last ∧
        last.failure = match run.1 with
          | .ok _ => none
          | .error e => some (ControllerFailure.ofError e d.owner)) := by
  intro outcome
  generalize ran : outcome = run
  by_cases unowned : (d.owner.name.isEmpty || d.owner.ns.isEmpty) = true
  · have failed : run = (.error (.illegalState "deployables must belong to a persisted custom resource"), w) := by
      rw [← ran]
      simp only [outcome, execute, unowned, if_true]
      rfl
    subst failed
    refine ⟨by rw [executeEffect, if_pos unowned]; rfl, ⟨w.statuses, by rw [executeEffect, if_pos unowned]; rfl⟩,
      fun checked => absurd unowned ?_⟩
    simp [checked.1, checked.2.1]
  by_cases unsupported : (d.needsKeycloak && !sso) = true
  · have failed : run = (.error (.illegalState (d.owner.name ++ " " ++ d.qualifier ++
        " requires a Keycloak client but none was supplied")), w) := by
      rw [← ran]
      simp only [outcome, execute, unowned, World.ssoSession_isNone, unsupported, Bool.false_eq_true,
        if_true, if_false]
      rfl
    subst failed
    refine ⟨by rw [executeEffect, if_neg unowned, if_pos unsupported]; rfl,
      ⟨w.statuses, by rw [executeEffect, if_neg unowned, if_pos unsupported]; rfl⟩,
      fun checked => absurd unsupported ?_⟩
    cases sso <;> simp_all [checksPass]
  have session : sso = true ∨ d.needsKeycloak = false := by
    cases sso <;> simp_all
  obtain ⟨continues, result, statuses, world⟩ := steps_run rt images d
    (ServerStatus.startedAt d.qualifier (if d.ingress.isSome = true then .web else .db) rt.now) sso session rfl w
  simp only [outcome, execute, unowned, World.ssoSession_isNone, unsupported, Bool.false_eq_true, if_false,
    Op.bind_run, runPass_run] at ran
  rcases stepsRun : passRun (steps World.backend.cluster rt images d (World.ssoSession sso))
    (ServerStatus.startedAt d.qualifier (if d.ingress.isSome = true then .web else .db) rt.now) w with
    ⟨⟨r, s'⟩, w'⟩
  rw [stepsRun] at continues result world ran
  dsimp only at continues result world ran
  have checked : checksPass d sso := by
    cases sso <;> simp_all [checksPass]
  rw [executeEffect_of_checked checked]
  have unfailed : s'.failure = none := continues.failure
  have qualified : s'.qualifier = d.qualifier := continues.qualifier
  have kept := stepsEffect_failStatusWrites rt images d w
  rcases effect : stepsEffect rt images d w with ⟨r', W'⟩
  rw [effect] at result world kept
  subst world
  cases r with
  | ok deployed =>
    -- the steps succeeded: the finished status is written, and only a refused write fails the pass
    cases result
    have succeeded : (s'.finish rt.now).hasFailed = false := by
      simp [ServerStatus.hasFailed, unfailed]
    rw [backend_updateServerStatus, Op.bind_run, World.updateServerStatus_writes,
      World.writeOutcome_withStatusStore] at ran
    unfold written
    cases refused : W'.failStatusWrites with
    | true =>
      simp only [World.writeOutcome, refused, if_true] at ran ⊢
      subst ran
      exact ⟨rfl, World.writeStatus_logged (by simp [qualified]) _ _,
        fun _ writable => absurd (kept.symm.trans refused) (by simp [writable])⟩
    | false =>
      simp only [World.writeOutcome, refused, Bool.false_eq_true, if_false, succeeded] at ran ⊢
      subst ran
      refine ⟨rfl, World.writeStatus_logged (by simp [qualified]) _ _,
        fun _ _ => ⟨s'.finish rt.now, ?_, ?_⟩⟩
      · rw [← qualified, ← ServerStatus.finish_qualifier s' rt.now]
        exact World.stored_writeStatus (w := W'.withStatusStore statuses) refused _ _
      · simp [unfailed]
  | error e =>
    -- the steps failed: the failure is recorded, and the write is made whatever it answers
    cases r' with
    | ok u => cases result
    | error e' =>
      cases result
      rw [Op.bind_run, ignoring_run, backend_updateServerStatus, World.updateServerStatus_writes] at ran
      subst ran
      refine ⟨rfl, World.writeStatus_logged (by simp [qualified]) _ _,
        fun _ writable => ⟨s'.finishWith (ControllerFailure.ofError e d.owner) rt.now, ?_, ?_⟩⟩
      · rw [← qualified, ← ServerStatus.finishWith_qualifier s' rt.now (ControllerFailure.ofError e d.owner)]
        exact World.stored_writeStatus (w := W'.withStatusStore statuses) (kept.trans writable) _ _
      · exact ServerStatus.finishWith_failure unfailed _ _

/-- The status a checked pass stores while the cluster takes status writes: the status its steps
ended with, finished, with the failure record of their error when they failed. -/
theorem execute_stored (rt : Runtime) (images : ImageResolver) (d : Deployable) (sso : Bool) (w : World)
    (checked : checksPass d sso) (writable : w.failStatusWrites = false) :
    let stepped := passRun (steps World.backend.cluster rt images d (World.ssoSession sso))
      (ServerStatus.startedAt d.qualifier (if d.ingress.isSome = true then .web else .db) rt.now) w
    let run := ((execute World.backend.cluster rt images d (World.ssoSession sso)).run.run w).run
    (run.2.statuses.get? (statusKey d.owner)).bind (·.servers.get? d.qualifier) = some
      (match stepped.1.1 with
        | .ok _ => stepped.1.2.finish rt.now
        | .error e => stepped.1.2.finishWith (ControllerFailure.ofError e d.owner) rt.now) := by
  have owned : (d.owner.name.isEmpty || d.owner.ns.isEmpty) = false := by
    simp [checked.1, checked.2.1]
  have supported : (d.needsKeycloak && !sso) = false := by
    cases sso <;> simp_all [checksPass]
  have session : sso = true ∨ d.needsKeycloak = false := by
    cases sso <;> simp_all
  obtain ⟨continues, -, statuses, world⟩ := steps_run rt images d
    (ServerStatus.startedAt d.qualifier (if d.ingress.isSome = true then .web else .db) rt.now) sso session rfl w
  have kept := stepsEffect_failStatusWrites rt images d w
  simp only [execute, owned, World.ssoSession_isNone, supported, Bool.false_eq_true, if_false,
    Op.bind_run, runPass_run]
  rcases stepsRun : passRun (steps World.backend.cluster rt images d (World.ssoSession sso))
    (ServerStatus.startedAt d.qualifier (if d.ingress.isSome = true then .web else .db) rt.now) w with
    ⟨⟨r, s'⟩, w'⟩
  rw [stepsRun] at continues world
  dsimp only at continues world ⊢
  subst world
  have qualified : s'.qualifier = d.qualifier := continues.qualifier
  have stored := World.stored_writeStatus (w := (stepsEffect rt images d w).2.withStatusStore statuses)
    (kept.trans writable) d.owner
  cases r with
  | ok deployed =>
    -- the finished status is written, and the world is the same whether it counts as failed or not
    have unfailed : s'.failure = none := continues.failure
    have succeeded : (s'.finish rt.now).hasFailed = false := by
      simp [ServerStatus.hasFailed, unfailed]
    rw [backend_updateServerStatus, Op.bind_run, World.updateServerStatus_writes,
      World.writeOutcome_withStatusStore]
    simp only [World.writeOutcome, kept, writable, Bool.false_eq_true, if_false, succeeded]
    rw [← qualified, ← ServerStatus.finish_qualifier s' rt.now]
    exact stored _
  | error e =>
    rw [Op.bind_run, ignoring_run, backend_updateServerStatus, World.updateServerStatus_writes]
    rw [← qualified, ← ServerStatus.finishWith_qualifier s' rt.now (ControllerFailure.ofError e d.owner)]
    exact stored _

end StackOperator.Deploy
