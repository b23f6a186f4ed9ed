import StackOperator.Cluster.World

/-!
# What each call of the simulated cluster does

One equation per call of `World.backend`: the value the call returns and the
world it leaves, with every change spelled out as a record update. Proofs
about passes rewrite with these and never unfold a call.

Only the status write can fail, and only while `failStatusWrites` holds; no
call switches status writes on or off.
-/

namespace StackOperator.Cluster

open K8s

variable {α β : Type}

theorem Op.bind_run (x : Op α) (f : α → Op β) (w : World) :
    ((x >>= f).run.run w).run = match (x.run.run w).run with
      | (.ok a, w') => ((f a).run.run w').run
      | (.error e, w') => (.error e, w') := by
  simp only [ExceptT.run_bind, StateT.run_bind, Id.run_bind]
  rcases (x.run.run w).run with ⟨r, w'⟩
  cases r <;> rfl

/-! The calls a pass makes through `World.backend` are the world's operations. -/

@[simp] theorem backend_loadSecret : World.backend.cluster.loadSecret = loadSecret := rfl
@[simp] theorem backend_createSecretIfAbsent :
    World.backend.cluster.createSecretIfAbsent = createSecretIfAbsent := rfl
@[simp] theorem backend_applyPvc : World.backend.cluster.applyPvc = applyPvc := rfl
@[simp] theorem backend_applyServiceAccount :
    World.backend.cluster.applyServiceAccount = applyServiceAccount := rfl
@[simp] theorem backend_applyRole : World.backend.cluster.applyRole = applyRole := rfl
@[simp] theorem backend_applyRoleBinding :
    World.backend.cluster.applyRoleBinding = applyRoleBinding := rfl
@[simp] theorem backend_applyService : World.backend.cluster.applyService = applyService := rfl
@[simp] theorem backend_loadIngress : World.backend.cluster.loadIngress = loadIngress := rfl
@[simp] theorem backend_applyIngress : World.backend.cluster.applyIngress = applyIngress := rfl
@[simp] theorem backend_applyDeployment :
    World.backend.cluster.applyDeployment = applyDeployment := rfl
@[simp] theorem backend_loadDeployment :
    World.backend.cluster.loadDeployment = loadDeployment := rfl
@[simp] theorem backend_listPods : World.backend.cluster.listPods = listPods := rfl
@[simp] theorem backend_createJob : World.backend.cluster.createJob = createJob := rfl
@[simp] theorem backend_loadJob : World.backend.cluster.loadJob = loadJob := rfl
@[simp] theorem backend_deleteJobs : World.backend.cluster.deleteJobs = deleteJobs := rfl
@[simp] theorem backend_updateServerStatus :
    World.backend.cluster.updateServerStatus = updateServerStatus := rfl

@[simp] theorem get_run (w : World) : ((get : Op World).run.run w).run = (.ok w, w) := rfl

@[simp] theorem set_run (w w' : World) : ((set w' : Op PUnit).run.run w).run = (.ok ⟨⟩, w') := rfl

@[simp] theorem modify_run (f : World → World) (w : World) :
    ((modify f : Op PUnit).run.run w).run = (.ok ⟨⟩, f w) := rfl

@[simp] theorem record_run (call : String) (w : World) :
    ((record call).run.run w).run = (.ok (), { w with calls := w.calls ++ [call] }) := rfl

@[simp] theorem recordSso_run (call : String) (w : World) :
    ((recordSso call).run.run w).run = (.ok (), { w with ssoCalls := w.ssoCalls ++ [call] }) := rfl

@[simp] theorem loadSecret_run (ns name : String) (w : World) :
    ((loadSecret ns name).run.run w).run = (.ok (w.secrets.get? ⟨ns, name⟩), w) := rfl

/-- The Secrets `ss` created in order, each unless one of its name exists. -/
def World.withSecrets (w : World) (ss : List Secret) : World :=
  { w with calls := w.calls ++ ss.map (fun s => "create_secret:" ++ nameOf s.metadata),
           secrets := ss.foldl (fun store s => (putSecret store s).2) w.secrets }

/-- The volume claims `cs` applied in order, each created unless its name is taken. -/
def World.withClaims (w : World) (cs : List PersistentVolumeClaim) : World :=
  { w with calls := w.calls ++ cs.map (fun c => "apply_pvc:" ++ nameOf c.metadata),
           pvcs := cs.foldl (fun store c => (store.getOrPut (keyOf c.metadata) c).2) w.pvcs }

theorem World.withSecrets_append (w : World) (a b : List Secret) :
    (w.withSecrets a).withSecrets b = w.withSecrets (a ++ b) := by
  simp [withSecrets, List.foldl_append]

theorem World.withClaims_append (w : World) (a b : List PersistentVolumeClaim) :
    (w.withClaims a).withClaims b = w.withClaims (a ++ b) := by
  simp [withClaims, List.foldl_append]

@[simp] theorem createSecretIfAbsent_run (s : Secret) (w : World) :
    ((createSecretIfAbsent s).run.run w).run = (.ok (putSecret w.secrets s).1, w.withSecrets [s]) := rfl

@[simp] theorem applyPvc_run (c : PersistentVolumeClaim) (w : World) :
    ((applyPvc c).run.run w).run = (.ok (w.pvcs.getOrPut (keyOf c.metadata) c).1, w.withClaims [c]) :=
  rfl

@[simp] theorem applyServiceAccount_run (a : ServiceAccount) (w : World) :
    ((applyServiceAccount a).run.run w).run =
      (.ok a, { w with calls := w.calls ++ ["apply_service_account:" ++ nameOf a.metadata],
                       serviceAccounts := w.serviceAccounts.put (keyOf a.metadata) a }) := rfl

@[simp] theorem applyRole_run (r : Role) (w : World) :
    ((applyRole r).run.run w).run =
      (.ok r, { w with calls := w.calls ++ ["apply_role:" ++ nameOf r.metadata],
                       roles := w.roles.put (keyOf r.metadata) r }) := rfl

@[simp] theorem applyRoleBinding_run (b : RoleBinding) (w : World) :
    ((applyRoleBinding b).run.run w).run =
      (.ok b, { w with calls := w.calls ++ ["apply_role_binding:" ++ nameOf b.metadata],
                       roleBindings := w.roleBindings.put (keyOf b.metadata) b }) := rfl

/-- A Service applied: it replaces the one of its name. -/
def World.withService (w : World) (s : Service) : World :=
  { w with calls := w.calls ++ ["apply_service:" ++ nameOf s.metadata],
           services := w.services.put (keyOf s.metadata) s }

@[simp] theorem applyService_run (s : Service) (w : World) :
    ((applyService s).run.run w).run = (.ok s, w.withService s) := rfl

@[simp] theorem loadIngress_run (ns name : String) (w : World) :
    ((loadIngress ns name).run.run w).run = (.ok (w.ingresses.get? ⟨ns, name⟩), w) := rfl

/-- An Ingress applied: it replaces the one of its name. -/
def World.withIngress (w : World) (i : Ingress) : World :=
  { w with calls := w.calls ++ ["apply_ingress:" ++ nameOf i.metadata],
           ingresses := w.ingresses.put (keyOf i.metadata) i }

@[simp] theorem applyIngress_run (i : Ingress) (w : World) :
    ((applyIngress i).run.run w).run = (.ok i, w.withIngress i) := rfl

/-- The Deployment a write stores: the one written, with the generation after the stored one's. -/
def storedDeployment (w : World) (d : Deployment) : Deployment :=
  let previous := ((w.deployments.get? (keyOf d.metadata)).bind (·.metadata.generation)).getD 0
  { d with metadata := { d.metadata with generation := some (previous + 1) } }

/-- A Deployment applied: it replaces the one of its name, a generation later. -/
def World.withDeployment (w : World) (d : Deployment) : World :=
  { w with calls := w.calls ++ ["apply_deployment:" ++ nameOf d.metadata],
           deployments := w.deployments.put (keyOf d.metadata) (storedDeployment w d) }

@[simp] theorem applyDeployment_run (d : Deployment) (w : World) :
    ((applyDeployment d).run.run w).run = (.ok (storedDeployment w d), w.withDeployment d) := rfl

@[simp] theorem loadDeployment_run (ns name : String) (w : World) :
    ((loadDeployment ns name).run.run w).run =
      (.ok ((w.deployments.get? ⟨ns, name⟩).map fun d => { d with status := some (rolloutStatus w d) }),
        w) := rfl

/-- The pods a selector finds: the matching stale pods, then the pod of the selected value. -/
def podsOf (w : World) (ns selector : String) : List Pod :=
  let (label, value) := splitSelector selector
  w.stalePods.filter (fun p =>
      p.metadata.ns == some ns && (p.metadata.labels.bind (KeyMap.get? · label)) == some value) ++
    [if w.podsReady then readyPod (value ++ "-pod") ns else pendingPod (value ++ "-pod") ns]

@[simp] theorem listPods_run (ns selector : String) (w : World) :
    ((listPods ns selector).run.run w).run = (.ok (podsOf w ns selector), w) := rfl

/-- The Job a creation stores: the one created, named from its prefix and the next count. -/
def createdJob (w : World) (j : Job) : Job :=
  { j with metadata := { j.metadata with name := some (j.metadata.generateName.getD "" ++
      toString (w.jobCounter + 1)) } }

@[simp] theorem createJob_run (j : Job) (w : World) :
    ((createJob j).run.run w).run =
      (.ok (createdJob w j),
        { w with jobCounter := w.jobCounter + 1,
                 calls := w.calls ++ ["create_job:" ++ (j.metadata.generateName.getD "" ++
                   toString (w.jobCounter + 1))],
                 jobs := w.jobs.put (keyOf (createdJob w j).metadata) (createdJob w j) }) := rfl

@[simp] theorem loadJob_run (ns name : String) (w : World) :
    ((loadJob ns name).run.run w).run =
      (.ok ((w.jobs.get? ⟨ns, name⟩).map fun j => { j with status := some w.jobOutcome.status }), w) :=
  rfl

@[simp] theorem deleteJobs_run (ns selector : String) (w : World) :
    ((deleteJobs ns selector).run.run w).run =
      (.ok (), { w with calls := w.calls ++ ["delete_jobs:" ++ selector],
                        jobs := w.jobs.filter fun (k, j) =>
                          k.ns != ns || (j.metadata.labels.bind
                            (KeyMap.get? · (splitSelector selector).1)) != some (splitSelector selector).2 }) :=
  rfl

@[simp] theorem updateServerStatus_run (target : Reference) (s : ServerStatus) (w : World) :
    ((updateServerStatus target s).run.run w).run =
      if w.failStatusWrites then
        (.error (.illegalState "status subresource unavailable"),
          { w with calls := w.calls ++ ["update_server_status:" ++ s.qualifier] })
      else
        (.ok (), { w with calls := w.calls ++ ["update_server_status:" ++ s.qualifier],
                          statuses := w.statuses.put (statusKey target)
                            (((w.statuses.get? (statusKey target)).getD {}).put s) }) := by
  simp only [updateServerStatus, Op.bind_run, record_run, get_run]
  cases w.failStatusWrites <;> rfl

@[simp] theorem ensureRealm_run (realm : String) (w : World) :
    ((ensureRealm realm).run.run w).run =
      (.ok (), { w with ssoCalls := w.ssoCalls ++ ["ensure_realm:" ++ realm] }) := rfl

@[simp] theorem createPublicClient_run (realm clientId : String) (w : World) :
    ((createPublicClient realm clientId).run.run w).run =
      (.ok (), { w with ssoCalls := w.ssoCalls ++ ["create_public_client:" ++ realm ++ "/" ++ clientId] }) :=
  rfl

@[simp] theorem prepareClient_run (c : Keycloak.ClientConfig) (w : World) :
    ((prepareClient c).run.run w).run =
      (.ok (c.clientId ++ "-generated-secret"),
        { w with ssoCalls := w.ssoCalls ++ ["prepare_client:" ++ c.realm ++ "/" ++ c.clientId] }) := rfl

end StackOperator.Cluster
