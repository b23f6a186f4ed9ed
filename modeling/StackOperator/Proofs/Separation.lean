import StackOperator.Proofs.Isolation

/-!
# Passes leave the objects of other resources alone

The objects of the resource named `other` are those named after it, `<other>-…`: its Secrets (but
the CA Secret mirrored into every namespace), claims, Roles, RoleBindings, Services, Ingresses and
Deployments, and its Jobs, which are also labelled, if at all, as preparation Jobs of its
qualifiers (`JobOf`). `World.KeepsObjectsOf config other w w'` says that `w'` holds every object
of `other` as `w` holds it: none is replaced, adopted or deleted.

* **Stores.** `Store.KeepsAt keys` is kept by a write off the keys (`KeepsAt.put`,
  `KeepsAt.getOrPut`) and by a fold of such writes (`KeepsAt.foldl`).
* **A pass** of a deployable named after an owner apart from `other` keeps the objects of `other`
  at every stage (`stepsEffect_keepsObjectsOf`), so whatever it ends with (`execute_keepsObjectsOf`).
  Its Job cleanup deletes only Jobs labelled after its owner (`cleanedUp_keepsObjectsOf`).
* **The controllers** keep the objects of every resource whose name is apart from the one they
  deploy (`deploy_keepsObjectsOf`). With the calls of `Isolation` this gives `deploy_isolated`:
  in whichever order and from whatever cluster two resources with apart names are deployed, they
  make no call on a common object, select different pods, and each leaves the other's objects as
  it found them.

Names that are not apart can meet: an application and a Keycloak server of one name both deploy a
qualifier `server`, so they share its claim, Service and Deployment and the Ingress
`<name>-ingress`: the one deployed second replaces the other's Service
(`keycloak_and_app_of_one_name_share_objects`).
-/

namespace StackOperator.Cluster

open K8s Deploy

namespace Store

variable {α β : Type} {keys : ObjectKey → Prop}

/-- `s'` holds at each key of `keys` what `s` holds there. -/
def KeepsAt (keys : ObjectKey → Prop) (s s' : Store α) : Prop := ∀ k, keys k → s'.get? k = s.get? k

namespace KeepsAt

theorem refl (s : Store α) : KeepsAt keys s s := fun _ _ => rfl

theorem trans {a b c : Store α} (first : KeepsAt keys a b) (second : KeepsAt keys b c) : KeepsAt keys a c :=
  fun k kept => (second k kept).trans (first k kept)

theorem of_eq {s s' : Store α} (same : s' = s) : KeepsAt keys s s' := by
  rw [same]
  exact refl s

theorem put {s : Store α} {key : ObjectKey} (off : ¬keys key) (v : α) : KeepsAt keys s (s.put key v) :=
  fun _ kept => get?_put_ne _ _ _ _ fun same => off (same ▸ kept)

theorem getOrPut {s : Store α} {key : ObjectKey} (off : ¬keys key) (v : α) :
    KeepsAt keys s (s.getOrPut key v).2 := by
  unfold Store.getOrPut
  split
  · exact refl s
  · exact put off v

/-- A fold of writes that each keep the keys keeps them. -/
theorem foldl {f : Store α → β → Store α} {xs : List β} (step : ∀ x ∈ xs, ∀ s, KeepsAt keys s (f s x))
    (s : Store α) : KeepsAt keys s (xs.foldl f s) := by
  induction xs generalizing s with
  | nil => exact refl s
  | cons x rest ih =>
    rw [List.foldl_cons]
    exact (step x List.mem_cons_self s).trans (ih (fun x' listed => step x' (List.mem_cons_of_mem _ listed)) _)

end KeepsAt

end Store

/-- The keys of objects named after `owner`. -/
def OwnedKey (owner : String) (k : ObjectKey) : Prop := Names.OwnedBy owner k.name

/-- The keys of Secrets named after `owner`, but for the CA Secret every namespace shares. -/
def OwnedSecretKey (config : OperatorConfig) (owner : String) (k : ObjectKey) : Prop :=
  Names.OwnedBy owner k.name ∧ config.caSecretName.filter (· ≠ "") ≠ some k.name

/-- A Job of the resource named `owner`: named after it, and labelled, if at all, as a preparation
Job of one of its qualifiers. -/
def JobOf (owner : String) (k : ObjectKey) (j : Job) : Prop :=
  Names.OwnedBy owner k.name ∧
    ∀ label, j.metadata.labels.bind (KeyMap.get? · dbPreparationLabel) = some label → Names.OwnedBy owner label

/-- `w'` holds every object of the resource named `other` as `w` holds it. -/
structure World.KeepsObjectsOf (config : OperatorConfig) (other : String) (w w' : World) : Prop where
  secrets : Store.KeepsAt (OwnedSecretKey config other) w.secrets w'.secrets
  pvcs : Store.KeepsAt (OwnedKey other) w.pvcs w'.pvcs
  roles : Store.KeepsAt (OwnedKey other) w.roles w'.roles
  roleBindings : Store.KeepsAt (OwnedKey other) w.roleBindings w'.roleBindings
  services : Store.KeepsAt (OwnedKey other) w.services w'.services
  ingresses : Store.KeepsAt (OwnedKey other) w.ingresses w'.ingresses
  deployments : Store.KeepsAt (OwnedKey other) w.deployments w'.deployments
  jobs : ∀ k j, JobOf other k j → w.jobs.get? k = some j → w'.jobs.get? k = some j

namespace World.KeepsObjectsOf

variable {config : OperatorConfig} {other : String}

theorem trans {a b c : World} (first : a.KeepsObjectsOf config other b) (second : b.KeepsObjectsOf config other c) :
    a.KeepsObjectsOf config other c where
  secrets := first.secrets.trans second.secrets
  pvcs := first.pvcs.trans second.pvcs
  roles := first.roles.trans second.roles
  roleBindings := first.roleBindings.trans second.roleBindings
  services := first.services.trans second.services
  ingresses := first.ingresses.trans second.ingresses
  deployments := first.deployments.trans second.deployments
  jobs k j job stored := second.jobs k j job (first.jobs k j job stored)

/-- A change that touches no object keeps those of every resource. -/
theorem of_untouched {w w' : World} (same : Deploy.Untouched w w') : w.KeepsObjectsOf config other w' where
  secrets := .of_eq same.secrets
  pvcs := .of_eq same.pvcs
  roles := .of_eq same.roles
  roleBindings := .of_eq same.roleBindings
  services := .of_eq same.services
  ingresses := .of_eq same.ingresses
  deployments := .of_eq same.deployments
  jobs _ _ _ stored := by rw [same.jobs]; exact stored

theorem refl (w : World) : w.KeepsObjectsOf config other w := of_untouched (Deploy.Untouched.refl w)

end World.KeepsObjectsOf

theorem World.KeycloakOnly.untouched {w w' : World} (same : w.KeycloakOnly w') : Deploy.Untouched w w' := by
  refine ⟨⟨?_, ?_, ?_, ?_, ?_, ?_, ?_, ?_, ?_, ?_, ?_⟩, ?_, ?_⟩ <;> rw [same]

/-- The runs that keep the objects of the resource named `other`. -/
def keepsObjectsOf (config : OperatorConfig) (other : String) : RunRelation where
  holds := World.KeepsObjectsOf config other
  trans := World.KeepsObjectsOf.trans
  keycloakOnly same := .of_untouched same.untouched

/-! ## The writes of a pass -/

section Writes

variable {config : OperatorConfig} {owner other : String} (apart : Names.Apart owner other) (w : World)

include apart

theorem ownedKey_off {k : ObjectKey} (own : Names.OwnedBy owner k.name) : ¬OwnedKey other k :=
  apart.not_ownedBy own

theorem ownedSecretKey_off {k : ObjectKey} (own : Names.OwnedBy owner k.name) : ¬OwnedSecretKey config other k :=
  fun theirs => apart.not_ownedBy own theirs.1

theorem keepsObjectsOf_withSecrets {ss : List Secret} (own : ∀ s ∈ ss, Names.OwnedBy owner (nameOf s.metadata)) :
    w.KeepsObjectsOf config other (w.withSecrets ss) :=
  { (.refl w : w.KeepsObjectsOf config other w) with
    secrets := Store.KeepsAt.foldl (fun s listed _ => .getOrPut (ownedSecretKey_off apart (own s listed)) _) _ }

theorem keepsObjectsOf_withClaims {cs : List PersistentVolumeClaim}
    (own : ∀ c ∈ cs, Names.OwnedBy owner (nameOf c.metadata)) : w.KeepsObjectsOf config other (w.withClaims cs) :=
  { (.refl w : w.KeepsObjectsOf config other w) with
    pvcs := Store.KeepsAt.foldl (fun c listed _ => .getOrPut (ownedKey_off apart (own c listed)) _) _ }

theorem keepsObjectsOf_withService {s : Service} (own : Names.OwnedBy owner (nameOf s.metadata)) :
    w.KeepsObjectsOf config other (w.withService s) :=
  { (.refl w : w.KeepsObjectsOf config other w) with services := .put (ownedKey_off apart own) _ }

theorem keepsObjectsOf_withIngress {i : Ingress} (own : Names.OwnedBy owner (nameOf i.metadata)) :
    w.KeepsObjectsOf config other (w.withIngress i) :=
  { (.refl w : w.KeepsObjectsOf config other w) with ingresses := .put (ownedKey_off apart own) _ }

theorem keepsObjectsOf_withDeployment {deployment : Deployment} (own : Names.OwnedBy owner (nameOf deployment.metadata)) :
    w.KeepsObjectsOf config other (w.withDeployment deployment) :=
  { (.refl w : w.KeepsObjectsOf config other w) with deployments := .put (ownedKey_off apart own) _ }

end Writes

end StackOperator.Cluster

namespace StackOperator.Children

open Cluster

/-- An Ingress is applied under the name its requirements give. -/
theorem nameOf_ingress {d : Deployable} {req : IngressRequirements} {existing : Option K8s.Ingress}
    {i : K8s.Ingress} (merged : ingress d req existing = some i) : nameOf i.metadata = req.ingressName := by
  unfold ingress at merged
  dsimp only at merged
  split at merged
  · cases merged
  · cases merged
    rfl

theorem claims_owned (d : Deployable) (config : OperatorConfig) :
    ∀ c ∈ claims d config, Names.OwnedBy d.owner.name (nameOf c.metadata) := by
  intro c listed
  obtain ⟨container, -, made⟩ := List.mem_filterMap.mp listed
  obtain ⟨volume, -, rfl⟩ := Option.map_eq_some_iff.mp made
  exact Names.standardName_owned _ _ _

end StackOperator.Children

namespace StackOperator.Deploy

open Cluster K8s

/-! ## A pass -/

section Pass

variable (rt : Runtime) (images : ImageResolver) {d : Deployable} {other : String}
  (apart : Names.Apart d.owner.name other)

theorem keepsObjectsOf_caEffect (w : World) : w.KeepsObjectsOf rt.config other (caEffect rt.config d w).2 := by
  unfold caEffect caSecretEffect
  split
  · split
    · exact .refl w
    · rename_i name configured
      split
      · exact .refl w
      · split
        · -- the mirrored Secret is named after the CA
          exact { (.refl w : w.KeepsObjectsOf rt.config other w) with
            secrets := Store.KeepsAt.foldl (fun _ listed _ => .getOrPut (fun theirs => by
              rw [List.mem_singleton.mp listed] at theirs
              exact theirs.2 configured) _) _ }
        · exact .refl w
  · exact .refl w

include apart

theorem keepsObjectsOf_withAccountOf (w : World) : w.KeepsObjectsOf rt.config other (w.withAccountOf d) := by
  unfold World.withAccountOf
  split
  · exact .refl w
  · unfold World.withAccount Children.accountObjects
    -- the ServiceAccount is shared; a Role and RoleBinding are named after the owner
    split
    · exact { (.refl w : w.KeepsObjectsOf rt.config other w) with }
    · exact { (.refl w : w.KeepsObjectsOf rt.config other w) with
        roles := .put (ownedKey_off apart (Names.standardName_owned _ _ _)) _
        roleBindings := .put (ownedKey_off apart (Names.standardName_owned _ _ _)) _ }

/-- The Job cleanup of a preparation deletes only Jobs labelled after the owner. -/
theorem cleanedUp_keepsObjectsOf (db : ConnectionInfo) (strategy : VendorStrategy) (w : World) :
    w.KeepsObjectsOf rt.config other ((preparation d images db).cleanedUp rt strategy w) := by
  have secrets : w.KeepsObjectsOf rt.config other
      (w.withSecrets ((preparation d images db).schemas.map ((preparation d images db).credentialSecret rt strategy))) :=
    keepsObjectsOf_withSecrets apart w fun s listed => by
      obtain ⟨schema, -, rfl⟩ := List.mem_map.mp listed
      exact Names.standardName_owned _ _ _
  refine { secrets with jobs := fun k j job stored => ?_ }
  -- a Job of `other` is not labelled after a qualifier of the owner
  refine cleanedUp_get? rt images d db strategy stored fun ⟨_, labelled⟩ => ?_
  exact apart.not_ownedBy (Names.deploymentLabel_owned d.owner.name d.qualifier) (job.2 _ labelled)

theorem prepared_keepsObjectsOf (db : ConnectionInfo) (strategy : VendorStrategy) (w : World) :
    w.KeepsObjectsOf rt.config other ((preparation d images db).prepared rt strategy w) := by
  have cleaned := cleanedUp_keepsObjectsOf rt images apart db strategy w
  refine { cleaned with jobs := fun k j job stored => ?_ }
  -- the new Job is named after the owner
  have created : k ≠ ⟨d.owner.ns, (preparation d images db).jobName w.jobCounter⟩ := by
    rintro rfl
    refine apart.not_ownedBy ⟨d.qualifier ++ "-db-preparation-" ++ toString (w.jobCounter + 1), ?_⟩ job.1
    simp only [SchemaPreparation.jobName, preparation, String.append_assoc]
  exact (Store.get?_put_ne _ _ _ _ created).trans (cleaned.jobs k j job stored)

theorem keepsObjectsOf_schemaEffect (w : World) :
    w.KeepsObjectsOf rt.config other (schemaEffect rt images d w).2 := by
  unfold schemaEffect
  split
  · exact .refl w
  split
  · exact .refl w
  · rename_i db _
    dsimp only
    -- on a server, the preparation and the status write, whether the Job succeeds or not
    split
    · split <;> exact (prepared_keepsObjectsOf rt images apart db _ w).trans
        (.of_untouched (untouched_logWrite _ _))
    · exact .of_untouched (untouched_logWrite _ _)

variable {rt} (named : d.OwnerNamed)

include named

theorem keepsObjectsOf_support (w : World) :
    w.KeepsObjectsOf rt.config other (((w.withSecrets d.secrets).withAccountOf d).withService (Children.service d)) :=
  ((keepsObjectsOf_withSecrets apart w named.secrets).trans (keepsObjectsOf_withAccountOf rt apart _)).trans
    (keepsObjectsOf_withService apart _ (Names.standardName_owned _ _ _))

theorem keepsObjectsOf_ingressEffect (w : World) : w.KeepsObjectsOf rt.config other (ingressEffect d w).2 := by
  unfold ingressEffect
  split
  · exact .refl w
  · rename_i desired built
    obtain ⟨req, routed, merged⟩ := Option.bind_eq_some_iff.mp built
    refine (keepsObjectsOf_withIngress apart w ?_).trans (.of_untouched (untouched_logWrite _ _))
    rw [Children.nameOf_ingress merged]
    exact named.ingress req routed

theorem keepsObjectsOf_deployment (w : World) (inputs : Children.DeploymentInputs) :
    w.KeepsObjectsOf rt.config other
      ((withClients w d (clientAccesses d)).withDeployment (Children.deployment d inputs)) := by
  -- the clients' registrations touch only Keycloak; their Secrets are named after the clients
  let registered : World := { w with ssoCalls := w.ssoCalls ++ (clientAccesses d).flatMap (clientCalls d) }
  have registering : w.KeepsObjectsOf rt.config other registered :=
    .of_untouched (World.KeycloakOnly.untouched rfl)
  have clients : registered.KeepsObjectsOf rt.config other (registered.withSecrets ((clientAccesses d).map (clientSecret d))) :=
    keepsObjectsOf_withSecrets apart registered fun s listed => by
      obtain ⟨access, own, rfl⟩ := List.mem_map.mp listed
      exact Names.clientSecretName_owned (named.clients access own)
  exact (registering.trans clients).trans (keepsObjectsOf_withDeployment apart _ (Names.standardName_owned _ _ _))

/-- The steps of a pass keep the objects of a resource apart from its owner, whatever they end with. -/
theorem stepsEffect_keepsObjectsOf (rt : Runtime) (w : World) :
    w.KeepsObjectsOf rt.config other (stepsEffect rt images d w).2 :=
  stepsEffect_keeps rt images d (World.KeepsObjectsOf rt.config other) (fun _ _ _ => .trans)
    (keepsObjectsOf_schemaEffect rt images apart) (fun w => .of_untouched (untouched_logWrite w _))
    (fun w => keepsObjectsOf_withClaims apart w (Children.claims_owned d rt.config))
    (keepsObjectsOf_caEffect rt) (keepsObjectsOf_support apart named) (keepsObjectsOf_ingressEffect apart named)
    (keepsObjectsOf_deployment apart named) w

end Pass

/-- **A pass leaves the objects of other resources alone.** Whatever the cluster holds and however
the pass ends, a pass of a deployable named after its owner keeps every object of a resource whose
name is apart from the owner's. -/
theorem execute_keepsObjectsOf (rt : Runtime) (images : ImageResolver) {d : Deployable} {other : String}
    (apart : Names.Apart d.owner.name other) (named : d.OwnerNamed) (sso : Bool) :
    Preserves (keepsObjectsOf rt.config other) (execute World.backend.cluster rt images d (World.ssoSession sso)) := by
  intro w
  obtain ⟨-, ⟨statuses, world⟩, -⟩ := execute_effect rt images d sso w
  show w.KeepsObjectsOf rt.config other _
  rw [world]
  refine World.KeepsObjectsOf.trans ?_ (.of_untouched (untouched_withStatusStore _ _))
  unfold executeEffect
  split
  · exact .refl w
  split
  · exact .refl w
  -- the steps, then the final status write
  have stepped := stepsEffect_keepsObjectsOf images apart named rt w
  generalize stepsEffect rt images d w = effect at stepped ⊢
  rcases effect with ⟨_ | ⟨⟩, w'⟩
  · exact stepped.trans (.of_untouched (untouched_logWrite _ _))
  · exact stepped.trans (.of_untouched (untouched_logWrite _ _))

end StackOperator.Deploy

namespace StackOperator.Controller

open Cluster Deploy

/-- A status write touches no object. -/
theorem untouched_updateServerStatus (target : K8s.Reference) (s : ServerStatus) (w : World) :
    Untouched w ((World.backend.cluster.updateServerStatus target s).run.run w).run.2 := by
  rw [backend_updateServerStatus, World.updateServerStatus_writes, World.writeStatus_eq_logWrite]
  exact (untouched_logWrite _ _).trans (untouched_withStatusStore _ _)

/-- A controller keeps the objects of a resource apart from the one it deploys. -/
theorem keepsObjectsOf_keptBy (rt : Runtime) {r : Managed} {other : String}
    (apart : Names.Apart r.reference.name other) : KeptBy (keepsObjectsOf rt.config other) rt r where
  execute images d sso built := by
    rw [← built.owner_name] at apart
    exact execute_keepsObjectsOf rt images apart built.ownerNamed sso
  status s w := .of_untouched (untouched_updateServerStatus _ _ w)
  secret s named w := by
    show w.KeepsObjectsOf rt.config other _
    rw [backend_createSecretIfAbsent, createSecretIfAbsent_run]
    exact keepsObjectsOf_withSecrets apart w fun s' listed => by
      rw [List.mem_singleton.mp listed]
      exact named
  service s named w := by
    show w.KeepsObjectsOf rt.config other _
    rw [backend_applyService, applyService_run]
    exact keepsObjectsOf_withService apart w named

/-- **A controller leaves the objects of other resources alone.** Whatever the cluster holds and
however it ends, deploying a resource keeps every object of a resource whose name is apart from
its own. -/
theorem deploy_keepsObjectsOf (rt : Runtime) {r : Managed} {other : String}
    (apart : Names.Apart r.reference.name other) :
    Preserves (keepsObjectsOf rt.config other) (r.deploy World.backend rt) :=
  deploy_preserves (keepsObjectsOf_keptBy rt apart)

/-- **Resources with apart names are isolated.** Two resources with apart names, of any kinds, each
deployed from whatever the cluster holds, so in whichever order their passes run: make no call on a
common object but their own statuses, the shared ServiceAccount and the mirrored CA Secret; list the
pods of their qualifiers with different selectors; and each deployment leaves every object of the
other resource as it found it. -/
theorem deploy_isolated (rt : Runtime) {r₁ r₂ : Managed} (apart : Names.Apart r₁.reference.name r₂.reference.name) :
    (∀ w₁ w₂, WriteApart rt.config (r₁.deploy World.backend rt) (r₂.deploy World.backend rt) w₁ w₂) ∧
      (∀ d₁ d₂, BuiltFor r₁ d₁ → BuiltFor r₂ d₂ →
        d₁.owner.deploymentSelector d₁.qualifier ≠ d₂.owner.deploymentSelector d₂.qualifier) ∧
      Preserves (keepsObjectsOf rt.config r₂.reference.name) (r₁.deploy World.backend rt) ∧
      Preserves (keepsObjectsOf rt.config r₁.reference.name) (r₂.deploy World.backend rt) :=
  ⟨(deploy_callsAllowed rt r₁).writeApart apart (deploy_callsAllowed rt r₂),
    fun _ _ built₁ built₂ => BuiltFor.deploymentSelector_ne apart built₁ built₂,
    deploy_keepsObjectsOf rt apart, deploy_keepsObjectsOf rt apart.symm⟩

/-- A Keycloak server `kc` and an application `my-app` of one namespace are isolated. -/
theorem deploy_isolated_of_keycloak_and_app :
    let rt : Runtime := { config := { defaultRoutingSuffix := some "apps.example.com" }, now := ⟨0, 0⟩,
                          password := fun _ => "changeit" }
    let kc : Managed := .keycloakServer { metadata := { name := some "kc", ns := some "my-namespace" }, spec := {} }
    let app : Managed := .app { metadata := { name := some "my-app", ns := some "my-namespace" }, spec := {} }
    Names.Apart kc.reference.name app.reference.name ∧
      (∀ w₁ w₂, WriteApart rt.config (kc.deploy World.backend rt) (app.deploy World.backend rt) w₁ w₂) ∧
      (∀ d₁ d₂, BuiltFor kc d₁ → BuiltFor app d₂ →
        d₁.owner.deploymentSelector d₁.qualifier ≠ d₂.owner.deploymentSelector d₂.qualifier) ∧
      Preserves (keepsObjectsOf rt.config app.reference.name) (kc.deploy World.backend rt) ∧
      Preserves (keepsObjectsOf rt.config kc.reference.name) (app.deploy World.backend rt) := by
  intro rt kc app
  have apart : Names.Apart kc.reference.name app.reference.name := by decide
  exact ⟨apart, deploy_isolated rt apart⟩

/-- An application and a Keycloak server of one name in one namespace both deploy a qualifier
`server`: the application's pass applies the Service `x-server-service` that the server's pass
applied, and the Service stored afterwards is the application's. -/
theorem keycloak_and_app_of_one_name_share_objects :
    let rt : Runtime :=
      { config := { operatorNamespace := "entando-operator", defaultRoutingSuffix := some "apps.example.com",
                    podCompletionTimeoutMs := 30, podReadinessTimeoutMs := 30, pollIntervalMs := 5 },
        now := ⟨0, 0⟩, password := fun _ => "changeit" }
    let recorded : ServerStatus :=
      { qualifier := "server", adminSecretName := some "kc-admin-secret",
        externalBaseUrl := some "https://sso.example.com/auth" }
    let kc : KeycloakServer :=
      { metadata := { name := some "kc", ns := some "my-namespace", uid := some "kc-uid", generation := some 1 },
        spec := { isDefault := true, ingressHostName := some "sso.example.com" },
        status := some { phase := some .successful, servers := .singleton "server" recorded } }
    let admin := K8s.Secret.credentials { name := some "kc-admin-secret", ns := some "my-namespace" } "admin" "pw"
    let w : World := { keycloakServers := [kc], secrets := [(⟨"my-namespace", "kc-admin-secret"⟩, admin)] }
    let server : KeycloakServer :=
      { metadata := { name := some "x", ns := some "my-namespace", uid := some "x-kc-uid", generation := some 1 },
        spec := { ingressHostName := some "sso-x.example.com" } }
    let app : App :=
      { metadata := { name := some "x", ns := some "my-namespace", uid := some "x-app-uid", generation := some 1 },
        spec := {} }
    let first := ((deployKeycloakServer World.backend rt server).run.run w).run
    let second := ((deployApp World.backend rt app).run.run first.2).run
    first.1 = .ok () ∧ second.1 = .ok () ∧
      "apply_service:x-server-service" ∈ first.2.calls.drop w.calls.length ∧
      "apply_service:x-server-service" ∈ second.2.calls.drop first.2.calls.length ∧
      (second.2.services.get? ⟨"my-namespace", "x-server-service"⟩).bind (·.metadata.ownerReferences) =
        some [app.reference.ownerReference] := by
  intro rt recorded kc admin w server app first second
  decide +kernel

end StackOperator.Controller
