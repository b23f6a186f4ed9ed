import StackOperator.Controller.Handle
import StackOperator.Proofs.AppPass

/-!
# Resources keep to objects of their own

Every object a pass creates or applies under a name of its own is named after the resource it
deploys, `<name>-…` (`Names.OwnedBy`): the schema, admin and client Secrets, the claims, the Role
and RoleBinding, the Service, the Ingress, the Deployment and the preparation Jobs of each
qualifier, and the label its earlier preparation Jobs are deleted by. Besides these a pass writes
only statuses of its own resource, the ServiceAccount it runs as and the CA Secret mirrored from
the operator's namespace, which the resources of a namespace share.

Two names are apart (`Names.Apart`) when neither, followed by `-`, begins the other followed by
`-`; distinct names without a `-` are apart. No name is named after two apart names
(`Names.Apart.not_ownedBy`).

* **Relations kept by every run.** A `RunRelation` composes and holds across any change to the
  Keycloak calls and logins alone; `Preserves R x` says every run of `x` keeps it. Binds, loops,
  reads, logins and the failure wrapper keep every such relation (`Preserves.bind`,
  `Preserves.forIn`, `Preserves.login_bind`, `Preserves.onFailure`).
* **The controllers keep a relation** that the passes of the deployables they build for a resource
  (`BuiltFor`), its status writes, and the creation of a Secret or Service named after it keep
  (`KeptBy`, `deploy_preserves`). Every deployable they build is named after its owner
  (`Deployable.OwnerNamed`, `BuiltFor.ownerNamed`).
* **Calls.** `callsAllowed` relates worlds whose new calls are ones a pass for a resource may make
  (`AllowedCall`). A pass keeps it stage by stage of its plan (`callPlan_allowed`,
  `execute_callsAllowed`), and so do the controllers (`deploy_callsAllowed`): two resources with
  apart names make no call on a common object (`Preserves.writeApart`) and list their pods with
  different selectors (`BuiltFor.deploymentSelector_ne`).
-/

namespace StackOperator.Names

/-- A name of an object of the resource named `owner`: `<owner>-…`. -/
def OwnedBy (owner name : String) : Prop := ∃ rest, name = owner ++ "-" ++ rest

/-- Names whose children never share a name: neither name followed by `-` begins the other
followed by `-`. -/
def Apart (n m : String) : Prop :=
  ¬(n ++ "-").toList <+: (m ++ "-").toList ∧ ¬(m ++ "-").toList <+: (n ++ "-").toList

instance (n m : String) : Decidable (Apart n m) := inferInstanceAs (Decidable (_ ∧ _))

theorem Apart.symm {n m : String} (apart : Apart n m) : Apart m n := ⟨apart.2, apart.1⟩

/-- No name is named after both of two apart names. -/
theorem Apart.not_ownedBy {n m name : String} (apart : Apart n m) (own : OwnedBy n name) :
    ¬OwnedBy m name := by
  rintro ⟨y, rfl⟩
  obtain ⟨x, same⟩ := own
  have lists : (m ++ "-").toList ++ y.toList = (n ++ "-").toList ++ x.toList := by
    simpa only [String.toList_append] using congrArg String.toList same
  -- both are prefixes of one list, so one of them begins the other
  have second : (n ++ "-").toList <+: (m ++ "-").toList ++ y.toList := by
    rw [lists]
    exact List.prefix_append _ _
  rcases List.prefix_or_prefix_of_prefix (List.prefix_append _ y.toList) second with begins | begun
  · exact apart.2 begins
  · exact apart.1 begun

theorem standardName_owned (n q s : String) : OwnedBy n (standardName n q s) :=
  ⟨q ++ "-" ++ s, by simp only [standardName, String.append_assoc]⟩

theorem deploymentLabel_owned (n q : String) : OwnedBy n (deploymentLabel n q) := ⟨q, rfl⟩

theorem ingressName_owned (n : String) : OwnedBy n (ingressName n) :=
  ⟨"ingress", by rw [ingressName, String.append_assoc]; rfl⟩

theorem adminSecretName_owned (n : String) : OwnedBy n (adminSecretName n) :=
  ⟨"admin-secret", by rw [adminSecretName, String.append_assoc]; rfl⟩

theorem serverClientId_owned (n : String) : OwnedBy n (serverClientId n) :=
  ⟨"server", by rw [serverClientId, String.append_assoc]; rfl⟩

theorem componentManagerClientId_owned (n : String) : OwnedBy n (componentManagerClientId n) :=
  ⟨"de", by rw [componentManagerClientId, String.append_assoc]; rfl⟩

/-- The Secret of a Keycloak client named after the owner is named after it. -/
theorem clientSecretName_owned {n clientId : String} (own : OwnedBy n clientId) :
    OwnedBy n (clientSecretName clientId) := by
  obtain ⟨rest, rfl⟩ := own
  exact ⟨rest ++ "-" ++ secretSuffix, by simp only [clientSecretName, String.append_assoc]⟩

end StackOperator.Names

namespace StackOperator.Cluster

open Deploy

variable {α β γ : Type}

/-! ## Relations kept by every run -/

/-- `w'` differs from `w` at most in its Keycloak calls and logins. -/
def World.KeycloakOnly (w w' : World) : Prop :=
  w' = { w with ssoCalls := w'.ssoCalls, logins := w'.logins }

/-- A relation between the world a computation starts from and the one it leaves: it composes, and
it holds across any change to the Keycloak calls and logins alone. -/
structure RunRelation where
  holds : World → World → Prop
  trans : ∀ {a b c : World}, holds a b → holds b c → holds a c
  keycloakOnly : ∀ {a b : World}, a.KeycloakOnly b → holds a b

theorem RunRelation.refl (R : RunRelation) (w : World) : R.holds w w := R.keycloakOnly rfl

/-- Every run of `x` relates the world it starts from to the one it leaves by `R`. -/
def Preserves (R : RunRelation) (x : Op α) : Prop := ∀ w, R.holds w (x.run.run w).run.2

variable {R : RunRelation}

theorem Preserves.of_unchanged {x : Op α} (same : ∀ w, (x.run.run w).run.2 = w) : Preserves R x := by
  intro w
  rw [same]
  exact R.refl w

theorem Preserves.of_keycloakOnly {x : Op α} (quiet : ∀ w : World, w.KeycloakOnly (x.run.run w).run.2) :
    Preserves R x :=
  fun w => R.keycloakOnly (quiet w)

theorem Preserves.pure (a : α) : Preserves R (pure a : Op α) := .of_unchanged fun _ => rfl

theorem Preserves.throw_bind (e : Error) (f : α → Op β) : Preserves R (MonadExcept.throw e >>= f) :=
  .of_unchanged fun _ => rfl

theorem Preserves.bind {x : Op α} {f : α → Op β} (first : Preserves R x) (rest : ∀ a, Preserves R (f a)) :
    Preserves R (x >>= f) := by
  intro w
  have kept := first w
  rw [Op.bind_run]
  generalize (x.run.run w).run = r at kept ⊢
  rcases r with ⟨_ | a, w'⟩
  · exact kept
  · exact R.trans kept (rest a w')

theorem Preserves.map (f : α → β) {x : Op α} (kept : Preserves R x) : Preserves R (f <$> x) := by
  rw [map_eq_pure_bind]
  exact kept.bind fun _ => .pure _

/-- A check of a computed result changes nothing before what follows it. -/
theorem Preserves.liftExcept_bind {e : Except Error α} {f : α → Op β}
    (rest : ∀ a, e = .ok a → Preserves R (f a)) : Preserves R (liftExcept e >>= f) := by
  intro w
  rw [Op.bind_run, liftExcept_run]
  cases e with
  | error e => exact R.refl w
  | ok a => exact rest a rfl w

/-- A loop whose body keeps `R` for each element of the list keeps it. -/
theorem Preserves.forIn {f : α → γ → Op (ForInStep γ)} (l : List α)
    (body : ∀ a ∈ l, ∀ b, Preserves R (f a b)) (init : γ) : Preserves R (forIn l init f) :=
  forIn_of_pure_of_bind (Preserves R) Preserves.pure Preserves.bind l body init

/-- The failure wrapper changes the world as what it wraps does. -/
theorem Preserves.onFailure (kind ns name : String) {x : Op α} (kept : Preserves R x) :
    Preserves R (Deploy.onFailure kind ns name x) := by
  intro w
  have wrapped := kept w
  simp only [Deploy.onFailure, ExceptT.run_tryCatch, StateT.run_bind, Id.run_bind]
  generalize (x.run.run w).run = r at wrapped ⊢
  rcases r with ⟨_ | a, w'⟩ <;> exact wrapped

theorem preserves_ensureRealm (realm : String) : Preserves R (ssoClient.ensureRealm realm) :=
  .of_keycloakOnly fun _ => rfl

theorem preserves_createPublicClient (realm clientId url : String) :
    Preserves R (ssoClient.createPublicClient realm clientId url) :=
  .of_keycloakOnly fun _ => rfl

theorem preserves_assignRole (realm clientId : String) (p : Keycloak.Permission) :
    Preserves R (ssoClient.assignRole realm clientId p) := by
  refine .of_keycloakOnly fun w => ?_
  rw [show ssoClient.assignRole = assignRole from rfl, assignRole_run]
  split <;> rfl

/-! ## The calls of a pass -/

/-- The kinds of object a pass creates or applies under a name of its own, and the label its
earlier preparation Jobs are deleted by. -/
inductive ChildKind where
  | secret | claim | role | roleBinding | service | ingress | deployment | job
  | preparationJobs
  deriving DecidableEq, Repr

/-- The text a call on an object of the kind begins with; the object's name follows it. -/
def ChildKind.verb : ChildKind → String
  | .secret => "create_secret:"
  | .claim => "apply_pvc:"
  | .role => "apply_role:"
  | .roleBinding => "apply_role_binding:"
  | .service => "apply_service:"
  | .ingress => "apply_ingress:"
  | .deployment => "apply_deployment:"
  | .job => "create_job:"
  | .preparationJobs => "delete_jobs:" ++ dbPreparationLabel ++ "="

/-- No verb begins another. -/
theorem ChildKind.eq_of_verb_begins {a b : ChildKind} (begins : a.verb.toList <+: b.verb.toList) : a = b := by
  revert begins
  cases a <;> cases b <;> decide

/-- A call names its kind and its object. -/
theorem ChildKind.verb_append_inj {a b : ChildKind} {x y : String} (same : a.verb ++ x = b.verb ++ y) :
    a = b ∧ x = y := by
  have lists : a.verb.toList ++ x.toList = b.verb.toList ++ y.toList := by
    simpa only [String.toList_append] using congrArg String.toList same
  have second : b.verb.toList <+: a.verb.toList ++ x.toList := by
    rw [lists]
    exact List.prefix_append _ _
  have kinds : a = b := by
    rcases List.prefix_or_prefix_of_prefix (List.prefix_append _ x.toList) second with begins | begun
    · exact eq_of_verb_begins begins
    · exact (eq_of_verb_begins begun).symm
  subst kinds
  exact ⟨rfl, String.toList_inj.mp (List.append_cancel_left lists)⟩

/-- A call on an object of the resource named `owner`: the verb of the object's kind and a name
`<owner>-…`. -/
def OwnCall (owner call : String) : Prop :=
  ∃ (kind : ChildKind) (name : String), call = kind.verb ++ name ∧ Names.OwnedBy owner name

/-- A call on an object the resources of a namespace share: the ServiceAccount a pass runs as, or
the CA Secret mirrored from the operator's namespace. -/
def SharedCall (config : OperatorConfig) (call : String) : Prop :=
  (∃ account, call = "apply_service_account:" ++ account) ∨
    ∃ ca, config.caSecretName.filter (· ≠ "") = some ca ∧ call = "create_secret:" ++ ca

/-- A write of a status of the resource being deployed. -/
def StatusCall (call : String) : Prop := ∃ qualifier, call = "update_server_status:" ++ qualifier

/-- The calls a pass for the resource named `owner` may make. -/
def AllowedCall (config : OperatorConfig) (owner call : String) : Prop :=
  StatusCall call ∨ SharedCall config call ∨ OwnCall owner call

theorem OwnCall.apart {n m call : String} (apart : Names.Apart n m) (first : OwnCall n call)
    (second : OwnCall m call) : False := by
  obtain ⟨kind₁, name₁, rfl, own₁⟩ := first
  obtain ⟨kind₂, name₂, same, own₂⟩ := second
  rw [← (ChildKind.verb_append_inj same).2] at own₂
  exact apart.not_ownedBy own₁ own₂

/-- A call that passes for resources with apart names may both make writes a status or a shared
object. -/
theorem AllowedCall.apart {config : OperatorConfig} {n m call : String} (apart : Names.Apart n m)
    (first : AllowedCall config n call) (second : AllowedCall config m call) :
    StatusCall call ∨ SharedCall config call := by
  rcases first with status | shared | own₁
  · exact .inl status
  · exact .inr shared
  rcases second with status | shared | own₂
  · exact .inl status
  · exact .inr shared
  · exact (own₁.apart apart own₂).elim

variable {config : OperatorConfig} {owner : String}

theorem ownCall_allowed (kind : ChildKind) {name : String} (named : Names.OwnedBy owner name) :
    AllowedCall config owner (kind.verb ++ name) :=
  .inr (.inr ⟨kind, name, rfl, named⟩)

theorem statusCall_allowed (qualifier : String) :
    AllowedCall config owner ("update_server_status:" ++ qualifier) :=
  .inl ⟨qualifier, rfl⟩

/-- The runs that add to the cluster's calls only calls a pass for `owner` may make. -/
def callsAllowed (config : OperatorConfig) (owner : String) : RunRelation where
  holds w w' := ∃ made, w'.calls = w.calls ++ made ∧ ∀ call ∈ made, AllowedCall config owner call
  trans := by
    rintro a b c ⟨made₁, calls₁, allowed₁⟩ ⟨made₂, calls₂, allowed₂⟩
    refine ⟨made₁ ++ made₂, by rw [calls₂, calls₁, List.append_assoc], fun call made => ?_⟩
    rcases List.mem_append.mp made with early | late
    · exact allowed₁ call early
    · exact allowed₂ call late
  keycloakOnly := by
    intro a b same
    exact ⟨[], by rw [List.append_nil, same], by simp⟩

/-- A run of `x` from `w₁` and one of `y` from `w₂` write no common object: every call both make
writes a status, each to its own resource, or an object the resources of a namespace share. -/
def WriteApart (config : OperatorConfig) (x y : Op α) (w₁ w₂ : World) : Prop :=
  ∃ made₁ made₂, (x.run.run w₁).run.2.calls = w₁.calls ++ made₁ ∧ (y.run.run w₂).run.2.calls = w₂.calls ++ made₂ ∧
    ∀ call ∈ made₁, call ∈ made₂ → StatusCall call ∨ SharedCall config call

/-- Computations whose calls are allowed for apart names write no common object, from whatever
worlds they run. -/
theorem Preserves.writeApart {n m : String} {x y : Op α} (apart : Names.Apart n m)
    (first : Preserves (callsAllowed config n) x) (second : Preserves (callsAllowed config m) y)
    (w₁ w₂ : World) : WriteApart config x y w₁ w₂ := by
  obtain ⟨made₁, calls₁, allowed₁⟩ := first w₁
  obtain ⟨made₂, calls₂, allowed₂⟩ := second w₂
  exact ⟨made₁, made₂, calls₁, calls₂,
    fun call early late => (allowed₁ call early).apart apart (allowed₂ call late)⟩

theorem callsAllowed_updateServerStatus (target : K8s.Reference) (s : ServerStatus) :
    Preserves (callsAllowed config owner) (World.backend.cluster.updateServerStatus target s) := by
  intro w
  refine ⟨["update_server_status:" ++ s.qualifier], ?_, ?_⟩
  · rw [backend_updateServerStatus, updateServerStatus_run]
    split <;> rfl
  · intro call listed
    rw [List.mem_singleton.mp listed]
    exact statusCall_allowed s.qualifier

theorem callsAllowed_createSecretIfAbsent {s : K8s.Secret} (named : Names.OwnedBy owner (nameOf s.metadata)) :
    Preserves (callsAllowed config owner) (World.backend.cluster.createSecretIfAbsent s) := by
  intro w
  refine ⟨["create_secret:" ++ nameOf s.metadata],
    by rw [backend_createSecretIfAbsent, createSecretIfAbsent_run]; rfl, ?_⟩
  intro call listed
  rw [List.mem_singleton.mp listed]
  exact ownCall_allowed .secret named

theorem callsAllowed_applyService {s : K8s.Service} (named : Names.OwnedBy owner (nameOf s.metadata)) :
    Preserves (callsAllowed config owner) (World.backend.cluster.applyService s) := by
  intro w
  refine ⟨["apply_service:" ++ nameOf s.metadata], by rw [backend_applyService, applyService_run]; rfl, ?_⟩
  intro call listed
  rw [List.mem_singleton.mp listed]
  exact ownCall_allowed .service named

end StackOperator.Cluster

namespace StackOperator

open Cluster Deploy

/-- A deployable whose own objects are all named after its owner: its Secrets, its Ingress and
its Keycloak clients are named `<owner>-…`, like every object its pass names itself. -/
structure Deployable.OwnerNamed (d : Deployable) : Prop where
  secrets : ∀ s ∈ d.secrets, Names.OwnedBy d.owner.name (nameOf s.metadata)
  ingress : ∀ req, d.ingress = some req → Names.OwnedBy d.owner.name req.ingressName
  clients : ∀ access ∈ clientAccesses d, Names.OwnedBy d.owner.name access.client.clientId

namespace Deploy

/-! ## A pass -/

section Pass

variable (config : OperatorConfig) {d : Deployable} (named : d.OwnerNamed)

theorem schemaCalls_allowed (counter : Nat) :
    ∀ call ∈ schemaCalls d counter, AllowedCall config d.owner.name call := by
  intro call listed
  unfold schemaCalls at listed
  split at listed
  · simp at listed
  split at listed
  · simp at listed
  split at listed
  · -- on a database server: the schema Secrets, the Job cleanup and creation, the status
    simp only [List.mem_append, List.mem_map, List.mem_cons, List.not_mem_nil, or_false] at listed
    rcases listed with ⟨schema, -, rfl⟩ | rfl | rfl | rfl
    · exact ownCall_allowed .secret (Names.standardName_owned _ _ _)
    · exact ownCall_allowed .preparationJobs (Names.deploymentLabel_owned _ _)
    · exact ownCall_allowed .job ⟨d.qualifier ++ "-db-preparation-" ++ toString (counter + 1),
        by simp only [schemaJobName, String.append_assoc]⟩
    · exact statusCall_allowed d.qualifier
  · rw [List.mem_singleton.mp listed]
    exact statusCall_allowed d.qualifier

theorem claimCalls_allowed : ∀ call ∈ claimCalls d, AllowedCall config d.owner.name call := by
  intro call listed
  simp only [claimCalls, List.mem_append, List.mem_filterMap, Option.map_eq_some_iff,
    List.mem_singleton] at listed
  rcases listed with ⟨c, -, _, -, rfl⟩ | rfl
  · exact ownCall_allowed .claim (Names.standardName_owned _ _ _)
  · exact statusCall_allowed d.qualifier

theorem caMirrorCalls_shared (present : String → Bool) :
    ∀ call ∈ caMirrorCalls config d present, SharedCall config call := by
  intro call listed
  unfold caMirrorCalls at listed
  split at listed
  · split at listed
    · rename_i name configured
      split at listed
      · simp at listed
      · exact .inr ⟨name, configured, List.mem_singleton.mp listed⟩
    · simp at listed
  · simp at listed

include named in
theorem serviceCalls_allowed : ∀ call ∈ serviceCalls d, AllowedCall config d.owner.name call := by
  intro call listed
  simp only [serviceCalls, List.mem_append, List.mem_map, List.mem_cons, List.not_mem_nil,
    or_false] at listed
  rcases listed with (⟨s, own, rfl⟩ | account) | rfl | rfl
  · exact ownCall_allowed .secret (named.secrets s own)
  · -- the ServiceAccount is shared; its Role and RoleBinding are the qualifier's own
    unfold accountCallsOf at account
    split at account
    · simp at account
    · simp only [List.mem_append, List.mem_singleton] at account
      rcases account with rfl | rules
      · exact .inr (.inl (.inl ⟨_, rfl⟩))
      · split at rules
        · simp at rules
        · simp only [List.mem_cons, List.not_mem_nil, or_false] at rules
          rcases rules with rfl | rfl
          · exact ownCall_allowed .role (Names.standardName_owned _ _ _)
          · exact ownCall_allowed .roleBinding (Names.standardName_owned _ _ _)
  · exact ownCall_allowed .service (Names.standardName_owned _ _ _)
  · exact statusCall_allowed d.qualifier

include named in
theorem ingressCalls_allowed : ∀ call ∈ ingressCalls d, AllowedCall config d.owner.name call := by
  intro call listed
  unfold ingressCalls at listed
  split at listed
  · rename_i req routed
    split at listed
    · simp at listed
    · simp only [List.mem_cons, List.not_mem_nil, or_false] at listed
      rcases listed with rfl | rfl
      · exact ownCall_allowed .ingress (named.ingress req routed)
      · exact statusCall_allowed d.qualifier
  · simp at listed

include named in
theorem deploymentCalls_allowed : ∀ call ∈ deploymentCalls d, AllowedCall config d.owner.name call := by
  intro call listed
  simp only [deploymentCalls, List.mem_append, List.mem_map, List.mem_cons, List.not_mem_nil,
    or_false] at listed
  rcases listed with ⟨access, own, rfl⟩ | rfl | rfl
  · exact ownCall_allowed .secret (Names.clientSecretName_owned (named.clients access own))
  · exact ownCall_allowed .deployment (Names.standardName_owned _ _ _)
  · exact statusCall_allowed d.qualifier

include named in
/-- Every call of a pass's plan is one a pass for its owner may make. -/
theorem callPlan_allowed (w : World) :
    ∀ call ∈ (callPlan config d w).flatten, AllowedCall config d.owner.name call := by
  intro call listed
  obtain ⟨stage, staged, inStage⟩ := List.mem_flatten.mp listed
  simp only [callPlan, List.mem_cons, List.not_mem_nil, or_false] at staged
  rcases staged with rfl | rfl | rfl | rfl | rfl
  · exact schemaCalls_allowed config _ call inStage
  · exact claimCalls_allowed config call inStage
  · rcases List.mem_append.mp inStage with mirrored | supported
    · exact .inr (.inl (caMirrorCalls_shared config _ call mirrored))
    · exact serviceCalls_allowed config named call supported
  · exact ingressCalls_allowed config named call inStage
  · exact deploymentCalls_allowed config named call inStage

end Pass

/-- **A pass keeps to its owner's objects.** Whatever the cluster holds and however the pass ends,
a pass of a deployable named after its owner writes only statuses, the shared ServiceAccount and
CA Secret, and objects named after its owner. -/
theorem execute_callsAllowed (rt : Runtime) (images : ImageResolver) {d : Deployable} (named : d.OwnerNamed)
    (sso : Bool) :
    Preserves (callsAllowed rt.config d.owner.name)
      (execute World.backend.cluster rt images d (World.ssoSession sso)) := by
  intro w
  obtain ⟨-, ⟨statuses, world⟩, -⟩ := execute_effect rt images d sso w
  by_cases checked : checksPass d sso
  · -- the calls of the first stages of the plan, then the final status write
    obtain ⟨k, -, logged, -⟩ := executeEffect_logged rt images d sso w checked
    refine ⟨_, by rw [world]; exact logged.calls, fun call made => ?_⟩
    rcases List.mem_append.mp made with planned | final
    · obtain ⟨stage, staged, inStage⟩ := List.mem_flatten.mp planned
      exact callPlan_allowed rt.config named w call
        (List.mem_flatten.mpr ⟨stage, List.mem_of_mem_take staged, inStage⟩)
    · rw [List.mem_singleton.mp final]
      exact statusCall_allowed d.qualifier
  · obtain ⟨e, unchanged⟩ := executeEffect_unchecked rt images d sso w checked
    exact ⟨[], by rw [world, unchanged, List.append_nil]; rfl, by simp⟩

end Deploy

/-! ## The deployables the controllers build -/

@[simp] theorem K8s.Reference.nameOf_ownedMeta (r : K8s.Reference) (name qualifier : String) :
    nameOf (r.ownedMeta name qualifier) = name := rfl

/-- A route is the Ingress `<owner>-ingress`. -/
theorem IngressRequirements.resolve_ingressName {owner : K8s.Reference} {host tls : Option String}
    {config : OperatorConfig} {req : IngressRequirements}
    (resolved : IngressRequirements.resolve owner host tls config = .ok req) :
    req.ingressName = Names.ingressName owner.name := by
  unfold IngressRequirements.resolve at resolved
  simp only [bind, Except.bind, pure, Except.pure] at resolved
  -- the host comes from the resource or the default suffix; the name does not depend on it
  split at resolved
  · cases resolved
    rfl
  · split at resolved
    · simp [throw, throwThe, MonadExceptOf.throw] at resolved
    · cases resolved
      rfl

/-- An Ingress route is named after the owner. -/
theorem IngressRequirements.resolve_owned {owner : K8s.Reference} {host tls : Option String}
    {config : OperatorConfig} {req : IngressRequirements}
    (resolved : IngressRequirements.resolve owner host tls config = .ok req) :
    Names.OwnedBy owner.name req.ingressName := by
  rw [IngressRequirements.resolve_ingressName resolved]
  exact Names.ingressName_owned _

namespace AppPlan.Context

theorem server_ownerNamed {c : Context} {server : Deployable} (built : c.server = .ok server) :
    server.OwnerNamed := by
  unfold Context.server at built
  obtain ⟨ingress, routed, built⟩ := bind_base_eq_ok built
  simp only [routed, bind, Except.bind, pure, Except.pure, Except.ok.injEq] at built
  subst built
  refine ⟨by simp, fun req found => ?_, fun access own => ?_⟩
  · cases found
    exact IngressRequirements.resolve_owned routed
  · simp only [clientAccesses, List.filterMap_cons, List.filterMap_nil, List.mem_singleton] at own
    subst own
    exact Names.serverClientId_owned _

theorem appBuilder_ownerNamed {c : Context} {appBuilder : Deployable} (built : c.appBuilder = .ok appBuilder) :
    appBuilder.OwnerNamed := by
  unfold Context.appBuilder at built
  obtain ⟨ingress, routed, built⟩ := bind_base_eq_ok built
  simp only [pure, Except.pure, Except.ok.injEq] at built
  subst built
  refine ⟨by simp, fun req found => ?_, fun access own => ?_⟩
  · cases found
    exact IngressRequirements.resolve_owned routed
  · simp [clientAccesses] at own

theorem componentManager_ownerNamed {c : Context} {componentManager : Deployable}
    (built : c.componentManager = .ok componentManager) : componentManager.OwnerNamed := by
  unfold Context.componentManager at built
  obtain ⟨ingress, routed, built⟩ := bind_base_eq_ok built
  simp only [routed, bind, Except.bind, pure, Except.pure, Except.ok.injEq] at built
  subst built
  refine ⟨by simp, fun req found => ?_, fun access own => ?_⟩
  · cases found
    exact IngressRequirements.resolve_owned routed
  · simp only [clientAccesses, List.filterMap_cons, List.filterMap_nil, List.mem_singleton] at own
    subst own
    exact Names.componentManagerClientId_owned _

end AppPlan.Context

theorem KeycloakPlan.deployable_ownerNamed {server : KeycloakServer} {dbms : Vendor}
    {database : Option ConnectionInfo} {config : OperatorConfig} {passwords : Cluster.ObjectKey → String} {d : Deployable}
    (built : KeycloakPlan.deployable server dbms database config passwords = .ok d) : d.OwnerNamed := by
  unfold KeycloakPlan.deployable at built
  obtain ⟨ingress, routed, built⟩ := Json.Decode.exists_of_bind_eq_ok built
  cases built
  refine ⟨fun s own => ?_, fun req found => ?_, fun access own => ?_⟩
  · rw [List.mem_singleton.mp own]
    exact Names.adminSecretName_owned _
  · cases found
    exact IngressRequirements.resolve_owned routed
  · simp [clientAccesses] at own

theorem DatabasePlan.make_ownerNamed {owner : K8s.Reference} {vendor : Vendor}
    {databaseName storageClass : Option String} {extraEnv : List K8s.EnvVar} {passwords : Cluster.ObjectKey → String}
    {plan : DatabasePlan} (made : DatabasePlan.make owner vendor databaseName storageClass extraEnv passwords = .ok plan) :
    plan.deployable.owner = owner ∧ plan.deployable.OwnerNamed := by
  rcases DatabasePlan.make_eq_ok made with rfl | rfl <;>
  · simp only [DatabasePlan.make, DatabasePlan.imageOf, VendorStrategy.of?, bind, Except.bind, pure,
      Except.pure, Except.ok.injEq] at made
    subst made
    refine ⟨rfl, fun s own => ?_, fun req found => ?_, fun access own => ?_⟩
    · rw [List.mem_singleton.mp own]
      exact Names.standardName_owned _ _ _
    · cases found
    · simp [clientAccesses] at own

namespace Controller

/-- The deployables whose passes the controller of a resource runs: the three qualifiers of an
application, the server of a Keycloak server, and a database server deployed for the resource. -/
inductive BuiltFor : Managed → Deployable → Prop
  | server {c : AppPlan.Context} {d : Deployable} : c.server = .ok d → BuiltFor (.app c.app) d
  | appBuilder {c : AppPlan.Context} {d : Deployable} : c.appBuilder = .ok d → BuiltFor (.app c.app) d
  | componentManager {c : AppPlan.Context} {d : Deployable} :
      c.componentManager = .ok d → BuiltFor (.app c.app) d
  | keycloak {server : KeycloakServer} {dbms : Vendor} {database : Option ConnectionInfo}
      {config : OperatorConfig} {passwords : Cluster.ObjectKey → String} {d : Deployable} :
      KeycloakPlan.deployable server dbms database config passwords = .ok d → BuiltFor (.keycloakServer server) d
  | database {r : Managed} {vendor : Vendor} {databaseName storageClass : Option String}
      {extraEnv : List K8s.EnvVar} {passwords : Cluster.ObjectKey → String} {plan : DatabasePlan} :
      DatabasePlan.make r.reference vendor databaseName storageClass extraEnv passwords = .ok plan →
        BuiltFor r plan.deployable

theorem BuiltFor.owner_name {r : Managed} {d : Deployable} (built : BuiltFor r d) :
    d.owner.name = r.reference.name := by
  cases built with
  | server made => rw [(AppPlan.Context.server_plan made).1]; rfl
  | appBuilder made => rw [(AppPlan.Context.appBuilder_plan made).1]; rfl
  | componentManager made => rw [(AppPlan.Context.componentManager_plan made).1]; rfl
  | keycloak made => rw [(KeycloakPlan.deployable_eq_ok made).1]; rfl
  | database made => rw [(DatabasePlan.make_ownerNamed made).1]

theorem BuiltFor.ownerNamed {r : Managed} {d : Deployable} (built : BuiltFor r d) : d.OwnerNamed := by
  cases built with
  | server made => exact AppPlan.Context.server_ownerNamed made
  | appBuilder made => exact AppPlan.Context.appBuilder_ownerNamed made
  | componentManager made => exact AppPlan.Context.componentManager_ownerNamed made
  | keycloak made => exact KeycloakPlan.deployable_ownerNamed made
  | database made => exact (DatabasePlan.make_ownerNamed made).2

/-! ## The controllers -/

/-- What the controllers need of a relation to keep it while deploying the resource `r`: the passes
of the deployables built for `r`, the writes of its status, and the creation of a Secret or the
application of a Service named after `r` keep it. -/
structure KeptBy (R : RunRelation) (rt : Runtime) (r : Managed) : Prop where
  execute : ∀ images d sso, BuiltFor r d →
    Preserves R (execute World.backend.cluster rt images d (World.ssoSession sso))
  status : ∀ s, Preserves R (World.backend.cluster.updateServerStatus r.reference s)
  secret : ∀ s : K8s.Secret, Names.OwnedBy r.reference.name (nameOf s.metadata) →
    Preserves R (World.backend.cluster.createSecretIfAbsent s)
  service : ∀ s : K8s.Service, Names.OwnedBy r.reference.name (nameOf s.metadata) →
    Preserves R (World.backend.cluster.applyService s)

variable {β : Type} {R : RunRelation} {rt : Runtime}

/-- A login changes only the logins, and what follows it runs with the simulated session. -/
theorem Preserves.login_bind {url ns name : String} {f : SsoClient (StateM World) → Op β}
    (rest : Preserves R (f ssoClient)) : Preserves R (login World.backend url ns name >>= f) := by
  intro w
  rw [Op.bind_run]
  generalize ran : ((login World.backend url ns name).run.run w).run = r
  rcases r with ⟨_ | client, w'⟩
  · rw [login_run_error ran]
    exact R.refl w
  · obtain ⟨_, user, _, _, rfl, rfl⟩ := login_run_ok ran
    have logged : w.KeycloakOnly (w.withLogin url user) := rfl
    exact R.trans (R.keycloakOnly logged) (rest (w.withLogin url user))

/-- Resolving a database runs only the pass of a database server it deploys for the owner. -/
theorem resolveDatabase_preserves {r : Managed} (kept : KeptBy R rt r) (images : ImageResolver)
    (vendor : Vendor) (storageClass : Option String) :
    Preserves R (resolveDatabase World.backend.cluster rt images r.reference vendor storageClass) := by
  unfold resolveDatabase
  split
  · exact .pure _
  refine (Preserves.of_unchanged fun w => by rw [backend_listDatabaseServices, listDatabaseServices_run]).bind
    fun services => ?_
  dsimp only
  split
  · exact .of_unchanged fun w => by rw [liftExcept_run]
  split
  · exact .of_unchanged fun _ => rfl
  refine Preserves.liftExcept_bind fun plan made => ?_
  exact (kept.execute images _ false (.database made)).bind fun _ => .pure _

theorem deployApp_preserves {app : App} (kept : KeptBy R rt (.app app)) :
    Preserves R (deployApp World.backend rt app) := by
  unfold deployApp loginResolved
  dsimp only
  refine (Preserves.of_unchanged fun w => by rw [imageResolver_run]).bind fun images => ?_
  refine (Preserves.of_unchanged (resolveKeycloak_world _ _)).bind fun sso => ?_
  refine Preserves.login_bind ?_
  refine Preserves.liftExcept_bind fun route _ => ?_
  refine (resolveDatabase_preserves kept images _ _).bind fun database => ?_
  refine Preserves.liftExcept_bind fun server builtServer => ?_
  refine Preserves.liftExcept_bind fun appBuilder builtAppBuilder => ?_
  refine Preserves.liftExcept_bind fun componentManager builtComponentManager => ?_
  refine (Preserves.forIn _ (fun d listed _ => ?_) _).bind
    fun _ => (preserves_assignRole _ _ _).onFailure _ _ _
  -- the loop runs the passes of the three qualifiers
  have built : BuiltFor (.app app) d := by
    simp only [List.mem_cons, List.not_mem_nil, or_false] at listed
    rcases listed with rfl | rfl | rfl
    · exact .server builtServer
    · exact .appBuilder builtAppBuilder
    · exact .componentManager builtComponentManager
  exact (kept.execute images d true built).bind fun _ => .pure _

theorem deployKeycloakServer_preserves {server : KeycloakServer} (kept : KeptBy R rt (.keycloakServer server)) :
    Preserves R (deployKeycloakServer World.backend rt server) := by
  unfold deployKeycloakServer
  dsimp only
  refine Preserves.liftExcept_bind fun route _ => ?_
  refine (kept.secret _ (Names.adminSecretName_owned _)).bind fun _ => ?_
  refine (Preserves.of_unchanged fun w => by rw [imageResolver_run]).bind fun images => ?_
  -- a database server deployed for the Keycloak server, or its embedded store; the rest of the
  -- pass is the same for both
  split
  on_goal 1 =>
    have resolved := resolveDatabase_preserves kept images (rt.config.effectiveDbms server.spec.dbms)
      server.spec.storageClass
    refine (resolved.map some).bind fun database => ?_
  on_goal 2 => refine (Preserves.pure _).bind fun database => ?_
  all_goals
    refine Preserves.liftExcept_bind fun d built => ?_
    refine (kept.execute images d false (.keycloak built)).bind fun result => ?_
    refine Preserves.login_bind ?_
    refine ((preserves_ensureRealm _).onFailure _ _ _).bind fun _ => ?_
    split
    · exact ((preserves_createPublicClient _ _ _).onFailure _ _ _).bind fun _ => kept.status _
    · exact kept.status _

theorem deployDatabaseService_preserves {dbs : DatabaseService} (kept : KeptBy R rt (.databaseService dbs)) :
    Preserves R (deployDatabaseService World.backend.cluster rt dbs) := by
  unfold deployDatabaseService
  dsimp only
  split
  · -- a deployed server
    refine (Preserves.of_unchanged fun w => by rw [imageResolver_run]).bind fun images => ?_
    refine Preserves.liftExcept_bind fun plan made => ?_
    exact (kept.execute images _ false (.database (r := .databaseService dbs) made)).bind fun _ => .pure _
  -- an external server: checks, then its `db` Service and the status
  split
  · refine (Preserves.pure _).bind fun strategy => ?_
    split
    · refine (Preserves.pure _).bind fun host => ?_
      split
      · refine (Preserves.pure _).bind fun secretName => ?_
        refine (Preserves.of_unchanged fun w => by rw [backend_loadSecret, loadSecret_run]).bind
          fun stored => ?_
        split
        · exact .throw_bind _ _
        · exact (kept.service _ (Names.standardName_owned _ _ _)).bind fun _ => kept.status _
      · exact .throw_bind _ _
    · exact .throw_bind _ _
  · exact .throw_bind _ _

/-- Deploying a resource keeps every relation that its own passes, status writes, Secrets and
Services keep. -/
theorem deploy_preserves {r : Managed} (kept : KeptBy R rt r) : Preserves R (r.deploy World.backend rt) := by
  cases r with
  | app app => exact deployApp_preserves kept
  | keycloakServer server => exact deployKeycloakServer_preserves kept
  | databaseService dbs => exact deployDatabaseService_preserves kept

/-- The calls a controller makes for a resource are allowed for it. -/
theorem callsAllowed_keptBy (rt : Runtime) (r : Managed) :
    KeptBy (callsAllowed rt.config r.reference.name) rt r where
  execute images d sso built := by
    rw [← built.owner_name]
    exact execute_callsAllowed rt images built.ownerNamed sso
  status _ := callsAllowed_updateServerStatus _ _
  secret _ named := callsAllowed_createSecretIfAbsent named
  service _ named := callsAllowed_applyService named

/-- **A controller keeps to its resource's objects.** Whatever the cluster holds and however it
ends, deploying a resource writes only statuses, the shared ServiceAccount and CA Secret, and
objects named after the resource. -/
theorem deploy_callsAllowed (rt : Runtime) (r : Managed) :
    Preserves (callsAllowed rt.config r.reference.name) (r.deploy World.backend rt) :=
  deploy_preserves (callsAllowed_keptBy rt r)

/-- The qualifiers deployed for resources with apart names list their pods with different
selectors. -/
theorem BuiltFor.deploymentSelector_ne {r₁ r₂ : Managed} (apart : Names.Apart r₁.reference.name r₂.reference.name)
    {d₁ d₂ : Deployable} (built₁ : BuiltFor r₁ d₁) (built₂ : BuiltFor r₂ d₂) :
    d₁.owner.deploymentSelector d₁.qualifier ≠ d₂.owner.deploymentSelector d₂.qualifier := by
  intro same
  -- both selectors are `entando.org/deployment=<name>-<qualifier>`
  have labels : d₁.owner.name ++ "-" ++ d₁.qualifier = d₂.owner.name ++ "-" ++ d₂.qualifier := by
    simpa [K8s.Reference.deploymentSelector, Names.deploymentLabel, String.append_assoc] using same
  rw [built₁.owner_name, built₂.owner_name] at labels
  exact apart.not_ownedBy ⟨_, rfl⟩ ⟨_, labels⟩

end Controller

end StackOperator
