import StackOperator.Proofs.PassRuns
import StackOperator.Proofs.SharedIngress
import StackOperator.Proofs.DatabaseReach

/-!
# The objects of a deployable refer to one another

The objects a deployable becomes are built apart (the volume claims, the Service, the Ingress
routes, the Deployment and its pod containers, the Secrets of the Keycloak clients and of the
schemas) and refer to one another by name only. This module proves that those references resolve.

* **Selectors.** A label selector `key=value` splits back into its key and value when the key has
  no `=` (`splitSelector_append`).
* **Volumes.** The pods mount exactly the claims the deployable creates (`claimNames_podVolumes`),
  and every mount of a pod container names a pod volume (`mountNames_podVolumes`). The volume
  names are distinct, except that the CA certificate's volume takes the name of the claim volume
  of a container qualified `ca-cert` (`podVolumeNames_nodup_iff`).
* **Labels and ports.** The Service, the Deployment, its pod template and the readiness wait
  select one label with one value (`selectors_agree`). Each container port is a port of the
  Service (`containerPorts_served`), and each route the deployable adds to its Ingress reaches
  the Service on one of its ports (`routes_reach_service`, `routes_mem_ingress`).
* **Secrets.** The Keycloak client variables and the schema credential variables read keys that
  the Secrets created by the pass hold, also once stored (`keycloakRefs_served`,
  `schemaRefs_served`).

Main statement: `objectReferences_resolve`, all of the above for every deployable whose
containers have distinct qualifiers.
-/

namespace StackOperator.Cluster

open K8s String

/-- Splitting on a one-character separator from a point inside `l ++ m ++ r`, where `m` is the
piece read since the last separator. -/
theorem splitOnAux_singleton (c : Char) (l m r : List Char) (acc : List String) :
    (ofList (l ++ m ++ r)).splitOnAux (singleton c) ⟨utf8Len l⟩ ⟨utf8Len l + utf8Len m⟩ 0 acc =
      acc.reverse ++ (List.splitOnPPrepend (· == c) r m.reverse).map ofList := by
  induction r generalizing l m acc with
  | nil =>
    rw [splitOnAux.eq_1, if_pos (by
      simp only [atEnd_iff, rawEndPos_ofList, List.append_nil, utf8Len_append]
      exact Nat.le_refl _)]
    simpa using extract_of_valid l m []
  | cons x r ih =>
    rw [splitOnAux.eq_1, if_neg (by
      simp only [atEnd_iff, rawEndPos_ofList, utf8Len_append, utf8Len_cons, Pos.Raw.mk_le_mk]
      have := x.utf8Size_pos
      omega)]
    have got : Pos.Raw.get (ofList (l ++ m ++ x :: r)) ⟨utf8Len l + utf8Len m⟩ = x := by
      simpa [List.append_assoc] using get_of_valid (l ++ m) (x :: r)
    have next : Pos.Raw.next (ofList (l ++ m ++ x :: r)) ⟨utf8Len l + utf8Len m⟩ =
        ⟨utf8Len l + utf8Len m + x.utf8Size⟩ := by
      simpa [List.append_assoc] using next_of_valid (l ++ m) x r
    have sep : Pos.Raw.get (singleton c) 0 = c := by
      rw [singleton_eq_ofList]
      exact get_of_valid [] [c]
    have sepNext : Pos.Raw.next (singleton c) 0 = ⟨c.utf8Size⟩ := by
      rw [singleton_eq_ofList]
      simpa using next_of_valid [] c []
    have sepEnd : Pos.Raw.atEnd (singleton c) ⟨c.utf8Size⟩ = true := by
      rw [singleton_eq_ofList, atEnd_iff, rawEndPos_ofList]
      simp
    rw [got, sep]
    by_cases hit : x = c
    · subst hit
      simp only [beq_self_eq_true, if_true, sepNext, next, sepEnd]
      -- the separator closes the piece `m`, and the next piece starts empty after it
      have closed : ({ byteIdx := utf8Len l + utf8Len m + x.utf8Size } : Pos.Raw).unoffsetBy
          { byteIdx := x.utf8Size } = { byteIdx := utf8Len l + utf8Len m } := by
        simp [Pos.Raw.unoffsetBy]
      rw [closed, extract_of_valid l m (x :: r)]
      have rest := ih (l ++ m ++ [x]) [] (ofList m :: acc)
      simp only [List.append_assoc, List.singleton_append, utf8Len_append, utf8Len_cons, utf8Len_nil,
        Nat.add_zero, Nat.zero_add, Nat.add_assoc, List.reverse_cons, List.reverse_nil] at rest ⊢
      rw [rest, List.splitOnPPrepend_cons_eq_if, if_pos (beq_self_eq_true x)]
      simp
    · simp only [beq_iff_eq, hit, if_false]
      have kept : ({ byteIdx := utf8Len l + utf8Len m } : Pos.Raw).unoffsetBy 0 =
          { byteIdx := utf8Len l + utf8Len m } := by
        simp [Pos.Raw.unoffsetBy]
      rw [kept, next]
      have rest := ih l (m ++ [x]) acc
      simp only [List.append_assoc, utf8Len_append, utf8Len_cons, utf8Len_nil, Nat.zero_add, Nat.add_assoc,
        List.reverse_append, List.reverse_cons, List.reverse_nil, List.nil_append, List.cons_append]
        at rest ⊢
      rw [rest, List.splitOnPPrepend_cons_eq_if, if_neg (by simpa using hit)]

theorem splitOn_singleton (s : String) (c : Char) :
    s.splitOn (singleton c) = (s.toList.splitOnP (· == c)).map ofList := by
  have split := splitOnAux_singleton c [] [] s.toList []
  simp only [List.nil_append, utf8Len_nil, Nat.add_zero, ofList_toList, List.reverse_nil,
    List.splitOnPPrepend_nil_right] at split
  rw [String.splitOn, if_neg (by simp)]
  exact split

/-- A selector splits at its first `=`: a key without one gets back the whole value after it. -/
theorem splitSelector_append (key value : String) (plain : '=' ∉ key.toList) :
    splitSelector (key ++ "=" ++ value) = (key, value) := by
  have splits : (key ++ "=" ++ value).splitOn "=" =
      key :: (value.toList.splitOnP (· == '=')).map ofList := by
    rw [show ("=" : String) = singleton '=' from rfl, splitOn_singleton, String.toList_append,
      String.toList_append, String.toList_singleton, List.append_assoc, List.singleton_append,
      List.splitOnP_append_cons_of_forall_mem (fun x mem => by
        simpa using fun same : x = '=' => plain (same ▸ mem)) '=' (by simp) value.toList,
      List.map_cons, ofList_toList]
  obtain ⟨piece, pieces, split⟩ :=
    List.exists_cons_of_ne_nil (List.splitOnP_ne_nil (· == '=') value.toList)
  unfold splitSelector
  rw [splits, split, List.map_cons]
  dsimp only
  rw [← List.map_cons, ← split]
  -- joining the pieces back with the separator gives the value
  congr 1
  apply String.toList_injective
  rw [String.toList_intercalate, List.map_map]
  simpa [Function.comp_def, List.splitOn] using @List.intercalate_splitOn _ value.toList _ _ '='

end StackOperator.Cluster

namespace StackOperator.KeyMap

variable {α β : Type}

/-- Entries put in turn leave a key present when one of them has it or it was present before. -/
theorem isSome_get?_foldl_put (f : β → α) (entries : List (String × β)) (m : KeyMap α) (key : String) :
    ((entries.foldl (fun acc e => acc.put e.1 (f e.2)) m).get? key).isSome =
      ((lookup entries key).isSome || (m.get? key).isSome) := by
  induction entries generalizing m with
  | nil => simp [lookup]
  | cons entry rest ih =>
    obtain ⟨k, v⟩ := entry
    rw [List.foldl_cons, ih]
    by_cases same : k = key
    · subst same
      simp [lookup, get?_put_self]
    · simp [lookup, same, get?_put_ne _ _ (Ne.symm same)]

end StackOperator.KeyMap

namespace StackOperator.K8s

/-- The containers of a Deployment's pods. -/
def Deployment.podContainers (dep : Deployment) : List Container :=
  ((dep.spec.bind (·.template.spec)).map (·.containers)).getD []

/-- The volumes of a Deployment's pods. -/
def Deployment.podVolumes (dep : Deployment) : List Volume :=
  ((dep.spec.bind (·.template.spec)).bind (·.volumes)).getD []

/-- The labels of a Deployment's pods. -/
def Deployment.podLabels (dep : Deployment) : KeyMap String :=
  ((dep.spec.bind (·.template.metadata)).bind (·.labels)).getD .empty

/-- The claim a volume mounts, if it is a claim volume. -/
def Volume.claimName? (v : Volume) : Option String :=
  match v.source with
  | .claim name => some name
  | .secret _ => none

/-- The names of the volumes a container mounts. -/
def Container.mountNames (c : Container) : List String := (c.volumeMounts.getD []).map (·.name)

/-- The ports of a Service. -/
def Service.portList (s : Service) : List ServicePort := (s.spec.bind (·.ports)).getD []

namespace Secret

/-- Does a Secret hold a key, as bytes or as text? -/
def hasKey (s : Secret) (key : String) : Bool := (s.value key).isSome

/-- A Secret serves a reference to one of its keys: it has the name the reference gives and holds
the key. -/
def Serves (s : Secret) (ref : SecretKeySelector) : Prop :=
  Cluster.nameOf s.metadata = ref.name ∧ s.hasKey ref.key = true

theorem hasKey_eq (s : Secret) (key : String) :
    s.hasKey key =
      ((s.data.bind (KeyMap.get? · key)).isSome || (s.stringData.bind (KeyMap.get? · key)).isSome) := by
  unfold hasKey value
  split <;> simp_all

/-- A Secret keeps its keys when the API server stores its text values as bytes. -/
@[simp] theorem hasKey_persisted (s : Secret) (key : String) : s.persisted.hasKey key = s.hasKey key := by
  cases texts : s.stringData with
  | none => simp [persisted, texts]
  | some texts =>
    simp only [persisted, texts, hasKey_eq, Option.bind_some, Option.bind_none, Option.isSome_none,
      Bool.or_false, KeyMap.isSome_get?_foldl_put (fun v : String => v.toUTF8.toList)]
    cases s.data <;> simp [KeyMap.get?, KeyMap.empty, KeyMap.lookup, Bool.or_comm]

@[simp] theorem persisted_metadata (s : Secret) : s.persisted.metadata = s.metadata := by
  unfold persisted
  split <;> rfl

/-- A Secret that serves a reference still serves it once stored. -/
theorem Serves.persisted {s : Secret} {ref : SecretKeySelector} (served : s.Serves ref) :
    s.persisted.Serves ref :=
  ⟨by rw [persisted_metadata]; exact served.1, by rw [hasKey_persisted]; exact served.2⟩

end Secret

/-- A variable reads a key of a Secret: it refers to that key of a Secret that serves it. -/
def EnvVar.ReadsFrom (e : EnvVar) (s : Secret) (key : String) : Prop :=
  ∃ ref, e.secretKeyRef = some ref ∧ ref.key = key ∧ s.Serves ref

end StackOperator.K8s

namespace StackOperator.Children

open K8s Cluster

/-- The claim volume of each container that keeps state, named after the container. -/
def claimVolumes (d : Deployable) : List Volume :=
  d.containers.filterMap fun c =>
    c.volume.map fun _ => { name := c.qualifier ++ "-volume", source := .claim (d.claimName c) }

/-- The volume of the CA certificate: in the pods of a deployable that trusts it, once the CA
Secret is mirrored into the namespace. -/
def caVolumes (d : Deployable) (caSecretName : Option String) : List Volume :=
  match d.trustsCa, caSecretName with
  | true, some ca => [{ name := caVolume, source := .secret ca }]
  | _, _ => []

theorem podVolumes_deployment (d : Deployable) (inputs : DeploymentInputs) :
    (deployment d inputs).podVolumes = claimVolumes d ++ caVolumes d inputs.caSecretName := by
  unfold deployment Deployment.podVolumes claimVolumes caVolumes
  cases d.trustsCa <;> cases inputs.caSecretName <;> simp <;> split <;> simp_all

theorem podContainers_deployment (d : Deployable) (inputs : DeploymentInputs) :
    (deployment d inputs).podContainers = d.containers.map (containerSpec · inputs) := rfl

/-- The claims the pods mount are the claims the deployable creates, in order. -/
theorem claimNames_podVolumes (d : Deployable) (inputs : DeploymentInputs) (config : OperatorConfig) :
    (deployment d inputs).podVolumes.filterMap Volume.claimName? =
      (claims d config).map (nameOf ·.metadata) := by
  have noClaim : (caVolumes d inputs.caSecretName).filterMap Volume.claimName? = [] := by
    unfold caVolumes
    split <;> rfl
  rw [podVolumes_deployment, List.filterMap_append, noClaim, List.append_nil, claimVolumes, claims,
    List.filterMap_filterMap, List.map_filterMap]
  refine List.filterMap_congr fun c _ => ?_
  cases c.volume <;> simp [Volume.claimName?, nameOf, keyOf, Reference.ownedMeta]

/-- The volumes a pod container mounts: its claim volume when it keeps state, then the CA volume
when it trusts the CA and the CA Secret is mirrored. -/
theorem mountNames_containerSpec (c : ContainerPlan) (inputs : DeploymentInputs) :
    (containerSpec c inputs).mountNames =
      (c.volume.map fun _ => c.qualifier ++ "-volume").toList ++
        (if c.caMount.isSome ∧ inputs.caSecretName.isSome then [caVolume] else []) := by
  unfold containerSpec Container.mountNames
  cases c.volume <;> cases c.caMount <;> cases inputs.caSecretName <;> simp

/-- Every volume a pod container mounts is a volume of the pod. -/
theorem mountNames_podVolumes (d : Deployable) (inputs : DeploymentInputs) :
    ∀ pc ∈ (deployment d inputs).podContainers, ∀ name ∈ pc.mountNames,
      name ∈ (deployment d inputs).podVolumes.map (·.name) := by
  intro pc member name mounted
  rw [podContainers_deployment] at member
  obtain ⟨c, planned, rfl⟩ := List.mem_map.mp member
  rw [podVolumes_deployment, List.map_append]
  rw [mountNames_containerSpec] at mounted
  rcases List.mem_append.mp mounted with claimed | trusted
  · -- the claim volume of a container that keeps state
    obtain ⟨needs, keeps, rfl⟩ : ∃ needs, c.volume = some needs ∧ name = c.qualifier ++ "-volume" := by
      cases kept : c.volume <;> simp_all
    refine List.mem_append_left _ (List.mem_map.mpr
      ⟨{ name := c.qualifier ++ "-volume", source := .claim (d.claimName c) },
        List.mem_filterMap.mpr ⟨c, planned, ?_⟩, rfl⟩)
    simp [keeps]
  · -- the CA volume, which the pod has once any container trusts the CA
    obtain ⟨⟨path, mount⟩, ⟨ca, mirrored⟩, rfl⟩ :
        (∃ path, c.caMount = some path) ∧ (∃ ca, inputs.caSecretName = some ca) ∧ name = caVolume := by
      split at trusted <;> simp_all [Option.isSome_iff_exists]
    have trusts : d.trustsCa = true := List.any_eq_true.mpr ⟨c, planned, by simp [mount]⟩
    refine List.mem_append_right _ ?_
    simp [caVolumes, trusts, mirrored]

/-- The CA volume takes the name of a claim volume: the pods mount the CA certificate while a
container that keeps state is qualified `ca-cert`. -/
def caVolumeShadowsClaim (d : Deployable) (caSecretName : Option String) : Prop :=
  d.trustsCa = true ∧ caSecretName.isSome ∧ ∃ c ∈ d.containers, c.volume.isSome ∧ c.qualifier = "ca-cert"

theorem claimVolumeNames (d : Deployable) :
    (claimVolumes d).map (·.name) =
      (d.containers.filter (·.volume.isSome)).map (·.qualifier ++ "-volume") := by
  unfold claimVolumes
  induction d.containers with
  | nil => rfl
  | cons c cs ih => cases keeps : c.volume <;> simp [keeps, ih]

/-- Claim volumes are named after distinct containers, so their names are distinct. -/
theorem claimVolumeNames_nodup {d : Deployable} (distinct : (d.containers.map (·.qualifier)).Nodup) :
    ((claimVolumes d).map (·.name)).Nodup := by
  have kept : ((d.containers.filter (·.volume.isSome)).map (·.qualifier)).Nodup :=
    distinct.sublist (List.filter_sublist.map _)
  rw [claimVolumeNames, show (fun c : ContainerPlan => c.qualifier ++ "-volume") =
    (· ++ "-volume") ∘ (·.qualifier) from rfl, ← List.map_map]
  exact List.Pairwise.map _ (fun _ _ apart same => apart ((String.append_left_inj _).mp same)) kept

theorem caVolume_mem_claimVolumeNames (d : Deployable) :
    caVolume ∈ (claimVolumes d).map (·.name) ↔
      ∃ c ∈ d.containers, c.volume.isSome ∧ c.qualifier = "ca-cert" := by
  have named (q : String) : q ++ "-volume" = caVolume ↔ q = "ca-cert" :=
    @String.append_left_inj q "ca-cert" "-volume"
  simp [claimVolumeNames, named, and_assoc]

/-- The pod volume names are distinct exactly when the CA volume does not take the name of a
claim volume. -/
theorem podVolumeNames_nodup_iff {d : Deployable} (distinct : (d.containers.map (·.qualifier)).Nodup)
    (inputs : DeploymentInputs) :
    ((deployment d inputs).podVolumes.map (·.name)).Nodup ↔
      ¬ caVolumeShadowsClaim d inputs.caSecretName := by
  rw [podVolumes_deployment, List.map_append, List.nodup_append]
  unfold caVolumeShadowsClaim caVolumes
  cases d.trustsCa with
  | false => simp [claimVolumeNames_nodup distinct]
  | true =>
    cases inputs.caSecretName with
    | none => simp [claimVolumeNames_nodup distinct]
    | some ca =>
      -- only the CA volume can share a name with a claim volume
      simpa [claimVolumeNames_nodup distinct] using (caVolume_mem_claimVolumeNames d).not

/-- The Service, the Deployment's selector, the pod template and the selector text the readiness
wait lists pods with all name one label of the deployable's pods, with one value. -/
theorem selectors_agree (d : Deployable) (inputs : DeploymentInputs) :
    let label := (Names.deploymentLabelKey, Names.deploymentLabel d.owner.name d.qualifier)
    (service d).spec.bind (·.selector) = some (.singleton label.1 label.2) ∧
      (deployment d inputs).spec.bind (·.matchLabels) = some (.singleton label.1 label.2) ∧
      (deployment d inputs).podLabels.get? label.1 = some label.2 ∧
      splitSelector (d.owner.deploymentSelector d.qualifier) = label := by
  refine ⟨rfl, rfl, ?_, splitSelector_append _ _ (by decide)⟩
  simp [Deployment.podLabels, deployment, Reference.deploymentLabels, KeyMap.get?, KeyMap.lookup]

theorem ports_containerSpec (c : ContainerPlan) (inputs : DeploymentInputs) :
    (containerSpec c inputs).ports =
      some [{ name := some (portName c), containerPort := c.port, protocol := some "TCP" }] := rfl

/-- Each port of a pod container is a port of the Service, with the same name, number and target. -/
theorem containerPorts_served (d : Deployable) (inputs : DeploymentInputs) :
    ∀ pc ∈ (deployment d inputs).podContainers, ∀ p ∈ pc.ports.getD [],
      ∃ sp ∈ (service d).portList,
        sp.name = p.name ∧ sp.port = p.containerPort ∧ sp.targetPort = some p.containerPort := by
  intro pc member p opened
  rw [podContainers_deployment] at member
  obtain ⟨c, planned, rfl⟩ := List.mem_map.mp member
  rw [ports_containerSpec, Option.getD_some, List.mem_singleton] at opened
  subst opened
  exact ⟨_, List.mem_map_of_mem planned, rfl, rfl, rfl⟩

/-- Each route a deployable adds to its Ingress reaches its Service, on one of the Service's ports. -/
theorem routes_reach_service (d : Deployable) :
    ∀ r ∈ routes d, r.backend.serviceName = some (nameOf (service d).metadata) ∧
      ∃ sp ∈ (service d).portList, r.backend.port = some { number := some sp.port } := by
  intro r member
  obtain ⟨c, planned, made⟩ := List.mem_filterMap.mp member
  obtain ⟨w, -, rfl⟩ := Option.map_eq_some_iff.mp made
  exact ⟨by simp [service, nameOf, keyOf, Reference.ownedMeta], _, List.mem_map_of_mem planned, rfl⟩

/-- The Ingress a deployable writes routes every path the deployable adds, for its host. -/
theorem routes_mem_ingress {d : Deployable} {req : IngressRequirements} {existing : Option Ingress}
    {ing : Ingress} (built : ingress d req existing = some ing) :
    ∀ r ∈ routes d, r ∈ hostPaths req.host (some ing) := by
  intro r member
  rw [ingress_eq, if_neg (List.ne_nil_of_mem member)] at built
  cases built
  rw [hostPaths_sharedIngress, mergePaths, List.mem_mergeSort]
  exact List.mem_append_right _ member

theorem env_containerSpec (c : ContainerPlan) (inputs : DeploymentInputs) :
    (containerSpec c inputs).env =
      some (c.env ++ ((c.schemas.map fun s => s.connect inputs.schemas).getD []) ++ keycloakVariables c) :=
  rfl

/-- The Keycloak variables of a container that authenticates through a client read its id and its
secret from the Secret the pass keeps the client's credentials in, as created and as stored. -/
theorem keycloakRefs_served (d : Deployable) {c : ContainerPlan} {access : KeycloakAccess}
    (uses : c.keycloak = some access) (inputs : DeploymentInputs) :
    keycloakVariables c ⊆ (containerSpec c inputs).env.getD [] ∧
      ((keycloakVariables c).filterMap (·.secretKeyRef)).map (·.key) = ["clientId", "clientSecret"] ∧
      ∀ ref ∈ (keycloakVariables c).filterMap (·.secretKeyRef),
        (Deploy.clientSecret d access).Serves ref ∧ (Deploy.clientSecret d access).persisted.Serves ref := by
  refine ⟨fun e member => ?_, by simp [keycloakVariables, uses, EnvVar.plain, EnvVar.fromSecret], ?_⟩
  · rw [env_containerSpec, Option.getD_some]
    exact List.mem_append_right _ member
  · intro ref member
    simp only [keycloakVariables, uses] at member
    have served : (Deploy.clientSecret d access).Serves ref := by
      simp [EnvVar.plain, EnvVar.fromSecret] at member
      rcases member with rfl | rfl <;>
        simp [Secret.Serves, Secret.hasKey, Secret.value, Deploy.clientSecret, Secret.clientCredentials, nameOf, keyOf,
          Reference.ownedMeta, KeyMap.get?, KeyMap.lookup]
    exact ⟨served, served.persisted⟩

end StackOperator.Children

namespace StackOperator.Deploy.SchemaPreparation

open K8s Cluster

/-- The Secret of a schema holds its user name and its password. -/
theorem credentialSecret_serves (p : SchemaPreparation) (rt : Runtime) (strategy : VendorStrategy)
    (schema : String) {key : String} (known : key = "username" ∨ key = "password") :
    (p.credentialSecret rt strategy schema).Serves { name := Names.schemaSecretName p.owner.name schema, key } := by
  refine ⟨rfl, ?_⟩
  rcases known with rfl | rfl <;>
    simp [Secret.hasKey, Secret.value, credentialSecret, Secret.credentials, KeyMap.get?, KeyMap.lookup]

/-- The variables of a prepared schema read its user name and password from the Secret the
preparation creates for the schema, as created and as stored. -/
theorem schemaRefs_served (p : SchemaPreparation) (rt : Runtime) (strategy : VendorStrategy)
    (secrets : Store Secret) (schema name : String) :
    let result := p.resultIn strategy secrets schema
    let secret := p.credentialSecret rt strategy schema
    (result.usernameVariable name).ReadsFrom secret "username" ∧
      (result.passwordVariable name).ReadsFrom secret "password" ∧
      (result.usernameVariable name).ReadsFrom secret.persisted "username" ∧
      (result.passwordVariable name).ReadsFrom secret.persisted "password" := by
  have user := credentialSecret_serves p rt strategy schema (.inl rfl)
  have password := credentialSecret_serves p rt strategy schema (.inr rfl)
  exact ⟨⟨_, rfl, rfl, user⟩, ⟨_, rfl, rfl, password⟩, ⟨_, rfl, rfl, user.persisted⟩,
    ⟨_, rfl, rfl, password.persisted⟩⟩

end StackOperator.Deploy.SchemaPreparation

namespace StackOperator.Children

open K8s Cluster

/-- The references among the objects of a deployable, and what each resolves to. -/
structure ReferencesResolve (d : Deployable) (inputs : DeploymentInputs) (config : OperatorConfig)
    (req : IngressRequirements) (existing : Option Ingress) : Prop where
  /-- The pods mount exactly the claims the deployable creates, in order. -/
  mountsClaims : (deployment d inputs).podVolumes.filterMap Volume.claimName? =
    (claims d config).map (nameOf ·.metadata)
  /-- Every mount of a pod container names a pod volume. -/
  mountsVolumes : ∀ pc ∈ (deployment d inputs).podContainers, ∀ name ∈ pc.mountNames,
    name ∈ (deployment d inputs).podVolumes.map (·.name)
  /-- The pod volume names are distinct unless the CA volume takes a claim volume's name. -/
  distinctVolumes : ((deployment d inputs).podVolumes.map (·.name)).Nodup ↔
    ¬ caVolumeShadowsClaim d inputs.caSecretName
  /-- One label, with one value, selects the pods for the Service, the Deployment, the pod
  template and the readiness wait. -/
  selectors : let label := (Names.deploymentLabelKey, Names.deploymentLabel d.owner.name d.qualifier)
    (service d).spec.bind (·.selector) = some (.singleton label.1 label.2) ∧
      (deployment d inputs).spec.bind (·.matchLabels) = some (.singleton label.1 label.2) ∧
      (deployment d inputs).podLabels.get? label.1 = some label.2 ∧
      splitSelector (d.owner.deploymentSelector d.qualifier) = label
  /-- Each container port is a Service port of the same name, number and target. -/
  portsServed : ∀ pc ∈ (deployment d inputs).podContainers, ∀ p ∈ pc.ports.getD [],
    ∃ sp ∈ (service d).portList,
      sp.name = p.name ∧ sp.port = p.containerPort ∧ sp.targetPort = some p.containerPort
  /-- Each route the deployable adds is in its Ingress and reaches its Service on a Service port. -/
  routesServed : ∀ r ∈ routes d,
    (∀ ing, ingress d req existing = some ing → r ∈ hostPaths req.host (some ing)) ∧
      r.backend.serviceName = some (nameOf (service d).metadata) ∧
      ∃ sp ∈ (service d).portList, r.backend.port = some { number := some sp.port }
  /-- The Keycloak variables of a container read the client id and secret from the client's Secret. -/
  keycloakSecrets : ∀ c ∈ d.containers, ∀ access, c.keycloak = some access →
    keycloakVariables c ⊆ (containerSpec c inputs).env.getD [] ∧
      ((keycloakVariables c).filterMap (·.secretKeyRef)).map (·.key) = ["clientId", "clientSecret"] ∧
      ∀ ref ∈ (keycloakVariables c).filterMap (·.secretKeyRef),
        (Deploy.clientSecret d access).Serves ref ∧ (Deploy.clientSecret d access).persisted.Serves ref
  /-- The variables of each prepared schema read its credentials from the schema's Secret. -/
  schemaCredentials : ∀ (db : ConnectionInfo) (rt : Deploy.Runtime) (strategy : VendorStrategy)
    (secrets : Store Secret), ∀ schema ∈ d.schemaQualifiers, ∀ name : String,
    let p := Deploy.preparation d inputs.images db
    let result := p.resultIn strategy secrets schema
    let secret := p.credentialSecret rt strategy schema
    (result.usernameVariable name).ReadsFrom secret "username" ∧
      (result.passwordVariable name).ReadsFrom secret "password" ∧
      (result.usernameVariable name).ReadsFrom secret.persisted "username" ∧
      (result.passwordVariable name).ReadsFrom secret.persisted "password"

/-- **The objects of a deployable refer to one another consistently.** For every deployable whose
containers have distinct qualifiers, whatever its inputs, configuration and existing Ingress: the
pods mount exactly its claims, every mount names a pod volume, one label selects its pods
everywhere, every container port and every route it adds reaches its Service, and its Keycloak
and schema variables read keys of the Secrets the pass creates. The pod volume names are
distinct except when the CA volume takes the name of a claim volume. -/
theorem objectReferences_resolve {d : Deployable} (distinct : (d.containers.map (·.qualifier)).Nodup)
    (inputs : DeploymentInputs) (config : OperatorConfig) (req : IngressRequirements)
    (existing : Option Ingress) : ReferencesResolve d inputs config req existing where
  mountsClaims := claimNames_podVolumes d inputs config
  mountsVolumes := mountNames_podVolumes d inputs
  distinctVolumes := podVolumeNames_nodup_iff distinct inputs
  selectors := selectors_agree d inputs
  portsServed := containerPorts_served d inputs
  routesServed r member := ⟨fun _ built => routes_mem_ingress built r member, routes_reach_service d r member⟩
  keycloakSecrets _ _ _ uses := keycloakRefs_served d uses inputs
  schemaCredentials db rt strategy secrets schema _ name :=
    Deploy.SchemaPreparation.schemaRefs_served (Deploy.preparation d inputs.images db) rt strategy secrets
      schema name

/-- A stateful server that trusts the CA, served on a host of its own. -/
theorem objectReferences_resolve_of_server :
    let d : Deployable :=
      { owner := { name := "my-app", ns := "my-namespace" },
        qualifier := "server",
        containers := [{ qualifier := "server", imageRepository := "entando/app", port := 8080,
                         memoryMi := 512, cpuMillis := 500, caMount := some defaultCaMount,
                         volume := some { mountPath := "/entando-data" } }] }
    let inputs : DeploymentInputs := { config := {}, images := {}, caSecretName := some "my-ca" }
    let req : IngressRequirements := { ingressName := "my-app-ingress", host := "my-app.example.com" }
    (d.containers.map (·.qualifier)).Nodup ∧ ReferencesResolve d inputs {} req none := by
  intro d inputs req
  exact ⟨by decide, objectReferences_resolve (by decide) inputs {} req none⟩

/-- A deployable whose stateful container is qualified `ca-cert` while another trusts the CA: its
pods get two volumes named `ca-cert-volume`, the claim's and the CA certificate's. -/
theorem caVolume_takes_claimVolume_name :
    let d : Deployable :=
      { owner := { name := "my-app", ns := "my-namespace" },
        qualifier := "server",
        containers := [{ qualifier := "ca-cert", imageRepository := "entando/ca-cert", port := 8080,
                         memoryMi := 256, cpuMillis := 250, volume := some { mountPath := "/data" } },
                       { qualifier := "server", imageRepository := "entando/app", port := 8081,
                         memoryMi := 512, cpuMillis := 500, caMount := some defaultCaMount }] }
    let inputs : DeploymentInputs := { config := {}, images := {}, caSecretName := some "my-ca" }
    (d.containers.map (·.qualifier)).Nodup ∧
      (deployment d inputs).podVolumes.map (·.name) = ["ca-cert-volume", "ca-cert-volume"] :=
  ⟨by decide, rfl⟩

end StackOperator.Children
