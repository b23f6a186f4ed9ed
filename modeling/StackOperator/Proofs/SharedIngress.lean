import Mathlib.Data.String.Basic
import StackOperator.Children.Objects

/-!
# The shared Ingress

Every qualifier of a resource that serves something over HTTP merges its routes into one Ingress
(`Children.ingress`): the routes already there for the host survive unless the qualifier serves
their path, the qualifier's own routes are added, and all are stably sorted by path. A pass of
each qualifier reads the Ingress the previous pass left, so the Ingress the cluster ends with is a
fold of `Children.ingress` over the order in which the passes ran.

The order does not matter:

* **stable sorting** — a list sorted by a total preorder is determined by the order of each
  class of ties within it (`eq_of_sorted_of_filter_tiedWith`), and a stable sort keeps that
  order (`filter_tiedWith_mergeSort`);
* **one pass** — for each path text, a pass keeps the existing routes with it unless the
  qualifier serves it, and then they are the qualifier's (`filter_tiedWith_mergePaths`);
* **the merge law** — over any sequence naming each of a resource's qualifiers at least once,
  with disjoint web contexts, the fold is the shared Ingress with the existing routes no
  qualifier serves and all of the qualifiers' own, sorted by path (`ingress_fold_shared`).
-/

namespace StackOperator

section StableSort

variable {α : Type} {le : α → α → Bool}

/-- The elements that `le` ranks level with `a`. -/
def tiedWith (le : α → α → Bool) (a b : α) : Bool := le a b && le b a

variable (total : ∀ a b, le a b || le b a)
include total

theorem tiedWith_self (a : α) : tiedWith le a a = true := by
  simpa [tiedWith] using total a a

/-- Lists with the same classes of ties have the same members. -/
theorem mem_of_filter_tiedWith {l₁ l₂ : List α}
    (h : ∀ a, l₁.filter (tiedWith le a) = l₂.filter (tiedWith le a)) {x : α} (hx : x ∈ l₂) :
    x ∈ l₁ := by
  have hmem : x ∈ l₂.filter (tiedWith le x) := List.mem_filter.mpr ⟨hx, tiedWith_self total x⟩
  rw [← h x] at hmem
  exact (List.mem_filter.mp hmem).1

/-- Two sorted lists are equal when each class of ties appears in both in the same order: a
stable sort is determined by the order within each class. -/
theorem eq_of_sorted_of_filter_tiedWith {l₁ l₂ : List α} (h₁ : l₁.Pairwise fun x y => le x y)
    (h₂ : l₂.Pairwise fun x y => le x y)
    (h : ∀ a, l₁.filter (tiedWith le a) = l₂.filter (tiedWith le a)) : l₁ = l₂ := by
  induction l₁ generalizing l₂ with
  | nil =>
    cases l₂ with
    | nil => rfl
    | cons b r₂ => exact absurd (mem_of_filter_tiedWith total h List.mem_cons_self) List.not_mem_nil
  | cons a r₁ ih =>
    cases l₂ with
    | nil =>
      exact absurd (mem_of_filter_tiedWith total (fun c => (h c).symm) List.mem_cons_self)
        List.not_mem_nil
    | cons b r₂ =>
      have hrefl : ∀ x, le x x := fun x => by simpa using total x x
      -- both heads are least in their lists, and each list holds the other's head
      have hab : le a b := by
        rcases List.mem_cons.mp (mem_of_filter_tiedWith total h (List.mem_cons_self (a := b))) with
          rfl | hb
        · exact hrefl _
        · exact List.rel_of_pairwise_cons h₁ hb
      have hba : le b a := by
        rcases List.mem_cons.mp (mem_of_filter_tiedWith total (fun c => (h c).symm)
          (List.mem_cons_self (a := a))) with rfl | ha
        · exact hrefl _
        · exact List.rel_of_pairwise_cons h₂ ha
      have heq : a = b := by
        have := h a
        simp only [List.filter_cons, tiedWith, hrefl a, hab, hba, Bool.and_self, if_true] at this
        exact (List.cons.inj this).1
      subst heq
      congr 1
      refine ih h₁.of_cons h₂.of_cons fun c => ?_
      have := h c
      simp only [List.filter_cons] at this
      split at this
      · exact (List.cons.inj this).2
      · exact this

variable (trans : ∀ a b c, le a b → le b c → le a c)
include trans

/-- A stable sort keeps the order of the elements of each class of ties. -/
theorem filter_tiedWith_mergeSort (l : List α) (a : α) :
    (l.mergeSort le).filter (tiedWith le a) = l.filter (tiedWith le a) := by
  have hsorted : (l.filter (tiedWith le a)).Pairwise fun x y => le x y := by
    refine List.pairwise_of_forall_mem_list ?_
    intro x hx y hy
    simp only [List.mem_filter, tiedWith, Bool.and_eq_true] at hx hy
    exact trans x a y hx.2.2 hy.2.1
  have hsub : List.Sublist (l.filter (tiedWith le a)) (l.mergeSort le) :=
    List.sublist_mergeSort trans total hsorted List.filter_sublist
  have hsub' : List.Sublist (l.filter (tiedWith le a)) ((l.mergeSort le).filter (tiedWith le a)) := by
    have h := hsub.filter (tiedWith le a)
    rwa [List.filter_eq_self.mpr fun x hx => (List.mem_filter.mp hx).2] at h
  have hlen : ((l.mergeSort le).filter (tiedWith le a)).length = (l.filter (tiedWith le a)).length :=
    ((List.mergeSort_perm l le).filter _).length_eq
  exact (hsub'.eq_of_length hlen.symm).symm

end StableSort

end StackOperator

namespace StackOperator.Children

open K8s

theorem pathLe_trans (a b c : IngressPath) : pathLe a b → pathLe b c → pathLe a c := by
  unfold pathLe
  cases a.path <;> cases b.path <;> cases c.path <;> simp
  exact le_trans

theorem pathLe_total (a b : IngressPath) : (pathLe a b || pathLe b a) = true := by
  unfold pathLe
  cases a.path <;> cases b.path <;> simp
  exact le_total _ _

/-- Paths rank level exactly when they have the same path text. -/
theorem tiedWith_pathLe (a : IngressPath) : tiedWith pathLe a = fun b => a.path == b.path := by
  funext b
  unfold tiedWith pathLe
  cases a.path <;> cases b.path <;>
    simp only [Bool.and_self, Bool.true_and, Bool.and_true, beq_self_eq_true]
  · rfl
  · rfl
  · rw [Bool.eq_iff_iff]
    simp only [Bool.and_eq_true, decide_eq_true_eq, beq_iff_eq, Option.some.injEq]
    exact le_antisymm_iff.symm

/-- The paths a deployable adds to its Ingress: one per container served over HTTP, under the
container's web context, routed to the deployable's Service on the container's port. -/
def routes (d : Deployable) : List IngressPath :=
  d.containers.filterMap fun c => c.ingressing.map fun w =>
    { path := some w.path, pathType := "Prefix",
      backend := { serviceName := some d.serviceName, port := some { number := some c.port } } }

/-- The web contexts of the containers of a deployable served over HTTP. -/
def webPaths (d : Deployable) : List String :=
  d.containers.filterMap fun c => c.ingressing.map (·.path)

/-- The paths an Ingress routes for a host, over all of its rules for that host. -/
def hostPaths (host : String) (existing : Option Ingress) : List IngressPath :=
  ((((existing.bind (·.spec)).bind (·.rules)).getD []).filter (·.host == some host)).flatMap
    fun r => r.paths.getD []

/-- The paths of `kept` that no path of `own` shadows, then `own`, stably sorted by path. -/
def mergePaths (kept own : List IngressPath) : List IngressPath :=
  ((kept.filter fun p => !own.any (·.path == p.path)) ++ own).mergeSort pathLe

/-- The Ingress a resource shares among its qualifiers: named by the requirements, labelled with
its owner but with no qualifier, with one rule for the host, and TLS when the requirements name a
certificate Secret. -/
def sharedIngress (owner : Reference) (req : IngressRequirements) (paths : List IngressPath) :
    Ingress :=
  { metadata := { name := some req.ingressName, ns := some owner.ns,
                  labels := some ⟨[(Names.ownerKindLabelKey, owner.kind), (Names.ownerNameLabelKey, owner.name)],
                    show [Names.ownerKindLabelKey, Names.ownerNameLabelKey].Pairwise (· < ·) by decide⟩,
                  ownerReferences := some [owner.ownerReference] },
    spec := some { rules := some [{ host := some req.host, paths := some paths }],
                   tls := req.tlsSecretName.map fun s => [{ hosts := some [req.host], secretName := some s }] } }

theorem map_path_routes (d : Deployable) : (routes d).map (·.path) = (webPaths d).map some := by
  unfold routes webPaths
  induction d.containers with
  | nil => rfl
  | cons c cs ih => cases h : c.ingressing <;> simp [h, ih]

theorem routes_eq_nil_iff (d : Deployable) :
    routes d = [] ↔ ∀ c ∈ d.containers, c.ingressing = none := by
  simp [routes, List.filterMap_eq_nil_iff]

/-- The Ingress a deployable asks for: none when it serves nothing over HTTP, else the shared
Ingress with its routes merged into the existing ones for the host. -/
theorem ingress_eq (d : Deployable) (req : IngressRequirements) (existing : Option Ingress) :
    ingress d req existing = if routes d = [] then none
      else some (sharedIngress d.owner req (mergePaths (hostPaths req.host existing) (routes d))) := by
  by_cases h : routes d = []
  · rw [if_pos h]
    unfold routes at h
    simp [ingress, h]
  · rw [if_neg h]
    unfold routes at h
    simp [ingress, h, sharedIngress, mergePaths, hostPaths, routes, Reference.ownedMeta,
      Reference.deploymentLabels, KeyMap.erase, KeyMap.remove]

theorem hostPaths_sharedIngress (owner : Reference) (req : IngressRequirements)
    (paths : List IngressPath) : hostPaths req.host (some (sharedIngress owner req paths)) = paths := by
  simp [hostPaths, sharedIngress]

theorem mergePaths_sorted (kept own : List IngressPath) :
    (mergePaths kept own).Pairwise fun x y => pathLe x y :=
  List.pairwise_mergeSort pathLe_trans pathLe_total _

theorem filter_tiedWith_eq_nil {own : List IngressPath} {a : IngressPath}
    (h : own.any (·.path == a.path) = false) : own.filter (tiedWith pathLe a) = [] := by
  refine List.filter_eq_nil_iff.mpr fun p hp hap => ?_
  rw [tiedWith_pathLe, beq_iff_eq] at hap
  have : own.any (·.path == a.path) = true := List.any_eq_true.mpr ⟨p, hp, by simp [hap]⟩
  simp [this] at h

/-- Sorting a merge keeps, for each path text, the routes of `own` with it when `own` has one,
and the kept paths with it otherwise. -/
theorem filter_tiedWith_mergePaths (kept own : List IngressPath) (a : IngressPath) :
    (mergePaths kept own).filter (tiedWith pathLe a) =
      if own.any (·.path == a.path) then own.filter (tiedWith pathLe a)
      else kept.filter (tiedWith pathLe a) := by
  unfold mergePaths
  rw [filter_tiedWith_mergeSort pathLe_total pathLe_trans, List.filter_append, List.filter_filter]
  split <;> rename_i hown
  · -- a shadowed path keeps none of its existing routes
    have hkept : kept.filter (fun p => tiedWith pathLe a p && !own.any (·.path == p.path)) = [] := by
      refine List.filter_eq_nil_iff.mpr fun p _ => ?_
      rw [tiedWith_pathLe]
      cases hp : a.path == p.path
      · simp [hp]
      · rw [beq_iff_eq] at hp
        simp [← hp, hown]
    rw [hkept, List.nil_append]
  · rw [filter_tiedWith_eq_nil (Bool.eq_false_iff.mpr hown), List.append_nil]
    refine List.filter_congr fun p _ => ?_
    rw [tiedWith_pathLe]
    cases hp : a.path == p.path
    · simp [hp]
    · rw [beq_iff_eq] at hp
      simp [← hp, hown]

theorem any_routes_path_iff (d : Deployable) (x : Option String) :
    (routes d).any (·.path == x) = true ↔ ∃ w ∈ webPaths d, x = some w := by
  have h := congrArg (x ∈ ·) (map_path_routes d)
  simp only [List.mem_map, eq_iff_iff] at h
  simp only [List.any_eq_true, beq_iff_eq]
  rw [h]
  exact ⟨fun ⟨w, hw, hx⟩ => ⟨w, hw, hx.symm⟩, fun ⟨w, hw, hx⟩ => ⟨w, hw, hx.symm⟩⟩

/-- Deployables with disjoint web contexts route no common path text. -/
theorem any_routes_path_eq_false {d e : Deployable} (hdisjoint : ∀ p ∈ webPaths d, p ∉ webPaths e)
    {x : Option String} (hx : (routes d).any (·.path == x) = true) :
    (routes e).any (·.path == x) = false := by
  obtain ⟨w, hw, rfl⟩ := (any_routes_path_iff d x).mp hx
  cases he : (routes e).any (·.path == some w)
  · rfl
  · obtain ⟨w', hw', hww⟩ := (any_routes_path_iff e _).mp he
    cases Option.some.inj hww
    exact absurd hw' (hdisjoint w hw)

/-- Among deployables with pairwise disjoint web contexts, the routes with a path text that one
of them serves are that one's. -/
theorem filter_tiedWith_flatMap_routes {ds : List Deployable}
    (hdisjoint : ds.Pairwise fun a b => ∀ p ∈ webPaths a, p ∉ webPaths b)
    {d : Deployable} (hd : d ∈ ds) {a : IngressPath} (ha : (routes d).any (·.path == a.path) = true) :
    (ds.flatMap routes).filter (tiedWith pathLe a) = (routes d).filter (tiedWith pathLe a) := by
  induction ds with
  | nil => exact absurd hd List.not_mem_nil
  | cons e rest ih =>
    obtain ⟨hhead, hrest⟩ := List.pairwise_cons.mp hdisjoint
    rw [List.flatMap_cons, List.filter_append]
    rcases List.mem_cons.mp hd with rfl | hd'
    · -- the other deployables route nothing with the path text of `d`
      have hnil : (rest.flatMap routes).filter (tiedWith pathLe a) = [] := by
        rw [List.filter_flatMap, List.flatMap_eq_nil_iff]
        exact fun b hb => filter_tiedWith_eq_nil (any_routes_path_eq_false (hhead b hb) ha)
      rw [hnil, List.append_nil]
    · have hnil : (routes e).filter (tiedWith pathLe a) = [] :=
        filter_tiedWith_eq_nil (any_routes_path_eq_false (fun p hp hpe => hhead d hd' p hpe hp) ha)
      rw [hnil, List.nil_append, ih hrest hd']

/-- Folding the deployables' Ingresses over `seq`: for each path text, the existing routes with
it survive unless a deployable of `seq` serves it, and then they are that deployable's. -/
theorem filter_tiedWith_fold {ds seq : List Deployable} (req : IngressRequirements)
    (hweb : ∀ d ∈ seq, routes d ≠ [])
    (hdisjoint : ds.Pairwise fun a b => ∀ p ∈ webPaths a, p ∉ webPaths b)
    (hsub : ∀ d ∈ seq, d ∈ ds) (cur : Option Ingress) (a : IngressPath) :
    (hostPaths req.host (seq.foldl (fun cur d => ingress d req cur) cur)).filter (tiedWith pathLe a) =
      if (seq.flatMap routes).any (·.path == a.path) then (ds.flatMap routes).filter (tiedWith pathLe a)
      else (hostPaths req.host cur).filter (tiedWith pathLe a) := by
  induction seq generalizing cur with
  | nil => simp
  | cons d rest ih =>
    rw [List.foldl_cons, ih (fun e he => hweb e (List.mem_cons_of_mem _ he))
        (fun e he => hsub e (List.mem_cons_of_mem _ he)),
      ingress_eq, if_neg (hweb d List.mem_cons_self), hostPaths_sharedIngress,
      filter_tiedWith_mergePaths, List.flatMap_cons, List.any_append]
    -- a later deployable serving the path text wins; otherwise `d` decides it
    cases hr : (rest.flatMap routes).any (·.path == a.path)
    · cases hd : (routes d).any (·.path == a.path)
      · simp
      · simp [filter_tiedWith_flatMap_routes hdisjoint (hsub d List.mem_cons_self) hd]
    · simp

/-- After at least one deployable of `owner` that serves something over HTTP, the fold holds the
shared Ingress of `owner`, with its paths sorted. -/
theorem fold_ingress_eq_some {seq : List Deployable} {owner : Reference} (req : IngressRequirements)
    (hne : seq ≠ []) (hweb : ∀ d ∈ seq, routes d ≠ []) (howner : ∀ d ∈ seq, d.owner = owner)
    (cur : Option Ingress) :
    ∃ paths, (paths.Pairwise fun x y => pathLe x y) ∧
      seq.foldl (fun cur d => ingress d req cur) cur = some (sharedIngress owner req paths) := by
  induction seq generalizing cur with
  | nil => exact absurd rfl hne
  | cons d rest ih =>
    rw [List.foldl_cons]
    by_cases hrest : rest = []
    · subst hrest
      refine ⟨_, mergePaths_sorted (hostPaths req.host cur) (routes d), ?_⟩
      rw [List.foldl_nil, ingress_eq, if_neg (hweb d List.mem_cons_self), howner d List.mem_cons_self]
    · exact ih hrest (fun e he => hweb e (List.mem_cons_of_mem _ he))
        (fun e he => howner e (List.mem_cons_of_mem _ he)) _

/-- The shared Ingress does not depend on how qualifiers take turns: folding the Ingress of
deployables of one owner that each serve something over HTTP, on pairwise disjoint web contexts,
over any sequence that names each of them at least once, gives the shared Ingress whose paths are
the existing ones for the host that none of them serves, then all of their own, sorted by path. A
deployable asks for no Ingress exactly when none of its containers is served over HTTP. -/
theorem ingress_fold_shared (owner : Reference) (req : IngressRequirements)
    (existing : Option Ingress) (ds seq : List Deployable) (hne : ds ≠ [])
    (howner : ∀ d ∈ ds, d.owner = owner) (hweb : ∀ d ∈ ds, ∃ c ∈ d.containers, c.ingressing.isSome)
    (hdisjoint : ds.Pairwise fun a b => ∀ p ∈ webPaths a, p ∉ webPaths b)
    (hseq : ∀ d, d ∈ seq ↔ d ∈ ds) :
    seq.foldl (fun cur d => ingress d req cur) existing =
        some (sharedIngress owner req (mergePaths (hostPaths req.host existing) (ds.flatMap routes))) ∧
      ∀ (d : Deployable) (r : IngressRequirements) (e : Option Ingress),
        ingress d r e = none ↔ ∀ c ∈ d.containers, c.ingressing = none := by
  refine ⟨?_, fun d r e => ?_⟩
  · have hroutes : ∀ d ∈ seq, routes d ≠ [] := by
      intro d hd hnil
      obtain ⟨c, hc, hsome⟩ := hweb d ((hseq d).mp hd)
      simp [(routes_eq_nil_iff d).mp hnil c hc] at hsome
    have hseqne : seq ≠ [] := by
      obtain ⟨d, hd⟩ := List.exists_mem_of_ne_nil ds hne
      exact List.ne_nil_of_mem ((hseq d).mpr hd)
    obtain ⟨paths, hsorted, hfold⟩ := fold_ingress_eq_some req hseqne hroutes
      (fun d hd => howner d ((hseq d).mp hd)) existing
    rw [hfold]
    -- both path lists are sorted, so they agree once each path text has the same routes
    congr 2
    refine eq_of_sorted_of_filter_tiedWith pathLe_total hsorted (mergePaths_sorted _ _) fun a => ?_
    have hfilter := filter_tiedWith_fold req hroutes hdisjoint (fun d hd => (hseq d).mp hd) existing a
    rw [hfold, hostPaths_sharedIngress] at hfilter
    have hsame : (seq.flatMap routes).any (·.path == a.path) =
        (ds.flatMap routes).any (·.path == a.path) := by
      rw [List.any_flatMap, List.any_flatMap, Bool.eq_iff_iff]
      simp only [List.any_eq_true, hseq]
    rw [hfilter, filter_tiedWith_mergePaths, hsame]
  · rw [ingress_eq, ← routes_eq_nil_iff]
    by_cases h : routes d = [] <;> simp [h]

/-- The server and the component manager of one resource, deployed server first and then each
once more, share the Ingress the law describes. -/
theorem ingress_fold_shared_server_and_manager :
    let owner : Reference := { name := "app", ns := "apps" }
    let req : IngressRequirements := { ingressName := "app-ingress", host := "app.example.com" }
    let plan (q path : String) : Deployable :=
      { owner, qualifier := q,
        containers := [{ qualifier := q, imageRepository := "entando/" ++ q, port := 8080,
                         memoryMi := 512, cpuMillis := 500, ingressing := some { path } }] }
    [plan "server" "/app", plan "cm" "/cm", plan "server" "/app"].foldl
        (fun cur d => ingress d req cur) none =
      some (sharedIngress owner req
        (mergePaths (hostPaths req.host none) ([plan "server" "/app", plan "cm" "/cm"].flatMap routes))) :=
  (ingress_fold_shared _ _ none [_, _] _ (by simp) (by simp) (by simp)
    (by simp [webPaths]) (by intro d; simp; tauto)).1

end StackOperator.Children
