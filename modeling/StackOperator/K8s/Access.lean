import StackOperator.K8s.Meta

/-!
# Service accounts and their permissions

A ServiceAccount is the identity pods run as. A Role lists what may be done
in a namespace (its `PolicyRule`s) and a RoleBinding grants a Role to
subjects such as a ServiceAccount.
-/

namespace StackOperator.K8s

open Json

/-- The identity pods run as. -/
structure ServiceAccount where
  metadata : ObjectMeta := {}
  deriving DecidableEq, Inhabited, Repr

/-- The JSON form of a ServiceAccount. -/
def ServiceAccount.toValue (a : ServiceAccount) : Value :=
  .object [("apiVersion", .str "v1"), ("kind", .str "ServiceAccount"),
    ("metadata", a.metadata.toValue)]

/-- Verbs allowed on resources of API groups, or on non-resource URLs. -/
structure PolicyRule where
  apiGroups : Option (List String) := none
  nonResourceURLs : Option (List String) := none
  resourceNames : Option (List String) := none
  resources : Option (List String) := none
  verbs : List String := []
  deriving DecidableEq, Inhabited, Repr

namespace PolicyRule

/-- The JSON form of a rule. -/
def toValue (r : PolicyRule) : Value :=
  .build [("apiGroups", r.apiGroups.map .ofStrs), ("nonResourceURLs", r.nonResourceURLs.map .ofStrs),
    ("resourceNames", r.resourceNames.map .ofStrs), ("resources", r.resources.map .ofStrs),
    ("verbs", some (.ofStrs r.verbs))]

/-- Read a rule, checked against the API's shape first; missing verbs are none. -/
def decode : Decoder PolicyRule := fun v => do
  let fs ← Decode.record "PolicyRule" (← Shapes.policyRule.read v)
  let strs := Decode.list Decode.string
  let apiGroups ← Decode.optField fs "apiGroups" strs
  let nonResourceURLs ← Decode.optField fs "nonResourceURLs" strs
  let resourceNames ← Decode.optField fs "resourceNames" strs
  let resources ← Decode.optField fs "resources" strs
  let verbs ← Decode.optField fs "verbs" strs
  pure { apiGroups, nonResourceURLs, resourceNames, resources, verbs := verbs.getD [] }

end PolicyRule

/-- Permissions in a namespace. -/
structure Role where
  metadata : ObjectMeta := {}
  rules : Option (List PolicyRule) := none
  deriving DecidableEq, Inhabited, Repr

/-- The JSON form of a Role. -/
def Role.toValue (r : Role) : Value :=
  .build [("apiVersion", some (.str "rbac.authorization.k8s.io/v1")), ("kind", some (.str "Role")),
    ("metadata", some r.metadata.toValue),
    ("rules", r.rules.map fun rs => .arr (rs.map PolicyRule.toValue))]

/-- Who a binding grants its role to. -/
structure Subject where
  kind : String
  name : String
  ns : Option String := none
  deriving DecidableEq, Inhabited, Repr

/-- A grant of a Role to subjects. -/
structure RoleBinding where
  metadata : ObjectMeta := {}
  roleName : String
  subjects : Option (List Subject) := none
  deriving DecidableEq, Inhabited, Repr

/-- The JSON form of a RoleBinding; the role is always a Role of the RBAC group. -/
def RoleBinding.toValue (b : RoleBinding) : Value :=
  .build [("apiVersion", some (.str "rbac.authorization.k8s.io/v1")), ("kind", some (.str "RoleBinding")),
    ("metadata", some b.metadata.toValue),
    ("roleRef", some (.object [("apiGroup", .str "rbac.authorization.k8s.io"), ("kind", .str "Role"),
      ("name", .str b.roleName)])),
    ("subjects", b.subjects.map fun ss => .arr (ss.map fun s =>
      .build [("kind", some (.str s.kind)), ("name", some (.str s.name)), ("namespace", s.ns.map .str)]))]

end StackOperator.K8s
