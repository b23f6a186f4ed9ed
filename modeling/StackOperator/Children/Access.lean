import StackOperator.K8s.Access
import StackOperator.Names

/-!
# The identity a deployment runs as

A deployable may ask for its pods to run as a ServiceAccount with rules in
its namespace. The account may be shared by several resources, so it carries
no owner; the Role with the rules and the RoleBinding that grants it to the
account belong to the resource and its qualifier. Without rules there is
neither Role nor RoleBinding.
-/

namespace StackOperator.Children

open K8s

/-- A ServiceAccount and the namespace rules it needs. -/
structure AccountRequest where
  name : String
  rules : List PolicyRule := []
  deriving DecidableEq, Inhabited, Repr

/-- The account, and the Role and RoleBinding granting its rules when there are any. -/
def accountObjects (owner : Reference) (qualifier : String) (req : AccountRequest) :
    ServiceAccount × Option (Role × RoleBinding) :=
  let account : ServiceAccount := { metadata := ObjectMeta.named owner.ns req.name }
  if req.rules.isEmpty then (account, none)
  else
    let roleName := Names.standardName owner.name qualifier "role"
    let role : Role := { metadata := owner.ownedMeta roleName qualifier, rules := some req.rules }
    let binding : RoleBinding :=
      { metadata := owner.ownedMeta (Names.standardName owner.name qualifier "rolebinding") qualifier,
        roleName,
        subjects := some [{ kind := "ServiceAccount", name := req.name, ns := some owner.ns }] }
    (account, some (role, binding))

end StackOperator.Children
