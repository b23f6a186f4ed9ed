import StackOperator.Request.Basic
import StackOperator.K8s.Storage
import StackOperator.Children.Job
import StackOperator.Children.Access

/-!
# Requests that build single objects

Secrets and their values, the Jobs the operator runs, and the ServiceAccount
with its Role and RoleBinding.
-/

namespace StackOperator.Request

open Json

/-- A list of bytes. -/
def bytes : Decoder (List UInt8) :=
  Decode.list fun v => (Decode.intIn "u8" 0 255 v).map fun i => i.toNat.toUInt8

/-- The value of a key of a Secret given by its data, raw bytes and text values. -/
def secretValue (request : Value) : Outcome Value := do
  let data ← maybe strMap request "data"
  let raw ← maybe (Decode.map bytes) request "data_bytes"
  let stringData ← maybe strMap request "string_data"
  let key ← text request "key"
  let fromText := data.map (KeyMap.mapWithKey fun _ s => s.toUTF8.toList)
  let merged : Option (KeyMap (List UInt8)) :=
    match fromText, raw with
    | none, none => none
    | a, b => some (KeyMap.union (a.getD .empty) (b.getD .empty))
  let secret : K8s.Secret := { data := merged, stringData }
  pure (.object [("value", .ofOptStr (secret.value key))])

/-- An owned Secret with a user name and password. -/
def credentialsSecret (request : Value) : Outcome Value := do
  let owner ← reference (member request "owner")
  let qualifier ← text request "qualifier"
  let name ← text request "name"
  let username ← text request "username"
  let password ← text request "password"
  let secret := K8s.Secret.credentials (owner.ownedMeta name qualifier) username password
  pure (.object [("secret", secret.toValue),
    ("owned_meta", (owner.ownedMeta "x" qualifier).toValue)])

/-- A Job built from a prefix, an owner, label sets applied in turn and containers. -/
def jobBuilder (request : Value) : Outcome Value := do
  let prefix_ ← text request "prefix"
  let owner ← reference (member request "owner")
  let labelSets ← withDefault (Decode.list strMap) request "label_sets" []
  let containers ← typedOr (Decode.list K8s.Container.decode) request "containers" []
  let deadline ← maybe Decode.i64 request "active_deadline"
  let plan := labelSets.foldl Children.JobPlan.withLabels
    { generateName := prefix_, owner, containers, activeDeadline := deadline }
  pure (.object [("job", plan.build.toValue)])

/-- A ServiceAccount with the Role and RoleBinding for its rules. -/
def serviceAccount (request : Value) : Outcome Value := do
  let owner ← reference (member request "owner")
  let qualifier ← text request "qualifier"
  let name ← text request "name"
  let rules ← typedOr (Decode.list K8s.PolicyRule.decode) request "rules" []
  let (account, rbac) := Children.accountObjects owner qualifier ⟨name, rules⟩
  pure (.object [("account", account.toValue),
    ("role", match rbac with | some (r, _) => r.toValue | none => .null),
    ("binding", match rbac with | some (_, b) => b.toValue | none => .null)])

end StackOperator.Request
