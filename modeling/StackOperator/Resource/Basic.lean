import StackOperator.Status.Wire
import StackOperator.Routing
import StackOperator.K8s.Pod

/-!
# Custom resources

The operator deploys three kinds of custom resource of the `entando.org/v1`
API: applications, Keycloak servers and database services. Each has
metadata, a specification of its own kind and an optional status. What the
kinds share is here: their identity (`Resource.reference`), whether the
current generation is deployed (`Resource.isUpToDate`), and how long a failed
resource waits before the next attempt (`Resource.failureBackoff`).

Main statement: `isUpToDate_iff`.
-/

namespace StackOperator

/-- The kind, plural and specification reader of a custom resource kind. -/
class ResourceKind (σ : Type) where
  kind : String
  plural : String

/-- The API version of every custom resource of the operator. -/
def resourceApiVersion : String := "entando.org/v1"

/-- A custom resource with a specification of type `σ`. -/
structure Resource (σ : Type) where
  metadata : K8s.ObjectMeta := {}
  spec : σ
  status : Option ResourceStatus := none

/-- A variable declared on a custom resource. -/
structure SpecVariable where
  name : String
  value : String := ""
  deriving DecidableEq, Inhabited, Repr

namespace SpecVariable

/-- The stored form of a variable. -/
def toValue (v : SpecVariable) : Json.Value := .object [("name", .str v.name), ("value", .str v.value)]

/-- The members of a variable in declaration order. -/
def members : List Json.Decode.MemberSpec :=
  [.needed "name" Json.Decode.string, .withDefault "value" Json.Decode.string]

/-- Read a variable; the name is required. -/
def decode : Json.Decoder SpecVariable := fun v => do
  let fs ← Json.Decode.recordOf "struct EnvironmentVariable" members v
  let name ← Json.Decode.presentField fs "name" Json.Decode.string
  let value ← Json.Decode.fieldOr fs "value" Json.Decode.string ""
  let name ← Json.Decode.required "name" name
  pure { name, value }

/-- The container variable of a declared variable. -/
def toEnv (v : SpecVariable) : K8s.EnvVar := .plain v.name v.value

end SpecVariable

namespace Resource

variable {σ : Type}

/-- The name of the resource, empty when unset. -/
def name (r : Resource σ) : String := r.metadata.name.getD ""

/-- The namespace of the resource, empty when unset. -/
def ns (r : Resource σ) : String := r.metadata.ns.getD ""

/-- The identity of the resource. -/
def reference [ResourceKind σ] (r : Resource σ) : K8s.Reference :=
  { apiVersion := resourceApiVersion, kind := ResourceKind.kind σ, plural := ResourceKind.plural σ,
    ns := r.ns, name := r.name, uid := r.metadata.uid.getD "", generation := r.metadata.generation }

/-- The current generation has been deployed successfully. -/
def isUpToDate (r : Resource σ) : Bool :=
  match r.status with
  | none => false
  | some s => s.phase == some .successful && s.observedGeneration.isSome &&
      s.observedGeneration == r.metadata.generation

theorem isUpToDate_iff (r : Resource σ) :
    r.isUpToDate = true ↔ ∃ s g, r.status = some s ∧ s.phase = some .successful ∧
      s.observedGeneration = some g ∧ r.metadata.generation = some g := by
  unfold isUpToDate
  cases hs : r.status with
  | none => simp
  | some s =>
    cases hg : s.observedGeneration <;> cases hm : r.metadata.generation <;> simp [hg]

/-- How long a resource whose current generation failed waits after its
last finish before it is deployed again, in nanoseconds: thirty seconds. -/
def failureBackoffNanos : Nat := 30000000000

/-- How long, in nanoseconds, a resource whose current generation failed
still waits at `now`: `failureBackoffNanos` minus the time since its last
finish, none when that is over. A finish in the future counts as just now. -/
def failureBackoff (r : Resource σ) (now : Instant) : Option Nat :=
  match r.status with
  | none => none
  | some s =>
    if s.phase != some .failed || s.observedGeneration != r.metadata.generation then none
    else
      match s.lastFinished with
      | none => none
      | some t =>
        let elapsed : Int := max 0 (now.since t)
        let remaining := (failureBackoffNanos : Int) - elapsed
        if remaining ≤ 0 then none else some remaining.toNat

/-- `failureBackoff` in whole milliseconds. -/
def failureBackoffMs (r : Resource σ) (now : Instant) : Option Nat :=
  (r.failureBackoff now).map (· / 1000000)

/-- The stored form of the resource. -/
def toValueWith [ResourceKind σ] (r : Resource σ) (spec : σ → Json.Value) : Json.Value :=
  .build [("apiVersion", some (.str resourceApiVersion)), ("kind", some (.str (ResourceKind.kind σ))),
    ("metadata", some r.metadata.toValue), ("spec", some (spec r.spec)),
    ("status", r.status.map ResourceStatus.toValue)]

end Resource

end StackOperator
