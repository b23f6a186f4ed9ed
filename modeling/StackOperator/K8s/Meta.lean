import StackOperator.KeyMap
import StackOperator.Json.Decode
import StackOperator.Names
import StackOperator.K8s.Shapes

/-!
# Object metadata

Every Kubernetes object carries an `ObjectMeta`: its name (or a prefix from
which the server generates one), its namespace, labels, owners and the
bookkeeping the server adds (uid, generation). Objects are written with the
API's camelCase member names; a member that is not set is left out, while a
set but empty list or map is written.

A `Reference` identifies a custom resource of the operator: it names the
resource for status writes and owns the objects made for it through
`Reference.ownerReference`, so that they are deleted with it.
-/

namespace StackOperator.K8s

open Json

/-- A link from an object to the object that owns it. -/
structure OwnerReference where
  apiVersion : String
  kind : String
  name : String
  uid : String
  controller : Option Bool := none
  blockOwnerDeletion : Option Bool := none
  deriving DecidableEq, Inhabited, Repr

/-- The JSON form of an owner reference. -/
def OwnerReference.toValue (o : OwnerReference) : Value :=
  .build [("apiVersion", some (.str o.apiVersion)), ("kind", some (.str o.kind)),
    ("name", some (.str o.name)), ("uid", some (.str o.uid)),
    ("controller", o.controller.map .bool), ("blockOwnerDeletion", o.blockOwnerDeletion.map .bool)]

/-- Read an owner reference; missing strings are empty. -/
def OwnerReference.decode : Decoder OwnerReference := fun v => do
  let fs ← Decode.record "OwnerReference" v
  let apiVersion ← Decode.optField fs "apiVersion" Decode.string
  let blockOwnerDeletion ← Decode.optField fs "blockOwnerDeletion" Decode.bool
  let controller ← Decode.optField fs "controller" Decode.bool
  let kind ← Decode.optField fs "kind" Decode.string
  let name ← Decode.optField fs "name" Decode.string
  let uid ← Decode.optField fs "uid" Decode.string
  pure ⟨apiVersion.getD "", kind.getD "", name.getD "", uid.getD "", controller, blockOwnerDeletion⟩

/-- The metadata of an object. -/
structure ObjectMeta where
  name : Option String := none
  generateName : Option String := none
  ns : Option String := none
  labels : Option (KeyMap String) := none
  annotations : Option (KeyMap String) := none
  ownerReferences : Option (List OwnerReference) := none
  uid : Option String := none
  generation : Option Int := none
  resourceVersion : Option String := none
  creationTimestamp : Option String := none
  deletionTimestamp : Option String := none
  finalizers : Option (List String) := none
  /-- Further members of metadata given by a caller, in their stored form. -/
  given : Fields := []
  deriving DecidableEq, Inhabited, Repr

namespace ObjectMeta

/-- The members of metadata this library models. -/
def modelled : List String :=
  ["annotations", "creationTimestamp", "deletionTimestamp", "finalizers", "generateName", "generation",
   "labels", "name", "namespace", "ownerReferences", "resourceVersion", "uid"]

/-- The JSON form of metadata. -/
def toValue (m : ObjectMeta) : Value :=
  .build [("name", m.name.map .str), ("generateName", m.generateName.map .str),
    ("namespace", m.ns.map .str), ("labels", m.labels.map KeyMap.toValue),
    ("annotations", m.annotations.map KeyMap.toValue),
    ("ownerReferences", m.ownerReferences.map fun os => .arr (os.map OwnerReference.toValue)),
    ("uid", m.uid.map .str), ("generation", m.generation.map .ofInt),
    ("resourceVersion", m.resourceVersion.map .str),
    ("creationTimestamp", m.creationTimestamp.map .str),
    ("deletionTimestamp", m.deletionTimestamp.map .str),
    ("finalizers", m.finalizers.map .ofStrs)] |>
  fun typed => m.given.foldl (fun v (k, x) => v.insert k x) typed

/-- A map of strings. -/
def strMap : Decoder (KeyMap String) := Decode.map Decode.string

/-- Read metadata, checked against the API's shape first. -/
def decode : Decoder ObjectMeta := fun v => do
  let fs ← Decode.record "ObjectMeta" (← Shapes.objectMeta.read v)
  let annotations ← Decode.optField fs "annotations" strMap
  let creationTimestamp ← Decode.optField fs "creationTimestamp" Decode.string
  let deletionTimestamp ← Decode.optField fs "deletionTimestamp" Decode.string
  let finalizers ← Decode.optField fs "finalizers" (Decode.list Decode.string)
  let generateName ← Decode.optField fs "generateName" Decode.string
  let generation ← Decode.optField fs "generation" Decode.i64
  let labels ← Decode.optField fs "labels" strMap
  let name ← Decode.optField fs "name" Decode.string
  let ns ← Decode.optField fs "namespace" Decode.string
  let ownerReferences ← Decode.optField fs "ownerReferences" (Decode.list OwnerReference.decode)
  let resourceVersion ← Decode.optField fs "resourceVersion" Decode.string
  let uid ← Decode.optField fs "uid" Decode.string
  let given := fs.filter fun (k, _) => !modelled.contains k
  pure { name, generateName, ns, labels, annotations, ownerReferences, uid, generation,
         resourceVersion, creationTimestamp, deletionTimestamp, finalizers, given }

/-- The metadata of a named object in a namespace. -/
def named (ns name : String) : ObjectMeta := { name := some name, ns := some ns }

/-- The label under a key, if the object has labels and that one. -/
def label? (m : ObjectMeta) (key : String) : Option String := m.labels.bind (KeyMap.get? · key)

end ObjectMeta

/-- Identity of a persisted custom resource of the operator. -/
structure Reference where
  apiVersion : String := ""
  kind : String := ""
  plural : String := ""
  ns : String := ""
  name : String := ""
  uid : String := ""
  generation : Option Int := none
  deriving DecidableEq, Inhabited, Repr

namespace Reference

/-- The API group and version, split at the first `/`; no `/` means the core group. -/
def groupVersion (r : Reference) : String × String :=
  match r.apiVersion.splitOn "/" with
  | [version] => ("", version)
  | group :: rest => (group, "/".intercalate rest)
  | [] => ("", r.apiVersion)

/-- The reference that makes the resource the controlling owner of a child. -/
def ownerReference (r : Reference) : OwnerReference :=
  ⟨r.apiVersion, r.kind, r.name, r.uid, some true, some true⟩

/-- The labels that identify a qualifier's objects and their owner. -/
def deploymentLabels (r : Reference) (qualifier : String) : KeyMap String :=
  ⟨[(Names.deploymentLabelKey, Names.deploymentLabel r.name qualifier),
    (Names.ownerKindLabelKey, r.kind), (Names.ownerNameLabelKey, r.name)],
   show [Names.deploymentLabelKey, Names.ownerKindLabelKey, Names.ownerNameLabelKey].Pairwise (· < ·) by decide⟩

/-- The label selector of a qualifier's pods. -/
def deploymentSelector (r : Reference) (qualifier : String) : String :=
  Names.deploymentLabelKey ++ "=" ++ Names.deploymentLabel r.name qualifier

/-- Metadata of a child object in the owner's namespace, labelled and owned. -/
def ownedMeta (r : Reference) (name qualifier : String) : ObjectMeta :=
  { name := some name, ns := some r.ns, labels := some (r.deploymentLabels qualifier),
    ownerReferences := some [r.ownerReference] }

end Reference

end StackOperator.K8s
