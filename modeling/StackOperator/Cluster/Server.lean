import StackOperator.Json.Value

/-!
# An API server's objects

An API server files each object under its API prefix, its resource plural,
its namespace and its name. A collection path names the first three:
`/api/v1/namespaces/ns/secrets` holds the `secrets` of namespace `ns` under
`/api/v1`, and `/apis/batch/v1/namespaces/ns/jobs` the `jobs` under
`/apis/batch/v1`. A path without a namespace names a collection of
cluster-wide objects.

A server stores an object as it was posted, with the namespace of its
collection and a resource version: `1` for the first object stored and one
more for each object after it. An object stored under a key that is taken
replaces the one there.

Main statement: `Collection.parse_namespaced`, how a namespaced collection
path is read.
-/

namespace StackOperator.Cluster

open Json

/-- Where a collection of objects lives on an API server. -/
structure Collection where
  /-- The API prefix, such as `/api/v1` or `/apis/batch/v1`. -/
  apiPrefix : String
  plural : String
  /-- The namespace, or none for cluster-wide objects. -/
  ns : Option String
  deriving DecidableEq, Repr

namespace Collection

/-- The collection a path of segments names, read from its end. -/
def ofSegments (segments : List String) : Collection :=
  match segments.reverse with
  | plural :: ns :: "namespaces" :: front =>
    { apiPrefix := "/".intercalate front.reverse, plural, ns := some ns }
  | plural :: front => { apiPrefix := "/".intercalate front.reverse, plural, ns := none }
  | [] => { apiPrefix := "", plural := "", ns := none }

/-- The collection a path names. -/
def parse (path : String) : Collection := ofSegments (path.splitOn "/")

theorem ofSegments_namespaced (front : List String) (ns plural : String) :
    ofSegments (front ++ ["namespaces", ns, plural]) =
      { apiPrefix := "/".intercalate front, plural, ns := some ns } := by
  simp [ofSegments]

theorem parse_namespaced (path : String) (front : List String) (ns plural : String)
    (h : path.splitOn "/" = front ++ ["namespaces", ns, plural]) :
    parse path = { apiPrefix := "/".intercalate front, plural, ns := some ns } := by
  rw [parse, h, ofSegments_namespaced]

/-- The key an object of the collection is filed under. -/
def key (c : Collection) (name : String) : String :=
  c.apiPrefix ++ "|" ++ c.plural ++ "|" ++ c.ns.getD "" ++ "/" ++ name

end Collection

/-- The objects of an API server, by key, and the last resource version given out. -/
structure ObjectStore where
  objects : Fields := []
  version : Nat := 0

namespace ObjectStore

/-- The name in an object's metadata, empty when it has none. -/
def nameIn (object : Value) : String :=
  (((object.field? "metadata").bind (·.field? "name")).bind Value.str?).getD ""

/-- An object as stored in `c` with resource version `version`. -/
def stamped (c : Collection) (version : Nat) (object : Value) : Value :=
  let metadata := match object.field? "metadata" with
    | some (.obj fs) => Value.obj fs
    | _ => Value.obj []
  let metadata := metadata.insertSome "namespace" (c.ns.map .str)
  object.insert "metadata" (metadata.insert "resourceVersion" (.str (toString version)))

/-- Store an object posted to a collection. -/
def post (s : ObjectStore) (c : Collection) (object : Value) : ObjectStore :=
  let version := s.version + 1
  { objects := Fields.put s.objects (c.key (nameIn object)) (stamped c version object), version }

/-- A store seeded with objects posted in turn to their collections. -/
def seed (posts : List (Collection × Value)) : ObjectStore :=
  posts.foldl (fun s (c, o) => s.post c o) {}

/-- The objects by key. -/
def toValue (s : ObjectStore) : Value := .obj s.objects

end ObjectStore

end StackOperator.Cluster
