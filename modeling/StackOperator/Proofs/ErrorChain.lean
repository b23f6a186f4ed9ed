import StackOperator.Request.Status

/-!
# Failure records follow the wrapper chain

An error is a spine of wrappers (`resourceOperation`, `databasePreparation`) over a leaf. The
failure record a status carries is read off that spine. Main statement:
`failure_follows_wrapper_spine`, for every error an error specification describes
(`Error.Specified`, which holds of every error the request decoder builds, `errorOf_specified`):

* the failed object is the object named by the innermost `resourceOperation`
  (`failedObject_eq_getLast?`), and the record names it, or else the fallback resource;
* the detail is the message followed by one `caused by:` line per source: each wrapper's source,
  then the causes the client libraries report under the leaf (`causes_eq_spine`, `detail_eq_join`);
* each wrapper's message ends with its source's, so every message ends with the leaf's
  (`message_ends_with_leaf`).
-/

namespace StackOperator

namespace Error

/-- The errors below an error along its wrappers, outermost first: each wrapper's source. -/
def sources : Error → List Error
  | .resourceOperation _ _ _ src => src :: src.sources
  | .databasePreparation _ src => src :: src.sources
  | _ => []

/-- The leaf at the bottom of the wrappers. -/
def leaf : Error → Error
  | .resourceOperation _ _ _ src => src.leaf
  | .databasePreparation _ src => src.leaf
  | e => e

/-- The source a wrapper adds context to. -/
def source? : Error → Option Error
  | .resourceOperation _ _ _ src => some src
  | .databasePreparation _ src => some src
  | _ => none

/-- The objects the wrappers of an error name, outermost first. -/
def namedObjects : Error → List FailedObject
  | .resourceOperation kind ns name src => ⟨kind, ns, name⟩ :: src.namedObjects
  | .databasePreparation _ src => src.namedObjects
  | _ => []

/-- The errors an error specification describes: a leaf without causes, an API error answered
with a status, a decoding error, or a wrapper over such an error. -/
inductive Specified : Error → Prop
  | config (message : String) : Specified (.config message)
  | timeout (message : String) : Specified (.timeout message)
  | resourceCreation (message : String) : Specified (.resourceCreation message)
  | keycloak (message : String) : Specified (.keycloak message)
  | illegalState (message : String) : Specified (.illegalState message)
  | api (status message reason : String) (code : Nat) :
      Specified (.api (.status status message reason code))
  | decode (message : String) : Specified (.decode message)
  | resourceOperation (kind ns name : String) {src : Error} :
      Specified src → Specified (.resourceOperation kind ns name src)
  | databasePreparation (message : String) {src : Error} :
      Specified src → Specified (.databasePreparation message src)

/-- The causes the client libraries report under a leaf: for an API error, the client's error and
then the status response it carries (`message: reason`); for a decoding error, the decoder's
error. The other leaves have no source. -/
def libraryCauses : Error → List String
  | .api (.status status message reason code) =>
    [(ApiFailure.status status message reason code).text, message ++ ": " ++ reason]
  | .decode message => [message]
  | _ => []

/-! ## The failed object -/

/-- The failed object is the object of the innermost `resourceOperation` on the spine. -/
theorem failedObject_eq_getLast? (e : Error) : e.failedObject = e.namedObjects.getLast? := by
  induction e with
  | resourceOperation kind ns name src ih =>
    simp only [failedObject, namedObjects, List.getLast?_cons, ih]
    cases src.namedObjects.getLast? <;> rfl
  | databasePreparation _ src ih => simpa only [failedObject, namedObjects] using ih
  | _ => rfl

/-- The failure record of an error names the innermost object on its spine without an API
version, or else the fallback resource with its API version. -/
theorem ofError_eq (e : Error) (fallback : K8s.Reference) :
    ControllerFailure.ofError e fallback =
      match e.namedObjects.getLast? with
      | some o => { kind := some o.kind, ns := some o.ns, name := some o.name,
                    message := e.message, detailMessage := e.detail }
      | none => { apiVersion := some fallback.apiVersion, kind := some fallback.kind,
                  ns := some fallback.ns, name := some fallback.name,
                  message := e.message, detailMessage := e.detail } := by
  cases named : e.namedObjects.getLast? <;>
    simp only [ControllerFailure.ofError, failedObject_eq_getLast?, named]

/-! ## The detail -/

theorem foldl_causedBy (init : String) (cs : List String) :
    cs.foldl (fun acc c => acc ++ "\ncaused by: " ++ c) init =
      init ++ String.join (cs.map ("\ncaused by: " ++ ·)) := by
  induction cs generalizing init with
  | nil => simp
  | cons c rest ih =>
    rw [List.foldl_cons, ih]
    simp [String.append_assoc]

/-- The detail is the message and one `caused by:` line for each cause. -/
theorem detail_eq_join (e : Error) :
    e.detail = e.message ++ String.join (e.causes.map ("\ncaused by: " ++ ·)) :=
  foldl_causedBy e.message e.causes

/-- A wrapper over a configuration error: one line for its source. -/
example : (Error.resourceOperation "Secret" "ns" "ca" (.config "missing")).detail =
    "Failed to reconcile Secret ns/ca: Configuration error: missing\ncaused by: Configuration error: missing" := by
  decide

/-- The causes of a specified error are the messages of the sources along its spine, then the
causes the libraries report under its leaf. -/
theorem causes_eq_spine {e : Error} (specified : e.Specified) :
    e.causes = e.sources.map message ++ e.leaf.libraryCauses := by
  induction specified with
  | resourceOperation kind ns name _ ih =>
    simp only [causes, sources, leaf, ih, List.map_cons, List.cons_append]
  | databasePreparation m _ ih =>
    simp only [causes, sources, leaf, ih, List.map_cons, List.cons_append]
  | _ => rfl

/-! ## Messages -/

/-- A wrapper's message ends with its source's message. -/
theorem message_ends_with_source {w src : Error} (wraps : w.source? = some src) :
    ∃ p, w.message = p ++ src.message := by
  cases w with
  | resourceOperation kind ns name s =>
    cases wraps
    exact ⟨"Failed to reconcile " ++ kind ++ " " ++ ns ++ "/" ++ name ++ ": ", rfl⟩
  | databasePreparation m s =>
    cases wraps
    exact ⟨m ++ ": ", rfl⟩
  | _ => cases wraps

/-- Every message ends with the message of the leaf below it. -/
theorem message_ends_with_leaf (e : Error) : ∃ p, e.message = p ++ e.leaf.message := by
  induction e with
  | resourceOperation kind ns name src ih =>
    obtain ⟨p, ends⟩ := ih
    obtain ⟨q, wraps⟩ := message_ends_with_source (w := .resourceOperation kind ns name src) rfl
    exact ⟨q ++ p, by rw [wraps, ends, String.append_assoc]; rfl⟩
  | databasePreparation m src ih =>
    obtain ⟨p, ends⟩ := ih
    obtain ⟨q, wraps⟩ := message_ends_with_source (w := .databasePreparation m src) rfl
    exact ⟨q ++ p, by rw [wraps, ends, String.append_assoc]; rfl⟩
  | _ => exact ⟨"", String.empty_append.symm⟩

end Error

/-! ## The errors a request describes -/

namespace Request

open Json.Decode (exists_of_bind_eq_ok)

/-- Every error the request decoder builds is one an error specification describes. -/
theorem errorOf_specified {fuel : Nat} {v : Json.Value} {e : Error} (built : errorOf fuel v = .ok e) :
    e.Specified := by
  induction fuel generalizing v e with
  | zero => cases built
  | succ fuel ih =>
    unfold errorOf at built
    obtain ⟨kind, -, built⟩ := exists_of_bind_eq_ok built
    -- one case per kind of specification; the wrappers decode their source one level down
    split at built
    · obtain ⟨m, -, built⟩ := exists_of_bind_eq_ok built
      cases built
      exact .config m
    · obtain ⟨m, -, built⟩ := exists_of_bind_eq_ok built
      cases built
      exact .timeout m
    · obtain ⟨m, -, built⟩ := exists_of_bind_eq_ok built
      cases built
      exact .resourceCreation m
    · obtain ⟨m, -, built⟩ := exists_of_bind_eq_ok built
      cases built
      exact .keycloak m
    · obtain ⟨m, -, built⟩ := exists_of_bind_eq_ok built
      cases built
      exact .illegalState m
    · obtain ⟨kindName, -, built⟩ := exists_of_bind_eq_ok built
      obtain ⟨ns, -, built⟩ := exists_of_bind_eq_ok built
      obtain ⟨name, -, built⟩ := exists_of_bind_eq_ok built
      obtain ⟨src, decoded, built⟩ := exists_of_bind_eq_ok built
      cases built
      exact .resourceOperation _ _ _ (ih decoded)
    · obtain ⟨message, -, built⟩ := exists_of_bind_eq_ok built
      obtain ⟨src, decoded, built⟩ := exists_of_bind_eq_ok built
      cases built
      exact .databasePreparation _ (ih decoded)
    · obtain ⟨_, -, built⟩ := exists_of_bind_eq_ok built
      obtain ⟨_, -, built⟩ := exists_of_bind_eq_ok built
      obtain ⟨_, -, built⟩ := exists_of_bind_eq_ok built
      obtain ⟨_, -, built⟩ := exists_of_bind_eq_ok built
      cases built
      exact .api _ _ _ _
    · obtain ⟨json, -, built⟩ := exists_of_bind_eq_ok built
      split at built
      · cases built
        exact .decode _
      · cases built
    · cases built

end Request

open Error in
/-- The failure record of a specified error: it names the innermost object on the wrapper spine,
or else the fallback resource with its API version; its message is the error's message, which ends
with the leaf's; its detail adds one `caused by:` line for each wrapper's source and then for each
cause the client libraries report under the leaf. -/
theorem failure_follows_wrapper_spine {e : Error} (specified : e.Specified) (fallback : K8s.Reference) :
    e.failedObject = e.namedObjects.getLast? ∧
    ControllerFailure.ofError e fallback =
      (match e.namedObjects.getLast? with
      | some o => { kind := some o.kind, ns := some o.ns, name := some o.name,
                    message := e.message, detailMessage := e.detail }
      | none => { apiVersion := some fallback.apiVersion, kind := some fallback.kind,
                  ns := some fallback.ns, name := some fallback.name,
                  message := e.message, detailMessage := e.detail }) ∧
    e.detail = e.message ++
      String.join ((e.sources.map message ++ e.leaf.libraryCauses).map ("\ncaused by: " ++ ·)) ∧
    (∀ w ∈ e :: e.sources, ∀ src, w.source? = some src → ∃ p, w.message = p ++ src.message) ∧
    ∃ p, e.message = p ++ e.leaf.message := by
  refine ⟨failedObject_eq_getLast? e, ofError_eq e fallback, ?_, fun _ _ _ => message_ends_with_source,
    message_ends_with_leaf e⟩
  rw [detail_eq_join, causes_eq_spine specified]

/-- A Job that timed out while schemas were prepared: the record names the Job. -/
theorem failure_follows_wrapper_spine_of_timed_out_job :
    let e : Error := .databasePreparation "Database preparation failed"
      (.resourceOperation "Job" "my-namespace" "my-app-server-db-preparation-1" (.timeout "waiting for Job"))
    e.Specified ∧ e.failedObject = some ⟨"Job", "my-namespace", "my-app-server-db-preparation-1"⟩ := by
  intro e
  have specified : e.Specified := .databasePreparation _ (.resourceOperation _ _ _ (.timeout _))
  exact ⟨specified, (failure_follows_wrapper_spine specified default).1⟩

end StackOperator
