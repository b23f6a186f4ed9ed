import Mathlib
import StackOperator.Proofs.JsonRecords
import StackOperator.Proofs.InstantText
import StackOperator.Resource.App
import StackOperator.Resource.KeycloakServer
import StackOperator.Resource.DatabaseService

/-!
# Statuses and specifications read back from their stored form

The operator keeps the status of each custom resource, and reads the specifications, as JSON
objects. Reading the stored form of a status gives the status back, whatever its server
statuses, timestamps, phase tables and failures, and under whatever keys its server statuses are
kept; the same holds of the specifications of applications, Keycloak servers and database
services. A value must be one the stored form can hold (`Representable`): timestamps with a text,
a 64-bit observed generation, 32-bit replica counts and ports.

The overall phase is written twice, as `phase` and under the older name `entandoDeploymentPhase`,
and is read from `phase`, or from the older name when `phase` names none (`phase_of_decode`).
Members that are absent, null or empty are left out and read back as their defaults.

Main statement: `stored_forms_read_back`.
-/

namespace StackOperator

open Json

/-! ## What the stored forms can hold -/

/-- A server status the stored form can hold: its timestamps have a text. -/
def ServerStatus.Representable (s : ServerStatus) : Prop :=
  (∀ t ∈ s.started, t.Valid) ∧ ∀ t ∈ s.finished, t.Valid

/-- A resource status the stored form can hold: its observed generation is a signed 64-bit
integer and its server statuses are representable. -/
def ResourceStatus.Representable (r : ResourceStatus) : Prop :=
  (∀ g ∈ r.observedGeneration, -9223372036854775808 ≤ g ∧ g ≤ 9223372036854775807) ∧
    ∀ e ∈ r.servers.entries, e.2.Representable

/-- An application specification the stored form can hold: its replica count is a signed 32-bit
integer. -/
def AppSpec.Representable (s : AppSpec) : Prop := -2147483648 ≤ s.replicas ∧ s.replicas ≤ 2147483647

/-- A Keycloak server specification the stored form can hold: its replica count is a signed
32-bit integer. -/
def KeycloakServerSpec.Representable (s : KeycloakServerSpec) : Prop :=
  -2147483648 ≤ s.replicas ∧ s.replicas ≤ 2147483647

/-- A database service specification the stored form can hold: its port, if any, is a signed
32-bit integer. -/
def DatabaseServiceSpec.Representable (s : DatabaseServiceSpec) : Prop :=
  ∀ p ∈ s.port, -2147483648 ≤ p ∧ p ≤ 2147483647

instance : DecidablePred ServerStatus.Representable := fun s =>
  inferInstanceAs (Decidable ((∀ t ∈ s.started, t.Valid) ∧ ∀ t ∈ s.finished, t.Valid))

instance : DecidablePred ResourceStatus.Representable := fun r =>
  inferInstanceAs (Decidable ((∀ g ∈ r.observedGeneration, -9223372036854775808 ≤ g ∧ g ≤ 9223372036854775807) ∧
    ∀ e ∈ r.servers.entries, e.2.Representable))

instance : DecidablePred AppSpec.Representable := fun s =>
  inferInstanceAs (Decidable (-2147483648 ≤ s.replicas ∧ s.replicas ≤ 2147483647))

instance : DecidablePred KeycloakServerSpec.Representable := fun s =>
  inferInstanceAs (Decidable (-2147483648 ≤ s.replicas ∧ s.replicas ≤ 2147483647))

instance : DecidablePred DatabaseServiceSpec.Representable := fun s =>
  inferInstanceAs (Decidable (∀ p ∈ s.port, -2147483648 ≤ p ∧ p ≤ 2147483647))

/-! ## Names -/

@[simp] theorem Phase.decode_name (p : Phase) : Phase.decode (.str p.name) = .ok p := by
  cases p <;> rfl

@[simp] theorem ServerKind.decode_name (k : ServerKind) : ServerKind.decode (.str k.name) = .ok k := by
  cases k <;> rfl

@[simp] theorem Vendor.decode_name (v : Vendor) : Vendor.decode (.str v.name) = .ok v := by
  cases v <;> rfl

@[simp] theorem JeeServer.decode_name (j : JeeServer) : JeeServer.decode (.str j.name) = .ok j := by
  cases j <;> rfl

@[simp] theorem KeycloakImage.decode_name (i : KeycloakImage) : KeycloakImage.decode (.str i.name) = .ok i := by
  cases i <;> rfl

/-! ## Statuses -/

theorem ControllerFailure.decode_toValue (f : ControllerFailure) : ControllerFailure.decode f.toValue = .ok f := by
  refine Decode.bind_recordOf_build (by simp) fun fs stored => ?_
  simp only [Decode.optField_eq, Decode.presentField_eq, stored, List.lookup_cons, String.reduceBEq,
    Option.join_some, Option.map_map, Function.comp_def, Decode.option_str, Decode.string_str, Decode.map_ok,
    Decode.getD_map_ok, Option.map_some, Option.getD_some, Decode.required, bind, Except.bind, pure, Except.pure]

@[simp] theorem ControllerFailure.option_decode_toValue (f : ControllerFailure) :
    Decode.option ControllerFailure.decode f.toValue = .ok (some f) := by
  show Except.map some (ControllerFailure.decode f.toValue) = _
  rw [ControllerFailure.decode_toValue]
  rfl

/-- Optional timestamps that have a text are read back. -/
theorem Instant.getD_map_render {o : Option Instant} (valid : ∀ t ∈ o, t.Valid) :
    (o.map fun t => (Instant.decode (.str t.render)).map some).getD (.ok none) = .ok o :=
  Decode.getD_map_of_forall fun t mem => by rw [Instant.decode_render (valid t mem)]; rfl

theorem ServerStatus.decode_toValue {s : ServerStatus} (stamps : s.Representable) :
    ServerStatus.decode s.toValue = .ok s := by
  refine Decode.bind_recordOf_build (by simp [ServerStatus.mapMember]) fun fs stored => ?_
  simp only [Decode.optField_eq, Decode.presentField_eq, Decode.fieldOr_eq, stored, ServerStatus.mapMember,
    List.lookup_cons, String.reduceBEq,
    Option.join_some, Option.map_map, Function.comp_def, Decode.option_str, Decode.string_str, Decode.map_ok,
    Decode.getD_map_ok, Option.map_some, Option.getD_some, Decode.required, bind, Except.bind, pure, Except.pure,
    Decode.getD_map_ite_toValue, Instant.getD_map_render stamps.1, Instant.getD_map_render stamps.2,
    ServerKind.decode_name, ControllerFailure.option_decode_toValue]

theorem ResourceStatus.toValue_eq (r : ResourceStatus) :
    r.toValue = .build [("observedGeneration", r.observedGeneration.map .ofInt),
      ("phase", r.phase.map fun p => .str p.name), ("entandoDeploymentPhase", r.phase.map fun p => .str p.name),
      ("serverStatuses", if r.servers.isEmpty then none
        else some (.obj (r.servers.entries.map fun e => (e.1, e.2.toValue))))] := rfl

theorem ResourceStatus.decode_toValue {r : ResourceStatus} (rep : r.Representable) :
    ResourceStatus.decode r.toValue = .ok r := by
  have servers : ((if r.servers.isEmpty then none
      else some (Value.obj (r.servers.entries.map fun e => (e.1, e.2.toValue)))).map
        (Decode.map ServerStatus.decode)).getD (.ok .empty) = .ok r.servers :=
    Decode.getD_map_ite_isEmpty_keyMap (fun m : KeyMap ServerStatus => .obj (m.entries.map fun e => (e.1, e.2.toValue)))
      (Decode.map_obj_entries fun e mem => ServerStatus.decode_toValue (rep.2 e mem))
  rw [ResourceStatus.toValue_eq]
  refine Decode.bind_recordOf_build (by simp) fun fs stored => ?_
  simp only [Decode.optField_eq, Decode.fieldOr_eq, stored,
    List.lookup_cons, String.reduceBEq,
    Option.join_some, Option.map_map, Function.comp_def, Decode.option_str, Decode.map_ok,
    Decode.getD_map_ok, bind, Except.bind, pure, Except.pure,
    Phase.decode_name, Decode.option_ofInt, Decode.i64, Decode.getD_map_intIn rep.1, servers,
    Option.orElse_eq_orElse, Option.orElse_eq_or, Option.or_self]

/-- The phase a stored status names under `key`: none when the member is absent, null or no phase. -/
def phaseUnder (fs : Json.Fields) (key : String) : Option Phase :=
  (fs.get? key).bind fun v => (Phase.decode v).toOption

/-- The overall phase is written under both names. -/
theorem ResourceStatus.phase_written (r : ResourceStatus) :
    r.toValue.get? "phase" = r.phase.map (fun p => .str p.name) ∧
      r.toValue.get? "entandoDeploymentPhase" = r.toValue.get? "phase" := by
  rw [ResourceStatus.toValue_eq, Value.get?_build, Value.get?_build]
  · simp [List.lookup_cons]
  all_goals simp

/-- A stored status is read with the phase under `phase`, and under the older name when there is
none under `phase`. -/
theorem ResourceStatus.phase_of_decode {fs : Json.Fields} {r : ResourceStatus}
    (decoded : ResourceStatus.decode (.obj fs) = .ok r) :
    r.phase = (phaseUnder fs "phase").or (phaseUnder fs "entandoDeploymentPhase") := by
  have nullFails : ∀ p, Phase.decode .null ≠ .ok p := fun _ refused => by cases refused
  obtain ⟨_, record, decoded⟩ := Decode.exists_of_bind_eq_ok decoded
  cases record
  obtain ⟨legacy, readLegacy, decoded⟩ := Decode.exists_of_bind_eq_ok decoded
  obtain ⟨_, _, decoded⟩ := Decode.exists_of_bind_eq_ok decoded
  obtain ⟨phase, readPhase, decoded⟩ := Decode.exists_of_bind_eq_ok decoded
  obtain ⟨_, _, decoded⟩ := Decode.exists_of_bind_eq_ok decoded
  cases decoded
  rw [Decode.optField_eq_bind nullFails readPhase, Decode.optField_eq_bind nullFails readLegacy]
  simp [phaseUnder]

/-! ## Specifications -/

theorem SpecVariable.decode_toValue (v : SpecVariable) : SpecVariable.decode v.toValue = .ok v := by
  rw [SpecVariable.toValue, Value.object_eq_build]
  refine Decode.bind_recordOf_build (by simp) fun fs stored => ?_
  simp only [Decode.fieldOr_eq, Decode.presentField_eq, stored, List.map_cons, List.map_nil, List.lookup_cons,
    String.reduceBEq, Option.join_some, Option.map_some, Option.getD_some, Decode.string_str, Decode.map_ok,
    Decode.required, bind, Except.bind, pure, Except.pure]

/-- Declared variables are left out when there are none and read back otherwise. -/
theorem SpecVariable.getD_map_variables (vs : List SpecVariable) :
    ((if vs.isEmpty then none else some (Value.arr (vs.map SpecVariable.toValue))).map
      (Decode.list SpecVariable.decode)).getD (.ok []) = .ok vs :=
  Decode.getD_map_ite_isEmpty (fun l => .arr (l.map SpecVariable.toValue))
    (Decode.eachItem_map fun v _ => SpecVariable.decode_toValue v)

theorem KeycloakToUse.decode_toValue (k : KeycloakToUse) : KeycloakToUse.decode k.toValue = .ok k := by
  refine Decode.bind_recordOf_build (by simp) fun fs stored => ?_
  simp only [Decode.optField_eq, stored, List.lookup_cons, String.reduceBEq,
    Option.join_some, Option.map_map, Function.comp_def, Decode.option_str, Decode.string_str, Decode.map_ok,
    Decode.getD_map_ok, bind, Except.bind, pure, Except.pure]

@[simp] theorem KeycloakToUse.option_decode_toValue (k : KeycloakToUse) :
    Decode.option KeycloakToUse.decode k.toValue = .ok (some k) := by
  show Except.map some (KeycloakToUse.decode k.toValue) = _
  rw [KeycloakToUse.decode_toValue]
  rfl

theorem AppSpec.decode_toValue {s : AppSpec} (rep : s.Representable) : AppSpec.decode s.toValue = .ok s := by
  refine Decode.bind_recordOf_build (by simp) fun fs stored => ?_
  simp only [Decode.optField_eq, Decode.fieldOr_eq, stored, List.lookup_cons, String.reduceBEq,
    Option.join_some, Option.map_map, Function.comp_def, Decode.option_str, Decode.string_str, Decode.map_ok,
    Decode.getD_map_ok, Option.map_some, Option.getD_some, bind, Except.bind, pure, Except.pure,
    Vendor.decode_name, JeeServer.decode_name, KeycloakToUse.option_decode_toValue,
    Decode.i32, Decode.intIn_ofInt rep, SpecVariable.getD_map_variables]

theorem KeycloakServerSpec.decode_toValue {s : KeycloakServerSpec} (rep : s.Representable) :
    KeycloakServerSpec.decode s.toValue = .ok s := by
  refine Decode.bind_recordOf_build (by simp) fun fs stored => ?_
  simp only [Decode.optField_eq, Decode.fieldOr_eq, stored, List.lookup_cons, String.reduceBEq,
    Option.join_some, Option.map_map, Function.comp_def, Decode.option_str, Decode.string_str, Decode.map_ok,
    Decode.getD_map_ok, Option.map_some, Option.getD_some, bind, Except.bind, pure, Except.pure,
    Vendor.decode_name, KeycloakImage.decode_name, Decode.bool_bool, Decode.i32, Decode.intIn_ofInt rep,
    SpecVariable.getD_map_variables]

theorem DatabaseServiceSpec.decode_toValue {s : DatabaseServiceSpec} (rep : s.Representable) :
    DatabaseServiceSpec.decode s.toValue = .ok s := by
  refine Decode.bind_recordOf_build (by simp) fun fs stored => ?_
  simp only [Decode.optField_eq, Decode.fieldOr_eq, Decode.presentField_eq, stored, List.lookup_cons,
    String.reduceBEq, Option.join_some, Option.map_map, Function.comp_def, Decode.option_str, Decode.string_str,
    Decode.map_ok, Decode.getD_map_ok, Option.map_some, Option.getD_some, Decode.required, bind, Except.bind, pure,
    Except.pure, Vendor.decode_name, Decode.bool_bool, Decode.option_ofInt, Decode.i32, Decode.getD_map_intIn rep,
    Decode.option_toValue, SpecVariable.getD_map_variables]

/-! ## Members left out -/

theorem ResourceStatus.decode_empty : ResourceStatus.decode (.obj []) = .ok {} := rfl

theorem ServerStatus.decode_qualifier_only (q : String) :
    ServerStatus.decode (.object [("qualifier", .str q)]) = .ok { qualifier := q } := rfl

theorem AppSpec.decode_empty : AppSpec.decode (.obj []) = .ok {} := rfl

theorem KeycloakServerSpec.decode_empty : KeycloakServerSpec.decode (.obj []) = .ok {} := rfl

theorem DatabaseServiceSpec.decode_dbms_only (v : Vendor) :
    DatabaseServiceSpec.decode (.object [("dbms", .str v.name)]) = .ok { dbms := v } := by
  cases v <;> rfl

/-! ## The stored forms read back -/

theorem stored_forms_read_back :
    (∀ r : ResourceStatus, r.Representable → ResourceStatus.decode r.toValue = .ok r) ∧
    (∀ r : ResourceStatus, r.toValue.get? "phase" = r.phase.map (fun p => .str p.name) ∧
      r.toValue.get? "entandoDeploymentPhase" = r.toValue.get? "phase") ∧
    (∀ fs r, ResourceStatus.decode (.obj fs) = .ok r →
      r.phase = (phaseUnder fs "phase").or (phaseUnder fs "entandoDeploymentPhase")) ∧
    (∀ s : AppSpec, s.Representable → AppSpec.decode s.toValue = .ok s) ∧
    (∀ s : KeycloakServerSpec, s.Representable → KeycloakServerSpec.decode s.toValue = .ok s) ∧
    (∀ s : DatabaseServiceSpec, s.Representable → DatabaseServiceSpec.decode s.toValue = .ok s) ∧
    ResourceStatus.decode (.obj []) = .ok {} ∧
    (∀ q, ServerStatus.decode (.object [("qualifier", .str q)]) = .ok { qualifier := q }) ∧
    AppSpec.decode (.obj []) = .ok {} ∧ KeycloakServerSpec.decode (.obj []) = .ok {} ∧
    ∀ v : Vendor, DatabaseServiceSpec.decode (.object [("dbms", .str v.name)]) = .ok { dbms := v } :=
  ⟨fun _ rep => ResourceStatus.decode_toValue rep, ResourceStatus.phase_written,
    fun _ _ decoded => ResourceStatus.phase_of_decode decoded, fun _ rep => AppSpec.decode_toValue rep,
    fun _ rep => KeycloakServerSpec.decode_toValue rep, fun _ rep => DatabaseServiceSpec.decode_toValue rep,
    ResourceStatus.decode_empty, ServerStatus.decode_qualifier_only, AppSpec.decode_empty,
    KeycloakServerSpec.decode_empty, DatabaseServiceSpec.decode_dbms_only⟩

/-- A status with a leap second, kept under a key other than its qualifier, and specifications
with members away from their defaults, all read back; a status with only the older phase name
is read with that phase. -/
theorem stored_forms_read_back_with_leap_second :
    let server : ServerStatus :=
      { qualifier := "server", kind := .db, started := some ⟨1483228799, 1500000000⟩,
        finished := some ⟨1483228800, 250000000⟩, podPhases := .singleton "my-app-server-pod" "Running",
        failure := some { kind := some "Deployment", message := "timed out", detailMessage := "" } }
    let status : ResourceStatus := { observedGeneration := some 3, phase := some .failed, servers := .singleton "db" server }
    let app : AppSpec := { replicas := 2, environmentVariables := [{ name := "JAVA_OPTS" }] }
    let keycloak : KeycloakServerSpec := { isDefault := true, standardImage := some .redhatSso }
    let database : DatabaseServiceSpec := { dbms := .postgresql, port := some 5432, createDeployment := true }
    let legacy : Json.Fields := [("entandoDeploymentPhase", .str "successful")]
    status.Representable ∧ ResourceStatus.decode status.toValue = .ok status ∧
      ResourceStatus.decode (.obj legacy) = .ok { phase := some .successful } ∧
      (({ phase := some .successful } : ResourceStatus).phase =
        (phaseUnder legacy "phase").or (phaseUnder legacy "entandoDeploymentPhase")) ∧
      app.Representable ∧ AppSpec.decode app.toValue = .ok app ∧
      keycloak.Representable ∧ KeycloakServerSpec.decode keycloak.toValue = .ok keycloak ∧
      database.Representable ∧ DatabaseServiceSpec.decode database.toValue = .ok database := by
  intro server status app keycloak database legacy
  have statusFits : status.Representable := by decide
  have appFits : app.Representable := by decide
  have keycloakFits : keycloak.Representable := by decide
  have databaseFits : database.Representable := by decide
  have legacyRead : ResourceStatus.decode (.obj legacy) = .ok { phase := some .successful } := rfl
  exact ⟨statusFits, stored_forms_read_back.1 status statusFits, legacyRead,
    stored_forms_read_back.2.2.1 legacy _ legacyRead, appFits, stored_forms_read_back.2.2.2.1 app appFits,
    keycloakFits, stored_forms_read_back.2.2.2.2.1 keycloak keycloakFits, databaseFits,
    stored_forms_read_back.2.2.2.2.2.1 database databaseFits⟩

end StackOperator
