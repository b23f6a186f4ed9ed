import StackOperator.Deploy.Pass
import StackOperator.Deploy.Wait
import StackOperator.Database.Connection
import StackOperator.Children.Job
import StackOperator.Images
import StackOperator.Names

/-!
# Preparing database schemas

Before a qualifier's containers start, every schema they need is created on
the database they keep their schemas on. On an embedded database there is
nothing to prepare: each schema is a database of its own name inside the
container. On a database server each schema gets a Secret with its user name
and a generated password (created once, so a schema keeps its credentials),
and one Job, with a container per schema, creates the users and schemas with
the server's admin credentials. Earlier preparation Jobs of the qualifier are
deleted first.

The preparation waits for the Job to complete. The Job's phase is recorded in
the status whether or not it succeeds; a Job that fails or does not complete
in time fails the preparation. A prepared schema's JDBC URL is recorded as the
derived parameter `<schema>JdbcUrl`.
-/

namespace StackOperator.Deploy

open Cluster K8s

/-- The image of the schema-creation Jobs. -/
def dbJobImage : String := "entando/entando-k8s-dbjob"

/-- The label that marks the preparation Jobs of a qualifier. -/
def dbPreparationLabel : String := "entando.org/db-preparation"

/-- The schemas of an embedded database: each one a database of its own name. -/
def embeddedResults (schemas : List String) : KeyMap SchemaResult :=
  KeyMap.ofList (schemas.map fun s => (s, { vendor := .embedded, databaseName := s, schemaName := s }))

/-- The container that creates one schema and its user. -/
def creationContainer (db : ConnectionInfo) (image schema secretName : String) : Container :=
  let parameters : List EnvVar :=
    if db.jdbcParameters.isEmpty then []
    else [.plain "JDBC_PARAMETERS" (",".intercalate (db.jdbcParameters.entries.map fun (k, v) => k ++ "=" ++ v))]
  let tablespace : List EnvVar := (db.tablespace.map fun t => [.plain "TABLESPACE" t]).getD []
  { name := schema ++ "-schema-creation-job", image := some image, imagePullPolicy := some "IfNotPresent",
    env := some ([.plain "DATABASE_SERVER_HOST" db.host, .plain "DATABASE_SERVER_PORT" (toString db.port),
      .fromSecret "DATABASE_ADMIN_USER" db.adminSecretName "username",
      .fromSecret "DATABASE_ADMIN_PASSWORD" db.adminSecretName "password",
      .plain "DATABASE_NAME" db.databaseName, .plain "DATABASE_VENDOR" db.vendor.name,
      .plain "DATABASE_SCHEMA_COMMAND" "CREATE_SCHEMA",
      .fromSecret "DATABASE_USER" secretName "username",
      .fromSecret "DATABASE_PASSWORD" secretName "password"] ++ parameters ++ tablespace) }

/-- The schemas one qualifier needs on a database. -/
structure SchemaPreparation where
  owner : Reference
  qualifier : String
  database : ConnectionInfo
  /-- The schema qualifiers, sorted and without repetition. -/
  schemas : List String
  images : ImageResolver
  schemasAscending : schemas.Pairwise (· < ·)

namespace SchemaPreparation

variable {n : Type → Type} [Monad n]

/-- Create the Secret of each schema and read back the prepared schema it describes. -/
def schemaSecrets (p : SchemaPreparation) (api : ClusterApi n) (rt : Runtime) (strategy : VendorStrategy) :
    List String → ExceptT Error n (List (String × SchemaResult))
  | [] => pure []
  | schema :: rest => do
    let secretName := Names.schemaSecretName p.owner.name schema
    let username := Names.schemaUsername p.owner.name schema strategy.maxUsernameLength
    let desired := Secret.credentials (p.owner.ownedMeta secretName p.qualifier) username (rt.password ⟨p.owner.ns, secretName⟩)
    let secret ← api.createSecretIfAbsent desired
    let result : SchemaResult :=
      { vendor := p.database.vendor, host := p.database.host, port := p.database.port,
        databaseName := p.database.databaseName, schemaName := (secret.value "username").getD username,
        schemaSecretName := some secretName, jdbcParameters := p.database.jdbcParameters }
    let results ← p.schemaSecrets api rt strategy rest
    pure ((schema, result) :: results)

/-- The preparation Job: a container per schema, labelled with the qualifier,
given as long to run as the operator waits for it. -/
def job (p : SchemaPreparation) (rt : Runtime) : Job :=
  let label := Names.deploymentLabel p.owner.name p.qualifier
  let image := p.images.uri dbJobImage none
  let plan : Children.JobPlan :=
    { generateName := p.owner.name ++ "-" ++ p.qualifier ++ "-db-preparation-", owner := p.owner,
      containers := p.schemas.map fun s =>
        creationContainer p.database image s (Names.schemaSecretName p.owner.name s),
      activeDeadline := some ((rt.config.podCompletionTimeoutMs / 1000 : Nat) : Int) }
  (plan.withLabels (.singleton dbPreparationLabel label)).build

/-- Record the phase of a Job in the status. -/
def recordJob (job : Job) : Pass n Unit :=
  updateStatus fun s => { s with podPhases := KeyMap.put s.podPhases (nameOf job.metadata) job.phase }

/-- Prepare the schemas and return how to connect to each. -/
def run (p : SchemaPreparation) (api : ClusterApi n) (rt : Runtime) : Pass n (KeyMap SchemaResult) := do
  if !p.database.vendor.isExternalServer then return embeddedResults p.schemas
  let strategy ← match VendorStrategy.of? p.database.vendor with
    | some s => pure s
    | none => throw (.illegalState ("no strategy for vendor " ++ p.database.vendor.name))
  let ns := p.owner.ns
  let results ← liftCall (p.schemaSecrets api rt strategy p.schemas)
  let label := Names.deploymentLabel p.owner.name p.qualifier
  liftCall (api.deleteJobs ns (dbPreparationLabel ++ "=" ++ label))
  let created ← liftCall (api.createJob (p.job rt))
  let jobName := nameOf created.metadata
  recordJob created
  let config := rt.config
  let probe : ExceptT Error n (Option Job) := do
    pure ((← api.loadJob ns jobName).filter (·.isFinished))
  let outcome ← liftCall (attempt (pollUntil config.pollIntervalMs config.podCompletionTimeoutMs
    ("waiting for Job " ++ ns ++ "/" ++ jobName ++ " to complete") probe))
  let finished ← match outcome with
    | .ok j => pure j
    | .error e => do
      match ← liftCall (attempt (api.loadJob ns jobName)) with
      | .ok (some j) => recordJob j
      | _ => pure ()
      throw (e.onResource "Job" ns jobName)
  recordJob finished
  if finished.phase == "Failed" then
    throw ((Error.resourceCreation ("schema preparation Job " ++ jobName ++ " failed")).onResource "Job" ns jobName)
  for (schema, result) in results do
    updateStatus (·.putDerived (schema ++ "JdbcUrl") result.jdbcUrl)
  pure (KeyMap.ofList results)

end SchemaPreparation

end StackOperator.Deploy
