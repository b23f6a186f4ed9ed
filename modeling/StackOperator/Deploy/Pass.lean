import StackOperator.Cluster.Api
import StackOperator.Config
import StackOperator.Time.Instant

/-!
# Deployment passes

A pass deploys one qualifier of a resource. Besides the cluster it keeps the
qualifier's `ServerStatus`, which grows step by step and is written back to
the resource after each step, so that a pass that fails part-way leaves an
inspectable status behind. A `Pass` computation therefore keeps the
status besides whatever its backend keeps; a failure keeps both as they were
when it happened, which is what the failed pass then records.

`Runtime` is what every pass runs with besides the cluster: the operator's
configuration, the instant of the pass (every timestamp the pass takes is
this one) and the passwords that new credentials get: one for each credentials
Secret, by its key, so that the Secrets of one pass get values of their own.
-/

namespace StackOperator.Deploy

open Cluster

/-- What a pass runs with besides the cluster. -/
structure Runtime where
  config : OperatorConfig
  /-- The wall-clock time of the pass. -/
  now : Instant
  /-- The password generated for the credentials Secret at a key. -/
  password : ObjectKey → String

/-- A computation of a pass over the backend monad `n`: it keeps the status
of the qualifier being deployed, and a failure keeps the status reached
before it (and whatever `n` keeps, such as the calls made). -/
abbrev Pass (n : Type → Type) := ExceptT Error (StateT ServerStatus n)

section
variable {n : Type → Type} [Monad n]

/-- A backend call made inside a pass; the status is left alone. -/
def liftCall {α : Type} (x : ExceptT Error n α) : Pass n α :=
  ExceptT.mk (StateT.lift x.run)

/-- The status reached so far. -/
def currentStatus : Pass n ServerStatus := getThe ServerStatus

/-- Change the status. -/
def updateStatus (f : ServerStatus → ServerStatus) : Pass n Unit :=
  modifyThe ServerStatus f

/-- Run a pass from a status; its result comes back with the final status. -/
def runPass {α : Type} (x : Pass n α) (status : ServerStatus) :
    ExceptT Error n (Except Error α × ServerStatus) :=
  ExceptT.lift (x.run.run status)

end

/-- The outcome of a computation as a value, so that a failure can be inspected. -/
def attempt {m : Type → Type} {α : Type} [Monad m] [MonadExcept Error m] (x : m α) : m (Except Error α) :=
  tryCatch (Except.ok <$> x) fun e => pure (.error e)

/-- Run a computation and ignore its failure. -/
def ignoring {m : Type → Type} [Monad m] [MonadExcept Error m] (x : m Unit) : m Unit :=
  tryCatch x fun _ => pure ()

/-- Attribute a failure of a computation to an object. -/
def onFailure {m : Type → Type} {α : Type} [Monad m] [MonadExcept Error m] (kind ns name : String)
    (x : m α) : m α :=
  tryCatch x fun e => throw (e.onResource kind ns name)

/-- A property of computations that every `pure` has and that `bind` keeps holds of a loop whose
body has it at every element of the list: the loops of a pass are checked one step at a time. -/
theorem forIn_of_pure_of_bind {m : Type → Type} [Monad m] {α γ : Type} (P : ∀ {β : Type}, m β → Prop)
    (pure : ∀ {β : Type} (b : β), P (Pure.pure b : m β))
    (bind : ∀ {β δ : Type} {x : m β} {g : β → m δ}, P x → (∀ b, P (g b)) → P (x >>= g))
    {f : α → γ → m (ForInStep γ)} (l : List α) (body : ∀ a ∈ l, ∀ b, P (f a b)) (init : γ) :
    P (forIn l init f) := by
  induction l generalizing init with
  | nil => exact pure init
  | cons a rest ih =>
    rw [List.forIn_cons]
    refine bind (body a List.mem_cons_self init) fun step => ?_
    -- a loop that is done returns its state; one that goes on runs over the rest of the list
    cases step with
    | done b => exact pure b
    | yield b => exact ih (fun a' listed => body a' (List.mem_cons_of_mem _ listed)) b

end StackOperator.Deploy
