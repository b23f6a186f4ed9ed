import StackOperator.Error

/-!
# Bounded waits

The operator waits for Jobs to complete and pods to become ready by probing
every `interval` until the probe yields a value or `timeout` has passed. On
a clock that advances only while waiting, the probes run at `0`, `interval`,
`2 * interval`, … as long as that is before the deadline, and once more at the
deadline itself (`probeCount`); a wait without an interval probes at the
start and at the deadline. A probe that fails aborts the wait.

A wait that runs out fails with a timeout naming what it waited for and the
timeout in whole seconds.

Main statements: `probeCount_pos`, every wait probes at least once, and
`pollFor_some`, a wait whose first probe yields a value returns it.
-/

namespace StackOperator.Deploy

/-- How many times a wait of `timeoutMs` probes when it polls every `intervalMs`. -/
def probeCount (intervalMs timeoutMs : Nat) : Nat :=
  if timeoutMs = 0 then 1
  else if intervalMs = 0 then 2
  else (timeoutMs + intervalMs - 1) / intervalMs + 1

theorem probeCount_pos (intervalMs timeoutMs : Nat) : 0 < probeCount intervalMs timeoutMs := by
  unfold probeCount
  split
  · exact Nat.one_pos
  · split
    · exact Nat.two_pos
    · exact Nat.succ_pos _

section
variable {n : Type → Type} [Monad n]

/-- Probe up to `probes` times until the probe yields a value; fail with `onTimeout` after that. -/
def pollFor {α : Type} (probe : ExceptT Error n (Option α)) (onTimeout : Error) :
    Nat → ExceptT Error n α
  | 0 => throw onTimeout
  | k + 1 => do
    match ← probe with
    | some v => pure v
    | none => pollFor probe onTimeout k

theorem pollFor_some [LawfulMonad n] {α : Type} (onTimeout : Error) (k : Nat) (v : α) :
    pollFor (n := n) (pure (some v)) onTimeout (k + 1) = pure v := by
  simp [pollFor]

end

/-- The failure of a wait for `what` that gave up after `timeoutMs`. -/
def timedOut (what : String) (timeoutMs : Nat) : Error :=
  .timeout (what ++ " (gave up after " ++ toString (timeoutMs / 1000) ++ "s)")

/-- Probe every `intervalMs` until the probe yields a value, for at most `timeoutMs`. -/
def pollUntil {n : Type → Type} [Monad n] {α : Type} (intervalMs timeoutMs : Nat) (what : String)
    (probe : ExceptT Error n (Option α)) : ExceptT Error n α :=
  pollFor probe (timedOut what timeoutMs) (probeCount intervalMs timeoutMs)

end StackOperator.Deploy
