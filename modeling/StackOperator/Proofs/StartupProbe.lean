import StackOperator.Children.Objects
import Mathlib

/-!
# The startup probe and the readiness timeout

A container's startup probe checks every ten seconds, and its failure threshold is meant to give
a starting container as long as the readiness timeout allows: the timeout's whole seconds divided
by the period, and at least one period. The seconds are first taken as a 32-bit signed count,
which wraps past `2 ^ 31 - 1`.

Main statements:

* `startupProbe_spans_readiness`: for every container and every readiness timeout below
  `2 ^ 31` seconds, the startup probe has a period of ten seconds and a failure threshold of
  `max 1 ⌊⌊timeout / 1000⌋ / 10⌋`;
* `startupThreshold_wraps`: at `2 ^ 31` seconds the count wraps to the least 32-bit number and the
  threshold falls to one period.
-/

namespace StackOperator.Children

/-- A whole number of seconds below `2 ^ 31` is kept as it is by the 32-bit signed wrap. -/
theorem bmod_of_lt_two_pow_31 {s : Nat} (fits : s < 2 ^ 31) : Int.bmod (s : Int) 4294967296 = s :=
  Int.bmod_eq_of_le (by omega) (by omega)

/-- The startup probe of a container is the first of its probes. -/
theorem startupProbe_containerSpec (c : ContainerPlan) (inputs : DeploymentInputs) :
    (containerSpec c inputs).startupProbe = some (probes c inputs.config).1 :=
  rfl

/-- Below `2 ^ 31` seconds the failure threshold is the whole periods of the timeout, and at least
one. -/
theorem startupThreshold_of_fits (c : ContainerPlan) (config : OperatorConfig)
    (fits : config.podReadinessTimeoutMs / 1000 < 2 ^ 31) :
    (probes c config).1.failureThreshold =
      some (max 1 ((config.podReadinessTimeoutMs / 1000 / 10 : Nat) : Int)) := by
  show some (max ((Int.bmod ((config.podReadinessTimeoutMs / 1000 : Nat) : Int) 4294967296).tdiv 10) 1) = _
  rw [bmod_of_lt_two_pow_31 fits, Int.max_comm]
  -- on a count of seconds, division toward zero is division of naturals
  rw [Int.natCast_tdiv_eq_ediv]
  rfl

/-- For every container and every readiness timeout below `2 ^ 31` seconds, the startup probe
checks every ten seconds and allows the timeout's whole periods, at least one. -/
theorem startupProbe_spans_readiness (c : ContainerPlan) (inputs : DeploymentInputs)
    (fits : inputs.config.podReadinessTimeoutMs / 1000 < 2 ^ 31) :
    ∃ p, (containerSpec c inputs).startupProbe = some p ∧ p.periodSeconds = some 10 ∧
      p.failureThreshold = some (max 1 ((inputs.config.podReadinessTimeoutMs / 1000 / 10 : Nat) : Int)) :=
  ⟨(probes c inputs.config).1, startupProbe_containerSpec c inputs, rfl,
    startupThreshold_of_fits c inputs.config fits⟩

/-- The container the operator's own tests deploy: a plain server on port 8080. -/
def testContainer : ContainerPlan :=
  { qualifier := "server", imageRepository := "entando/test-image", port := 8080, memoryMi := 768,
    cpuMillis := 500 }

/-- With the default readiness timeout of ten minutes the startup probe allows sixty periods. -/
theorem startupProbe_spans_readiness_by_default :
    let inputs : DeploymentInputs := { config := {}, images := {} }
    inputs.config.podReadinessTimeoutMs / 1000 < 2 ^ 31 ∧
      ∃ p, (containerSpec testContainer inputs).startupProbe = some p ∧ p.periodSeconds = some 10 ∧
        p.failureThreshold = some (max 1 ((inputs.config.podReadinessTimeoutMs / 1000 / 10 : Nat) : Int)) :=
  ⟨by decide, startupProbe_spans_readiness testContainer _ (by decide)⟩

/-- A readiness timeout of `2 ^ 31` seconds wraps to the least 32-bit count: the startup probe
allows one period, not the timeout's whole periods. -/
theorem startupThreshold_wraps :
    let inputs : DeploymentInputs :=
      { config := { podReadinessTimeoutMs := 2147483648000 }, images := {} }
    let threshold := (containerSpec testContainer inputs).startupProbe.bind (·.failureThreshold)
    threshold = some 1 ∧
      threshold ≠ some (min (2 ^ 31 - 1) (max 1 ((inputs.config.podReadinessTimeoutMs / 1000 / 10 : Nat) : Int))) := by
  intro inputs threshold
  have wrapped : threshold = some 1 := by decide
  exact ⟨wrapped, by rw [wrapped]; decide⟩

end StackOperator.Children
