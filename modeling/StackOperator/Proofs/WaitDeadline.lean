import StackOperator.Deploy.Wait
import Mathlib.Data.PNat.Defs

/-!
# A wait probes until its deadline, and no further

A wait runs on a clock that only its sleeps advance: it probes, stops on a value or a failed probe,
times out once the clock has reached the deadline, and otherwise sleeps for the interval, cut
short at the deadline (`pollClock`). With a positive interval it ends: every sleep brings the
clock closer to the deadline.

Main statement: `wait_probes_until_deadline`. For every positive interval, timeout and start, the
wait probes at the start, at every whole interval after it that is still before the deadline, and
at the deadline itself (`probeTimes`): `⌈timeout / interval⌉ + 1` probes, the last one at the
deadline and none after it. It probes at exactly those instants, in order, until a probe yields
(`pollAlong`); for probes that answer as a sequence, it returns the first value or the first
failure, and times out when none yields. The wait that runs in a deployment pass
(`pollUntil`, which counts its probes) is this wait.

The parts:

* `pollClock_eq_pollAlong`: the clock loop is a walk along the probe instants, by induction on the
  time left;
* `probeTimes_eq`: the instants in closed form, with `length_probeTimes`, `getLast?_probeTimes`
  and `le_deadline_of_mem_probeTimes` read off it;
* `pollAlong_const`, `pollUntil_eq_pollClock`: a probe that ignores the clock is probed as often
  as `probeCount` says;
* `pollAlong_answers`: probes that answer as a sequence give the first answer that is not empty.
-/

namespace StackOperator.Deploy

section Loop

variable {n : Type → Type} [Monad n] {α : Type}

/-- The wait on a clock that only sleeping advances: probe at `now`; stop on a value or a failed
probe; at or past the deadline, time out; otherwise sleep for the interval, cut short at the
deadline, and probe again. -/
def pollClock (probe : Nat → ExceptT Error n (Option α)) (onTimeout : Error) (interval : ℕ+)
    (deadline now : Nat) : ExceptT Error n α := do
  match ← probe now with
  | some v => pure v
  | none =>
    if deadline ≤ now then throw onTimeout
    else pollClock probe onTimeout interval deadline (now + min (interval : Nat) (deadline - now))
termination_by deadline - now
decreasing_by have := interval.pos; omega

/-- Probe at the given instants in turn until a probe yields a value or fails; time out after the
last one. -/
def pollAlong (probe : Nat → ExceptT Error n (Option α)) (onTimeout : Error) :
    List Nat → ExceptT Error n α
  | [] => throw onTimeout
  | t :: ts => do
    match ← probe t with
    | some v => pure v
    | none => pollAlong probe onTimeout ts

end Loop

/-- The instants at which the wait probes, from `now` until the deadline. -/
def probeTimes (interval : ℕ+) (deadline now : Nat) : List Nat :=
  if deadline ≤ now then [now]
  else now :: probeTimes interval deadline (now + min (interval : Nat) (deadline - now))
termination_by deadline - now
decreasing_by have := interval.pos; omega

section Loop

variable {n : Type → Type} [Monad n] {α : Type}

/-- The clock loop probes along the probe instants. -/
theorem pollClock_eq_pollAlong (probe : Nat → ExceptT Error n (Option α)) (onTimeout : Error)
    (interval : ℕ+) (deadline now : Nat) :
    pollClock probe onTimeout interval deadline now =
      pollAlong probe onTimeout (probeTimes interval deadline now) := by
  -- induction on the time left before the deadline, as both recursions go
  fun_induction probeTimes interval deadline now with
  | case1 now reached =>
    rw [pollClock]
    simp only [reached, ↓reduceIte, pollAlong]
  | case2 now early ih =>
    rw [pollClock]
    simp only [early, ↓reduceIte, ih, pollAlong]

/-- A probe that ignores the clock, probed along some instants, is probed once per instant. -/
theorem pollAlong_const (probe : ExceptT Error n (Option α)) (onTimeout : Error) (ts : List Nat) :
    pollAlong (fun _ => probe) onTimeout ts = pollFor probe onTimeout ts.length := by
  induction ts with
  | nil => rfl
  | cons t rest ih =>
    rw [pollAlong, List.length_cons, pollFor]
    -- the same probe, then the same continuation after each answer
    congr 1
    funext answer
    cases answer with
    | some v => rfl
    | none => exact ih

end Loop

/-! ## The probe instants -/

/-- The probe instants in closed form: every whole interval after `now` that is before the
deadline, then the deadline. -/
theorem probeTimes_eq (interval : ℕ+) {deadline now : Nat} (before : now ≤ deadline) :
    probeTimes interval deadline now =
      (List.range ((deadline - now + interval - 1) / interval)).map (fun k => now + interval * k) ++
        [deadline] := by
  have pos := interval.pos
  fun_induction probeTimes interval deadline now with
  | case1 now reached =>
    -- at the deadline: only the final probe
    have atDeadline : now = deadline := by omega
    have none : (deadline - now + interval - 1) / interval = 0 :=
      Nat.div_eq_of_lt (by omega)
    rw [none, atDeadline]
    rfl
  | case2 now early ih =>
    rw [ih (by omega)]
    by_cases whole : (interval : Nat) ≤ deadline - now
    · -- a whole interval fits before the deadline: one more probe of the interval sequence
      have step : min (interval : Nat) (deadline - now) = interval := Nat.min_eq_left whole
      have count : (deadline - now + interval - 1) / interval =
          (deadline - (now + interval) + interval - 1) / interval + 1 := by
        rw [← Nat.add_div_right _ pos]
        congr 1
        omega
      have shifted : (fun k => now + interval + interval * k) = (fun k => now + interval * k) ∘ Nat.succ := by
        funext k
        simp only [Function.comp_apply, Nat.mul_succ]
        omega
      rw [step, count, List.range_succ_eq_map, List.map_cons, List.map_map, List.cons_append, shifted,
        Nat.mul_zero, Nat.add_zero]
    · -- the sleep is cut short at the deadline: the next probe is the last
      have step : min (interval : Nat) (deadline - now) = deadline - now := by omega
      have last : (deadline - (now + (deadline - now)) + interval - 1) / interval = 0 :=
        Nat.div_eq_of_lt (by omega)
      have count : (deadline - now + interval - 1) / interval = 1 :=
        Nat.div_eq_of_lt_le (by omega) (by omega)
      rw [step, last, count]
      simp

theorem length_probeTimes (interval : ℕ+) (timeout start : Nat) :
    (probeTimes interval (start + timeout) start).length = (timeout + interval - 1) / interval + 1 := by
  rw [probeTimes_eq interval (Nat.le_add_right start timeout)]
  simp

theorem getLast?_probeTimes (interval : ℕ+) (timeout start : Nat) :
    (probeTimes interval (start + timeout) start).getLast? = some (start + timeout) := by
  rw [probeTimes_eq interval (Nat.le_add_right start timeout)]
  simp

/-- No probe comes before the start or after the deadline. -/
theorem le_deadline_of_mem_probeTimes (interval : ℕ+) (timeout start : Nat) {t : Nat}
    (mem : t ∈ probeTimes interval (start + timeout) start) : start ≤ t ∧ t ≤ start + timeout := by
  rw [probeTimes_eq interval (Nat.le_add_right start timeout), Nat.add_sub_cancel_left] at mem
  simp only [List.mem_append, List.mem_map, List.mem_range, List.mem_singleton] at mem
  rcases mem with ⟨k, early, rfl⟩ | rfl
  · -- the probe after `k` intervals still has a whole interval before the ceiling
    have fits : (k + 1) * interval ≤ timeout + interval - 1 :=
      (Nat.le_div_iff_mul_le interval.pos).mp early
    rw [Nat.succ_mul, Nat.mul_comm] at fits
    omega
  · exact ⟨Nat.le_add_right start timeout, Nat.le_refl _⟩

/-- The wait of a deployment pass counts its probes; with a positive interval it is the clock
loop probing at the probe instants. -/
theorem pollUntil_eq_pollClock {n : Type → Type} [Monad n] {α : Type} (interval : ℕ+)
    (timeout start : Nat) (what : String) (probe : ExceptT Error n (Option α)) :
    pollUntil interval timeout what probe =
      pollClock (fun _ => probe) (timedOut what timeout) interval (start + timeout) start := by
  rw [pollClock_eq_pollAlong, pollAlong_const, length_probeTimes, pollUntil]
  congr 1
  -- with a positive interval the probe count is the ceiling of the intervals, plus one
  unfold probeCount
  have pos := interval.pos
  split
  · next zero =>
    subst zero
    have none : (0 + (interval : Nat) - 1) / interval = 0 := Nat.div_eq_of_lt (by omega)
    rw [none]
  · rw [if_neg (by omega)]

/-! ## Answers -/

/-- What an answer of a probe does to a wait: nothing when it is empty, else it ends the wait
with its value or its failure. -/
def verdict {α : Type} : Except Error (Option α) → Option (Except Error α)
  | .ok none => none
  | .ok (some v) => some (.ok v)
  | .error e => some (.error e)

/-- Probes that answer as a sequence, one answer for each instant, give the first answer that is
not empty, or else the timeout. -/
theorem pollAlong_answers {n : Type → Type} [Monad n] [LawfulMonad n] {α : Type}
    (answer : Nat → Except Error (Option α)) (onTimeout : Error) (ts : List Nat) :
    (pollAlong (fun t => ExceptT.mk (pure (answer t) : n _)) onTimeout ts).run =
      pure ((ts.findSome? fun t => verdict (answer t)).getD (.error onTimeout)) := by
  induction ts with
  | nil => rfl
  | cons t rest ih =>
    simp only [pollAlong, ExceptT.run_bind, ExceptT.run_mk, pure_bind, List.findSome?_cons]
    cases answer t with
    | error e => rfl
    | ok found =>
      cases found with
      | none => exact ih
      | some v => rfl

/-- A wait with a positive interval probes at the start, at every whole interval after it that is
before the deadline, and at the deadline: `⌈timeout / interval⌉ + 1` probes, the last at the
deadline and none outside the wait. It probes at exactly those instants, in order, until a probe
yields, and returns the first value or the first failure of probes that answer as a sequence, or
the timeout when none yields. The wait of a deployment pass is this wait. -/
theorem wait_probes_until_deadline (interval : ℕ+) (timeout start : Nat) :
    probeTimes interval (start + timeout) start =
        (List.range ((timeout + interval - 1) / interval)).map (fun k => start + interval * k) ++
          [start + timeout] ∧
    (probeTimes interval (start + timeout) start).length = (timeout + interval - 1) / interval + 1 ∧
    (probeTimes interval (start + timeout) start).getLast? = some (start + timeout) ∧
    (∀ t ∈ probeTimes interval (start + timeout) start, start ≤ t ∧ t ≤ start + timeout) ∧
    (∀ (n : Type → Type) [Monad n] (α : Type) (probe : Nat → ExceptT Error n (Option α))
      (onTimeout : Error), pollClock probe onTimeout interval (start + timeout) start =
        pollAlong probe onTimeout (probeTimes interval (start + timeout) start)) ∧
    (∀ (n : Type → Type) [Monad n] [LawfulMonad n] (α : Type) (answer : Nat → Except Error (Option α))
      (onTimeout : Error),
      (pollClock (fun t => ExceptT.mk (pure (answer t) : n _)) onTimeout interval (start + timeout) start).run =
        pure (((probeTimes interval (start + timeout) start).findSome? fun t => verdict (answer t)).getD
          (.error onTimeout))) ∧
    (∀ (n : Type → Type) [Monad n] (α : Type) (what : String) (probe : ExceptT Error n (Option α)),
      pollUntil interval timeout what probe =
        pollClock (fun _ => probe) (timedOut what timeout) interval (start + timeout) start) := by
  have closed := probeTimes_eq interval (Nat.le_add_right start timeout)
  rw [Nat.add_sub_cancel_left] at closed
  refine ⟨closed, length_probeTimes interval timeout start, getLast?_probeTimes interval timeout start,
    fun t mem => le_deadline_of_mem_probeTimes interval timeout start mem,
    fun n _ α probe onTimeout => pollClock_eq_pollAlong probe onTimeout interval (start + timeout) start,
    fun n _ _ α answer onTimeout => ?_,
    fun n _ α what probe => pollUntil_eq_pollClock interval timeout start what probe⟩
  rw [pollClock_eq_pollAlong, pollAlong_answers]

/-- Every two seconds for five seconds: probes at 0, 2000, 4000 and 5000 ms; a probe that first
yields at 4000 ms gives its value. -/
theorem wait_probes_until_deadline_every_two_seconds :
    let answer : Nat → Except Error (Option Nat) := fun t => if t = 4000 then .ok (some 7) else .ok none
    probeTimes 2000 (0 + 5000) 0 = [0, 2000, 4000, 5000] ∧
    (pollClock (n := Id) (fun t => ExceptT.mk (pure (answer t))) (.timeout "pod") 2000 (0 + 5000) 0).run =
      pure (.ok 7) ∧
    pollUntil (n := Id) (2000 : ℕ+) 5000 "pod" (pure none : ExceptT Error Id (Option Nat)) =
      pollClock (fun _ => pure none) (timedOut "pod" 5000) 2000 (0 + 5000) 0 := by
  intro answer
  have wait := wait_probes_until_deadline 2000 5000 0
  have times : probeTimes 2000 (0 + 5000) 0 = [0, 2000, 4000, 5000] := by
    rw [wait.1]
    decide
  refine ⟨times, ?_, wait.2.2.2.2.2.2 Id Nat "pod" (pure none)⟩
  rw [wait.2.2.2.2.2.1 Id Nat answer (.timeout "pod"), times]
  rfl

end StackOperator.Deploy
