import StackOperator.Proofs.ImagePrecedence

/-!
# Resolution takes the first filled value of the highest source

`Property.resolve` orders the candidates by source, keeping the given order among candidates of
one source, and takes the first one whose value is present and does not trim to nothing.

Main statement: `resolve_first_filled_of_highest_source`. Resolution yields a source and a value
exactly when the candidates split around that value, given untrimmed under that source, such that
the value does not trim to nothing, every candidate of a higher source is skipped (absent or
blank), and so is every candidate of the same source before it. It yields nothing exactly when
every candidate is skipped, `resolveOr` takes the resolved value or else its default, and a
reordering that keeps the order among the candidates of each source resolves alike.

The parts:

* `usable_eq_none_iff`, `usable_eq_some_iff`: a candidate is skipped exactly when its value is
  absent or blank, and is otherwise taken as it is;
* `firstOf_eq_some_iff`, `firstOf_eq_none_iff`: the search of one source's candidates;
* `findSome?_all_eq_some`: a search of the sources in precedence order finds the highest source
  that yields, since `PropertySource.all` lists every source once, by rank;
* `resolve_eq_findSome?_firstOf`: resolution searches the sources, and each source's candidates.
-/

namespace StackOperator.PropertySource

theorem mem_all (s : PropertySource) : s ∈ all := by
  cases s <;> decide

/-- The sources are listed by rank, each once. -/
theorem all_pairwise : all.Pairwise (·.rank < ·.rank) := by
  decide

end StackOperator.PropertySource

namespace StackOperator.Property

/-- A value resolution passes over: absent, or empty once white space is trimmed. -/
def Skipped (value : Option String) : Prop := ∀ v ∈ value, Text.trim v = ""

theorem usable_eq_none_iff (c : Candidate) : usable c = none ↔ Skipped c.2 := by
  obtain ⟨s, _ | v⟩ := c
  · simp [usable, Skipped]
  · simp [usable, Skipped, Text.trim_eq_empty_iff]

theorem usable_eq_some_iff (c : Candidate) (s : PropertySource) (v : String) :
    usable c = some (s, v) ↔ c = (s, some v) ∧ Text.trim v ≠ "" := by
  obtain ⟨s', _ | v'⟩ := c
  · simp [usable]
  · rw [ne_eq, Text.trim_eq_empty_iff]
    by_cases blank : Text.isBlankText v' = true
    · simp only [usable, blank, if_true, reduceCtorEq, false_iff, not_and, Prod.mk.injEq,
        Option.some.injEq]
      rintro ⟨-, rfl⟩
      exact absurd blank
    · simp only [usable, blank, Bool.false_eq_true, if_false, Option.some.injEq, Prod.mk.injEq]
      constructor
      · rintro ⟨rfl, rfl⟩
        exact ⟨⟨rfl, rfl⟩, blank⟩
      · rintro ⟨⟨rfl, rfl⟩, -⟩
        exact ⟨rfl, rfl⟩

/-! ## The candidates of one source -/

/-- The first usable candidate of one source, in the order given. -/
def firstOf (cs : List Candidate) (s : PropertySource) : Option (PropertySource × String) :=
  (cs.filter (·.1 == s)).findSome? usable

/-- Searching the members that pass a filter is searching all members with the filter as a guard. -/
theorem findSome?_filter {α β : Type} (p : α → Bool) (f : α → Option β) (l : List α) :
    (l.filter p).findSome? f = l.findSome? fun a => if p a then f a else none := by
  induction l with
  | nil => rfl
  | cons a rest ih =>
    by_cases pass : p a
    · simp only [List.filter_cons_of_pos pass, List.findSome?_cons, pass, if_true, ih]
    · simp only [List.filter_cons_of_neg pass, List.findSome?_cons, pass, Bool.false_eq_true,
        if_false, ih]

theorem firstOf_eq_none_iff (cs : List Candidate) (s : PropertySource) :
    firstOf cs s = none ↔ ∀ c ∈ cs, c.1 = s → Skipped c.2 := by
  rw [firstOf, List.findSome?_eq_none_iff]
  constructor
  · intro passed c mem same
    exact (usable_eq_none_iff c).mp (passed c (List.mem_filter.mpr ⟨mem, beq_iff_eq.mpr same⟩))
  · intro skipped c mem
    obtain ⟨listed, same⟩ := List.mem_filter.mp mem
    exact (usable_eq_none_iff c).mpr (skipped c listed (beq_iff_eq.mp same))

theorem firstOf_eq_some_iff (cs : List Candidate) (s s' : PropertySource) (v : String) :
    firstOf cs s = some (s', v) ↔
      s' = s ∧ ∃ pre post, cs = pre ++ (s, some v) :: post ∧ Text.trim v ≠ "" ∧
        ∀ c ∈ pre, c.1 = s → Skipped c.2 := by
  rw [firstOf, findSome?_filter, List.findSome?_eq_some_iff]
  constructor
  · rintro ⟨pre, c, post, split, found, before⟩
    -- the guard passed at the value found, so it is a candidate of the source searched
    by_cases same : c.1 = s
    · rw [if_pos (beq_iff_eq.mpr same), usable_eq_some_iff] at found
      obtain ⟨rfl, filled⟩ := found
      obtain rfl : s' = s := same
      refine ⟨rfl, pre, post, split, filled, fun d mem hd => ?_⟩
      have passed := before d mem
      rwa [if_pos (beq_iff_eq.mpr hd), usable_eq_none_iff] at passed
    · rw [if_neg (by simpa using same)] at found
      cases found
  · rintro ⟨rfl, pre, post, split, filled, before⟩
    refine ⟨pre, (s', some v), post, split, ?_, fun d mem => ?_⟩
    · rw [if_pos (beq_self_eq_true s'), usable_eq_some_iff]
      exact ⟨rfl, filled⟩
    · by_cases same : d.1 = s'
      · rw [if_pos (beq_iff_eq.mpr same), usable_eq_none_iff]
        exact before d mem same
      · rw [if_neg (by simpa using same)]

/-! ## The sources in precedence order -/

/-- Searching the sources in precedence order finds the highest source that yields. -/
theorem findSome?_all_eq_some {β : Type} (g : PropertySource → Option β) (b : β) :
    PropertySource.all.findSome? g = some b ↔
      ∃ s, g s = some b ∧ ∀ s', s'.rank < s.rank → g s' = none := by
  rw [List.findSome?_eq_some_iff]
  constructor
  · rintro ⟨higher, s, lower, split, found, passed⟩
    refine ⟨s, found, fun s' above => passed s' ?_⟩
    have sorted := PropertySource.all_pairwise
    rw [split, List.pairwise_append, List.pairwise_cons] at sorted
    have listed := PropertySource.mem_all s'
    rw [split, List.mem_append, List.mem_cons] at listed
    rcases listed with inHigher | rfl | inLower
    · exact inHigher
    · exact absurd above (Nat.lt_irrefl _)
    · exact absurd above (Nat.lt_asymm (sorted.2.1.1 s' inLower))
  · rintro ⟨s, found, passed⟩
    obtain ⟨higher, lower, split⟩ := List.append_of_mem (PropertySource.mem_all s)
    refine ⟨higher, s, lower, split, found, fun s' mem => passed s' ?_⟩
    have sorted := PropertySource.all_pairwise
    rw [split, List.pairwise_append] at sorted
    exact sorted.2.2 s' mem s List.mem_cons_self

/-- Resolution searches the sources in precedence order, and each source's candidates in the
order given. -/
theorem resolve_eq_findSome?_firstOf (cs : List Candidate) :
    resolve cs = PropertySource.all.findSome? (firstOf cs) := by
  rw [resolve, ordered]
  induction PropertySource.all with
  | nil => rfl
  | cons s rest ih =>
    rw [List.flatMap_cons, List.findSome?_append, ih, List.findSome?_cons, ← firstOf]
    cases firstOf cs s <;> rfl

/-! ## Resolution -/

theorem resolve_eq_some_iff (cs : List Candidate) (s : PropertySource) (v : String) :
    resolve cs = some (s, v) ↔
      ∃ pre post, cs = pre ++ (s, some v) :: post ∧ Text.trim v ≠ "" ∧
        (∀ c ∈ pre, c.1 = s → Skipped c.2) ∧ ∀ c ∈ cs, c.1.rank < s.rank → Skipped c.2 := by
  rw [resolve_eq_findSome?_firstOf, findSome?_all_eq_some]
  -- a higher source yields nothing exactly when all its candidates are skipped
  have higher : (∀ s', s'.rank < s.rank → firstOf cs s' = none) ↔
      ∀ c ∈ cs, c.1.rank < s.rank → Skipped c.2 := by
    simp only [firstOf_eq_none_iff]
    exact ⟨fun passed c mem above => passed c.1 above c mem rfl,
      fun passed s' above c mem same => passed c mem (same ▸ above)⟩
  constructor
  · rintro ⟨s₀, found, passed⟩
    obtain ⟨rfl, pre, post, split, filled, before⟩ := (firstOf_eq_some_iff cs s₀ s v).mp found
    exact ⟨pre, post, split, filled, before, higher.mp passed⟩
  · rintro ⟨pre, post, split, filled, before, above⟩
    exact ⟨s, (firstOf_eq_some_iff cs s s v).mpr ⟨rfl, pre, post, split, filled, before⟩,
      higher.mpr above⟩

theorem resolve_eq_none_iff (cs : List Candidate) : resolve cs = none ↔ ∀ c ∈ cs, Skipped c.2 := by
  rw [resolve, List.findSome?_eq_none_iff]
  -- ordering only rearranges the candidates
  have same : ∀ c, c ∈ ordered cs ↔ c ∈ cs := fun c => by
    simp [ordered, PropertySource.mem_all]
  simp only [same, usable_eq_none_iff]

theorem resolveOr_eq (cs : List Candidate) (dflt : String) :
    resolveOr cs dflt = ((resolve cs).map (·.2)).getD dflt := by
  unfold resolveOr
  cases resolve cs <;> rfl

/-- Candidates that agree source by source resolve alike. -/
theorem resolve_congr {cs cs' : List Candidate} (same : ∀ s, cs'.filter (·.1 == s) = cs.filter (·.1 == s)) :
    resolve cs' = resolve cs := by
  simp only [resolve, ordered, same]

/-- Resolution takes, untrimmed, the first value that does not trim to nothing among the
candidates of the highest source that has one; `resolveOr` falls back to its default when there
is none; and a reordering of the candidates that keeps the order among those of each source
resolves alike. -/
theorem resolve_first_filled_of_highest_source (cs : List Candidate) :
    (∀ s v, resolve cs = some (s, v) ↔
      ∃ pre post, cs = pre ++ (s, some v) :: post ∧ Text.trim v ≠ "" ∧
        (∀ c ∈ pre, c.1 = s → Skipped c.2) ∧ ∀ c ∈ cs, c.1.rank < s.rank → Skipped c.2) ∧
    (resolve cs = none ↔ ∀ c ∈ cs, Skipped c.2) ∧
    (∀ dflt, resolveOr cs dflt = ((resolve cs).map (·.2)).getD dflt) ∧
    ∀ cs' : List Candidate, (∀ s, cs'.filter (·.1 == s) = cs.filter (·.1 == s)) →
      resolve cs' = resolve cs ∧ ∀ dflt, resolveOr cs' dflt = resolveOr cs dflt := by
  refine ⟨resolve_eq_some_iff cs, resolve_eq_none_iff cs, resolveOr_eq cs, fun cs' same => ?_⟩
  have resolved := resolve_congr same
  exact ⟨resolved, fun dflt => by rw [resolveOr_eq, resolveOr_eq, resolved]⟩

/-- Moving the fallback candidate to the end keeps the order among the config-map candidates, so
the resolution is the same. -/
theorem resolve_first_filled_of_highest_source_reordered :
    let cs : List Candidate :=
      [(.fallback, some "fallback"), (.configMap, some " "), (.override, none), (.configMap, some "7.1")]
    let cs' : List Candidate :=
      [(.configMap, some " "), (.override, none), (.configMap, some "7.1"), (.fallback, some "fallback")]
    (∀ s, cs'.filter (·.1 == s) = cs.filter (·.1 == s)) ∧
      resolve cs' = resolve cs ∧ ∀ dflt, resolveOr cs' dflt = resolveOr cs dflt := by
  intro cs cs'
  have same : ∀ s, cs'.filter (·.1 == s) = cs.filter (·.1 == s) := by
    intro s
    cases s <;> rfl
  exact ⟨same, (resolve_first_filled_of_highest_source cs).2.2.2 cs' same⟩

end StackOperator.Property
