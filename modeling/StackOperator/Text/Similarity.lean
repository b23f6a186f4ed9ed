/-!
# Similar words

The Jaro similarity of two words is a number between 0 and 1. Two characters
match when they are equal and no further apart than half the longer word's
length less one, each character matching at most once, in order. With `m`
matches between words of lengths `a` and `b`, and `t` half the number of
matched characters that appear in a different order in the two words, the
similarity is `(m/a + m/b + (m - t)/m) / 3`, and `0` without a match. Two
empty words are equal.

A misspelt word is taken to mean the most similar of the candidates whose
similarity is above `0.7`, the last one listed on a tie (`closest`).

The similarity is computed in binary floating point, as the comparison with
`0.7` is.

Main statement: `closest_mem`, a suggestion is one of the candidates, and one
similar above `0.7`.
-/

namespace StackOperator.Text

/-- Mark the first unmarked position of `b` within `[lo, hi)` that holds `c`. -/
def claimMatch (c : Char) (lo hi : Nat) : List (Char × Bool) → Nat → Option (List (Char × Bool))
  | [], _ => none
  | (d, taken) :: rest, j =>
    if lo ≤ j ∧ j < hi ∧ d = c ∧ !taken then some ((d, true) :: rest)
    else ((claimMatch c lo hi rest (j + 1)).map fun r => (d, taken) :: r)

/-- Match the characters of `a` from position `i` against the marks of `b`;
the matched characters of `a` in order, and the marks. -/
def matchAll (range : Nat) : List Char → Nat → List (Char × Bool) → List Char × List (Char × Bool)
  | [], _, marks => ([], marks)
  | c :: rest, i, marks =>
    let lo := i - range
    let hi := i + range + 1
    match claimMatch c lo hi marks 0 with
    | some marks' =>
      let (matched, final) := matchAll range rest (i + 1) marks'
      (c :: matched, final)
    | none => matchAll range rest (i + 1) marks

/-- The Jaro similarity of two words. -/
def jaro (a b : String) : Float :=
  let as := a.toList
  let bs := b.toList
  if as.isEmpty && bs.isEmpty then 1.0
  else if as.isEmpty || bs.isEmpty then 0.0
  else
    let range := max as.length bs.length / 2 - 1
    let (fromA, marks) := matchAll range as 0 (bs.map fun c => (c, false))
    let fromB := (marks.filter (·.2)).map (·.1)
    let m := fromA.length
    if m = 0 then 0.0
    else
      let half := ((fromA.zip fromB).filter fun (x, y) => x ≠ y).length / 2
      (m.toFloat / as.length.toFloat + m.toFloat / bs.length.toFloat +
        (m - half).toFloat / m.toFloat) / 3.0

/-- One step of the search for the closest candidate: a candidate above `0.7` that is no less
similar than the best so far replaces it. -/
def closestStep (word : String) (best : Option (String × Float)) (c : String) : Option (String × Float) :=
  let score := jaro word c
  if score > 0.7 then
    match best with
    | some (_, s) => if score < s then best else some (c, score)
    | none => some (c, score)
  else best

/-- The most similar candidate above `0.7`, the last listed on a tie. -/
def closest (word : String) (candidates : List String) : Option String :=
  (candidates.foldl (closestStep word) none).map (·.1)

/-- A step keeps what it had or takes its candidate, when that is above `0.7`. -/
theorem closestStep_kept {word c : String} {best : Option (String × Float)} {kept : String × Float}
    (stepped : closestStep word best c = some kept) :
    (kept.1 = c ∧ jaro word c > 0.7) ∨ best = some kept := by
  unfold closestStep at stepped
  dsimp only at stepped
  split at stepped
  · rename_i above
    split at stepped
    · split at stepped
      · exact .inr stepped
      · cases stepped
        exact .inl ⟨rfl, above⟩
    · cases stepped
      exact .inl ⟨rfl, above⟩
  · exact .inr stepped

/-- The search keeps a candidate above `0.7` met on the way, or what it started from. -/
theorem foldl_closestStep_kept (word : String) :
    ∀ (candidates : List String) (best : Option (String × Float)) (kept : String × Float),
      candidates.foldl (closestStep word) best = some kept →
      (kept.1 ∈ candidates ∧ jaro word kept.1 > 0.7) ∨ best = some kept
  | [], _, _, found => .inr found
  | c :: rest, best, kept, found => by
    rw [List.foldl_cons] at found
    rcases foldl_closestStep_kept word rest _ kept found with ⟨listed, above⟩ | stepped
    · exact .inl ⟨List.mem_cons_of_mem _ listed, above⟩
    · rcases closestStep_kept stepped with ⟨taken, above⟩ | started
      · exact .inl ⟨taken ▸ List.mem_cons_self, taken ▸ above⟩
      · exact .inr started

/-- A suggestion is one of the candidates, and one whose similarity to the word is above `0.7`. -/
theorem closest_mem {word suggestion : String} {candidates : List String}
    (suggested : closest word candidates = some suggestion) :
    suggestion ∈ candidates ∧ jaro word suggestion > 0.7 := by
  obtain ⟨kept, found, rfl⟩ := Option.map_eq_some_iff.mp suggested
  rcases foldl_closestStep_kept word candidates none kept found with found | started
  · exact found
  · cases started

end StackOperator.Text
