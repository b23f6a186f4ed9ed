import Mathlib
import StackOperator.Proofs.CivilCalendar

/-!
# Instants read back from their text

`Instant.render` writes the date and the time of day as fields of ASCII digits, each padded to
its width but the year, which takes a sign beyond four digits, and `Instant.parse` reads the
fields back one after another. Each field reader is given its lemma here: on a text of digits
followed by something that is not a digit, it returns the digits' value and the rest.

Main statement: `parse_render`, every instant that has a text (`Instant.Valid`: its day is one of
`dayRange`, and nanoseconds from one billion on only in the last second of a minute, where they
hold a leap second) is read back from the text `render` writes. `decode_render` is the same for
the instant as a JSON string.
-/

namespace StackOperator.Instant

/-! ## Texts of digits -/

/-- `ds` is a text of `w` ASCII digits whose value is `n`. -/
structure Digits (ds : List Char) (w n : Nat) : Prop where
  length : ds.length = w
  digit : ∀ c ∈ ds, c.isDigit = true
  value : digitsValue ds = n

theorem digitsValue_eq (ds : List Char) : digitsValue ds = Nat.ofDigitChars 10 ds 0 := by
  rw [digitsValue, Nat.ofDigitChars_eq_foldl]
  congr
  funext acc c
  rw [Nat.mul_comm]

theorem Digits.exists_cons {ds : List Char} {w n : Nat} (digits : Digits ds w n) (wide : 0 < w) :
    ∃ c cs, ds = c :: cs ∧ c.isDigit = true := by
  cases ds with
  | nil =>
    have := digits.length
    simp at this
    omega
  | cons c cs => exact ⟨c, cs, rfl, digits.digit c List.mem_cons_self⟩

theorem digits_toDigits (n : Nat) : Digits (Nat.toDigits 10 n) (Nat.toDigits 10 n).length n :=
  ⟨rfl, fun _ mem => Nat.isDigit_of_mem_toDigits (by decide) (by decide) mem,
    by rw [digitsValue_eq, Nat.ofDigitChars_ten_toDigits]⟩

theorem Digits.zeros {ds : List Char} {w n : Nat} (digits : Digits ds w n) (k : Nat) :
    Digits (List.replicate k '0' ++ ds) (k + w) n := by
  refine ⟨by simp [digits.length], ?_, ?_⟩
  · intro c mem
    rcases List.mem_append.mp mem with zero | digit
    · rw [List.eq_of_mem_replicate zero]
      rfl
    · exact digits.digit c digit
  · rw [digitsValue_eq, Nat.ofDigitChars_append, Nat.ofDigitChars_replicate_zero, Nat.mul_zero,
      ← digitsValue_eq, digits.value]

theorem toList_padTo (w n : Nat) :
    (padTo w n).toList = List.replicate (w - (Nat.toDigits 10 n).length) '0' ++ Nat.toDigits 10 n := by
  simp [padTo, Nat.toString_eq_repr, ← String.length_toList, Nat.toList_repr]

theorem digits_padTo (w n : Nat) :
    Digits (padTo w n).toList (w - (Nat.toDigits 10 n).length + (Nat.toDigits 10 n).length) n := by
  rw [toList_padTo]
  exact (digits_toDigits n).zeros _

theorem digits_padTo_of_lt {w n : Nat} (fits : n < 10 ^ w) (wide : 0 < w) : Digits (padTo w n).toList w n := by
  have short : (Nat.toDigits 10 n).length ≤ w := (Nat.length_toDigits_le_iff (by decide) wide).mpr fits
  have digits := digits_padTo w n
  rwa [Nat.sub_add_cancel short] at digits

theorem toList_pad2 {n : Nat} (fits : n < 100) : (pad2 n).toList = (padTo 2 n).toList := by
  rw [toList_padTo]
  unfold pad2
  split
  · simp [Nat.toDigits_of_lt_base ‹n < 10›, Nat.toString_eq_repr, Nat.toList_repr]
  · have two : (Nat.toDigits 10 n).length = 2 := by
      have atMost := (Nat.length_toDigits_le_iff (b := 10) (n := n) (k := 2) (by decide) (by decide)).mpr (by omega)
      have notOne := (Nat.length_toDigits_le_iff (b := 10) (n := n) (k := 1) (by decide) (by decide)).not.mpr (by omega)
      omega
    simp [two, Nat.toString_eq_repr, Nat.toList_repr]

theorem digits_pad2 {n : Nat} (fits : n < 100) : Digits (pad2 n).toList 2 n := by
  rw [toList_pad2 fits]
  exact digits_padTo_of_lt (by omega) (by decide)

/-! ## Reading fields

Each reader is applied to digits followed by a text `rest` whose first character, if any, is
no digit (`stop`). -/

theorem isBlank_of_isDigit {c : Char} (digit : c.isDigit = true) : Text.isBlank c = false := by
  have code : 48 ≤ c.toNat ∧ c.toNat ≤ 57 := by
    simp only [Char.isDigit, Bool.and_eq_true, decide_eq_true_eq, UInt32.le_iff_toNat_le] at digit
    exact digit
  simp only [Text.isBlank, decide_eq_false_iff_not]
  omega

theorem skipBlanks_cons {c : Char} (rest : List Char) (notBlank : Text.isBlank c = false) :
    skipBlanks (c :: rest) = c :: rest := by
  simp [skipBlanks, notBlank]

theorem skipBlanks_digits {ds rest : List Char} {w n : Nat} (digits : Digits ds w n) (wide : 0 < w) :
    skipBlanks (ds ++ rest) = ds ++ rest := by
  obtain ⟨c, cs, rfl, first⟩ := digits.exists_cons wide
  exact skipBlanks_cons _ (isBlank_of_isDigit first)

theorem takeWhile_take_of_stop {rest : List Char} (stop : ∀ c ∈ rest.head?, c.isDigit = false) (k : Nat) :
    (rest.take k).takeWhile Char.isDigit = [] := by
  cases rest with
  | nil => simp
  | cons c tail =>
    cases k with
    | zero => simp
    | succ k => simp [stop c rfl]

theorem takeWhile_of_stop {rest : List Char} (stop : ∀ c ∈ rest.head?, c.isDigit = false) :
    rest.takeWhile Char.isDigit = [] := by
  simpa using takeWhile_take_of_stop stop rest.length

theorem number_digits {ds rest : List Char} {w n most : Nat} (digits : Digits ds w n) (wide : 0 < w)
    (within : w ≤ most) (stop : ∀ c ∈ rest.head?, c.isDigit = false) :
    number (ds ++ rest) most = .ok (n, rest) := by
  have taken : ((ds ++ rest).take most).takeWhile Char.isDigit = ds := by
    rw [List.take_append, List.take_of_length_le (by rw [digits.length]; omega),
      List.takeWhile_append_of_pos digits.digit, takeWhile_take_of_stop stop, List.append_nil]
  have value := digits.value
  obtain ⟨c, cs, rfl, first⟩ := digits.exists_cons wide
  simp only [List.cons_append] at taken
  unfold number
  simp only [List.cons_append, first, Bool.not_true, Bool.false_eq_true, if_false, taken, value]
  rw [← List.cons_append, List.drop_left]

theorem field_digits {ds rest : List Char} {n lo hi : Nat} (digits : Digits ds 2 n) (range : lo ≤ n ∧ n ≤ hi)
    (stop : ∀ c ∈ rest.head?, c.isDigit = false) : field (ds ++ rest) lo hi = .ok (n, rest) := by
  have inside : ¬(n < lo ∨ hi < n) := by omega
  simp only [field, skipBlanks_digits digits (by decide), number_digits digits (by decide) (le_refl 2) stop,
    bind, Except.bind, inside, if_false]
  rfl

theorem separator_cons {c : Char} (rest : List Char) (notBlank : Text.isBlank c = false) :
    separator c (c :: rest) = .ok rest := by
  simp [separator, skipBlanks_cons rest notBlank]

theorem year_digits {ds rest : List Char} {w n : Nat} (digits : Digits ds w n) (wide : 0 < w) (short : w ≤ 4)
    (stop : ∀ c ∈ rest.head?, c.isDigit = false) : year (ds ++ rest) = .ok ((n : Int), rest) := by
  have read : number (ds ++ rest) 4 = .ok (n, rest) := number_digits digits wide short stop
  have skipped : skipBlanks (ds ++ rest) = ds ++ rest := skipBlanks_digits digits wide
  obtain ⟨c, cs, rfl, first⟩ := digits.exists_cons wide
  unfold year
  rw [skipped]
  split
  case h_1 _ sign | h_2 _ sign =>
    -- a digit is no sign
    simp only [List.cons_append, List.cons.injEq] at sign
    rw [sign.1] at first
    contradiction
  case h_3 =>
    simp only [read, bind, Except.bind]
    rfl

theorem year_signed {ds rest : List Char} {w n : Nat} (digits : Digits ds w n) (wide : 0 < w) (negative : Bool)
    (range : n ≤ 2147483647) (stop : ∀ c ∈ rest.head?, c.isDigit = false) :
    year ((if negative then '-' else '+') :: (ds ++ rest)) = .ok (if negative then -(n : Int) else n, rest) := by
  have read : number (ds ++ rest) (ds ++ rest).length = .ok (n, rest) :=
    number_digits digits wide (by simp [digits.length]) stop
  have small : ¬ n > wordMax := by unfold wordMax; omega
  have fits : ¬((n : Int) < -2147483648 ∨ 2147483647 < (n : Int)) := by omega
  have negFits : ¬(-(n : Int) < -2147483648 ∨ 2147483647 < -(n : Int)) := by omega
  cases negative
  · simp only [Bool.false_eq_true, if_false]
    rw [year, skipBlanks_cons _ (by decide)]
    simp only [read, bind, Except.bind, small, fits, Bool.false_eq_true, if_false]
    rfl
  · simp only [if_true]
    rw [year, skipBlanks_cons _ (by decide)]
    simp only [read, bind, Except.bind, small, negFits, if_false, if_true]
    rfl

theorem fraction_digits {ds rest : List Char} {w n : Nat} (digits : Digits ds w n) (wide : 0 < w) (short : w ≤ 9)
    (stop : ∀ c ∈ rest.head?, c.isDigit = false) :
    fraction ('.' :: (ds ++ rest)) = .ok (n * Nat.pow 10 (9 - w), rest) := by
  have taken : (ds ++ rest).takeWhile Char.isDigit = ds := by
    rw [List.takeWhile_append_of_pos digits.digit, takeWhile_of_stop stop, List.append_nil]
  have kept : ds.take 9 = ds := List.take_of_length_le (by rw [digits.length]; omega)
  have value := digits.value
  have len := digits.length
  obtain ⟨c, cs, rfl, first⟩ := digits.exists_cons wide
  simp only [List.cons_append] at taken
  simp only [fraction, number, List.cons_append, first, Bool.not_true, Bool.false_eq_true, if_false, bind,
    Except.bind, taken]
  rw [kept, value, len, ← List.cons_append, List.drop_left' len]
  rfl

/-- A point and `k` digits, then the zone designator. -/
theorem fraction_point {k n : Nat} (wide : 0 < k) (short : k ≤ 9) (fits : n < 10 ^ k) :
    fraction (("." ++ padTo k n).toList ++ ['Z']) = .ok (n * Nat.pow 10 (9 - k), ['Z']) := by
  rw [String.toList_append, show ".".toList = ['.'] from rfl, List.singleton_append, List.cons_append]
  exact fraction_digits (digits_padTo_of_lt fits wide) wide short (by simp)

/-- Nanoseconds that are a whole number of units of `10 ^ (9 - k)`, written as `k` digits of those
units, read back. -/
theorem fraction_units {k ns : Nat} (wide : 0 < k) (short : k ≤ 9) (fits : ns < 1000000000)
    (whole : ns % Nat.pow 10 (9 - k) = 0) :
    fraction (("." ++ padTo k (ns / Nat.pow 10 (9 - k))).toList ++ ['Z']) = .ok (ns, ['Z']) := by
  rw [Nat.pow_eq] at whole ⊢
  have second : 10 ^ k * 10 ^ (9 - k) = 1000000000 := by
    rw [← Nat.pow_add, Nat.add_sub_of_le short]
  have units : ns / 10 ^ (9 - k) < 10 ^ k := by
    rw [Nat.div_lt_iff_lt_mul (Nat.pow_pos (by decide)), second]
    exact fits
  rw [fraction_point wide short units, Nat.pow_eq, Nat.div_mul_cancel (Nat.dvd_of_mod_eq_zero whole)]

/-! ## The text of an instant -/

/-- The year as `render` writes it: four digits, or a sign and the digits. -/
def yearText (y : Int) : String :=
  if 0 ≤ y ∧ y ≤ 9999 then padTo 4 y.toNat
  else if y < 0 then "-" ++ padTo 4 y.natAbs else "+" ++ toString y

/-- The fraction of a second as `render` writes it: none, or a point and three, six or nine digits. -/
def fracText (ns : Nat) : String :=
  if ns = 0 then ""
  else if ns % 1000000 = 0 then "." ++ padTo 3 (ns / 1000000)
  else if ns % 1000 = 0 then "." ++ padTo 6 (ns / 1000)
  else "." ++ padTo 9 ns

/-- An instant that has a text: its day is one of `dayRange`, and its nanoseconds are below a
second, or below two in the last second of a minute, where they hold a leap second. -/
def Valid (t : Instant) : Prop :=
  (dayRange.1 ≤ t.seconds / 86400 ∧ t.seconds / 86400 ≤ dayRange.2) ∧
    (t.frac < nanosPerSecond ∨ t.frac < 2 * nanosPerSecond ∧ t.seconds % 60 = 59)

instance : DecidablePred Valid := fun _ => inferInstanceAs (Decidable (_ ∧ _))

theorem toList_render (t : Instant) :
    let date := civilOfDays (t.seconds / 86400)
    let inDay := (t.seconds % 86400).toNat
    let leap := t.frac ≥ nanosPerSecond
    t.render.toList = (yearText date.1).toList ++ '-' :: ((pad2 date.2.1).toList ++ '-' ::
      ((pad2 date.2.2).toList ++ 'T' :: ((pad2 (inDay / 3600)).toList ++ ':' ::
      ((pad2 (inDay / 60 % 60)).toList ++ ':' :: ((pad2 (inDay % 60 + if leap then 1 else 0)).toList ++
      ((fracText (if leap then t.frac - nanosPerSecond else t.frac)).toList ++ ['Z'])))))) := by
  simp [render, yearText, fracText, toString]

theorem year_yearText {y : Int} (range : -262143 ≤ y ∧ y ≤ 262142) {rest : List Char}
    (stop : ∀ c ∈ rest.head?, c.isDigit = false) : year ((yearText y).toList ++ rest) = .ok (y, rest) := by
  unfold yearText
  split
  · rename_i plain
    have digits := digits_padTo_of_lt (w := 4) (n := y.toNat) (by omega) (by decide)
    rw [year_digits digits (by decide) (le_refl 4) stop, Int.toNat_of_nonneg plain.1]
  split
  · rename_i _ negative
    have read := year_signed (digits_padTo 4 y.natAbs) (by have := @Nat.length_toDigits_pos 10 y.natAbs; omega)
      true (by omega) stop
    simp only [if_true] at read
    have sign : -(y.natAbs : Int) = y := by omega
    rw [String.toList_append, show "-".toList = ['-'] from rfl, List.singleton_append, List.cons_append, read,
      sign]
  · rename_i _ positive
    have read := year_signed (digits_toDigits y.toNat) Nat.length_toDigits_pos false (by omega) stop
    have text : (toString y).toList = Nat.toDigits 10 y.toNat := by
      obtain ⟨n, rfl⟩ := Int.eq_ofNat_of_zero_le (by omega : 0 ≤ y)
      rw [Int.toNat_natCast]
      exact Nat.toList_repr
    rw [String.toList_append, show "+".toList = ['+'] from rfl, List.singleton_append, List.cons_append, text]
    simpa [Int.toNat_of_nonneg (by omega : 0 ≤ y)] using read

theorem fraction_fracText {ns : Nat} (fits : ns < nanosPerSecond) :
    fraction ((fracText ns).toList ++ ['Z']) = .ok (ns, ['Z']) := by
  unfold nanosPerSecond at fits
  unfold fracText
  split
  · rename_i zero
    rw [zero]
    rfl
  -- milliseconds, microseconds or nanoseconds, whichever is the largest unit the value is whole in
  split
  · exact fraction_units (k := 3) (by decide) (by decide) fits ‹_›
  split
  · exact fraction_units (k := 6) (by decide) (by decide) fits ‹_›
  · have read := fraction_units (k := 9) (by decide) (le_refl 9) fits (Nat.mod_one ns)
    rwa [show Nat.pow 10 (9 - 9) = 1 from rfl, Nat.div_one] at read

theorem fracText_stop (ns : Nat) : ∀ c ∈ ((fracText ns).toList ++ ['Z']).head?, c.isDigit = false := by
  unfold fracText
  split
  · simp
  split
  · simp
  split <;> simp

theorem monthLength_le (y : Int) (m : Nat) : monthLength y m ≤ 31 := by
  unfold monthLength
  split <;> (try split) <;> omega

/-- The second field and the fraction read back: a leap second, written as second 60, is the
second before it with nanoseconds from one billion on. -/
theorem secondField_read {t : Instant} (frac : t.frac < nanosPerSecond ∨ t.frac < 2 * nanosPerSecond ∧ t.seconds % 60 = 59) :
    (if ((t.seconds % 86400).toNat % 60 + if t.frac ≥ nanosPerSecond then 1 else 0) = 60 then
      (59, (if t.frac ≥ nanosPerSecond then t.frac - nanosPerSecond else t.frac) + nanosPerSecond)
      else ((t.seconds % 86400).toNat % 60 + if t.frac ≥ nanosPerSecond then 1 else 0,
        if t.frac ≥ nanosPerSecond then t.frac - nanosPerSecond else t.frac)) =
      ((t.seconds % 86400).toNat % 60, t.frac) := by
  unfold nanosPerSecond at *
  by_cases leap : t.frac ≥ 1000000000
  · have last : (t.seconds % 86400).toNat % 60 = 59 := by omega
    simp only [leap, if_true, last]
    rw [Nat.sub_add_cancel leap]
  · have early : (t.seconds % 86400).toNat % 60 + 0 ≠ 60 := by omega
    simp only [leap, if_false, early]
    simp

/-- The whole days and the hours, minutes and seconds into the last one add back up. -/
theorem days_add_timeOfDay (s : Int) :
    s / 86400 * 86400 + (((s % 86400).toNat / 3600 * 3600 + (s % 86400).toNat / 60 % 60 * 60 +
      (s % 86400).toNat % 60 : Nat) : Int) = s := by
  omega

theorem parse_render {t : Instant} (valid : t.Valid) : parse t.render = .ok t := by
  obtain ⟨⟨lo, hi⟩, frac⟩ := valid
  have date := civilOfDays_isDateOf (t.seconds / 86400)
  have years := year_mem_of_isDateOf date lo hi
  have month := digits_pad2 (n := (civilOfDays (t.seconds / 86400)).2.1) (by have := date.month; omega)
  have day := digits_pad2 (n := (civilOfDays (t.seconds / 86400)).2.2)
    (by have := date.day; have := monthLength_le ((civilOfDays (t.seconds / 86400)).1) (civilOfDays (t.seconds / 86400)).2.1; omega)
  have inDay : (t.seconds % 86400).toNat < 86400 := by omega
  have hour := digits_pad2 (n := (t.seconds % 86400).toNat / 3600) (by omega)
  have minute := digits_pad2 (n := (t.seconds % 86400).toNat / 60 % 60) (by omega)
  have second := digits_pad2 (n := (t.seconds % 86400).toNat % 60 + if t.frac ≥ nanosPerSecond then 1 else 0)
    (by split <;> omega)
  -- the fields are read one after another, each returning the rest of the text
  unfold parse
  rw [toList_render, year_yearText years (by simp)]
  simp only [bind, Except.bind]
  rw [separator_cons _ (by decide)]
  dsimp only
  rw [field_digits month date.month (by simp)]
  dsimp only
  rw [separator_cons _ (by decide)]
  dsimp only
  rw [field_digits day ⟨date.day.1, le_trans date.day.2 (monthLength_le _ _)⟩ (by simp)]
  dsimp only
  simp only [true_or, if_true, pure, Except.pure]
  rw [field_digits hour (by omega) (by simp)]
  dsimp only
  rw [separator_cons _ (by decide)]
  dsimp only
  rw [field_digits minute (by omega) (by simp)]
  dsimp only
  rw [separator_cons _ (by decide)]
  dsimp only
  rw [field_digits second (by split <;> omega) (fracText_stop _)]
  dsimp only
  rw [fraction_fracText (by unfold nanosPerSecond at *; split <;> omega)]
  dsimp only
  rw [show offset (skipBlanks ['Z']) = .ok (0, []) from rfl]
  dsimp only
  -- then the checks: the date exists, the offset is zero and the day is in range
  have exists_ : ¬((civilOfDays (t.seconds / 86400)).2.2 >
      monthLength (civilOfDays (t.seconds / 86400)).1 (civilOfDays (t.seconds / 86400)).2.1 ∨
      (civilOfDays (t.seconds / 86400)).1 < -262143 ∨ 262142 < (civilOfDays (t.seconds / 86400)).1) := by
    have := date.day
    omega
  have inRange : ¬(t.seconds / 86400 < dayRange.1 ∨ dayRange.2 < t.seconds / 86400) := by omega
  simp only [exists_, date.days, show skipBlanks ([] : List Char) = [] from rfl, List.isEmpty_nil, Bool.not_true,
    Bool.false_eq_true, if_false, secondField_read frac, Int.sub_zero, days_add_timeOfDay,
    show ¬((0 : Int) ≤ -86400 ∨ (86400 : Int) ≤ 0) by decide, inRange]

theorem decode_render {t : Instant} (valid : t.Valid) : decode (.str t.render) = .ok t := by
  simp [decode, parse_render valid]

end StackOperator.Instant
