import Mathlib
import StackOperator.Names

/-!
# Database user names of schemas

The user of a schema is named after its resource and schema qualifier, written as an SQL
identifier and cut to the vendor's limit on user names. Vendors count that limit in bytes, while
`sanitise` works character by character; the two agree because an identifier is plain ASCII.

Main statement: `schemaUsername_fits_limit`. For every resource name and qualifier and every limit
of at least seven bytes, the user name is made of `[a-z0-9_]`, is at most the limit long, and is
the whole identifier when that fits; otherwise it is the identifier's first `limit - 7` bytes,
`_` and the first six hexadecimal digits of the identifier's SHA-256, exactly the limit long
(`UsernameFits`). The argument:

* `sanitise` writes only identifier characters (`isIdentChar_sanitiseChar`), each one byte long,
  so a text of them is as many bytes as characters (`utf8ByteSize_of_identChars`);
* the hexadecimal SHA-256 of a text is 64 lower-case hexadecimal digits (`length_sha256Hex`,
  `isHexDigit_sha256Hex`), since every compression round keeps eight state words
  (`size_compress`).
-/

namespace StackOperator

namespace Text

/-- A lower-case hexadecimal digit. -/
def isHexDigit (c : Char) : Bool := c.isDigit || ('a' ≤ c && c ≤ 'f')

theorem size_compress (h : Array UInt32) (block : Array UInt8) : (compress h block).size = 8 := by
  unfold compress
  dsimp only
  rfl

theorem size_foldl_compress (blocks : List (Array UInt8)) {h : Array UInt32} (eight : h.size = 8) :
    (blocks.foldl compress h).size = 8 := by
  induction blocks generalizing h with
  | nil => exact eight
  | cons block rest ih => exact ih (size_compress h block)

/-- The hash is eight words of four bytes. -/
theorem length_sha256 (msg : List UInt8) : (sha256 msg).length = 32 := by
  have words : ((blocksOf (sha256Pad msg)).foldl compress sha256Init).toList.length = 8 := by
    rw [Array.length_toList]
    exact size_foldl_compress _ rfl
  unfold sha256
  simp only [List.length_flatMap, List.length_cons, List.length_nil, List.map_const', words,
    List.sum_replicate_nat]

theorem toList_hexOf (bytes : List UInt8) :
    (hexOf bytes).toList = bytes.flatMap fun b =>
      ["0123456789abcdef".toList.getD (b.toNat / 16) '0', "0123456789abcdef".toList.getD (b.toNat % 16) '0'] := by
  simp [hexOf]

theorem length_sha256Hex (s : String) : (sha256Hex s).length = 64 := by
  rw [← String.length_toList, sha256Hex, toList_hexOf, List.length_flatMap]
  simp only [List.length_cons, List.length_nil, List.map_const', length_sha256, List.sum_replicate_nat]

/-- Every digit the hexadecimal table gives is a lower-case hexadecimal digit. -/
theorem isHexDigit_getD (i : Nat) : isHexDigit ("0123456789abcdef".toList.getD i '0') = true := by
  rw [List.getD_eq_getElem?_getD]
  by_cases small : i < 16
  · have table : "0123456789abcdef".toList.length = 16 := by decide
    rw [List.getElem?_eq_getElem (table ▸ small), Option.getD_some]
    have each : ∀ c ∈ "0123456789abcdef".toList, isHexDigit c = true := by simp [isHexDigit]
    exact each _ (List.getElem_mem _)
  · rw [List.getElem?_eq_none (by simpa using small)]
    rfl

theorem isHexDigit_sha256Hex (s : String) : ∀ c ∈ (sha256Hex s).toList, isHexDigit c = true := by
  intro c mem
  rw [sha256Hex, toList_hexOf, List.mem_flatMap] at mem
  obtain ⟨b, -, pair⟩ := mem
  simp only [List.mem_cons, List.not_mem_nil, or_false] at pair
  rcases pair with rfl | rfl <;> exact isHexDigit_getD _

end Text

namespace Names

/-- A character of an SQL identifier as the operator writes them: an ASCII lower-case letter, an
ASCII digit or `_`. -/
def isIdentChar (c : Char) : Bool := c.isLower || c.isDigit || c == '_'

/-! The ASCII classes of a character by its code. -/

theorem isLower_iff_toNat (c : Char) : c.isLower = true ↔ 97 ≤ c.toNat ∧ c.toNat ≤ 122 := by
  simp [Char.isLower, UInt32.le_iff_toNat_le]

theorem isUpper_iff_toNat (c : Char) : c.isUpper = true ↔ 65 ≤ c.toNat ∧ c.toNat ≤ 90 := by
  simp [Char.isUpper, UInt32.le_iff_toNat_le]

theorem isDigit_iff_toNat (c : Char) : c.isDigit = true ↔ 48 ≤ c.toNat ∧ c.toNat ≤ 57 := by
  simp [Char.isDigit, UInt32.le_iff_toNat_le]

theorem toNat_toLower_of_isUpper {c : Char} (upper : c.isUpper = true) : c.toLower.toNat = c.toNat + 32 := by
  rw [isUpper_iff_toNat] at upper
  unfold Char.toLower
  rw [dif_pos (by simp only [ge_iff_le, UInt32.le_iff_toNat_le, Char.toNat_val]; exact upper)]
  simp only [Char.toNat_mk, UInt32.toNat_add]
  simp
  omega

theorem toLower_of_not_isUpper {c : Char} (other : c.isUpper = false) : c.toLower = c := by
  unfold Char.toLower
  rw [dif_neg]
  simpa [Char.isUpper, UInt32.le_iff_toNat_le] using other

theorem isIdentChar_sanitiseChar (c : Char) : isIdentChar (sanitiseChar c) = true := by
  unfold sanitiseChar isIdentChar
  split
  · next alnum =>
    simp only [Char.isAlphanum, Char.isAlpha, Bool.or_eq_true] at alnum
    simp only [Bool.or_eq_true]
    -- an upper-case letter is moved down to its lower-case one; lower-case letters and digits stay
    cases upper : c.isUpper with
    | true =>
      rw [isLower_iff_toNat, toNat_toLower_of_isUpper upper]
      rw [isUpper_iff_toNat] at upper
      exact .inl (.inl (by omega))
    | false =>
      rw [toLower_of_not_isUpper upper]
      rcases alnum with (upper' | lower) | digit
      · exact absurd upper' (by simp [upper])
      · exact .inl (.inl lower)
      · exact .inl (.inr digit)
  · rfl

theorem isIdentChar_of_isHexDigit {c : Char} (hex : Text.isHexDigit c = true) : isIdentChar c = true := by
  simp only [Text.isHexDigit, Bool.or_eq_true, Bool.and_eq_true, decide_eq_true_eq] at hex
  simp only [isIdentChar, Bool.or_eq_true]
  rcases hex with digit | ⟨above, below⟩
  · exact .inl (.inr digit)
  · rw [Char.le_def, UInt32.le_iff_toNat_le, Char.toNat_val] at above below
    exact .inl (.inl ((isLower_iff_toNat c).mpr ⟨Nat.le_trans (by decide) above, Nat.le_trans below (by decide)⟩))

/-- An identifier character is one byte of UTF-8. -/
theorem utf8Size_of_isIdentChar {c : Char} (ident : isIdentChar c = true) : c.utf8Size = 1 := by
  rw [Char.utf8Size_eq_one_iff, UInt32.le_iff_toNat_le, Char.toNat_val]
  simp only [isIdentChar, Bool.or_eq_true, beq_iff_eq] at ident
  rcases ident with (lower | digit) | rfl
  · exact Nat.le_trans ((isLower_iff_toNat c).mp lower).2 (by decide)
  · exact Nat.le_trans ((isDigit_iff_toNat c).mp digit).2 (by decide)
  · decide

/-- A text of identifier characters is as many bytes as characters. -/
theorem utf8ByteSize_of_identChars (l : List Char) (ident : ∀ c ∈ l, isIdentChar c = true) :
    (String.ofList l).utf8ByteSize = l.length := by
  induction l with
  | nil => rfl
  | cons c rest ih =>
    rw [String.ofList_cons, String.utf8ByteSize_append, String.utf8ByteSize_singleton,
      utf8Size_of_isIdentChar (ident c List.mem_cons_self),
      ih fun x mem => ident x (List.mem_cons_of_mem c mem), List.length_cons, Nat.add_comm]

theorem toList_sanitise (name : String) : (sanitise name).toList = name.toList.map sanitiseChar := by
  simp [sanitise]

theorem isIdentChar_sanitise (name : String) : ∀ c ∈ (sanitise name).toList, isIdentChar c = true := by
  rw [toList_sanitise]
  intro c mem
  obtain ⟨x, -, rfl⟩ := List.mem_map.mp mem
  exact isIdentChar_sanitiseChar x

/-- A text of identifier characters is as many bytes as characters. -/
theorem utf8ByteSize_eq_length {s : String} (ident : ∀ c ∈ s.toList, isIdentChar c = true) :
    s.utf8ByteSize = s.length := by
  rw [← String.ofList_toList (s := s), utf8ByteSize_of_identChars _ ident, String.length_ofList,
    String.length_toList]

/-- A sanitised name is as many bytes as the name has characters. -/
theorem utf8ByteSize_sanitise (name : String) : (sanitise name).utf8ByteSize = name.length := by
  rw [utf8ByteSize_eq_length (isIdentChar_sanitise name), ← String.length_toList, toList_sanitise,
    List.length_map, String.length_toList]

/-- A name that does not fit: the identifier's head, `_`, and six digits of its hash. -/
theorem toList_schemaUsername_of_long (resource schema : String) {maxLen : Nat}
    (long : maxLen < (sanitise (resource ++ "_" ++ schema)).utf8ByteSize) :
    (schemaUsername resource schema maxLen).toList =
      (sanitise (resource ++ "_" ++ schema)).toList.take (maxLen - 7) ++
        '_' :: (Text.sha256Hex (sanitise (resource ++ "_" ++ schema))).toList.take 6 := by
  simp [schemaUsername, Nat.not_le.mpr long]

/-- What the user name of a schema promises for a limit of `maxLen` bytes. -/
structure UsernameFits (resource schema : String) (maxLen : Nat) : Prop where
  /-- The identifier is made of `[a-z0-9_]`, so it is as many bytes as `<resource>_<schema>` has
  characters. -/
  identifierChars : ∀ c ∈ (sanitise (resource ++ "_" ++ schema)).toList, isIdentChar c = true
  identifierBytes :
    (sanitise (resource ++ "_" ++ schema)).utf8ByteSize = (resource ++ "_" ++ schema).length
  /-- The hash is written as 64 lower-case hexadecimal digits. -/
  hashLength : (Text.sha256Hex (sanitise (resource ++ "_" ++ schema))).length = 64
  hashDigits : ∀ c ∈ (Text.sha256Hex (sanitise (resource ++ "_" ++ schema))).toList,
    Text.isHexDigit c = true
  /-- The user name is made of `[a-z0-9_]` and fits the limit. -/
  identChars : ∀ c ∈ (schemaUsername resource schema maxLen).toList, isIdentChar c = true
  bounded : (schemaUsername resource schema maxLen).utf8ByteSize ≤ maxLen
  /-- An identifier that fits is the user name. -/
  whole : (sanitise (resource ++ "_" ++ schema)).utf8ByteSize ≤ maxLen →
    schemaUsername resource schema maxLen = sanitise (resource ++ "_" ++ schema)
  /-- One that does not is cut to its first `maxLen - 7` bytes, followed by `_` and six digits of
  its hash, exactly the limit long. -/
  cut : maxLen < (sanitise (resource ++ "_" ++ schema)).utf8ByteSize →
    (schemaUsername resource schema maxLen).toList =
      (sanitise (resource ++ "_" ++ schema)).toList.take (maxLen - 7) ++
        '_' :: (Text.sha256Hex (sanitise (resource ++ "_" ++ schema))).toList.take 6 ∧
    (schemaUsername resource schema maxLen).utf8ByteSize = maxLen

/-- The user name of a schema fits every limit of at least seven bytes, the range that holds
every vendor's limit. -/
theorem schemaUsername_fits_limit (resource schema : String) (maxLen : Nat) (wide : 7 ≤ maxLen) :
    UsernameFits resource schema maxLen := by
  have fullIdent := isIdentChar_sanitise (resource ++ "_" ++ schema)
  have fits := schemaUsername_of_fits resource schema maxLen
  -- the cut name: its characters are the identifier's and the hash's, one byte each
  have cut : maxLen < (sanitise (resource ++ "_" ++ schema)).utf8ByteSize →
      (schemaUsername resource schema maxLen).toList =
        (sanitise (resource ++ "_" ++ schema)).toList.take (maxLen - 7) ++
          '_' :: (Text.sha256Hex (sanitise (resource ++ "_" ++ schema))).toList.take 6 ∧
      (schemaUsername resource schema maxLen).utf8ByteSize = maxLen ∧
      ∀ c ∈ (schemaUsername resource schema maxLen).toList, isIdentChar c = true := by
    intro long
    have listed := toList_schemaUsername_of_long resource schema long
    have ident : ∀ c ∈ (schemaUsername resource schema maxLen).toList, isIdentChar c = true := by
      rw [listed]
      intro c mem
      simp only [List.mem_append, List.mem_cons] at mem
      rcases mem with head | rfl | hash
      · exact fullIdent c (List.mem_of_mem_take head)
      · rfl
      · exact isIdentChar_of_isHexDigit (Text.isHexDigit_sha256Hex _ c (List.mem_of_mem_take hash))
    have longer := utf8ByteSize_eq_length fullIdent ▸ long
    have bytes : (schemaUsername resource schema maxLen).utf8ByteSize = maxLen := by
      rw [utf8ByteSize_eq_length ident, ← String.length_toList, listed]
      simp only [List.length_append, List.length_cons, List.length_take, String.length_toList,
        Text.length_sha256Hex]
      omega
    exact ⟨listed, bytes, ident⟩
  refine ⟨fullIdent, utf8ByteSize_sanitise _, Text.length_sha256Hex _, Text.isHexDigit_sha256Hex _, ?_, ?_, fits,
    fun long => ⟨(cut long).1, (cut long).2.1⟩⟩
  · by_cases short : (sanitise (resource ++ "_" ++ schema)).utf8ByteSize ≤ maxLen
    · rw [fits short]
      exact fullIdent
    · exact (cut (Nat.lt_of_not_le short)).2.2
  · by_cases short : (sanitise (resource ++ "_" ++ schema)).utf8ByteSize ≤ maxLen
    · rw [fits short]
      exact short
    · exact Nat.le_of_eq (cut (Nat.lt_of_not_le short)).2.1

/-- A long application name on Oracle's 30-byte limit. -/
theorem schemaUsername_fits_limit_of_long_name :
    7 ≤ 30 ∧ UsernameFits "entando-application-of-many-parts" "portdb" 30 :=
  ⟨by decide, schemaUsername_fits_limit _ _ 30 (by decide)⟩

end Names

end StackOperator
