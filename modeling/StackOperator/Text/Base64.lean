/-!
# Base64 and UTF-8 bytes

`base64` is the standard alphabet of RFC 4648 with `=` padding, used for the
bytes a Secret holds. `decodeUtf8Lossy` reads bytes as UTF-8 and puts one
U+FFFD for each maximal piece that is not UTF-8, as the Unicode standard
recommends. The UTF-8 bytes of a text read back as the text
(`decodeUtf8Lossy_toUTF8`): each well-formed sequence of one to four bytes
is read as its scalar value, and the encoding of a character is such a
sequence.
-/

namespace StackOperator.Text

/-- The 64 characters of the standard alphabet. -/
def base64Alphabet : List Char :=
  "ABCDEFGHIJKLMNOPQRSTUVWXYZabcdefghijklmnopqrstuvwxyz0123456789+/".toList

/-- Standard padded base64 of bytes. -/
def base64 (bytes : List UInt8) : String :=
  let ch (n : Nat) : Char := base64Alphabet.getD (n % 64) 'A'
  let rec go : List UInt8 → List Char
    | a :: b :: c :: rest =>
      let n := a.toNat * 65536 + b.toNat * 256 + c.toNat
      ch (n / 262144) :: ch (n / 4096) :: ch (n / 64) :: ch n :: go rest
    | [a, b] =>
      let n := a.toNat * 65536 + b.toNat * 256
      [ch (n / 262144), ch (n / 4096), ch (n / 64), '=']
    | [a] =>
      let n := a.toNat * 65536
      [ch (n / 262144), ch (n / 4096), '=', '=']
    | [] => []
  String.ofList (go bytes)

/-- Base64 of a string's UTF-8 bytes. -/
def base64OfString (s : String) : String := base64 s.toUTF8.toList

/-- Is a byte a continuation byte `10xxxxxx`? -/
def isContinuation (b : UInt8) : Bool := b.toNat / 64 = 2

/-- Bytes read as UTF-8, each ill-formed piece replaced by U+FFFD. -/
def decodeUtf8Lossy (bytes : List UInt8) : String :=
  let rec go : Nat → List UInt8 → List Char → List Char
    | 0, _, acc => acc.reverse
    | _, [], acc => acc.reverse
    | fuel + 1, b :: rest, acc =>
      let n := b.toNat
      if n < 0x80 then go fuel rest (Char.ofNat n :: acc)
      else
        -- the allowed range of the second byte, and the length of the sequence
        let (len, lo, hi) : Nat × Nat × Nat :=
          if 0xC2 ≤ n ∧ n ≤ 0xDF then (2, 0x80, 0xBF)
          else if n = 0xE0 then (3, 0xA0, 0xBF)
          else if (0xE1 ≤ n ∧ n ≤ 0xEC) ∨ n = 0xEE ∨ n = 0xEF then (3, 0x80, 0xBF)
          else if n = 0xED then (3, 0x80, 0x9F)
          else if n = 0xF0 then (4, 0x90, 0xBF)
          else if 0xF1 ≤ n ∧ n ≤ 0xF3 then (4, 0x80, 0xBF)
          else if n = 0xF4 then (4, 0x80, 0x8F)
          else (0, 0, 0)
        if len = 0 then go fuel rest ('�' :: acc)
        else
          match rest with
          | b2 :: rest2 =>
            if b2.toNat < lo ∨ hi < b2.toNat then go fuel rest ('�' :: acc)
            else if len = 2 then
              go fuel rest2 (Char.ofNat ((n % 32) * 64 + b2.toNat % 64) :: acc)
            else
              match rest2 with
              | b3 :: rest3 =>
                if !isContinuation b3 then go fuel rest2 ('�' :: acc)
                else if len = 3 then
                  go fuel rest3 (Char.ofNat ((n % 16) * 4096 + (b2.toNat % 64) * 64 + b3.toNat % 64) :: acc)
                else
                  match rest3 with
                  | b4 :: rest4 =>
                    if !isContinuation b4 then go fuel rest3 ('�' :: acc)
                    else
                      go fuel rest4 (Char.ofNat ((n % 8) * 262144 + (b2.toNat % 64) * 4096 +
                        (b3.toNat % 64) * 64 + b4.toNat % 64) :: acc)
                  | [] => go fuel rest3 ('�' :: acc)
              | [] => go fuel rest2 ('�' :: acc)
          | [] => go fuel rest ('�' :: acc)
  String.ofList (go (bytes.length + 1) bytes [])

theorem byteArray_toList (bs : ByteArray) : bs.toList = bs.data.toList := by
  suffices loop : ∀ i r, ByteArray.toList.loop bs i r = r.reverse ++ bs.data.toList.drop i by
    show ByteArray.toList.loop bs 0 [] = _
    simpa using loop 0 []
  intro i r
  fun_induction ByteArray.toList.loop bs i r with
  | case1 i r lt ih =>
    have inside : i < bs.data.toList.length := by simpa using lt
    rw [ih, List.reverse_cons, List.append_assoc, List.singleton_append, List.drop_eq_getElem_cons inside]
    simp [ByteArray.get!, lt]
  | case2 i r ge =>
    rw [List.drop_eq_nil_of_le (by simpa using ge), List.append_nil]

namespace decodeUtf8Lossy

/-! ## Well-formed sequences -/

theorem go_ascii {b : UInt8} (ascii : b.toNat < 128) (fuel : Nat) (rest : List UInt8) (acc : List Char) :
    go (fuel + 1) (b :: rest) acc = go fuel rest (Char.ofNat b.toNat :: acc) := by
  simp (disch := omega) only [go, if_pos]

theorem go_twoBytes {b b2 : UInt8} (lead : 194 ≤ b.toNat ∧ b.toNat ≤ 223) (second : 128 ≤ b2.toNat ∧ b2.toNat ≤ 191)
    (fuel : Nat) (rest : List UInt8) (acc : List Char) :
    go (fuel + 1) (b :: b2 :: rest) acc = go fuel rest (Char.ofNat (b.toNat % 32 * 64 + b2.toNat % 64) :: acc) := by
  obtain ⟨lo, hi⟩ := lead
  obtain ⟨slo, shi⟩ := second
  simp (disch := omega) only [go, if_pos, if_neg, ite_true]

/-- Three bytes: the second byte excludes overlong forms after `E0` and surrogates after `ED`. -/
theorem go_threeBytes {b b2 b3 : UInt8} (lead : 224 ≤ b.toNat ∧ b.toNat ≤ 239)
    (second : 128 ≤ b2.toNat ∧ b2.toNat ≤ 191) (overlong : b.toNat = 224 → 160 ≤ b2.toNat)
    (surrogate : b.toNat = 237 → b2.toNat ≤ 159) (third : 128 ≤ b3.toNat ∧ b3.toNat ≤ 191)
    (fuel : Nat) (rest : List UInt8) (acc : List Char) :
    go (fuel + 1) (b :: b2 :: b3 :: rest) acc =
      go fuel rest (Char.ofNat (b.toNat % 16 * 4096 + b2.toNat % 64 * 64 + b3.toNat % 64) :: acc) := by
  obtain ⟨lo, hi⟩ := lead
  obtain ⟨slo, shi⟩ := second
  obtain ⟨tlo, thi⟩ := third
  have continued : isContinuation b3 = true := by simp [isContinuation]; omega
  -- the lead byte picks the range of the second byte
  obtain first | first | first : b.toNat = 224 ∨ b.toNat = 237 ∨
      ((225 ≤ b.toNat ∧ b.toNat ≤ 236) ∨ b.toNat = 238 ∨ b.toNat = 239) := by omega
  all_goals simp (disch := omega) only [go, if_pos, if_neg, continued, ite_true, ite_false,
    Bool.not_true, Bool.false_eq_true]

/-- Four bytes: the second byte excludes overlong forms after `F0` and values past U+10FFFF after
`F4`. -/
theorem go_fourBytes {b b2 b3 b4 : UInt8} (lead : 240 ≤ b.toNat ∧ b.toNat ≤ 244)
    (second : 128 ≤ b2.toNat ∧ b2.toNat ≤ 191) (overlong : b.toNat = 240 → 144 ≤ b2.toNat)
    (beyond : b.toNat = 244 → b2.toNat ≤ 143)
    (third : 128 ≤ b3.toNat ∧ b3.toNat ≤ 191) (fourth : 128 ≤ b4.toNat ∧ b4.toNat ≤ 191)
    (fuel : Nat) (rest : List UInt8) (acc : List Char) :
    go (fuel + 1) (b :: b2 :: b3 :: b4 :: rest) acc =
      go fuel rest
        (Char.ofNat (b.toNat % 8 * 262144 + b2.toNat % 64 * 4096 + b3.toNat % 64 * 64 + b4.toNat % 64) :: acc) := by
  obtain ⟨lo, hi⟩ := lead
  obtain ⟨slo, shi⟩ := second
  have continued₃ : isContinuation b3 = true := by simp [isContinuation]; omega
  have continued₄ : isContinuation b4 = true := by simp [isContinuation]; omega
  obtain first | first | first : b.toNat = 240 ∨ b.toNat = 244 ∨ (241 ≤ b.toNat ∧ b.toNat ≤ 243) := by omega
  all_goals simp (disch := omega) only [go, if_pos, if_neg, continued₃, continued₄, ite_false,
    Bool.not_true, Bool.false_eq_true]

/-! ## The encoding of a character -/

/-- The UTF-8 bytes of a character read back as the character. -/
theorem go_utf8EncodeChar (c : Char) (fuel : Nat) (rest : List UInt8) (acc : List Char) :
    go (fuel + 1) (String.utf8EncodeChar c ++ rest) acc = go fuel rest (c :: acc) := by
  have valid : c.toNat < 0xd800 ∨ (0xdfff < c.toNat ∧ c.toNat < 0x110000) := by
    simpa [UInt32.isValidChar, Nat.isValidChar] using c.valid
  unfold String.utf8EncodeChar
  rw [show c.val.toNat = c.toNat from rfl]
  dsimp only
  -- one case per length of the encoding; the bytes are below 256, so each reads back as written
  split
  · rename_i one
    have b1 : (UInt8.ofNat c.toNat).toNat = c.toNat := by simp; omega
    rw [List.singleton_append, go_ascii (by omega), b1, Char.ofNat_toNat]
  split
  · rename_i _ two
    have b1 : (UInt8.ofNat (c.toNat / 64 % 32 + 192)).toNat = c.toNat / 64 % 32 + 192 := by simp; omega
    have b2 : (UInt8.ofNat (c.toNat % 64 + 128)).toNat = c.toNat % 64 + 128 := by simp; omega
    rw [List.cons_append, List.cons_append, List.nil_append, go_twoBytes (by omega) (by omega), b1, b2]
    have value : (c.toNat / 64 % 32 + 192) % 32 * 64 + (c.toNat % 64 + 128) % 64 = c.toNat := by omega
    rw [value, Char.ofNat_toNat]
  split
  · rename_i _ _ three
    have b1 : (UInt8.ofNat (c.toNat / 4096 % 16 + 224)).toNat = c.toNat / 4096 % 16 + 224 := by simp; omega
    have b2 : (UInt8.ofNat (c.toNat / 64 % 64 + 128)).toNat = c.toNat / 64 % 64 + 128 := by simp; omega
    have b3 : (UInt8.ofNat (c.toNat % 64 + 128)).toNat = c.toNat % 64 + 128 := by simp; omega
    rw [List.cons_append, List.cons_append, List.cons_append, List.nil_append,
      go_threeBytes (by omega) (by omega) (by omega) (by omega) (by omega), b1, b2, b3]
    have value : (c.toNat / 4096 % 16 + 224) % 16 * 4096 + (c.toNat / 64 % 64 + 128) % 64 * 64 +
        (c.toNat % 64 + 128) % 64 = c.toNat := by omega
    rw [value, Char.ofNat_toNat]
  · rename_i _ _ four
    have b1 : (UInt8.ofNat (c.toNat / 262144 % 8 + 240)).toNat = c.toNat / 262144 % 8 + 240 := by simp; omega
    have b2 : (UInt8.ofNat (c.toNat / 4096 % 64 + 128)).toNat = c.toNat / 4096 % 64 + 128 := by simp; omega
    have b3 : (UInt8.ofNat (c.toNat / 64 % 64 + 128)).toNat = c.toNat / 64 % 64 + 128 := by simp; omega
    have b4 : (UInt8.ofNat (c.toNat % 64 + 128)).toNat = c.toNat % 64 + 128 := by simp; omega
    rw [List.cons_append, List.cons_append, List.cons_append, List.cons_append, List.nil_append,
      go_fourBytes (by omega) (by omega) (by omega) (by omega) (by omega) (by omega), b1, b2, b3, b4]
    have value : (c.toNat / 262144 % 8 + 240) % 8 * 262144 + (c.toNat / 4096 % 64 + 128) % 64 * 4096 +
        (c.toNat / 64 % 64 + 128) % 64 * 64 + (c.toNat % 64 + 128) % 64 = c.toNat := by omega
    rw [value, Char.ofNat_toNat]

/-- The UTF-8 bytes of characters read back as the characters, given a step per byte. -/
theorem go_flatMap_utf8EncodeChar (cs : List Char) (fuel : Nat) (acc : List Char)
    (enough : (cs.flatMap String.utf8EncodeChar).length ≤ fuel) :
    go fuel (cs.flatMap String.utf8EncodeChar) acc = acc.reverse ++ cs := by
  induction cs generalizing fuel acc with
  | nil => cases fuel <;> simp [go]
  | cons c cs ih =>
    rw [List.flatMap_cons, List.length_append] at enough
    have long : 1 ≤ (String.utf8EncodeChar c).length := by
      rw [String.length_utf8EncodeChar]
      exact c.utf8Size_pos
    obtain ⟨f, rfl⟩ : ∃ f, fuel = f + 1 := Nat.exists_eq_add_one.mpr (by omega)
    rw [List.flatMap_cons, go_utf8EncodeChar, ih f (c :: acc) (by omega), List.reverse_cons, List.append_assoc,
      List.singleton_append]

end decodeUtf8Lossy

/-- The UTF-8 bytes of a text read back as the text. -/
theorem decodeUtf8Lossy_toUTF8 (s : String) : decodeUtf8Lossy s.toUTF8.toList = s := by
  have bytes : s.toUTF8.toList = s.toList.flatMap String.utf8EncodeChar := by
    rw [String.toUTF8_eq_toByteArray, ← String.utf8Encode_toList, List.utf8Encode, byteArray_toList,
      List.toList_data_toByteArray]
  unfold decodeUtf8Lossy
  rw [bytes, decodeUtf8Lossy.go_flatMap_utf8EncodeChar _ _ _ (by omega), List.reverse_nil, List.nil_append,
    String.ofList_toList]

end StackOperator.Text
