import Lifeline.Text.Bytes

/-! # Text survives its bytes

`front_encodeChar` is the one place where bits are counted: the bytes of a character, whatever
stands behind them, are read as that character.  The rest is recursion over the characters.  Lossy
decoding therefore gives back a text from its bytes, and a byte list is unchanged by decoding and
encoding again exactly if it is UTF-8.
-/

namespace Lifeline.Text

/-! ## Bytes as numbers -/

theorem following_eq (b : UInt8) :
    following b = if b.toNat < 0x80 then some 0
      else if 0xC2 ≤ b.toNat ∧ b.toNat ≤ 0xDF then some 1
      else if 0xE0 ≤ b.toNat ∧ b.toNat ≤ 0xEF then some 2
      else if 0xF0 ≤ b.toNat ∧ b.toNat ≤ 0xF4 then some 3
      else none := by
  simp only [following, within, UInt8.lt_iff_toNat_lt, UInt8.le_iff_toNat_le, Bool.and_eq_true,
    decide_eq_true_eq]
  rfl

theorem within_iff (low high b : UInt8) :
    within low high b = true ↔ low.toNat ≤ b.toNat ∧ b.toNat ≤ high.toNat := by
  simp only [within, Bool.and_eq_true, decide_eq_true_eq, UInt8.le_iff_toNat_le]

theorem isInner_iff (b : UInt8) : isInner b = true ↔ 0x80 ≤ b.toNat ∧ b.toNat ≤ 0xBF :=
  within_iff ..

theorem secondRange_iff (b x : UInt8) :
    within (secondRange b).1 (secondRange b).2 x = true ↔
      0x80 ≤ x.toNat ∧ x.toNat ≤ 0xBF ∧ (b.toNat = 0xE0 → 0xA0 ≤ x.toNat) ∧
        (b.toNat = 0xED → x.toNat ≤ 0x9F) ∧ (b.toNat = 0xF0 → 0x90 ≤ x.toNat) ∧
        (b.toNat = 0xF4 → x.toNat ≤ 0x8F) := by
  rw [within_iff]
  simp only [secondRange, ← UInt8.toNat_inj, UInt8.reduceToNat]
  -- one case for each of the four first bytes that narrow the range, and one for the others
  repeat' split
  all_goals
    simp only [UInt8.reduceToNat]
    omega

theorem toNat_ofNat_of_lt {n : Nat} (small : n < 256) : (UInt8.ofNat n).toNat = n := by
  rw [UInt8.toNat_ofNat']
  omega

/-! ## The character at the front -/

variable {b x y z : UInt8} {rest : Bytes}

theorem front_one (first : b.toNat < 0x80) : front b rest = (some (.ofNat b.toNat), 0) := by
  have follows : following b = some 0 := by rw [following_eq, if_pos first]
  unfold front
  rw [follows]
  simp

theorem front_two (first : 0xC2 ≤ b.toNat ∧ b.toNat ≤ 0xDF)
    (second : within (secondRange b).1 (secondRange b).2 x = true) :
    front b (x :: rest) = (some (.ofNat (b.toNat % 32 * 64 + payload x)), 1) := by
  have follows : following b = some 1 := by
    rw [following_eq, if_neg (by omega), if_pos first]
  unfold front
  rw [follows]
  simp only [second, if_true]

theorem front_three (first : 0xE0 ≤ b.toNat ∧ b.toNat ≤ 0xEF)
    (second : within (secondRange b).1 (secondRange b).2 x = true) (third : isInner y = true) :
    front b (x :: y :: rest) =
      (some (.ofNat ((b.toNat % 16 * 64 + payload x) * 64 + payload y)), 2) := by
  have follows : following b = some 2 := by
    rw [following_eq, if_neg (by omega), if_neg (by omega), if_pos first]
  unfold front
  rw [follows]
  simp only [second, third, Bool.not_true, Bool.false_eq_true, if_false]

theorem front_four (first : 0xF0 ≤ b.toNat ∧ b.toNat ≤ 0xF4)
    (second : within (secondRange b).1 (secondRange b).2 x = true) (third : isInner y = true)
    (fourth : isInner z = true) :
    front b (x :: y :: z :: rest) =
      (some (.ofNat (((b.toNat % 8 * 64 + payload x) * 64 + payload y) * 64 + payload z)), 3) := by
  have follows : following b = some 3 := by
    rw [following_eq, if_neg (by omega), if_neg (by omega), if_neg (by omega), if_pos first]
  unfold front
  rw [follows]
  simp only [second, third, fourth, Bool.not_true, Bool.false_eq_true, if_false]

/-- The bytes of a character are read as that character. -/
theorem front_encodeChar (c : Char) (rest : Bytes) :
    ∃ b inner, String.utf8EncodeChar c = b :: inner ∧
      front b (inner ++ rest) = (some c, inner.length) := by
  have valid : c.val.toNat < 0xD800 ∨ 0xDFFF < c.val.toNat ∧ c.val.toNat < 0x110000 := c.valid
  have same : ∀ n, n = c.val.toNat → Char.ofNat n = c := by
    rintro _ rfl
    exact Char.ofNat_toNat c
  unfold String.utf8EncodeChar
  -- one case for each number of bytes; from here on everything is arithmetic on the code point
  generalize c.val.toNat = v at valid same
  dsimp only
  split
  · refine ⟨_, _, rfl, ?_⟩
    have first := toNat_ofNat_of_lt (n := v) (by omega)
    rw [front_one (by omega), first, same _ rfl]
    rfl
  · split
    · refine ⟨_, _, rfl, ?_⟩
      have first := toNat_ofNat_of_lt (n := v / 64 % 0x20 + 0xc0) (by omega)
      have second := toNat_ofNat_of_lt (n := v % 0x40 + 0x80) (by omega)
      rw [List.cons_append, front_two (by omega) (by rw [secondRange_iff]; omega), same]
      · rfl
      · simp only [payload]
        omega
    · split
      · refine ⟨_, _, rfl, ?_⟩
        have first := toNat_ofNat_of_lt (n := v / 4096 % 0x10 + 0xe0) (by omega)
        have second := toNat_ofNat_of_lt (n := v / 64 % 0x40 + 0x80) (by omega)
        have third := toNat_ofNat_of_lt (n := v % 0x40 + 0x80) (by omega)
        rw [List.cons_append, List.cons_append, front_three (by omega)
          (by rw [secondRange_iff]; omega) (by rw [isInner_iff]; omega), same]
        · rfl
        · simp only [payload]
          omega
      · refine ⟨_, _, rfl, ?_⟩
        have first := toNat_ofNat_of_lt (n := v / 262144 % 0x08 + 0xf0) (by omega)
        have second := toNat_ofNat_of_lt (n := v / 4096 % 0x40 + 0x80) (by omega)
        have third := toNat_ofNat_of_lt (n := v / 64 % 0x40 + 0x80) (by omega)
        have fourth := toNat_ofNat_of_lt (n := v % 0x40 + 0x80) (by omega)
        rw [List.cons_append, List.cons_append, List.cons_append, front_four (by omega)
          (by rw [secondRange_iff]; omega) (by rw [isInner_iff]; omega)
          (by rw [isInner_iff]; omega), same]
        · rfl
        · simp only [payload]
          omega

/-- The bytes of the character with a number, in terms of the number. -/
theorem encodeChar_ofNat {v : Nat} (valid : v.isValidChar) :
    String.utf8EncodeChar (.ofNat v) =
      if v ≤ 0x7F then [.ofNat v]
      else if v ≤ 0x7FF then [.ofNat (v / 64 % 0x20 + 0xC0), .ofNat (v % 0x40 + 0x80)]
      else if v ≤ 0xFFFF then
        [.ofNat (v / 4096 % 0x10 + 0xE0), .ofNat (v / 64 % 0x40 + 0x80), .ofNat (v % 0x40 + 0x80)]
      else
        [.ofNat (v / 262144 % 0x08 + 0xF0), .ofNat (v / 4096 % 0x40 + 0x80),
          .ofNat (v / 64 % 0x40 + 0x80), .ofNat (v % 0x40 + 0x80)] := by
  have value : (Char.ofNat v).val.toNat = v := by
    rw [Char.ofNat, dif_pos valid]
    exact UInt32.toNat_ofNatLT
  rw [String.utf8EncodeChar, value]

theorem ofNat_eq_iff {n : Nat} (small : n < 256) : UInt8.ofNat n = b ↔ n = b.toNat := by
  rw [← UInt8.toNat_inj, toNat_ofNat_of_lt small]

theorem encodeChar_one (first : b.toNat < 0x80) :
    String.utf8EncodeChar (.ofNat b.toNat) = [b] := by
  have valid : b.toNat.isValidChar := .inl (by omega)
  rw [encodeChar_ofNat valid, if_pos (by omega), UInt8.ofNat_toNat]

theorem encodeChar_two (first : 0xC2 ≤ b.toNat ∧ b.toNat ≤ 0xDF)
    (second : within (secondRange b).1 (secondRange b).2 x = true) :
    String.utf8EncodeChar (.ofNat (b.toNat % 32 * 64 + payload x)) = [b, x] := by
  rw [secondRange_iff] at second
  simp only [payload]
  generalize value : b.toNat % 32 * 64 + x.toNat % 64 = v
  have valid : v.isValidChar := .inl (by omega)
  rw [encodeChar_ofNat valid, if_neg (by omega), if_pos (by omega)]
  simp only [List.cons.injEq, and_true]
  constructor <;> rw [ofNat_eq_iff (by omega)] <;> omega

theorem encodeChar_three (first : 0xE0 ≤ b.toNat ∧ b.toNat ≤ 0xEF)
    (second : within (secondRange b).1 (secondRange b).2 x = true) (third : isInner y = true) :
    String.utf8EncodeChar (.ofNat ((b.toNat % 16 * 64 + payload x) * 64 + payload y)) =
      [b, x, y] := by
  rw [secondRange_iff] at second
  rw [isInner_iff] at third
  simp only [payload]
  generalize value : (b.toNat % 16 * 64 + x.toNat % 64) * 64 + y.toNat % 64 = v
  -- the ranges of the second byte keep the number out of the surrogates
  have valid : v.isValidChar := by
    simp only [Nat.isValidChar]
    omega
  rw [encodeChar_ofNat valid, if_neg (by omega), if_neg (by omega), if_pos (by omega)]
  simp only [List.cons.injEq, and_true]
  refine ⟨?_, ?_, ?_⟩ <;> rw [ofNat_eq_iff (by omega)] <;> omega

theorem encodeChar_four (first : 0xF0 ≤ b.toNat ∧ b.toNat ≤ 0xF4)
    (second : within (secondRange b).1 (secondRange b).2 x = true) (third : isInner y = true)
    (fourth : isInner z = true) :
    String.utf8EncodeChar
        (.ofNat (((b.toNat % 8 * 64 + payload x) * 64 + payload y) * 64 + payload z)) =
      [b, x, y, z] := by
  rw [secondRange_iff] at second
  rw [isInner_iff] at third fourth
  simp only [payload]
  generalize value :
    ((b.toNat % 8 * 64 + x.toNat % 64) * 64 + y.toNat % 64) * 64 + z.toNat % 64 = v
  have valid : v.isValidChar := by
    simp only [Nat.isValidChar]
    omega
  rw [encodeChar_ofNat valid, if_neg (by omega), if_neg (by omega), if_neg (by omega)]
  simp only [List.cons.injEq, and_true]
  refine ⟨?_, ?_, ?_, ?_⟩ <;> rw [ofNat_eq_iff (by omega)] <;> omega

/-- What a first byte announces, as the range that it lies in. -/
theorem following_cases {count : Nat} (follows : following b = some count) :
    (count = 0 ∧ b.toNat < 0x80) ∨ (count = 1 ∧ 0xC2 ≤ b.toNat ∧ b.toNat ≤ 0xDF) ∨
      (count = 2 ∧ 0xE0 ≤ b.toNat ∧ b.toNat ≤ 0xEF) ∨
      (count = 3 ∧ 0xF0 ≤ b.toNat ∧ b.toNat ≤ 0xF4) := by
  rw [following_eq] at follows
  repeat' split at follows
  all_goals
    simp only [Option.some.injEq, reduceCtorEq] at follows
    try omega

/-- A character that is read is made of the bytes that it is read from. -/
theorem encodeChar_of_front {c : Char} {count : Nat} (read : front b rest = (some c, count)) :
    String.utf8EncodeChar c = b :: rest.take count := by
  unfold front at read
  dsimp only at read
  -- one case for each number of bytes that can form a character; nothing is read in the others
  repeat' split at read
  all_goals simp only [Prod.mk.injEq, Option.some.injEq, reduceCtorEq, false_and] at read
  all_goals obtain ⟨rfl, rfl⟩ := read
  case h_2 follows =>
    exact encodeChar_one (by have := following_cases follows; omega)
  case h_3.isTrue follows second =>
    exact encodeChar_two (by have := following_cases follows; omega) second
  case h_4.isFalse.isFalse follows second third =>
    exact encodeChar_three (by have := following_cases follows; omega) (by simpa using second)
      (by simpa using third)
  case h_5.isFalse.isFalse.isFalse notZero notOne notTwo follows second third fourth =>
    obtain ⟨zero, -⟩ | ⟨one, -⟩ | ⟨two, -⟩ | ⟨-, first⟩ := following_cases follows
    · exact absurd zero notZero
    · exact absurd one notOne
    · exact absurd two notTwo
    · exact encodeChar_four first (by simpa using second) (by simpa using third)
        (by simpa using fourth)

/-! ## Whole texts -/

theorem decodeWith_skip (mark : Option Char) (inner rest : Bytes) :
    decodeWith mark inner.length (inner ++ rest) = decodeWith mark 0 rest := by
  induction inner with
  | nil => rfl
  | cons _ _ inductionHypothesis => exact inductionHypothesis

theorem decodeWith_encodeChars (mark : Option Char) (cs : List Char) :
    decodeWith mark 0 (encodeChars cs) = some cs := by
  induction cs with
  | nil => rfl
  | cons c cs inductionHypothesis =>
    obtain ⟨b, inner, bytes, front⟩ := front_encodeChar c (encodeChars cs)
    have whole : encodeChars (c :: cs) = b :: (inner ++ encodeChars cs) := by
      rw [encodeChars, List.flatMap_cons, bytes]
      rfl
    rw [whole, decodeWith, front, decodeWith_skip, inductionHypothesis]
    rfl

/-- What is decoded without a mark is encoded by the bytes that it is decoded from. -/
theorem encodeChars_of_decodeWith {skip : Nat} {bytes : Bytes} {cs : List Char}
    (decoded : decodeWith none skip bytes = some cs) : encodeChars cs = bytes.drop skip := by
  induction bytes generalizing skip cs with
  | nil =>
    simp only [decodeWith, Option.some.injEq] at decoded
    simp [← decoded, encodeChars]
  | cons b bytes inductionHypothesis =>
    cases skip with
    | succ skip => exact inductionHypothesis decoded
    | zero =>
      cases whole : front b bytes with
      | mk read count =>
        cases read with
        | none => simp [decodeWith, whole] at decoded
        | some c =>
          rw [decodeWith, whole] at decoded
          obtain ⟨later, decodedLater, rfl⟩ := Option.map_eq_some_iff.mp decoded
          calc encodeChars (c :: later)
              _ = String.utf8EncodeChar c ++ encodeChars later := List.flatMap_cons
              _ = b :: (bytes.take count ++ bytes.drop count) := by
                rw [encodeChar_of_front whole, inductionHypothesis decodedLater, List.cons_append]
              _ = b :: bytes := by rw [List.take_append_drop]

theorem decodeWith_eq_some_iff {bytes : Bytes} {cs : List Char} :
    decodeWith none 0 bytes = some cs ↔ encodeChars cs = bytes := by
  constructor
  · intro decoded
    exact encodeChars_of_decodeWith decoded
  · rintro rfl
    exact decodeWith_encodeChars none cs

theorem decode?_encode (text : String) : decode? (encode text) = some text := by
  rw [decode?, encode, decodeWith_encodeChars, Option.map_some, String.ofList_toList]

theorem decodeLossy_encode (text : String) : decodeLossy (encode text) = text := by
  rw [decodeLossy, encode, decodeWith_encodeChars]
  exact String.ofList_toList

theorem encode_ne_nil {text : String} (filled : text.isEmpty = false) : encode text ≠ [] := by
  intro empty
  have decoded := decodeLossy_encode text
  rw [empty] at decoded
  subst decoded
  cases filled

theorem isValidUTF8_iff (bytes : Bytes) :
    bytes.toByteArray.IsValidUTF8 ↔ ∃ text, encode text = bytes := by
  constructor
  · rintro ⟨cs, same⟩
    refine ⟨String.ofList cs, ?_⟩
    -- validity is told of byte arrays, which are their lists
    have arrays : bytes.toArray = (encodeChars cs).toArray := by
      have data := congrArg ByteArray.data same
      rwa [List.utf8Encode, List.data_toByteArray, List.data_toByteArray] at data
    rw [encode, String.toList_ofList]
    exact (List.toArray_inj arrays).symm
  · rintro ⟨text, rfl⟩
    exact ⟨text.toList, rfl⟩

/-- Decoding leaves a byte list as it is exactly if it is UTF-8. -/
theorem encode_decodeLossy_iff (bytes : Bytes) :
    encode (decodeLossy bytes) = bytes ↔ bytes.toByteArray.IsValidUTF8 := by
  rw [isValidUTF8_iff]
  constructor
  · exact fun same => ⟨_, same⟩
  · rintro ⟨text, rfl⟩
    rw [decodeLossy_encode]

end Lifeline.Text
