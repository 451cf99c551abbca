import Lifeline.Json.Basic

/-! # Written strings are read back

Each character of a string is written either as itself or as one escape, and the reader takes that
back as the same character, whatever stands behind it (`readString_escapeChar`).  So a quoted
string is read up to its own closing quote and no further, and no character below U+0020 stands
inside it.
-/

namespace Lifeline.Json

/-! ## Hexadecimal digits -/

theorem hexDigit_digitChar : ∀ n < 16, hexDigit? (Nat.digitChar n) = some n := by decide

theorem le_digitChar : ∀ n < 16, 0x20 ≤ (Nat.digitChar n).toNat := by decide

/-- A control character is written by its number, which has two digits. -/
theorem readEscape_numbered (c : Char) (control : c.toNat < 0x20) (rest : List Char) :
    readEscape ('u' :: '0' :: '0' :: Nat.digitChar (c.toNat / 16) ::
      Nat.digitChar (c.toNat % 16) :: rest) = some (c, 5) := by
  have zero : hexDigit? '0' = some 0 := rfl
  have high := hexDigit_digitChar (c.toNat / 16) (by omega)
  have low := hexDigit_digitChar (c.toNat % 16) (by omega)
  have value : ((0 * 16 + 0) * 16 + c.toNat / 16) * 16 + c.toNat % 16 = c.toNat := by omega
  have four : hexFour? '0' '0' (Nat.digitChar (c.toNat / 16)) (Nat.digitChar (c.toNat % 16)) =
      some c.toNat := by
    simp only [hexFour?, zero, high, low, value]
  have noLow : isLowHalf c.toNat = false := by simp [isLowHalf]; omega
  have noHigh : isHighHalf c.toNat = false := by simp [isHighHalf]; omega
  show (readNumbered _).map _ = _
  simp [readNumbered, four, noLow, noHigh, Char.ofNat_toNat]

/-! ## Strings -/

theorem readString_plain {c : Char} (noQuote : c ≠ '"') (noBackslash : c ≠ '\\')
    (printable : 0x20 ≤ c.toNat) (rest : List Char) :
    readString 0 (c :: rest) = (readString 0 rest).map fun (text, rest) => (c :: text, rest) := by
  rw [readString, if_neg noQuote, if_neg noBackslash, if_neg (Nat.not_lt.mpr printable)]

theorem readString_escape {c : Char} {rest : List Char} (escape : List Char)
    (escaped : readEscape (escape ++ rest) = some (c, escape.length)) :
    readString 0 ('\\' :: (escape ++ rest)) =
      (readString 0 rest).map fun (text, rest) => (c :: text, rest) := by
  have skipped (front : List Char) :
      readString front.length (front ++ rest) = readString 0 rest := by
    induction front with
    | nil => rfl
    | cons _ front inductionHypothesis => exact inductionHypothesis
  rw [readString, if_neg (by decide), if_pos rfl, escaped]
  show (readString escape.length (escape ++ rest)).map _ = _
  rw [skipped escape]

/-- A written character is read back as itself, whatever follows. -/
theorem readString_escapeChar (c : Char) (rest : List Char) :
    readString 0 (escapeChar c ++ rest) =
      (readString 0 rest).map fun (text, rest) => (c :: text, rest) := by
  unfold escapeChar
  -- the seven characters with a short escape, the other control characters, and all the rest
  by_cases quote : c = '"'
  · subst quote
    exact readString_escape ['"'] rfl
  by_cases backslash : c = '\\'
  · subst backslash
    exact readString_escape ['\\'] rfl
  by_cases backspace : c = '\x08'
  · subst backspace
    exact readString_escape ['b'] rfl
  by_cases formFeed : c = '\x0c'
  · subst formFeed
    exact readString_escape ['f'] rfl
  by_cases lineFeed : c = '\n'
  · subst lineFeed
    exact readString_escape ['n'] rfl
  by_cases carriageReturn : c = '\r'
  · subst carriageReturn
    exact readString_escape ['r'] rfl
  by_cases tab : c = '\t'
  · subst tab
    exact readString_escape ['t'] rfl
  simp only [quote, backslash, backspace, formFeed, lineFeed, carriageReturn, tab, if_false]
  by_cases control : c.toNat < 0x20
  · rw [if_pos control]
    exact readString_escape
      ['u', '0', '0', Nat.digitChar (c.toNat / 16), Nat.digitChar (c.toNat % 16)]
      (readEscape_numbered c control rest)
  · rw [if_neg control]
    exact readString_plain quote backslash (Nat.not_lt.mp control) rest

theorem readString_escaped (cs rest : List Char) :
    readString 0 (cs.flatMap escapeChar ++ '"' :: rest) = some (cs, rest) := by
  induction cs with
  | nil => rfl
  | cons c cs inductionHypothesis =>
    rw [List.flatMap_cons, List.append_assoc, readString_escapeChar, inductionHypothesis]
    rfl

theorem le_of_mem_escapeChar {c e : Char} (member : e ∈ escapeChar c) : 0x20 ≤ e.toNat := by
  unfold escapeChar at member
  -- the seven short escapes
  iterate 7
    split at member
    · simp only [List.mem_cons, List.not_mem_nil, or_false] at member
      obtain rfl | rfl := member <;> decide
  split at member
  · have high := le_digitChar (c.toNat / 16) (by omega)
    have low := le_digitChar (c.toNat % 16) (by omega)
    simp only [List.mem_cons, List.not_mem_nil, or_false] at member
    obtain rfl | rfl | rfl | rfl | rfl | rfl := member
    · decide
    · decide
    · decide
    · decide
    · exact high
    · exact low
  · obtain rfl := List.mem_singleton.mp member
    omega

/-- No control character stands in a written string. -/
theorem le_of_mem_quote {s : String} {c : Char} (member : c ∈ quote s) : 0x20 ≤ c.toNat := by
  simp only [quote, List.mem_cons, List.mem_append, List.mem_flatMap, List.not_mem_nil,
    or_false] at member
  obtain (rfl | ⟨d, -, written⟩) | rfl := member
  · decide
  · exact le_of_mem_escapeChar written
  · decide

/-! ## What stands behind a written string -/

theorem skipSpace_quote (s : String) (rest : List Char) :
    skipSpace (quote s ++ rest) = '"' :: (s.toList.flatMap escapeChar ++ '"' :: rest) := by
  simp [quote, skipSpace, isSpace]

theorem readName_quote (s : String) (rest : List Char) :
    readName (quote s ++ rest) = some (s, rest) := by
  unfold readName
  rw [skipSpace_quote]
  simp only [readString_escaped]
  simp

theorem readValue_quote (fuel depth : Nat) (s : String) (rest : List Char) :
    readValue (fuel + 1) depth (quote s ++ rest) = some (.string s, rest) := by
  rw [readValue, skipSpace_quote]
  simp [readString_escaped]

end Lifeline.Json
