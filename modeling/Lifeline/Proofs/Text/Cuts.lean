import Lifeline.Proofs.Text.Utf8

/-! # Text in pieces

A text that is cut into pieces survives the decoding of each piece exactly if no cut is inside a
character.  A character has one byte that is no inner byte, the first one, and the decoder gives at
least one character for each byte of this kind.  A piece that begins with an inner byte costs one
more: its front belongs to a character that the piece before it has already paid for.  So if as many
characters come out as went in, every piece begins with a character, and then it is made of whole
ones.
-/

namespace Lifeline.Text

/-! ## First bytes -/

/-- How many characters a byte list has a first byte of. -/
def starts (bytes : Bytes) : Nat := bytes.countP fun b => !isInner b

theorem starts_append (front back : Bytes) : starts (front ++ back) = starts front + starts back :=
  List.countP_append

theorem starts_of_inner {bytes : Bytes} (inner : ∀ b ∈ bytes, isInner b = true) :
    starts bytes = 0 := by
  refine List.countP_eq_zero.mpr fun b member => ?_
  rw [inner b member]
  exact nofun

theorem not_inner_of_following {b : UInt8} {count : Nat} (follows : following b = some count) :
    isInner b = false := by
  refine Bool.eq_false_iff.mpr fun inner => ?_
  rw [isInner_iff] at inner
  rw [following_eq, if_neg (by omega), if_neg (by omega), if_neg (by omega), if_neg (by omega)]
    at follows
  cases follows

theorem isInner_of_second {b x : UInt8} (second : within (secondRange b).1 (secondRange b).2 x = true) :
    isInner x = true := by
  obtain ⟨low, high, -⟩ := (secondRange_iff b x).mp second
  exact (isInner_iff x).mpr ⟨low, high⟩

/-- Whether the bytes form a character or not, only inner bytes are read behind the first one. -/
theorem inner_of_mem_front (b : UInt8) (rest : Bytes) {x : UInt8}
    (member : x ∈ rest.take (front b rest).2) : isInner x = true := by
  unfold front at member
  dsimp only at member
  -- one case for each number of bytes that follow, and in it one for each byte that can be wrong
  repeat' split at member
  all_goals simp at member
  all_goals grind [isInner_of_second]

/-- The first byte of a character is not an inner byte, and all others are. -/
theorem encodeChar_cases (c : Char) :
    ∃ b inner, String.utf8EncodeChar c = b :: inner ∧ isInner b = false ∧
      ∀ x ∈ inner, isInner x = true := by
  obtain ⟨b, inner, bytes, whole⟩ := front_encodeChar c []
  refine ⟨b, inner, bytes, ?_, fun x member => ?_⟩
  · cases follows : following b with
    | some count => exact not_inner_of_following follows
    -- a byte that begins no character is not read as one
    | none =>
      unfold front at whole
      rw [follows] at whole
      cases whole
  · refine inner_of_mem_front b (inner ++ []) ?_
    rw [whole]
    simpa using member

theorem starts_encodeChars (cs : List Char) : starts (encodeChars cs) = cs.length := by
  induction cs with
  | nil => rfl
  | cons c cs inductionHypothesis =>
    obtain ⟨b, inner, bytes, first, others⟩ := encodeChar_cases c
    have whole : encodeChars (c :: cs) = [b] ++ (inner ++ encodeChars cs) := by
      rw [encodeChars, List.flatMap_cons, bytes]
      rfl
    have one : starts [b] = 1 := by simp [starts, first]
    rw [whole, starts_append, starts_append, starts_of_inner others, one, inductionHypothesis,
      List.length_cons]
    omega

/-! ## What the decoder gives for a piece -/

/-- The characters that a byte list is decoded to. -/
def lossyChars (skip : Nat) (bytes : Bytes) : List Char :=
  (decodeWith (some '\uFFFD') skip bytes).getD []

theorem toList_decodeLossy (bytes : Bytes) : (decodeLossy bytes).toList = lossyChars 0 bytes :=
  String.toList_ofList

/-- Lossy decoding never fails: what is no character is replaced. -/
theorem decodeWith_mark (mark : Char) (skip : Nat) (bytes : Bytes) :
    ∃ cs, decodeWith (some mark) skip bytes = some cs := by
  induction bytes generalizing skip with
  | nil => exact ⟨[], by simp only [decodeWith]⟩
  | cons b bytes inductionHypothesis =>
    cases skip with
    | succ skip => exact inductionHypothesis skip
    | zero =>
      obtain ⟨cs, decoded⟩ := inductionHypothesis (front b bytes).2
      rw [decodeWith]
      cases (front b bytes).1 <;> exact ⟨_, by simp only [Option.or, decoded]; rfl⟩

theorem length_lossyChars_cons (b : UInt8) (bytes : Bytes) :
    (lossyChars 0 (b :: bytes)).length = (lossyChars (front b bytes).2 bytes).length + 1 := by
  obtain ⟨cs, decoded⟩ := decodeWith_mark '\uFFFD' (front b bytes).2 bytes
  rw [lossyChars, lossyChars, decodeWith, decoded]
  cases (front b bytes).1 <;> rfl

/-- The decoder gives a character for each first byte, and those that it skips are none. -/
theorem starts_le_lossyChars (skip : Nat) (bytes : Bytes)
    (skipped : ∀ b ∈ bytes.take skip, isInner b = true) :
    starts bytes ≤ (lossyChars skip bytes).length := by
  induction bytes generalizing skip with
  | nil => exact Nat.zero_le _
  | cons b bytes inductionHypothesis =>
    have split : starts (b :: bytes) = starts [b] + starts bytes := starts_append [b] bytes
    cases skip with
    -- a skipped byte counts on neither side
    | succ skip =>
      have inner : starts [b] = 0 := starts_of_inner (by simpa using skipped b (by simp))
      have rest := inductionHypothesis skip fun x member => skipped x (by simp [member])
      rw [split, inner, Nat.zero_add]
      exact rest
    | zero =>
      have one : starts [b] ≤ 1 := List.countP_le_length
      have rest := inductionHypothesis _ fun _ member => inner_of_mem_front b bytes member
      rw [length_lossyChars_cons, split]
      omega

/-- A piece that begins inside a character gives one character more than it has first bytes. -/
theorem starts_lt_lossyChars {b : UInt8} (bytes : Bytes) (inner : isInner b = true) :
    starts (b :: bytes) < (lossyChars 0 (b :: bytes)).length := by
  have none : starts [b] = 0 := starts_of_inner (by simpa using inner)
  have split : starts (b :: bytes) = starts [b] + starts bytes := starts_append [b] bytes
  have rest := starts_le_lossyChars _ bytes fun _ member => inner_of_mem_front b bytes member
  rw [length_lossyChars_cons, split, none]
  omega

/-! ## Cuts -/

/-- Whether a byte list is empty or begins with a byte that is no inner byte. -/
def BeginsWhole (bytes : Bytes) : Prop := ∀ b ∈ bytes.head?, isInner b = false

theorem beginsWhole_flatten {chunks : List Bytes} (whole : ∀ chunk ∈ chunks, BeginsWhole chunk) :
    BeginsWhole chunks.flatten := by
  induction chunks with
  | nil => exact nofun
  | cons chunk chunks inductionHypothesis =>
    cases chunk with
    | nil => exact inductionHypothesis fun other member => whole other (by simp [member])
    | cons b bytes => exact fun x first => whole (b :: bytes) (by simp) x first

/-- A cut in front of a first byte divides the characters of a text. -/
theorem exists_cut {front back : Bytes} {cs : List Char} (whole : BeginsWhole back)
    (text : front ++ back = encodeChars cs) :
    ∃ before after, cs = before ++ after ∧ front = encodeChars before ∧ back = encodeChars after := by
  induction cs generalizing front with
  | nil =>
    obtain ⟨rfl, rfl⟩ := List.append_eq_nil_iff.mp text
    exact ⟨[], [], rfl, rfl, rfl⟩
  | cons c cs inductionHypothesis =>
    cases front with
    | nil => exact ⟨[], c :: cs, rfl, rfl, text⟩
    | cons b bytes =>
      obtain ⟨first, inner, encoded, -, others⟩ := encodeChar_cases c
      have head : encodeChars (c :: cs) = first :: (inner ++ encodeChars cs) := by
        rw [encodeChars, List.flatMap_cons, encoded]
        rfl
      rw [head, List.cons_append, List.cons.injEq] at text
      obtain ⟨rfl, rest⟩ := text
      -- the cut is behind this character, or it would be in front of one of its inner bytes
      obtain ⟨left, within, cut⟩ | ⟨left, beyond, cut⟩ := List.append_eq_append_iff.mp rest
      · cases left with
        | nil =>
          refine ⟨[c], cs, rfl, ?_, cut⟩
          rw [List.append_nil] at within
          rw [encodeChars, List.flatMap_cons, encoded, within]
          exact (List.append_nil _).symm
        | cons x left =>
          have first := whole x (by simp [cut])
          rw [others x (by simp [within])] at first
          cases first
      · obtain ⟨before, after, rfl, same, behind⟩ := inductionHypothesis cut.symm
        refine ⟨c :: before, after, rfl, ?_, behind⟩
        rw [encodeChars, List.flatMap_cons, encoded, beyond, same]
        rfl

/-- As many characters as first bytes come out only of pieces that begin with a character. -/
theorem beginsWhole_of_length {chunks : List Bytes}
    (same : (chunks.flatMap (lossyChars 0)).length ≤ starts chunks.flatten) :
    ∀ chunk ∈ chunks, BeginsWhole chunk := by
  -- the rest never gives fewer, so this piece cannot give more
  have enough (others : List Bytes) :
      starts others.flatten ≤ (others.flatMap (lossyChars 0)).length := by
    induction others with
    | nil => exact Nat.zero_le _
    | cons chunk others inductionHypothesis =>
      have here := starts_le_lossyChars 0 chunk (by simp)
      rw [List.flatten_cons, starts_append, List.flatMap_cons, List.length_append]
      omega
  induction chunks with
  | nil => exact nofun
  | cons chunk chunks inductionHypothesis =>
    rw [List.flatten_cons, starts_append, List.flatMap_cons, List.length_append] at same
    have here := starts_le_lossyChars 0 chunk (by simp)
    have there := enough chunks
    intro other member
    obtain rfl | member := List.mem_cons.mp member
    · intro b first
      obtain ⟨bytes, rfl⟩ := List.head?_eq_some_iff.mp first
      refine Bool.eq_false_iff.mpr fun inner => ?_
      have more := starts_lt_lossyChars bytes inner
      omega
    · exact inductionHypothesis (by omega) other member

theorem exists_texts {chunks : List Bytes} {cs : List Char}
    (whole : ∀ chunk ∈ chunks, BeginsWhole chunk) (text : chunks.flatten = encodeChars cs) :
    ∀ chunk ∈ chunks, ∃ piece, encode piece = chunk := by
  induction chunks generalizing cs with
  | nil => exact nofun
  | cons chunk chunks inductionHypothesis =>
    have others : ∀ other ∈ chunks, BeginsWhole other := fun other member =>
      whole other (by simp [member])
    obtain ⟨before, after, -, here, there⟩ := exists_cut (beginsWhole_flatten others) text
    intro other member
    obtain rfl | member := List.mem_cons.mp member
    · exact ⟨String.ofList before, by rw [encode, String.toList_ofList, here]⟩
    · exact inductionHypothesis others there other member

/-- The pieces of a text are decoded to the text exactly if each of them is UTF-8, which is to say
    that no cut is inside a character. -/
theorem join_decodeLossy_iff {chunks : List Bytes} {text : String}
    (pieces : chunks.flatten = encode text) :
    String.join (chunks.map decodeLossy) = text ↔
      ∀ chunk ∈ chunks, chunk.toByteArray.IsValidUTF8 := by
  have characters : (String.join (chunks.map decodeLossy)).toList =
      chunks.flatMap (lossyChars 0) := by
    rw [String.toList_join, List.flatMap_map]
    simp only [toList_decodeLossy]
  constructor
  -- the characters of the text are counted in its bytes and in what came out of the pieces
  · intro same
    have counted : (chunks.flatMap (lossyChars 0)).length ≤ starts chunks.flatten := by
      refine Nat.le_of_eq ?_
      rw [← characters, same, pieces, encode, starts_encodeChars]
    intro chunk member
    exact (isValidUTF8_iff chunk).mpr
      (exists_texts (beginsWhole_of_length counted) pieces chunk member)
  -- texts are told apart by their bytes, and whole pieces keep theirs
  · intro valid
    have encoded : encode (String.join (chunks.map decodeLossy)) = encode text := by
      have unchanged : chunks.map (fun chunk => encodeChars (lossyChars 0 chunk)) = chunks := by
        refine (List.map_congr_left fun chunk member => ?_).trans (List.map_id chunks)
        rw [← toList_decodeLossy]
        exact (encode_decodeLossy_iff chunk).mpr (valid chunk member)
      rw [← pieces, encode, encodeChars, characters, List.flatMap_assoc]
      exact congrArg List.flatten unchanged
    rw [← decodeLossy_encode (String.join (chunks.map decodeLossy)), encoded, decodeLossy_encode]

end Lifeline.Text
