import Lifeline.Event.Json
import Lifeline.Proofs.Json.Quoted

/-! # Written events are read back

An event is written as one object whose first member is its kind, and its texts follow in the order
of the fields.  Reading the line gives back the event, and no control character stands in it.
-/

namespace Lifeline.Event

open Json

/-! ## Members -/

/-- Members that follow another one. -/
def laterChars (members : List (String × String)) : List Char :=
  members.flatMap fun (name, value) => ',' :: memberChars name value

theorem lineChars_eq (event : Event) :
    event.lineChars = '\x7b' :: (memberChars "type" event.kind.name ++
      (laterChars (event.kind.fields.zip event.texts) ++ ['\x7d'])) := by
  have joined (first : List Char) (others : List (List Char)) :
      [','].intercalate (first :: others) = first ++ others.flatMap (',' :: ·) := by
    induction others generalizing first with
    | nil => simp
    | cons second others inductionHypothesis =>
      rw [List.intercalate_cons_cons, inductionHypothesis]
      simp
  simp only [lineChars, members, List.map_cons, joined, laterChars, List.flatMap_map,
    List.append_assoc, List.cons_append]

/-- No control character stands in the line of an event. -/
theorem le_of_mem_lineChars {event : Event} {c : Char} (member : c ∈ event.lineChars) :
    0x20 ≤ c.toNat := by
  have inMember {name value : String} (inside : c ∈ memberChars name value) : 0x20 ≤ c.toNat := by
    rw [memberChars, List.mem_append, List.mem_cons] at inside
    obtain quoted | rfl | quoted := inside
    · exact le_of_mem_quote quoted
    · decide
    · exact le_of_mem_quote quoted
  simp only [lineChars_eq, laterChars, List.mem_cons, List.mem_append, List.mem_flatMap,
    List.not_mem_nil, or_false] at member
  obtain rfl | first | ⟨_, -, rfl | later⟩ | rfl := member
  · decide
  · exact inMember first
  · decide
  · exact inMember later
  · decide

/-! ## The kind and the rest -/

theorem readVariantName_kind (kind : Kind) (rest : List Char) :
    readVariantName Kind.name Kind.all (quote kind.name ++ rest) = .ok (kind, rest) := by
  have known : variantOf Kind.name Kind.all kind.name = .ok kind := by
    cases kind <;> rfl
  unfold readVariantName
  rw [skipSpace_quote]
  simp [readString_escaped, known, Except.map]

theorem expect_self (c : Char) (visible : isSpace c = false) (rest : List Char) :
    expect c (c :: rest) = some rest := by
  simp [expect, skipSpace, visible]

/-- The members behind the kind are read as they stand, up to the end of the object. -/
theorem readTagged_later (depth : Nat) (kind : Kind) {members : List (String × String)}
    (others : ∀ member ∈ members, member.1 ≠ "type") (rest : List Char) (fuel : Nat)
    (enough : members.length < fuel) :
    readTagged depth fuel false (some kind) (laterChars members ++ '\x7d' :: rest) =
      .ok ((kind, members.map fun (name, value) => (name, .string value)), rest) := by
  induction members generalizing fuel with
  | nil =>
    obtain ⟨fuel, rfl⟩ : ∃ more, fuel = more + 1 := ⟨fuel - 1, by omega⟩
    rfl
  | cons member members inductionHypothesis =>
    obtain ⟨fuel, rfl⟩ : ∃ more, fuel = more + 1 := ⟨fuel - 1, by omega⟩
    obtain ⟨name, value⟩ := member
    have named : name ≠ "type" := others (name, value) (by simp)
    have later := inductionHypothesis (fun other inside => others other (by simp [inside]))
      fuel (by simpa using enough)
    have front : laterChars ((name, value) :: members) ++ '\x7d' :: rest =
        ',' :: (quote name ++ ':' :: (quote value ++ (laterChars members ++ '\x7d' :: rest))) := by
      simp [laterChars, memberChars]
    have item (cs : List Char) : nextItem '\x7d' false (',' :: cs) = some (.item cs) := rfl
    rw [front, readTagged, item]
    simp only [readName_quote, if_neg named, expect_self ':' rfl, Option.bind_some, fuelFor,
      readValue_quote, later]
    rfl

theorem length_le_laterChars (members : List (String × String)) :
    members.length ≤ (laterChars members).length := by
  induction members with
  | nil => exact Nat.zero_le _
  | cons member members inductionHypothesis =>
    have split : laterChars (member :: members) =
        (',' :: memberChars member.1 member.2) ++ laterChars members := List.flatMap_cons
    rw [split, List.length_append, List.length_cons, List.length_cons]
    omega

/-- An object whose first member is its kind is read as that kind and the members behind it. -/
theorem readTagged_first (depth : Nat) (kind : Kind) {members : List (String × String)}
    (others : ∀ member ∈ members, member.1 ≠ "type") (rest : List Char) {fuel : Nat}
    (enough : members.length + 1 < fuel) :
    readTagged depth fuel true none
        (memberChars "type" kind.name ++ (laterChars members ++ '\x7d' :: rest)) =
      .ok ((kind, members.map fun (name, value) => (name, .string value)), rest) := by
  obtain ⟨fuel, rfl⟩ : ∃ more, fuel = more + 1 := ⟨fuel - 1, by omega⟩
  have later := readTagged_later depth kind others rest fuel (by omega)
  have item (s : String) (cs : List Char) :
      nextItem '\x7d' true (quote s ++ cs) = some (.item (quote s ++ cs)) := by
    have front : quote s ++ cs = '"' :: (s.toList.flatMap escapeChar ++ '"' :: cs) := by
      simp [quote]
    rw [nextItem, skipSpace_quote, front]
    rfl
  rw [memberChars, List.append_assoc, List.cons_append, readTagged, item]
  simp only [readName_quote, if_true, expect_self ':' rfl]
  show (readVariantName Kind.name Kind.all _ >>= _) = _
  rw [readVariantName_kind]
  exact later

theorem readFront_line (event : Event) :
    readFront event.lineChars = .ok ((event.kind, .members
      ((event.kind.fields.zip event.texts).map fun (name, value) => (name, .string value))), []) := by
  have others : ∀ member ∈ event.kind.fields.zip event.texts, member.1 ≠ "type" := by
    cases event <;> simp [kind, Kind.fields, texts]
  rw [lineChars_eq]
  generalize event.kind.fields.zip event.texts = members at others ⊢
  show (readTagged _ _ true none _ >>= _) = _
  rw [readTagged_first _ event.kind others []]
  · rfl
  · have bounded := length_le_laterChars members
    simp only [fuelFor, List.length_append, List.length_cons]
    omega

/-! ## Events -/

/-- An event is read back from its line. -/
theorem read_line (event : Event) : read event.line = .ok event := by
  have texts : ofParts event.kind (.members
      ((event.kind.fields.zip event.texts).map fun (name, value) => (name, .string value))) =
        .ok event := by
    cases event <;> rfl
  unfold read line
  rw [String.toList_ofList, readFront_line]
  show (ofParts _ _ >>= _) = _
  rw [texts]
  rfl

end Lifeline.Event
