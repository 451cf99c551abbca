import Mathlib.Data.List.DropRight
import Mathlib.Data.List.Induction
import Lifeline.Files.Path

/-! # Paths of ordinary names

Empty names lead nowhere, but every function on paths has to leave out the right ones.  For an
ordinary path, whose names lead further down and which no slash ends, `parent?` takes away the last
name (`IsOrdinary.exists_parent?`) and `withExtension` gives it another ending, whatever slashes stand
between the names.
-/

namespace Lifeline.Path

/-- Whether the names of a path all lead further down, and none has a slash behind it that ends the
    path. -/
structure IsOrdinary (p : Path) : Prop where
  dotless : ∀ name ∈ p.names, isDots name = false
  unslashed : p.endsInSlash = true → p.names = []

variable {p : Path} {pieces front : List String} {first name : String}

/-! ## Trimming -/

/-- Whether a piece of a path is left out at its end. -/
abbrev IsIdle (name : String) : Prop := name = "" ∨ name = "."

theorem trimNames_concat (pieces : List String) (name : String) :
    trimNames (pieces ++ [name]) = if IsIdle name then trimNames pieces else pieces ++ [name] := by
  by_cases idle : IsIdle name <;> simp_all [trimNames, IsIdle]

theorem trimNames_isPrefix (pieces : List String) : trimNames pieces <+: pieces :=
  List.rdropWhile_prefix _ _

theorem getLast?_trimNames (pieces : List String) : (trimNames pieces).getLast? ≠ some "" := by
  -- Pieces are left out from the end on, and so the induction goes.
  induction pieces using List.reverseRecOn with
  | nil => exact nofun
  | append_singleton pieces name inductionHypothesis =>
    rw [trimNames_concat]
    by_cases idle : IsIdle name
    · rw [if_pos idle]
      exact inductionHypothesis
    · rw [if_neg idle, List.getLast?_concat]
      rintro ⟨⟩
      exact idle (.inl rfl)

theorem filter_trimNames (dotless : ∀ name ∈ pieces, name ≠ ".") :
    (trimNames pieces).filter (!·.isEmpty) = pieces.filter (!·.isEmpty) := by
  induction pieces using List.reverseRecOn with
  | nil => rfl
  | append_singleton pieces name inductionHypothesis =>
    rw [trimNames_concat]
    by_cases idle : IsIdle name
    · obtain rfl : name = "" := idle.resolve_right (dotless name (by simp))
      rw [if_pos idle, inductionHypothesis fun name member => dotless name (by simp [member])]
      simp
    · rw [if_neg idle]

/-! ## Names -/

theorem mem_names : name ∈ p.names ↔ (name = p.first ∨ name ∈ p.rest) ∧ name ≠ "" := by
  simp [names]

theorem IsOrdinary.not_idle (ordinary : p.IsOrdinary) (member : name ∈ p.names) :
    ¬ IsIdle name := by
  have dotless := ordinary.dotless name member
  rintro (rfl | rfl)
  · exact (mem_names.mp member).2 rfl
  · exact absurd dotless (by decide)

theorem names_single (filled : name ≠ "") : names ⟨name, []⟩ = [name] := by
  simp [names, filled]

theorem names_concat (filled : name ≠ "") :
    names ⟨first, pieces ++ [name]⟩ = names ⟨first, pieces⟩ ++ [name] := by
  show (first :: pieces ++ [name]).filter (!·.isEmpty) = _
  rw [List.filter_append]
  simp [names, filled]

theorem names_trimNames (ordinary : IsOrdinary ⟨first, pieces ++ [name]⟩) :
    names ⟨first, trimNames pieces⟩ = names ⟨first, pieces⟩ := by
  have dotless : ∀ piece ∈ pieces, piece ≠ "." := by
    rintro _ member rfl
    have named : "." ∈ names ⟨first, pieces ++ [name]⟩ := mem_names.mpr (by simp [member])
    exact ordinary.not_idle named (.inr rfl)
  simp only [names, List.filter_cons, filter_trimNames dotless]

theorem isEmpty_of_names (named : p.names = front ++ [name]) : p.isEmpty = false := by
  cases blank : p.isEmpty with
  | false => rfl
  | true =>
    obtain ⟨first, rest⟩ := p
    simp only [isEmpty, Bool.and_eq_true, String.isEmpty_iff, List.isEmpty_iff] at blank
    obtain ⟨rfl, rfl⟩ := blank
    simp [names] at named

theorem IsOrdinary.endsInSlash_eq_false (ordinary : p.IsOrdinary)
    (named : p.names = front ++ [name]) : p.endsInSlash = false := by
  cases slashed : p.endsInSlash with
  | false => rfl
  | true =>
    rw [ordinary.unslashed slashed] at named
    simp at named

/-- The last name of an ordinary path is the last piece of it. -/
theorem IsOrdinary.shape (ordinary : p.IsOrdinary) (named : p.names = front ++ [name]) :
    p = ⟨name, []⟩ ∧ front = [] ∨
      ∃ first pieces, p = ⟨first, pieces ++ [name]⟩ ∧ front = names ⟨first, pieces⟩ := by
  obtain ⟨first, rest⟩ := p
  obtain rfl | ⟨pieces, last, rfl⟩ := List.eq_nil_or_concat' rest
  · have filled : first ≠ "" := by
      rintro rfl
      simp [names] at named
    rw [names_single filled] at named
    obtain ⟨rfl, same⟩ := List.append_inj' (show [] ++ [first] = front ++ [name] from named) rfl
    exact .inl ⟨by rw [List.singleton_inj.mp same], rfl⟩
  · -- A last piece without text would be a slash at the end.
    have filled : last ≠ "" := by
      rintro rfl
      rw [ordinary.unslashed (by simp [endsInSlash])] at named
      simp at named
    rw [names_concat filled] at named
    obtain ⟨same, same'⟩ := List.append_inj' named rfl
    exact .inr ⟨first, pieces, by rw [List.singleton_inj.mp same'], same.symm⟩

/-! ## The path around the last name -/

theorem text_isPrefix {ps qs : List String} (shorter : ps <+: qs) :
    ("/".intercalate ps).toList <+: ("/".intercalate qs).toList := by
  simp only [String.toList_intercalate]
  induction ps generalizing qs with
  | nil => exact List.nil_prefix
  | cons p ps inductionHypothesis =>
    obtain ⟨more, rfl⟩ := shorter
    cases ps with
    | nil =>
      cases more with
      | nil => exact List.prefix_rfl
      | cons q more => simp [List.intercalate_cons_cons]
    | cons p' ps =>
      have later := inductionHypothesis (List.prefix_append (p' :: ps) more)
      simpa [List.intercalate_cons_cons, List.prefix_append_right_inj] using later

theorem isAbsolute_concat : isAbsolute ⟨first, pieces ++ [name]⟩ = first.isEmpty := by
  simp [isAbsolute]

/-- Whether a path leads where another one leads without its last name. -/
structure IsAround (around : Path) (front : List String) (p : Path) : Prop where
  ordinary : around.IsOrdinary
  names : around.names = front
  isAbsolute : around.isAbsolute = p.isAbsolute
  text : around.text.toList <+: p.text.toList

theorem isOrdinary_root : root.IsOrdinary := ⟨by decide, by decide⟩

theorem isOrdinary_empty : empty.IsOrdinary := ⟨by decide, by decide⟩

theorem isOrdinary_trimNames (ordinary : IsOrdinary ⟨first, pieces ++ [name]⟩)
    (filled : name ≠ "") : IsOrdinary ⟨first, trimNames pieces⟩ := by
  constructor
  · intro piece member
    rw [names_trimNames ordinary] at member
    apply ordinary.dotless
    rw [names_concat filled]
    exact List.mem_append_left _ member
  · intro slashed
    exact absurd (of_decide_eq_true slashed) (getLast?_trimNames pieces)

theorem isAround_ofPieces (ordinary : IsOrdinary ⟨first, pieces ++ [name]⟩) (filled : name ≠ "") :
    IsAround (ofPieces first (trimNames pieces)) (names ⟨first, pieces⟩)
      ⟨first, pieces ++ [name]⟩ := by
  have shorter : first :: trimNames pieces <+: first :: (pieces ++ [name]) :=
    List.cons_prefix_cons.mpr ⟨rfl, (trimNames_isPrefix pieces).trans (List.prefix_append ..)⟩
  rw [← names_trimNames ordinary]
  by_cases nothing : first.isEmpty && (trimNames pieces).isEmpty
  · rw [ofPieces, if_pos nothing]
    simp only [Bool.and_eq_true, String.isEmpty_iff, List.isEmpty_iff] at nothing
    obtain ⟨rfl, blank⟩ := nothing
    rw [blank]
    refine ⟨isOrdinary_root, rfl, by simp [root, isAbsolute], ?_⟩
    cases pieces <;> simp [text, root, String.toList_intercalate]
  · rw [ofPieces, if_neg nothing]
    refine ⟨isOrdinary_trimNames ordinary filled, rfl, ?_, text_isPrefix shorter⟩
    rw [isAbsolute_concat, isAbsolute]
    cases blank : first.isEmpty <;> simp_all

/-- The last name of an ordinary path is taken away, with the slashes before it. -/
theorem IsOrdinary.exists_parent? (ordinary : p.IsOrdinary) (named : p.names = front ++ [name]) :
    ∃ around, p.parent? = some around ∧ IsAround around front p := by
  have awake : ¬ IsIdle name := ordinary.not_idle (by simp [named])
  obtain ⟨rfl, rfl⟩ | ⟨first, pieces, rfl, rfl⟩ := ordinary.shape named
  · have filled : name ≠ "" := fun blank => awake (.inl blank)
    refine ⟨empty, ?_, isOrdinary_empty, rfl, ?_, List.nil_prefix⟩
    · simp [parent?, trimNames, filled]
    · simp [isAbsolute, empty]
  · refine ⟨_, ?_, isAround_ofPieces ordinary fun blank => awake (.inl blank)⟩
    simp [parent?, trimNames_concat, awake]

theorem first_of_nameless (nameless : p.names = []) : p.first = "" := by
  by_contra filled
  simpa [nameless] using mem_names.mpr ⟨.inl rfl, filled⟩

theorem trimNames_of_nameless (nameless : p.names = []) : trimNames p.rest = [] := by
  refine List.rdropWhile_eq_nil_iff.mpr fun piece member => ?_
  have blank : piece = "" := by
    by_contra filled
    simpa [nameless] using mem_names.mpr ⟨.inr member, filled⟩
  simp [blank]

theorem parent?_of_nameless (nameless : p.names = []) : p.parent? = none := by
  rw [parent?, trimNames_of_nameless nameless, first_of_nameless nameless]
  rfl

theorem ancestorsFrom_of_nameless (nameless : p.names = []) (limit : Nat) :
    ancestorsFrom limit p = [p] := by
  cases limit with
  | zero => rfl
  | succ limit => rw [ancestorsFrom, parent?_of_nameless nameless]

theorem ancestorsFrom_of_parent? {around : Path} (parent : p.parent? = some around) (limit : Nat) :
    ancestorsFrom (limit + 1) p = p :: ancestorsFrom limit around := by
  rw [ancestorsFrom, parent]

/-! ## Another ending -/

/-- A name is its own stem, or its last point stands behind the stem. -/
theorem stem_cases (name : String) :
    stem name = name ∨
      ∃ ending, name.toList = (stem name).toList ++ '.' :: ending ∧ '.' ∉ ending := by
  let isInner (c : Char) : Bool := c ≠ '.'
  have cut : name.toList.reverse.takeWhile isInner ++ name.toList.reverse.dropWhile isInner =
      name.toList.reverse := List.takeWhile_append_dropWhile
  unfold stem
  split
  · rename_i point c cs found
    right
    -- Seen from its end, a name is what stands behind its last point, the point, and the stem.
    have stops := List.head?_dropWhile_not isInner name.toList.reverse
    rw [show name.toList.reverse.dropWhile isInner = point :: c :: cs from found] at stops cut
    obtain rfl : point = '.' := by simpa [isInner] using stops
    have whole := congrArg List.reverse cut
    rw [List.reverse_reverse] at whole
    refine ⟨(name.toList.reverse.takeWhile isInner).reverse, whole.symm.trans (by simp), ?_⟩
    intro member
    simpa [isInner] using List.mem_takeWhile_imp (List.mem_reverse.mp member)
  · exact .inl rfl

/-- An ending with a point in it is never what stands behind the last point of a name. -/
theorem withEnding_ne {ending : String} (pointed : '.' ∈ ending.toList) (name : String) :
    withEnding ending name ≠ name := by
  intro same
  have texts : (stem name).toList ++ '.' :: ending.toList = name.toList := by
    rw [← congrArg String.toList same]
    simp [withEnding]
  obtain whole | ⟨last, parts, pointless⟩ := stem_cases name
  · rw [whole] at texts
    simp at texts
  · rw [parts] at texts
    obtain rfl := (List.cons.inj (List.append_cancel_left texts)).2
    exact pointless pointed

theorem length_withEnding (ending name : String) :
    ending.toList.length < (withEnding ending name).toList.length := by
  simp only [withEnding, String.toList_append, List.length_append]
  have point : ".".toList.length = 1 := rfl
  omega

theorem withEnding_awake {ending : String} (long : 1 < ending.toList.length) (name : String) :
    withEnding ending name ≠ "" ∧ isDots (withEnding ending name) = false := by
  have longer := length_withEnding ending name
  constructor
  · intro blank
    rw [blank] at longer
    simp at longer
  · by_contra dots
    have short : (withEnding ending name).toList.length ≤ 2 := by
      simp only [isDots, Bool.not_eq_false, Bool.or_eq_true, decide_eq_true_eq] at dots
      obtain one | two := dots
      · simp [one]
      · simp [two]
    omega

theorem withExtension_of_nameless (nameless : p.names = []) (ending : String) :
    p.withExtension ending = p := by
  rw [withExtension, trimNames_of_nameless nameless, first_of_nameless nameless]
  rfl

/-- An ordinary path with another ending leads to a place beside it. -/
theorem IsOrdinary.withExtension (ordinary : p.IsOrdinary) (named : p.names = front ++ [name])
    {ending : String} (long : 1 < ending.toList.length) :
    (p.withExtension ending).IsOrdinary ∧
      (p.withExtension ending).names = front ++ [withEnding ending name] ∧
      (p.withExtension ending).isAbsolute = p.isAbsolute := by
  have awake : ¬ IsIdle name := ordinary.not_idle (by simp [named])
  obtain ⟨filled, dotless⟩ := withEnding_awake long name
  have beside : ∀ name' ∈ front ++ [withEnding ending name], isDots name' = false := by
    intro name' member
    obtain inside | new := List.mem_append.mp member
    · exact ordinary.dotless name' (named ▸ List.mem_append_left _ inside)
    · exact List.mem_singleton.mp new ▸ dotless
  have notDots : isDots name = false := ordinary.dotless name (by simp [named])
  obtain ⟨rfl, rfl⟩ | ⟨first, pieces, rfl, rfl⟩ := ordinary.shape named
  · have extended : withExtension ending ⟨name, []⟩ = ⟨withEnding ending name, []⟩ := by
      have notBlank : name ≠ "" := fun blank => awake (.inl blank)
      simp [Path.withExtension, trimNames, notBlank, notDots]
    have same := names_single filled
    rw [extended]
    refine ⟨⟨same ▸ beside, ?_⟩, same, ?_⟩
    · simp [endsInSlash]
    · simp [isAbsolute]
  · have extended : withExtension ending ⟨first, pieces ++ [name]⟩ =
        ⟨first, pieces ++ [withEnding ending name]⟩ := by
      have notUp : name ≠ ".." := by
        rintro rfl
        exact absurd notDots (by decide)
      simp [Path.withExtension, trimNames_concat, awake, notUp]
    have same : names ⟨first, pieces ++ [withEnding ending name]⟩ = _ := names_concat filled
    rw [extended]
    refine ⟨⟨same ▸ beside, ?_⟩, same, ?_⟩
    · simp [endsInSlash, filled]
    · rw [isAbsolute_concat, isAbsolute_concat]

end Lifeline.Path
