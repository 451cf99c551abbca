import Lifeline.Proofs.Config.Layers

/-! # Where a configuration comes from

A configuration comes from the file at a path, or from the defaults if there is none, and the flags
of the client lie over it.  `load_document` says what a document gives, whatever its layout, and which
of its faults is told first.  `resolve_layers` says when a client gets a configuration, and that it
holds the uppermost value of each setting.
-/

namespace Lifeline.Config

variable {files : Files} {path : Path} {text : String} {t : Toml.Table} {c : Config}

/-! ## Reading a file -/

theorem holds_of_read {content : Bytes} (reads : files.read path = .ok content) :
    files.holds path = true := by
  cases found : files.find path with
  | ok place => simp [Files.holds, found, Except.isOk, Except.toBool]
  | error cause =>
    rw [Files.read, found] at reads
    cases reads

theorem holds_of_readFile (content : readFile files path = .ok text) : files.holds path = true := by
  cases reads : files.read path with
  | ok _ => exact holds_of_read reads
  | error cause =>
    rw [readFile, reads] at content
    cases content

theorem parse_of_readFile (content : readFile files path = .ok text) :
    parse files path =
      match ofText text with
      | .ok c => .ok c
      | .error .malformed => .error (.malformed path)
      | .error (.mismatch mismatch passage) => .error (.mismatch path mismatch passage) := by
  rewrite [parse, if_pos (holds_of_readFile content), content]
  rfl

theorem ofText_of_read (accepted : Toml.read text = some t) :
    ofText text =
      (ofTable t).mapError fun mismatch =>
        .mismatch mismatch ((unsuitable? t).bind fun name => Toml.itemPassage? name text) := by
  rw [ofText, accepted]

theorem parse_of_suitable (content : readFile files path = .ok text)
    (accepted : Toml.read text = some t) (suitable : Suitable t) :
    parse files path = .ok ((Layer.ofTable t).upon {}) := by
  rw [parse_of_readFile content, ofText_of_read accepted,
    ofTable_of_suits (Toml.distinct_of_read accepted) suitable]
  rfl

theorem parse_of_first {setting : Setting} {item : Toml.Item}
    (content : readFile files path = .ok text) (accepted : Toml.read text = some t)
    (first : IsFirstUnsuited setting item t) :
    parse files path =
      .error (.mismatch path (setting.mismatch item) (Toml.itemPassage? setting.name text)) := by
  obtain ⟨refused, named⟩ := ofTable_of_first first
  rw [parse_of_readFile content, ofText_of_read accepted, refused, named]
  rfl

/-! ## Loading -/

/-- Validation comes after reading, so a fault of reading is told first. -/
theorem load_of_error {error : LoadError} (refused : parse files path = .error error) :
    load files path = .error error := by
  rw [load, refused]
  rfl

theorem load_of_parse (parsed : parse files path = .ok c) :
    load files path =
      match c.validate with
      | .ok () => .ok c
      | .error reason => .error (.invalid path reason) := by
  rw [load, parsed]
  rfl

theorem load_eq_ok_iff :
    load files path = .ok c ↔ parse files path = .ok c ∧ c.validate = .ok () := by
  cases parsed : parse files path with
  | error error => simp [load_of_error parsed]
  | ok d =>
    rw [load_of_parse parsed]
    cases valid : d.validate with
    | ok _ =>
      simp only [Except.ok.injEq, iff_self_and]
      rintro rfl
      exact valid
    | error reason =>
      simp only [Except.ok.injEq, reduceCtorEq, false_iff, not_and]
      rintro rfl
      simp [valid]

theorem load_document_eq_ok_iff (content : readFile files path = .ok text)
    (accepted : Toml.read text = some t) :
    load files path = .ok c ↔
      Suitable t ∧ ((Layer.ofTable t).upon {}).validate = .ok () ∧ c = (Layer.ofTable t).upon {} := by
  rw [load_eq_ok_iff]
  obtain suitable | ⟨setting, item, first⟩ := suitable_or_exists t
  · rw [parse_of_suitable content accepted suitable, Except.ok.injEq]
    constructor
    · rintro ⟨rfl, valid⟩
      exact ⟨suitable, valid, rfl⟩
    · rintro ⟨-, valid, rfl⟩
      exact ⟨rfl, valid⟩
  · rw [parse_of_first content accepted first]
    obtain ⟨front, back, rfl, -, unsuited⟩ := first
    constructor
    · rintro ⟨⟨⟩, -⟩
    · rintro ⟨suitable, -⟩
      exact absurd (suitable setting item (by simp)) unsuited

/-- Documents with the same items under the names of settings make up the same layer. -/
theorem ofTable_eq_of_same {u : Toml.Table} (distinct : t.Distinct) (distinct' : u.Distinct)
    (same : ∀ (setting : Setting) item, (setting.name, item) ∈ t ↔ (setting.name, item) ∈ u) :
    Layer.ofTable t = Layer.ofTable u := by
  apply ofTable_congr
  intro setting
  apply Option.ext
  intro item
  rw [Toml.Table.get?_eq_some_iff distinct, Toml.Table.get?_eq_some_iff distinct']
  exact same setting item

/-- A document gives a configuration exactly if all its items suit the settings that they are named
    for and the defaults under them are valid; those are the configuration.  Otherwise the first item
    that does not suit is told, and what is not valid only if there is none.  A document with the same
    items under the names of settings, in whatever order and among whatever others, gives the same. -/
theorem load_document (content : readFile files path = .ok text)
    (accepted : Toml.read text = some t) :
    let given := (Layer.ofTable t).upon {}
    (∀ c, load files path = .ok c ↔ Suitable t ∧ given.validate = .ok () ∧ c = given) ∧
    (¬ Suitable t → ∃ setting item, IsFirstUnsuited setting item t ∧
      load files path =
        .error (.mismatch path (setting.mismatch item) (Toml.itemPassage? setting.name text))) ∧
    (∀ reason, Suitable t → given.validate = .error reason →
      load files path = .error (.invalid path reason)) ∧
    ∀ (files' : Files) (path' : Path) (text' : String) (t' : Toml.Table),
      readFile files' path' = .ok text' → Toml.read text' = some t' →
      (∀ (setting : Setting) item, (setting.name, item) ∈ t ↔ (setting.name, item) ∈ t') →
      ∀ c, load files path = .ok c ↔ load files' path' = .ok c := by
  intro given
  refine ⟨fun c => load_document_eq_ok_iff content accepted, ?_, ?_, ?_⟩
  · intro unsuitable
    obtain suitable | ⟨setting, item, first⟩ := suitable_or_exists t
    · exact absurd suitable unsuitable
    · exact ⟨setting, item, first, load_of_error (parse_of_first content accepted first)⟩
  · intro reason suitable invalid
    rw [load_of_parse (parse_of_suitable content accepted suitable), invalid]
  · intro files' path' text' t' content' accepted' same c
    have layers : Layer.ofTable t = Layer.ofTable t' :=
      ofTable_eq_of_same (Toml.distinct_of_read accepted) (Toml.distinct_of_read accepted') same
    have suitable : Suitable t ↔ Suitable t' :=
      forall_congr' fun setting => forall_congr' fun item => imp_congr_left (same setting item)
    rw [load_document_eq_ok_iff content accepted, load_document_eq_ok_iff content' accepted', layers,
      suitable]

/-- Two documents give the same: one with an item alone, one with it behind an item that names no
    setting. -/
theorem load_document_partial :
    let files : Files :=
      { entries :=
          [(["c"], .file (Text.encode "port = 9000\n")),
           (["d"], .file (Text.encode "color = 1\nport = 9000\n"))] }
    readFile files ⟨"c", []⟩ = .ok "port = 9000\n" ∧
      Toml.read "port = 9000\n" = some [("port", .integer 9000)] ∧
      load files ⟨"c", []⟩ = .ok { port := 9000 } ∧
      load files ⟨"d", []⟩ = .ok { port := 9000 } := by
  intro files
  have content : readFile files ⟨"c", []⟩ = .ok "port = 9000\n" := rfl
  have accepted : Toml.read "port = 9000\n" = some [("port", .integer 9000)] := rfl
  have suitable : Suitable [("port", .integer 9000)] := by
    intro setting item member
    obtain ⟨named, rfl⟩ := Prod.mk.inj (List.mem_singleton.mp member)
    cases setting <;> simp [Setting.name] at named
    exact ⟨9000, by decide, rfl⟩
  obtain ⟨given, -, -, same⟩ := load_document content accepted
  have loaded : load files ⟨"c", []⟩ = .ok { port := 9000 } := (given _).mpr ⟨suitable, rfl, rfl⟩
  have alike := same files ⟨"d", []⟩ "color = 1\nport = 9000\n"
    [("color", .integer 1), ("port", .integer 9000)] rfl rfl
  refine ⟨content, accepted, loaded, (alike ?_ _).mp loaded⟩
  intro setting item
  cases setting <;> simp [Setting.name]

/-! ## The layers of a client -/

/-- Whether a layer is that of the file at a path: an empty one if there is no file, or that of a
    document whose items all suit. -/
def IsFileLayer (files : Files) (path : Path) (file : Layer) : Prop :=
  files.holds path = false ∧ file = {} ∨
    ∃ text t, readFile files path = .ok text ∧ Toml.read text = some t ∧ Suitable t ∧
      file = Layer.ofTable t

theorem parse_eq_ok_iff :
    parse files path = .ok c ↔ ∃ file, IsFileLayer files path file ∧ c = file.upon {} := by
  constructor
  · intro parsed
    cases there : files.holds path with
    | false =>
      rw [parse, there] at parsed
      obtain rfl := Except.ok.inj parsed
      exact ⟨{}, .inl ⟨there, rfl⟩, rfl⟩
    | true =>
      cases content : readFile files path with
      | error cause =>
        rw [parse, if_pos there, content] at parsed
        cases parsed
      | ok text =>
        cases accepted : Toml.read text with
        | none =>
          have malformed : ofText text = .error .malformed := by rw [ofText, accepted]
          rw [parse_of_readFile content, malformed] at parsed
          cases parsed
        | some t =>
          obtain suitable | ⟨setting, item, first⟩ := suitable_or_exists t
          · rw [parse_of_suitable content accepted suitable] at parsed
            exact ⟨_, .inr ⟨text, t, content, accepted, suitable, rfl⟩, (Except.ok.inj parsed).symm⟩
          · rw [parse_of_first content accepted first] at parsed
            cases parsed
  · rintro ⟨file, ⟨absent, rfl⟩ | ⟨text, t, content, accepted, suitable, rfl⟩, rfl⟩
    · rw [parse, absent]
      rfl
    · exact parse_of_suitable content accepted suitable

variable {args : CommandLine.Arguments}

theorem resolve_of_error {error : LoadError} (refused : load files path = .error error) :
    resolve args files path = .error (.load error) := by
  rw [resolve, refused]
  rfl

theorem resolve_of_load (loaded : load files path = .ok c) :
    resolve args files path =
      match ((Layer.ofArguments args).upon c).validate with
      | .ok () => .ok ((Layer.ofArguments args).upon c)
      | .error reason => .error (.overrides reason) := by
  rw [Layer.ofArguments_upon, resolve, loaded]
  rfl

theorem heartbeatSpan_of_noHeartbeat (without : args.noHeartbeat = true) (c : Config) :
    ((Layer.ofArguments args).upon c).heartbeatSpan = none := by
  have zero : ((Layer.ofArguments args).upon c).heartbeatInterval = .zero := by
    simp [Layer.upon, Layer.ofArguments, without]
  rw [heartbeatSpan, zero]
  rfl

theorem resolve_eq_ok_iff (c : Config) :
    resolve args files path = .ok c ↔
      ∃ file, IsFileLayer files path file ∧ (file.upon {}).validate = .ok () ∧
        c = ((Layer.ofArguments args).or file).upon {} ∧ c.validate = .ok () := by
  cases loaded : load files path with
  | error error =>
    rw [resolve_of_error loaded]
    constructor
    · intro resolved
      cases resolved
    · rintro ⟨file, layer, valid, -⟩
      have unrefused : load files path = .ok (file.upon {}) :=
        load_eq_ok_iff.mpr ⟨parse_eq_ok_iff.mpr ⟨file, layer, rfl⟩, valid⟩
      rw [loaded] at unrefused
      cases unrefused
  | ok d =>
    obtain ⟨parsed, valid⟩ := load_eq_ok_iff.mp loaded
    rw [resolve_of_load loaded]
    constructor
    · intro resolved
      obtain ⟨file, layer, rfl⟩ := parse_eq_ok_iff.mp parsed
      rw [← Layer.upon_or] at resolved
      cases validated : (((Layer.ofArguments args).or file).upon {}).validate with
      | error reason =>
        rw [validated] at resolved
        cases resolved
      | ok _ =>
        rw [validated] at resolved
        obtain rfl := Except.ok.inj resolved
        exact ⟨file, layer, valid, rfl, validated⟩
    · rintro ⟨file, layer, -, rfl, validated⟩
      -- The file makes up one layer only.
      have again := parse_eq_ok_iff.mpr ⟨file, layer, rfl⟩
      rw [parsed] at again
      obtain rfl := Except.ok.inj again
      rw [← Layer.upon_or, validated]

/-- A client gets a configuration exactly if the file gives a valid one by itself and what the flags
    make of it is valid.  Of each setting it holds the value of the flag, or else that of the file, or
    else the default, and there are no heartbeats without their flag.  A fault of the file is told
    whatever the flags are, and one of the flags only if the file has none. -/
theorem resolve_layers (args : CommandLine.Arguments) (files : Files) (path : Path) :
    (∀ c, resolve args files path = .ok c ↔
      ∃ file, IsFileLayer files path file ∧ (file.upon {}).validate = .ok () ∧
        c = ((Layer.ofArguments args).or file).upon {} ∧ c.validate = .ok ()) ∧
    (∀ c, resolve args files path = .ok c → args.noHeartbeat = true → c.heartbeatSpan = none) ∧
    (∀ error, load files path = .error error →
      resolve args files path = .error (.load error) ∧
        (ResolveError.load error).text = "load config" ++ ": " ++ error.fullText) ∧
    ∀ file reason, load files path = .ok file →
      ((Layer.ofArguments args).upon file).validate = .error reason →
      resolve args files path = .error (.overrides reason) := by
  refine ⟨resolve_eq_ok_iff, ?_, ?_, ?_⟩
  · intro c resolved without
    obtain ⟨file, -, -, rfl, -⟩ := (resolve_eq_ok_iff c).mp resolved
    rw [Layer.upon_or]
    exact heartbeatSpan_of_noHeartbeat without _
  · intro error refused
    exact ⟨resolve_of_error refused, rfl⟩
  · intro file reason loaded invalid
    rw [resolve_of_load loaded, invalid]

end Lifeline.Config
