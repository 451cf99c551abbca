import Lifeline.Config.Overrides
import Lifeline.Proofs.Toml.Names

/-! # Layers of a configuration

A source of settings gives a value for some of them: a `Layer`.  Layers lie over each other and over
the defaults, and of each setting the uppermost value counts.  Reading a table entry by entry comes
to the one layer that its items make up (`ofTable_of_suits`), in whatever order they stand; and the
first item that does not suit its setting decides what is told instead (`ofTable_of_first`).
-/

namespace Lifeline.Config

/-! ## Layers -/

structure Layer where
  host : Option String := none
  port : Option UInt16 := none
  heartbeatInterval : Option Binary64 := none
  heartbeatSentinel : Option String := none
  receiveBufferSize : Option UInt64 := none
  quitKeyword : Option String := none
  connectTimeout : Option UInt64 := none
  logFile : Option String := none

namespace Layer

/-- A configuration with the values of a layer where it has some. -/
def upon (layer : Layer) (c : Config) : Config where
  host := layer.host.getD c.host
  port := layer.port.getD c.port
  heartbeatInterval := layer.heartbeatInterval.getD c.heartbeatInterval
  heartbeatSentinel := layer.heartbeatSentinel.getD c.heartbeatSentinel
  receiveBufferSize := layer.receiveBufferSize.getD c.receiveBufferSize
  quitKeyword := layer.quitKeyword.getD c.quitKeyword
  connectTimeout := layer.connectTimeout.getD c.connectTimeout
  logFile := layer.logFile.or c.logFile

/-- Two layers as one, of which the first is above the second. -/
def or (upper lower : Layer) : Layer where
  host := upper.host.or lower.host
  port := upper.port.or lower.port
  heartbeatInterval := upper.heartbeatInterval.or lower.heartbeatInterval
  heartbeatSentinel := upper.heartbeatSentinel.or lower.heartbeatSentinel
  receiveBufferSize := upper.receiveBufferSize.or lower.receiveBufferSize
  quitKeyword := upper.quitKeyword.or lower.quitKeyword
  connectTimeout := upper.connectTimeout.or lower.connectTimeout
  logFile := upper.logFile.or lower.logFile

theorem upon_or (upper lower : Layer) (c : Config) :
    (upper.or lower).upon c = upper.upon (lower.upon c) := by
  simp [upon, or, Option.getD_or, Option.or_assoc]

/-- The layer of a command line.  Without heartbeats their interval is zero. -/
def ofArguments (args : CommandLine.Arguments) : Layer where
  host := args.host
  port := args.port
  heartbeatInterval := if args.noHeartbeat then some .zero else args.heartbeatInterval
  quitKeyword := args.quitKeyword

theorem ofArguments_upon (args : CommandLine.Arguments) (c : Config) :
    (ofArguments args).upon c = args.applyTo c := by
  cases without : args.noHeartbeat <;>
    simp [upon, ofArguments, CommandLine.Arguments.applyTo, without]

end Layer

/-! ## Settings -/

inductive Setting where
  | host
  | port
  | heartbeatInterval
  | heartbeatSentinel
  | receiveBufferSize
  | quitKeyword
  | connectTimeout
  | logFile
deriving DecidableEq, Repr

namespace Setting

/-- The name of a setting in a document. -/
def name : Setting → String
  | host => "host"
  | port => "port"
  | heartbeatInterval => "heartbeat_interval_secs"
  | heartbeatSentinel => "heartbeat_sentinel"
  | receiveBufferSize => "receive_buffer_size"
  | quitKeyword => "quit_keyword"
  | connectTimeout => "connect_timeout_secs"
  | logFile => "log_file"

/-- What a setting is told to expect. -/
def expected : Setting → String
  | host | heartbeatSentinel | quitKeyword | logFile => "a string"
  | heartbeatInterval => "f64"
  | port => "u16"
  | receiveBufferSize => "usize"
  | connectTimeout => "u64"

/-- Whether an item has the type of a setting and lies in the range of the type. -/
def Suits : Setting → Toml.Item → Prop
  | host, item | heartbeatSentinel, item | quitKeyword, item | logFile, item =>
    ∃ value, item = .string value
  | heartbeatInterval, item => (∃ value, item = .number value) ∨ ∃ value, item = .integer value
  | port, item => ∃ value : Nat, value < UInt16.size ∧ item = .integer value
  | receiveBufferSize, item | connectTimeout, item =>
    ∃ value : Nat, value < UInt64.size ∧ item = .integer value

/-- What is told of an item that does not suit: an integer is out of range where one is expected, and
    anything else has the wrong type. -/
def mismatch : Setting → Toml.Item → Mismatch
  | port, .integer value => .wrongValue (.integer value) port.expected
  | receiveBufferSize, .integer value => .wrongValue (.integer value) receiveBufferSize.expected
  | connectTimeout, .integer value => .wrongValue (.integer value) connectTimeout.expected
  | setting, item => .wrongType item.found setting.expected

end Setting

/-! ## Tables -/

def textOf? : Toml.Item → Option String
  | .string value => some value
  | _ => none

def numberOf? : Toml.Item → Option Binary64
  | .number value => some value
  | .integer value => some (.ofInt value)
  | _ => none

def naturalOf? : Toml.Item → Option Nat
  | .integer value => some value.toNat
  | _ => none

/-- The layer that the items of a table make up. -/
def Layer.ofTable (t : Toml.Table) : Layer where
  host := (t.get? Setting.host.name).bind textOf?
  port := ((t.get? Setting.port.name).bind naturalOf?).map .ofNat
  heartbeatInterval := (t.get? Setting.heartbeatInterval.name).bind numberOf?
  heartbeatSentinel := (t.get? Setting.heartbeatSentinel.name).bind textOf?
  receiveBufferSize := ((t.get? Setting.receiveBufferSize.name).bind naturalOf?).map .ofNat
  quitKeyword := (t.get? Setting.quitKeyword.name).bind textOf?
  connectTimeout := ((t.get? Setting.connectTimeout.name).bind naturalOf?).map .ofNat
  logFile := (t.get? Setting.logFile.name).bind textOf?

/-- Whether all items of a table that have the name of a setting suit it. -/
def Suitable (t : Toml.Table) : Prop :=
  ∀ (setting : Setting) item, (setting.name, item) ∈ t → setting.Suits item

variable {c : Config} {t u : Toml.Table} {setting : Setting} {name : String} {item : Toml.Item}

/-! ### One entry -/

theorem readEntry_other (other : ∀ setting : Setting, setting.name ≠ name) :
    readEntry c (name, item) = .ok c := by
  unfold readEntry
  split
  case h_9 => rfl
  all_goals rename_i same
  all_goals
    obtain ⟨rfl, -⟩ := Prod.mk.inj same
    exfalso
  · exact other .host rfl
  · exact other .port rfl
  · exact other .heartbeatInterval rfl
  · exact other .heartbeatSentinel rfl
  · exact other .receiveBufferSize rfl
  · exact other .quitKeyword rfl
  · exact other .connectTimeout rfl
  · exact other .logFile rfl

theorem readNatural_bind {limit value : Nat} {type : String} (fits : value < limit)
    (next : Nat → Except Mismatch Config) :
    (readNatural limit type (.integer value) >>= next) = next value := by
  have inside : 0 ≤ (value : Int) ∧ (value : Int) < limit := by omega
  rw [readNatural, if_pos inside, Int.toNat_natCast]
  rfl

theorem readNatural_bind_beyond {limit : Nat} {value : Int} {type : String}
    (beyond : ¬ ∃ n : Nat, n < limit ∧ Toml.Item.integer value = .integer n)
    (next : Nat → Except Mismatch Config) :
    (readNatural limit type (.integer value) >>= next) =
      .error (.wrongValue (.integer value) type) := by
  rw [readNatural, if_neg]
  · rfl
  · rintro ⟨notBelow, fits⟩
    exact beyond ⟨value.toNat, by omega, by rw [Int.toNat_of_nonneg notBelow]⟩

/-- An item that suits its setting is read as the layer with its value. -/
theorem readEntry_of_suits (suits : setting.Suits item) :
    readEntry c (setting.name, item) =
      .ok ((Layer.ofTable [(setting.name, item)]).upon c) := by
  cases setting with
  | host | heartbeatSentinel | quitKeyword | logFile =>
    obtain ⟨value, rfl⟩ := suits
    rfl
  | heartbeatInterval =>
    obtain ⟨value, rfl⟩ | ⟨value, rfl⟩ := suits <;> rfl
  | port | receiveBufferSize | connectTimeout =>
    obtain ⟨value, fits, rfl⟩ := suits
    exact (readNatural_bind fits _).trans rfl

theorem readEntry_of_not_suits (unsuited : ¬ setting.Suits item) :
    readEntry c (setting.name, item) = .error (setting.mismatch item) := by
  cases setting with
  | host | heartbeatSentinel | quitKeyword | logFile =>
    cases item with
    | string value => exact absurd ⟨value, rfl⟩ unsuited
    | _ => rfl
  | heartbeatInterval =>
    cases item with
    | number value => exact absurd (.inl ⟨value, rfl⟩) unsuited
    | integer value => exact absurd (.inr ⟨value, rfl⟩) unsuited
    | _ => rfl
  | port | receiveBufferSize | connectTimeout =>
    cases item with
    | integer value => exact readNatural_bind_beyond unsuited _
    | _ => rfl

/-! ### All entries -/

/-- A name is that of a setting, or of none. -/
theorem setting_cases (name : String) :
    (∃ setting : Setting, setting.name = name) ∨ ∀ setting : Setting, setting.name ≠ name := by
  by_cases some : ∃ setting : Setting, setting.name = name
  · exact .inl some
  · exact .inr (not_exists.mp some)

/-- A layer says no more of a table than what stands under the names of settings. -/
theorem ofTable_congr (same : ∀ setting : Setting, t.get? setting.name = u.get? setting.name) :
    Layer.ofTable t = Layer.ofTable u := by
  simp only [Layer.ofTable, same]

/-- What is read of an item at the front, whose name comes only once, is what lies below. -/
theorem bind_get?_cons {α : Type} (read : Toml.Item → Option α)
    (distinct : Toml.Table.Distinct ((name, item) :: t)) (key : String) :
    (Toml.Table.get? key ((name, item) :: t)).bind read =
      ((t.get? key).bind read).or ((Toml.Table.get? key [(name, item)]).bind read) := by
  obtain ⟨absent, -⟩ := List.nodup_cons.mp distinct
  by_cases same : key = name
  · subst same
    have nowhere : t.get? key = none :=
      Toml.Table.get?_eq_none_iff.mpr fun _ member => absent (List.mem_map.mpr ⟨_, member, rfl⟩)
    rw [nowhere]
    simp [Toml.Table.get?]
  · have differs : (key == name) = false := by simpa using same
    simp [Toml.Table.get?, List.lookup_cons, differs]

theorem ofTable_cons (distinct : Toml.Table.Distinct ((name, item) :: t)) :
    Layer.ofTable ((name, item) :: t) = (Layer.ofTable t).or (Layer.ofTable [(name, item)]) := by
  simp only [Layer.ofTable, Layer.or, bind_get?_cons _ distinct, Option.map_or]

theorem Suitable.tail {entry : String × Toml.Item} (suitable : Suitable (entry :: t)) :
    Suitable t := fun setting item member => suitable setting item (.tail _ member)

/-- Any item of a suitable table is read as its own layer, which is empty under another name. -/
theorem readEntry_of_mem (suitable : Suitable t) (member : (name, item) ∈ t) (c : Config) :
    readEntry c (name, item) = .ok ((Layer.ofTable [(name, item)]).upon c) := by
  obtain ⟨setting, rfl⟩ | other := setting_cases name
  · exact readEntry_of_suits (suitable setting item member)
  · have nothing : Layer.ofTable [(name, item)] = Layer.ofTable [] := by
      apply ofTable_congr
      intro setting
      have differs : (setting.name == name) = false := by simpa using other setting
      simp [Toml.Table.get?, List.lookup_cons, differs]
    rw [readEntry_other other, nothing]
    rfl

theorem foldlM_of_suits (distinct : t.Distinct) (suitable : Suitable t) (c : Config) :
    t.foldlM readEntry c = .ok ((Layer.ofTable t).upon c) := by
  induction t generalizing c with
  | nil => rfl
  | cons entry t inductionHypothesis =>
    -- The first entry is the lowest layer, but no other one has its name, so that does not matter.
    rw [List.foldlM_cons, ofTable_cons distinct, Layer.upon_or, readEntry_of_mem suitable (.head _)]
    exact inductionHypothesis (List.nodup_cons.mp distinct).2 suitable.tail _

/-- A table of which every item suits its setting gives the defaults under its layer. -/
theorem ofTable_of_suits (distinct : t.Distinct) (suitable : Suitable t) :
    ofTable t = .ok ((Layer.ofTable t).upon {}) := foldlM_of_suits distinct suitable {}

/-! ### The first entry that does not suit -/

/-- Whether an item is the first one of a table that does not suit its setting. -/
def IsFirstUnsuited (setting : Setting) (item : Toml.Item) (t : Toml.Table) : Prop :=
  ∃ front back, t = front ++ (setting.name, item) :: back ∧ Suitable front ∧ ¬ setting.Suits item

theorem Suitable.cons {entry : String × Toml.Item}
    (suits : ∀ setting : Setting, setting.name = entry.1 → setting.Suits entry.2)
    (suitable : Suitable t) : Suitable (entry :: t) := by
  intro setting item member
  cases member with
  | head => exact suits setting rfl
  | tail _ later => exact suitable setting item later

theorem suitable_or_exists (t : Toml.Table) :
    Suitable t ∨ ∃ setting item, IsFirstUnsuited setting item t := by
  induction t with
  | nil => exact .inl fun _ _ member => nomatch member
  | cons entry t inductionHypothesis =>
    by_cases suits : ∀ setting : Setting, setting.name = entry.1 → setting.Suits entry.2
    · obtain suitable | ⟨setting, item, front, back, rfl, suitable, unsuited⟩ := inductionHypothesis
      · exact .inl (suitable.cons suits)
      · exact .inr ⟨setting, item, entry :: front, back, rfl, suitable.cons suits, unsuited⟩
    · obtain ⟨name, item⟩ := entry
      simp only [Classical.not_forall] at suits
      obtain ⟨setting, rfl, unsuited⟩ := suits
      exact .inr ⟨setting, item, [], t, rfl, nofun, unsuited⟩

theorem exists_foldlM (suitable : Suitable t) (c : Config) :
    ∃ d, t.foldlM readEntry c = .ok d := by
  induction t generalizing c with
  | nil => exact ⟨c, rfl⟩
  | cons entry t inductionHypothesis =>
    rw [List.foldlM_cons, readEntry_of_mem suitable (.head _)]
    exact inductionHypothesis suitable.tail _

/-- An item that does not suit decides what is told, if those before it suit. -/
theorem ofTable_of_first (first : IsFirstUnsuited setting item t) :
    ofTable t = .error (setting.mismatch item) ∧ unsuitable? t = some setting.name := by
  obtain ⟨front, back, rfl, suitable, unsuited⟩ := first
  constructor
  · obtain ⟨c, read⟩ := exists_foldlM suitable {}
    rw [ofTable, List.foldlM_append, read]
    show (readEntry c (setting.name, item) >>= fun c => back.foldlM readEntry c) = _
    rw [readEntry_of_not_suits unsuited]
    rfl
  · -- Each entry is tried on the defaults, but whether it is read does not depend on those.
    have passed : front.find? (fun entry => !(readEntry {} entry).isOk) = none := by
      rw [List.find?_eq_none]
      intro entry member
      rw [readEntry_of_mem suitable member]
      simp [Except.isOk, Except.toBool]
    have found : (!(readEntry {} (setting.name, item)).isOk) = true := by
      rw [readEntry_of_not_suits unsuited]
      rfl
    rw [unsuitable?, List.find?_append, passed, Option.none_or, List.find?_cons, found]
    rfl

end Lifeline.Config
