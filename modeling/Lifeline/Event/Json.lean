import Lifeline.Event.Basic
import Lifeline.Json.Variant

/-! # Events as JSON

An event is written as an object on one line, its kind in the member `type` and its texts in members
of their own.  `Event.read` reads such an object back, with its members in any order and others
among them; it also accepts an array with the kind in front.
-/

namespace Lifeline

namespace Event

/-! ## Kinds -/

inductive Kind where
  | connected
  | sent
  | received
  | skipped
  | farewell
  | peerClosed
deriving DecidableEq, Repr

namespace Kind

def all : List Kind := [.connected, .sent, .received, .skipped, .farewell, .peerClosed]

def name : Kind → String
  | .connected => "connected"
  | .sent => "sent"
  | .received => "received"
  | .skipped => "skipped"
  | .farewell => "farewell"
  | .peerClosed => "peer_closed"

def title : Kind → String
  | .connected => "Connected"
  | .sent => "Sent"
  | .received => "Received"
  | .skipped => "Skipped"
  | .farewell => "Farewell"
  | .peerClosed => "PeerClosed"

def fields : Kind → List String
  | .connected => ["peer", "quit_keyword"]
  | .sent | .received => ["text"]
  | .skipped | .farewell | .peerClosed => []

end Kind

def kind : Event → Kind
  | .connected _ _ => .connected
  | .sent _ => .sent
  | .received _ => .received
  | .skipped => .skipped
  | .farewell => .farewell
  | .peerClosed => .peerClosed

def texts : Event → List String
  | .connected peer quitKeyword => [peer, quitKeyword]
  | .sent text | .received text => [text]
  | .skipped | .farewell | .peerClosed => []

def ofTexts? : Kind → List String → Option Event
  | .connected, [peer, quitKeyword] => some (.connected peer quitKeyword)
  | .sent, [text] => some (.sent text)
  | .received, [text] => some (.received text)
  | .skipped, [] => some .skipped
  | .farewell, [] => some .farewell
  | .peerClosed, [] => some .peerClosed
  | _, _ => none

/-! ## Writing -/

def memberChars (name value : String) : List Char := Json.quote name ++ ':' :: Json.quote value

def members (event : Event) : List (String × String) :=
  ("type", event.kind.name) :: event.kind.fields.zip event.texts

def lineChars (event : Event) : List Char :=
  '\x7b' :: [','].intercalate (event.members.map fun (name, value) => memberChars name value) ++
    ['\x7d']

def line (event : Event) : String := String.ofList event.lineChars

/-! ## Reading: the kind and the rest -/

inductive Body where
  | items (items : List Json.Value)
  | members (members : List (String × Json.Value))

/-- Reads the members of an object that are left, with the kind if it was among the members before
    them. -/
def readTagged (depth : Nat) : Nat → Bool → Option Kind → List Char →
    Except Json.ReadError ((Kind × List (String × Json.Value)) × List Char)
  | 0, _, _, _ => .error .malformed
  | fuel + 1, isFirst, kind?, cs =>
    match Json.nextItem '\x7d' isFirst cs with
    | none => .error .malformed
    | some (.close rest) =>
      match kind? with
      | none => .error (.mismatch (.missingField "type"))
      | some kind => .ok ((kind, []), rest)
    | some (.item rest) =>
      match Json.readName rest with
      | none => .error .malformed
      | some (name, rest) =>
        if name = "type" then
          if kind?.isSome then .error (.mismatch (.duplicateField "type"))
          else do
            let rest ← (Json.expect ':' rest).elim (.error .malformed) .ok
            let (kind, rest) ← Json.readVariantName Kind.name Kind.all rest
            readTagged depth fuel false (some kind) rest
        else
          match (Json.expect ':' rest).bind (Json.readValue (Json.fuelFor rest) depth) with
          | none => .error .malformed
          | some (value, rest) => do
            let ((kind, members), rest) ← readTagged depth fuel false kind? rest
            return ((kind, (name, value) :: members), rest)

def readFront (cs : List Char) : Except Json.ReadError ((Kind × Body) × List Char) :=
  let depth := Json.depthLimit - 1
  match Json.skipSpace cs with
  | '\x7b' :: rest => do
    let ((kind, members), rest) ← readTagged depth (Json.fuelFor rest) true none rest
    return ((kind, .members members), rest)
  | '[' :: rest =>
    match Json.nextItem ']' true rest with
    | none => .error .malformed
    | some (.close _) => .error (.mismatch (.missingField "type"))
    | some (.item rest) => do
      let (kind, rest) ← Json.readVariantName Kind.name Kind.all rest
      match Json.readItems (Json.fuelFor rest) depth false rest with
      | none => .error .malformed
      | some (items, rest) => return ((kind, .items items), rest)
  | rest =>
    match Json.peek rest with
    | none => .error .malformed
    | some found => .error (.mismatch (.wrongType found "internally tagged enum SessionEvent"))

/-! ## Reading: the texts -/

def elements (n : Nat) : String := if n = 1 then "1 element" else s!"{n} elements"

def textOf : Json.Value → Except Mismatch String
  | .string text => .ok text
  | value => .error (.wrongType value.found "a string")

/-- The texts of a kind from the items of an array, of which `count` are already read. -/
def textsOfItems (kind : Kind) (total : Nat) :
    List String → List Json.Value → Except Mismatch (List String)
  | [], items =>
    if items.isEmpty then .ok []
    else .error (.wrongLength total s!"{elements kind.fields.length} in sequence")
  | _ :: _, [] =>
    .error (.wrongLength total
      s!"struct variant SessionEvent::{kind.title} with {elements kind.fields.length}")
  | _ :: fields, item :: items => do
    let text ← textOf item
    let texts ← textsOfItems kind total fields items
    return text :: texts

/-- Collects the texts of some fields from the members of an object, in the order of the members.
    Other members are passed over. -/
def collectTexts (fields : List String) :
    List (String × String) → List (String × Json.Value) →
      Except Mismatch (List (String × String))
  | seen, [] => .ok seen
  | seen, (name, value) :: members =>
    if !fields.contains name then collectTexts fields seen members
    else if (seen.lookup name).isSome then .error (.duplicateField name)
    else do
      let text ← textOf value
      collectTexts fields ((name, text) :: seen) members

/-- The texts of all fields, in the order of the fields. -/
def requireTexts (seen : List (String × String)) (fields : List String) :
    Except Mismatch (List String) :=
  fields.mapM fun name =>
    match seen.lookup name with
    | some text => .ok text
    | none => .error (.missingField name)

def textsOf (kind : Kind) : Body → Except Mismatch (List String)
  | .items items => textsOfItems kind items.length kind.fields items
  | .members members => do
    let seen ← collectTexts kind.fields [] members
    requireTexts seen kind.fields

def ofParts (kind : Kind) (body : Body) : Except Json.ReadError Event :=
  match textsOf kind body with
  | .error mismatch => .error (.mismatch mismatch)
  | .ok texts =>
    match ofTexts? kind texts with
    | some event => .ok event
    | none => .error .malformed

def read (text : String) : Except Json.ReadError Event := do
  let ((kind, body), rest) ← readFront text.toList
  let event ← ofParts kind body
  Json.atEnd (event, rest)

end Event

end Lifeline
