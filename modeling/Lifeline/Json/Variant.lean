import Lifeline.Json.Basic

/-! # Names in JSON

A value of an enumeration is written as its name in quotes.  Reading also accepts an object with the
name as its only member, and `null` for the value of that member.  An unknown name is reported as
soon as it is read, whatever follows it.
-/

namespace Lifeline.Json

section

variable {α : Type} (name : α → String) (all : List α)

def variantOf (text : String) : Except ReadError α :=
  match all.find? fun a => name a == text with
  | some a => .ok a
  | none => .error (.mismatch (.unknownVariant text (all.map name)))

def readVariantName (cs : List Char) : Except ReadError (α × List Char) :=
  match skipSpace cs with
  | '"' :: rest =>
    match readString 0 rest with
    | none => .error .malformed
    | some (text, rest) => (variantOf name all (String.ofList text)).map fun a => (a, rest)
  | rest =>
    match peek rest with
    | none => .error .malformed
    | some found => .error (.mismatch (.wrongType found "variant identifier"))

/-- Reads the value of a variant without data, which is `null`. -/
def readUnit (cs : List Char) : Except ReadError (List Char) :=
  match skipSpace cs with
  | 'n' :: 'u' :: 'l' :: 'l' :: rest => .ok rest
  | rest =>
    match peek rest with
    | none => .error .malformed
    | some found => .error (.mismatch (.wrongType found "unit"))

def readVariantFront (cs : List Char) : Except ReadError (α × List Char) :=
  match skipSpace cs with
  | '"' :: rest => readVariantName name all ('"' :: rest)
  | '\x7b' :: rest => do
    let (text, rest) ← (readName rest).elim (.error .malformed) .ok
    let a ← variantOf name all text
    let rest ← (expect ':' rest).elim (.error .malformed) .ok
    let rest ← readUnit rest
    let rest ← (expect '\x7d' rest).elim (.error .malformed) .ok
    return (a, rest)
  | _ => .error .malformed

def readVariant (text : String) : Except ReadError α :=
  readVariantFront name all text.toList >>= atEnd

end

end Lifeline.Json
