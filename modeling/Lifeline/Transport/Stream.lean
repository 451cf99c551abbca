import Lifeline.Text.Bytes
import Lifeline.Fault

/-! # The peer's side of a connection

A `Stream` is what a connection will answer to reads, writes, flushes and the shutdown.  It holds
the bytes that have arrived and not been read, and the limits and failures that the peer or the
network imposes; a `Change` of it is what may happen outside while a session runs.  Reads take
bytes from the front of what has arrived, so no byte is lost or read twice.
-/

namespace Lifeline

structure Stream where
  /-- Bytes that have arrived and not been read. -/
  inbound : Bytes := []
  /-- The peer will send nothing more. -/
  ended : Bool := false
  /-- Reads fail once everything that arrived is read. -/
  readFailure : Option Cause := none
  readLimit : Option Nat := none
  writeLimit : Option Nat := none
  /-- Every write accepts no byte at all. -/
  refusing : Bool := false
  /-- Writes fail once so many more bytes are accepted. -/
  writeFailure : Option (Cause × Nat) := none
  /-- Writes neither succeed nor fail. -/
  blocked : Bool := false
  flushFailure : Option Cause := none
  shutdownFailure : Option Cause := none
deriving DecidableEq, Repr

/-! ## Outside changes -/

inductive Stream.Change where
  | arrive (bytes : Bytes)
  | endInput
  | failReads (cause : Cause)
  | limitReads (limit : Nat)
  | limitWrites (limit : Nat)
  | refuseWrites
  | failWrites (cause : Cause) (allowance : Nat)
  | block
  | unblock
  | failFlushes (cause : Cause)
  | failShutdown (cause : Cause)
deriving DecidableEq, Repr

namespace Stream

def change (s : Stream) : Change → Stream
  | .arrive bytes => { s with inbound := s.inbound ++ bytes }
  | .endInput => { s with ended := true }
  | .failReads cause => { s with readFailure := some cause }
  | .limitReads limit => { s with readLimit := some limit }
  | .limitWrites limit => { s with writeLimit := some limit }
  | .refuseWrites => { s with refusing := true }
  | .failWrites cause allowance => { s with writeFailure := some (cause, allowance) }
  | .block => { s with blocked := true }
  | .unblock => { s with blocked := false }
  | .failFlushes cause => { s with flushFailure := some cause }
  | .failShutdown cause => { s with shutdownFailure := some cause }

/-! ## Reading -/

inductive ReadAnswer where
  | pending
  | bytes (chunk : Bytes)
  | failed (cause : Cause)
deriving DecidableEq, Repr

def readRoom (s : Stream) (room : Nat) : Nat :=
  match s.readLimit with
  | none => room
  | some limit => min limit room

/-- Reads at most `room` bytes.  A failure shows once all that arrived is read, the end of input
    (no bytes) after that. -/
def read (s : Stream) (room : Nat) : ReadAnswer × Stream :=
  match s.inbound, s.readFailure, s.ended with
  | [], some cause, _ => (.failed cause, s)
  | [], none, true => (.bytes [], s)
  | [], none, false => (.pending, s)
  | inbound, _, _ =>
    (.bytes (inbound.take (s.readRoom room)),
      { s with inbound := inbound.drop (s.readRoom room) })

/-! ## Writing -/

inductive WriteAnswer where
  | pending
  | accepted (count : Nat)
  | failed (cause : Cause)
deriving DecidableEq, Repr

/-- How many of `count` offered bytes a write accepts that neither blocks nor fails. -/
def writeRoom (s : Stream) (count : Nat) : Nat :=
  if s.refusing then 0
  else
    let limited := match s.writeLimit with
      | none => count
      | some limit => min limit count
    match s.writeFailure with
    | none => limited
    | some (_, allowance) => min allowance limited

/-- Offers bytes: a blocked stream leaves the write pending, one whose allowance is used up fails
    it, and otherwise the front of the bytes is accepted. -/
def write (s : Stream) (offered : Bytes) : WriteAnswer × Stream :=
  match s.blocked, s.writeFailure with
  | true, _ => (.pending, s)
  | false, some (cause, 0) => (.failed cause, s)
  | false, some (cause, allowance) =>
    let count := s.writeRoom offered.length
    (.accepted count, { s with writeFailure := some (cause, allowance - count) })
  | false, none => (.accepted (s.writeRoom offered.length), s)

end Stream

end Lifeline
