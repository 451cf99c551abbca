import Lifeline.Transport.Stream

/-! # The session's side of a connection

A `Transport` owns a stream until it closes it.  Sending writes the whole payload, in as many
pieces as the stream takes it in, and flushes once behind it; the first failure ends the attempt.
Closing asks for the shutdown once, and after it every send and receive fails.

Each operation also returns what it asked of the stream, as a list of `Exchange`s in order.
-/

namespace Lifeline

inductive Exchange where
  | wrote (op : Operation) (bytes : Bytes)
  | writeFailed (op : Operation) (cause : Cause)
  | flushed (op : Operation) (failure : Option Cause)
  /-- A read returned these bytes, none at the end of input. -/
  | read (bytes : Bytes)
  | readFailed (cause : Cause)
  | shutDown (failure : Option Cause)
deriving DecidableEq, Repr

structure Transport where
  stream : Stream
  closed : Bool := false
deriving DecidableEq, Repr

namespace Transport

/-! ## Sending -/

inductive Progress where
  | done
  /-- A write is pending, and these bytes are still to be written. -/
  | pending (rest : Bytes)
  | failed (fault : Fault)
deriving DecidableEq, Repr

/-- What a send came to: its progress, the stream behind it and what was asked of it. -/
structure Sending where
  progress : Progress
  stream : Stream
  exchanges : List Exchange
deriving DecidableEq, Repr

/-- Writes bytes piece by piece, at most `pieces` of them.  Every piece that goes on takes at least
    one byte, so as many pieces as bytes always suffice. -/
def writePieces (op : Operation) : Nat → Stream → Bytes → Sending
  | _, s, [] => ⟨.done, s, []⟩
  | 0, s, rest => ⟨.pending rest, s, []⟩
  | pieces + 1, s, rest =>
    match s.write rest with
    | (.pending, s) => ⟨.pending rest, s, []⟩
    | (.failed cause, s) => ⟨.failed (.of op cause), s, [.writeFailed op cause]⟩
    | (.accepted 0, s) => ⟨.failed (.of op .nothingWritten), s, [.wrote op []]⟩
    | (.accepted (n + 1), s) =>
      let after := writePieces op pieces s (rest.drop (n + 1))
      { after with exchanges := .wrote op (rest.take (n + 1)) :: after.exchanges }

def writeAll (op : Operation) (s : Stream) (payload : Bytes) : Sending :=
  writePieces op payload.length s payload

def flushAfter (op : Operation) (written : Sending) : Sending :=
  match written.progress with
  | .done =>
    match written.stream.flushFailure with
    | none => { written with exchanges := written.exchanges ++ [.flushed op none] }
    | some cause =>
      { written with
        progress := .failed (.of op cause)
        exchanges := written.exchanges ++ [.flushed op (some cause)] }
  | _ => written

/-- Sends a payload, or the rest of one whose write was pending. -/
def send (t : Transport) (op : Operation) (payload : Bytes) :
    Progress × Transport × List Exchange :=
  if t.closed then (.failed (.closed op), t, [])
  else
    let sent := flushAfter op (writeAll op t.stream payload)
    (sent.progress, { t with stream := sent.stream }, sent.exchanges)

/-! ## Receiving -/

inductive Receipt where
  | pending
  /-- Bytes, none if the peer closed the connection. -/
  | bytes (chunk : Bytes)
  | failed (fault : Fault)
deriving DecidableEq, Repr

def receive (t : Transport) (room : Nat) : Receipt × Transport × List Exchange :=
  if t.closed then (.failed (.closed .receive), t, [])
  else
    match t.stream.read room with
    | (.pending, s) => (.pending, { t with stream := s }, [])
    | (.bytes chunk, s) => (.bytes chunk, { t with stream := s }, [.read chunk])
    | (.failed cause, s) =>
      (.failed (.of .receive cause), { t with stream := s }, [.readFailed cause])

/-! ## Closing -/

/-- Shuts the stream down unless that was done before.  A shutdown that fails is not tried again. -/
def close (t : Transport) : Transport × List Exchange :=
  if t.closed then (t, [])
  else ({ t with closed := true }, [.shutDown t.stream.shutdownFailure])

end Transport

end Lifeline
