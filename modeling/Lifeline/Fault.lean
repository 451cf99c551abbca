/-! # What goes wrong on a connection

A `Cause` is the reason that the system gives for a refused request: a bare kind, a kind with its
own words, or a numbered system error.  A `Fault` is a failed send or receive of an open
connection, always the end of its session; a `ConnectError` means that no connection came about.
Each has a short text of its own, and a full one that puts the cause behind it.
-/

namespace Lifeline

/-! ## Causes -/

inductive CauseKind where
  | notFound
  | permissionDenied
  | connectionRefused
  | connectionReset
  | connectionAborted
  | notConnected
  | addrInUse
  | addrNotAvailable
  | hostUnreachable
  | networkUnreachable
  | networkDown
  | brokenPipe
  | alreadyExists
  | wouldBlock
  | invalidInput
  | invalidData
  | timedOut
  | writeZero
  | interrupted
  | unsupported
  | unexpectedEof
  | outOfMemory
  | other
deriving DecidableEq, Repr

def CauseKind.text : CauseKind → String
  | .notFound => "entity not found"
  | .permissionDenied => "permission denied"
  | .connectionRefused => "connection refused"
  | .connectionReset => "connection reset"
  | .connectionAborted => "connection aborted"
  | .notConnected => "not connected"
  | .addrInUse => "address in use"
  | .addrNotAvailable => "address not available"
  | .hostUnreachable => "host unreachable"
  | .networkUnreachable => "network unreachable"
  | .networkDown => "network down"
  | .brokenPipe => "broken pipe"
  | .alreadyExists => "entity already exists"
  | .wouldBlock => "operation would block"
  | .invalidInput => "invalid input parameter"
  | .invalidData => "invalid data"
  | .timedOut => "timed out"
  | .writeZero => "write zero"
  | .interrupted => "operation interrupted"
  | .unsupported => "unsupported"
  | .unexpectedEof => "unexpected end of file"
  | .outOfMemory => "out of memory"
  | .other => "other error"

def systemText : Nat → String
  | 1 => "Operation not permitted"
  | 2 => "No such file or directory"
  | 4 => "Interrupted system call"
  | 5 => "Input/output error"
  | 9 => "Bad file descriptor"
  | 11 => "Resource temporarily unavailable"
  | 12 => "Cannot allocate memory"
  | 13 => "Permission denied"
  | 16 => "Device or resource busy"
  | 17 => "File exists"
  | 20 => "Not a directory"
  | 21 => "Is a directory"
  | 22 => "Invalid argument"
  | 28 => "No space left on device"
  | 32 => "Broken pipe"
  | 36 => "File name too long"
  | 98 => "Address already in use"
  | 99 => "Cannot assign requested address"
  | 100 => "Network is down"
  | 101 => "Network is unreachable"
  | 103 => "Software caused connection abort"
  | 104 => "Connection reset by peer"
  | 105 => "No buffer space available"
  | 107 => "Transport endpoint is not connected"
  | 110 => "Connection timed out"
  | 111 => "Connection refused"
  | 112 => "Host is down"
  | 113 => "No route to host"
  | 114 => "Operation already in progress"
  | 115 => "Operation now in progress"
  | n => s!"Unknown error {n}"

/-- The kind of a numbered error; the ones without a kind of their own count as `other`. -/
def systemKind : Nat → CauseKind
  | 1 | 13 => .permissionDenied
  | 2 => .notFound
  | 4 => .interrupted
  | 11 => .wouldBlock
  | 12 => .outOfMemory
  | 17 => .alreadyExists
  | 22 => .invalidInput
  | 32 => .brokenPipe
  | 98 => .addrInUse
  | 99 => .addrNotAvailable
  | 100 => .networkDown
  | 101 => .networkUnreachable
  | 103 => .connectionAborted
  | 104 => .connectionReset
  | 107 => .notConnected
  | 110 => .timedOut
  | 111 => .connectionRefused
  | 113 => .hostUnreachable
  | _ => .other

inductive Cause where
  | bare (kind : CauseKind)
  | worded (kind : CauseKind) (message : String)
  | numbered (code : Nat)
deriving DecidableEq, Repr

def Cause.kind : Cause → CauseKind
  | .bare kind => kind
  | .worded kind _ => kind
  | .numbered code => systemKind code

def Cause.text : Cause → String
  | .bare kind => kind.text
  | .worded _ message => message
  | .numbered code => s!"{systemText code} (os error {code})"

def chained (text cause : String) : String := text ++ ": " ++ cause

/-! ## Faults -/

inductive Operation where
  | send
  | receive
  | heartbeat
deriving DecidableEq, Repr

def Operation.all : List Operation := [.send, .receive, .heartbeat]

def Operation.name : Operation → String
  | .send => "send"
  | .receive => "receive"
  | .heartbeat => "heartbeat"

inductive FaultKind where
  | reset
  /-- A write to a connection that the peer had already closed. -/
  | brokenPipe
  | other
deriving DecidableEq, Repr

def FaultKind.all : List FaultKind := [.reset, .brokenPipe, .other]

def FaultKind.name : FaultKind → String
  | .reset => "reset"
  | .brokenPipe => "broken_pipe"
  | .other => "other"

def FaultKind.ofCause (cause : Cause) : FaultKind :=
  match cause.kind with
  | .connectionReset | .connectionAborted => .reset
  | .brokenPipe => .brokenPipe
  | _ => .other

structure Fault where
  op : Operation
  kind : FaultKind
  cause : Cause
deriving DecidableEq, Repr

def Fault.of (op : Operation) (cause : Cause) : Fault := ⟨op, .ofCause cause, cause⟩

def Fault.during (fault : Fault) (op : Operation) : Fault := { fault with op }

def Fault.closed (op : Operation) : Fault :=
  .of op (.worded .notConnected "transport already closed")

def Cause.nothingWritten : Cause := .bare .writeZero

def Fault.text (fault : Fault) : String :=
  match fault.kind with
  | .reset | .brokenPipe => s!"Connection to server was forcibly closed ({fault.op.name})"
  | .other => s!"Socket error during {fault.op.name}"

def Fault.fullText (fault : Fault) : String := chained fault.text fault.cause.text

/-! ## No connection -/

structure ConnectError where
  address : String
  cause : Cause
deriving DecidableEq, Repr

def ConnectError.text (error : ConnectError) : String :=
  s!"Cannot connect to server {error.address}"

def ConnectError.fullText (error : ConnectError) : String := chained error.text error.cause.text

end Lifeline
