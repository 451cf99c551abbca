import Lifeline.Heartbeat
import Lifeline.Number.Arithmetic
import Lifeline.Number.Shortest
import Lifeline.Session.Basic
import Lifeline.Text.Blank

/-! # Configuration

A `Config` holds the eight settings of the client.  Their types admit values that cannot be used;
`validate` finds the first of those, in the order of the fields.  The settings that the rest of the
program asks for are derived from the raw ones: `heartbeatInterval`, `connectTimeout`, `logPath` and
the `Options` of a session.
-/

namespace Lifeline

structure Config where
  host : String := "127.0.0.1"
  port : UInt16 := 8080
  /-- Seconds without outbound traffic before a heartbeat is sent; zero disables heartbeats. -/
  heartbeatInterval : Binary64 := ⟨0x4014000000000000⟩
  heartbeatSentinel : String := "__ping__"
  receiveBufferSize : UInt64 := 4096
  quitKeyword : String := "exit"
  /-- Seconds that establishing the connection may take; zero sets no limit. -/
  connectTimeout : UInt64 := 10
  /-- Where logs go instead of standard error. -/
  logFile : Option String := none
deriving DecidableEq, Repr

/-! ## Durations from seconds -/

/-- Seconds in the longest duration, and one more. -/
def durationLimit : Nat := twoTo 64

/-- The duration of a number of seconds, in whole nanoseconds: the nearest, the even one of two that
    are equally near.  No duration is negative or as long as `durationLimit` seconds. -/
def Binary64.nanoseconds? (x : Binary64) : Option Nat :=
  if x.isNan || x.isBelowZero || !x.isFinite then none
  else
    let nanoseconds := Number.roundHalfEven (x.numerator * second) x.denominator
    if durationLimit * second ≤ nanoseconds then none else some nanoseconds

/-- The seconds in a duration, as the nearest number to the sum of the nearest numbers to its whole
    seconds and to the rest. -/
def secondsOf (nanoseconds : Nat) : Binary64 :=
  (Binary64.ofNat (nanoseconds / second)).plus
    ((Binary64.ofNat (nanoseconds % second)).dividedBy (.ofNat second))

/-! ## Validation -/

inductive Config.Invalid where
  | emptyHost
  | zeroPort
  | badInterval (seconds : Binary64)
  | shortInterval (seconds : Binary64)
  | longInterval (seconds : Binary64)
  | emptySentinel
  | zeroBuffer
  | emptyQuitKeyword
deriving DecidableEq, Repr

namespace Config

def minHeartbeatInterval : Nat := millisecond

def Invalid.text : Invalid → String
  | .emptyHost => "host must not be empty"
  | .zeroPort => "port must be between 1 and 65535"
  | .badInterval seconds =>
    s!"heartbeat_interval_secs must be a non-negative number, got {seconds.text}"
  | .shortInterval seconds =>
    let least := (secondsOf minHeartbeatInterval).text
    s!"heartbeat_interval_secs must be 0 or at least {least}, got {seconds.text}"
  | .longInterval seconds =>
    s!"heartbeat_interval_secs {seconds.text} is out of range: " ++
      "cannot convert float seconds to Duration: value is either too big or NaN"
  | .emptySentinel => "heartbeat_sentinel must not be empty"
  | .zeroBuffer => "receive_buffer_size must be greater than zero"
  | .emptyQuitKeyword => "quit_keyword must not be empty"

/-- What is wrong with a heartbeat interval, if anything: it has to be a number that is not
    negative, and above zero a duration of at least a millisecond. -/
def intervalFault? (seconds : Binary64) : Option Invalid :=
  if !seconds.isFinite || seconds.isBelowZero then some (.badInterval seconds)
  else if seconds.isPositive then
    match seconds.nanoseconds? with
    | none => some (.longInterval seconds)
    | some nanoseconds =>
      if minHeartbeatInterval ≤ nanoseconds then none else some (.shortInterval seconds)
  else none

def invalid? (c : Config) : Option Invalid :=
  if Text.isAllBlank c.host then some .emptyHost
  else if c.port = 0 then some .zeroPort
  else
    match intervalFault? c.heartbeatInterval with
    | some fault => some fault
    | none =>
      if c.heartbeatSentinel.isEmpty then some .emptySentinel
      else if c.receiveBufferSize = 0 then some .zeroBuffer
      else if Text.isAllBlank c.quitKeyword then some .emptyQuitKeyword
      else none

def validate (c : Config) : Except Invalid Unit :=
  match c.invalid? with
  | some fault => .error fault
  | none => .ok ()

/-! ## Derived settings -/

/-- The interval between heartbeats, `none` if there are none.  Values that cannot be used still
    have one: too long an interval disables heartbeats, and one that is too short becomes the
    shortest. -/
def heartbeatSpan (c : Config) : Option Nat :=
  if c.heartbeatInterval.isAtMostZero then none
  else c.heartbeatInterval.nanoseconds?.map (max · minHeartbeatInterval)

def connectSpan (c : Config) : Option Nat :=
  if c.connectTimeout = 0 then none else some (c.connectTimeout.toNat * second)

def logPath (c : Config) : Option String :=
  match c.logFile.map Text.trim with
  | none => none
  | some path => if path.isEmpty then none else some path

def options (c : Config) : Options where
  heartbeatInterval := c.heartbeatSpan
  heartbeatSentinel := Text.encode c.heartbeatSentinel
  receiveBufferSize := c.receiveBufferSize.toNat
  quitKeyword := c.quitKeyword

end Config

end Lifeline
