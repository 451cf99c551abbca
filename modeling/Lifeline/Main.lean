import Lifeline.Display.Basic
import Lifeline.Operator.Lines
import Lifeline.Program
import Lifeline.Session.Live
import Std.Async
import Std.Sync.Channel
import Std.Time.Format

/-! # The command line program

The outer layer: it looks at the environment, the files, the network and standard input, hands all
that to the program, and carries out what comes back.  Symbolic links count as what they lead to, and
what cannot be read counts as absent.

Tasks watch standard input, the connection and the signals, and put what they see into one inbox.
The session takes it from there, and nothing else runs it but its own deadline.  A read of standard
input that has begun cannot be taken back, so the process outlasts a session that ends for another
reason up to the next line or the end of the input.
-/

namespace Lifeline.Main

open Std.Async

/-! ## The system's errors -/

/-- The cause with the number of an error, which some parts of the system give below zero. -/
def causeNumbered (code : UInt32) : Cause := .numbered code.toInt32.toInt.natAbs

def causeOf : IO.Error → Cause
  | .alreadyExists _ code _ | .inappropriateType _ code _ | .interrupted _ code _
  | .invalidArgument _ code _ | .noFileOrDirectory _ code _ | .noSuchThing _ code _
  | .permissionDenied _ code _ | .resourceExhausted _ code _ | .hardwareFault code _
  | .illegalOperation code _ | .otherError code _ | .protocolError code _ | .resourceBusy code _
  | .resourceVanished code _ | .timeExpired code _ | .unsatisfiedConstraints code _
  | .unsupportedOperation code _ => causeNumbered code
  | .unexpectedEof => .bare .unexpectedEof
  | .userError message => .worded .other message

/-! ## The environment -/

def environment : IO Environment := do
  let values ← Program.variableNames.filterMapM fun name => do
    return (← IO.getEnv name).map fun value => (name, Text.encode value)
  return { values }

def timeText : IO String := do
  let now := (← Std.Time.Timestamp.now).toWallTime .zero
  return (Std.Time.PlainDateTime.ofWallTime now).format "uuuu-MM-dd'T'HH:mm:ss.SSSSSS'Z'"

/-! ## Files -/

def placeText (place : Place) : String := "/" ++ "/".intercalate place

def entryAt (place : Place) : IO (Option Files.Entry) := do
  match ← (IO.FS.readBinFile (placeText place)).toBaseIO with
  | .ok content => return some (.file content.toList)
  | .error (.inappropriateType ..) => return some .directory
  | .error _ => return none

/-- What stands at a place, as far as something that only adds to files has to know it. -/
def growingAt (place : Place) : IO (Option Files.Entry) := do
  match ← (IO.FS.Handle.mk (placeText place) .readWrite).toBaseIO with
  | .ok _ => return some (.file [])
  | .error (.inappropriateType ..) => return some .directory
  | .error _ => return none

def look (entryAt : Place → IO (Option Files.Entry)) (files : Files) (path : Path) : IO Files :=
  (files.placesOf path).foldlM (fun files place => do
    if (files.entry? place).isSome then return files
    match ← entryAt place with
    | some entry => return files.put place entry
    | none => return files) files

/-- Gives a file a new content.  One that grew is only added to. -/
def updateFile (place : Place) (before after : Bytes) : IO Unit := do
  let rest := after.drop before.length
  if before ++ rest = after then
    let file ← IO.FS.Handle.mk (placeText place) .append
    file.write ⟨rest.toArray⟩
  else
    IO.FS.writeBinFile (placeText place) ⟨after.toArray⟩

def carryOut (before after : Files) : IO Unit := do
  for (place, entry) in after.entries.reverse do
    match before.entry? place, entry with
    | some .directory, .directory => pure ()
    | _, .directory => IO.FS.createDir (placeText place)
    | some (.file old), .file new => unless old = new do updateFile place old new
    | _, .file new => updateFile place [] new
  for (place, _) in before.entries do
    if (after.entry? place).isNone then IO.FS.removeFile (placeText place)

/-! ## What happens to a session -/

inductive Occurrence where
  | act (act : Act)
  | opened (result : Except Cause TCP.Socket.Client)
  | carried (failure : Option Cause)
  | logged (records : List Log.Record)
deriving Inhabited

abbrev Inbox := Std.Channel Occurrence

def Inbox.put (inbox : Inbox) (occurrence : Occurrence) : BaseIO Unit := do
  discard <| inbox.send occurrence

/-- Adds the next bytes of an input to some, up to a line feed or the end of the input. -/
partial def readSegment (input : IO.FS.Stream) (bytes : ByteArray) : IO ByteArray := do
  let next ← input.read 1
  let bytes := bytes ++ next
  if next.toList.all (· = Operator.lineFeed) then return bytes else readSegment input bytes

/-- Watches standard input up to its end, or up to a line that is no text. -/
partial def watchLines (input : IO.FS.Stream) (inbox : Inbox) : BaseIO Unit := do
  let segment := (← (readSegment input .empty).toBaseIO).toOption.getD .empty
  match Operator.lines segment.toList with
  | text :: _ =>
    inbox.put (.act (.line text))
    watchLines input inbox
  | [] =>
    inbox.put (.logged (Program.inputOver segment.isEmpty))
    inbox.put (.act .closeInput)

partial def watchStream (socket : TCP.Socket.Client) (size : Nat) (inbox : Inbox) : Async Unit := do
  let change ← try
      match ← socket.recv? size.toUInt64 with
      | some chunk => pure (Stream.Change.arrive chunk.toList)
      | none => pure .endInput
    catch error => pure (.failReads (causeOf error))
  inbox.put (.act (.stream change))
  if change matches .arrive _ then watchStream socket size inbox

partial def watchSignal (waiter : Signal.Waiter) (act : Act) (inbox : Inbox) : Async Unit := do
  discard <| await (← waiter.wait)
  inbox.put (.act act)
  watchSignal waiter act inbox

def watchSignals (inbox : Inbox) : Async Unit := do
  for (signal, act) in
      [(.sigint, Act.ctrlC), (.sigterm, .signal .term), (.sighup, .signal .hup)] do
    let waiter ← Signal.Waiter.mk signal true
    background (watchSignal waiter act inbox)

def Inbox.next? (inbox : Inbox) (within : Option Nat) : Async (Option Occurrence) := do
  let received := Selectable.case inbox.recvSelector fun occurrence => return some occurrence
  match within with
  | none => Selectable.one #[received]
  | some within =>
    let timer ← Selector.sleep (.ofNat ((within + (millisecond - 1)) / millisecond))
    Selectable.one #[received, .case timer fun _ => return none]

/-! ## Running a session -/

structure Link where
  env : Environment
  client : Client
  socket : TCP.Socket.Client
  inbox : Inbox
  output : IO.FS.Stream
  /-- The time at which the clock of the session stands at zero. -/
  origin : Nat

namespace Link

def now (link : Link) : BaseIO Nat := do return (← IO.monoNanosNow) - link.origin

def log (link : Link) (records : List Log.Record) : IO Unit := do
  let config := link.client.config
  let lines := Program.linesOf link.env config (← timeText) records
  unless lines.isEmpty do
    match config.logPath with
    | none => (← IO.getStderr).putStr lines
    | some path => (← IO.FS.Handle.mk path .append).putStr lines

def present (link : Link) (event : Event) : IO Unit := do
  let mode := link.client.mode (← (← IO.getStdout).isTty)
  try
    for piece in Display.pieces mode event do link.output.putStr piece
    link.output.flush
  catch error => link.log [Program.notShown link.client.output (causeOf error)]

def carryOut (link : Link) (before : State) (w : World) : Async World := do
  for record in w.history do
    match record.what with
    | .shown event => link.present event
    | .exchanged (.shutDown _) => try link.socket.shutdown catch _ => pure ()
    | _ => pure ()
  link.log (w.logged before (w.history.map (·.what)))
  return { w with history := [] }

def carry (link : Link) (bytes : Bytes) : Async Unit := do
  let failure ← try
      link.socket.send ⟨bytes.toArray⟩
      pure none
    catch error => pure (some (causeOf error))
  link.inbox.put (.carried failure)

/-- Runs a session to its end.  What comes while a write is pending is held back, requests to stop
    apart. -/
partial def run (link : Link) (carrying : Bool) (held : List Act) (w : World) : Async Report := do
  match w.stop.exited, w.phase, held with
  | some status, _, _ => return { status }
  | none, .ended outcome, _ => return Client.finished outcome
  | none, .waiting _, act :: held =>
    let current := w.goOnTo (← link.now)
    link.run false held (← link.carryOut w.session.state (current.perform (.single act)).2)
  | none, phase, _ =>
    let pending := w.pendingWrite?
    if let some bytes := pending then
      unless carrying do background (link.carry bytes)
    let now ← link.now
    let left := match phase with
      | .waiting deadline => some (deadline - now)
      | _ => none
    let occurrence ← link.inbox.next? left
    let current := w.goOnTo (← link.now)
    let (held, after) := match occurrence with
      | some (.act act) =>
        match act, pending with
        | .ctrlC, _ | .signal _, _ | _, none => (held, (current.perform (.single act)).2)
        | _, some _ => (held ++ [act], current)
      | some (.carried failure) => (held, current.completeWrite failure)
      | _ => (held, current)
    if let some (.logged records) := occurrence then link.log records
    let carrying := pending.isSome && !(occurrence matches some (.carried _))
    link.run carrying held (← link.carryOut w.session.state after)

end Link

/-! ## Connecting -/

def openFirst (port : UInt16) : List Std.Net.IPAddr → Async (Except Cause TCP.Socket.Client)
  | [] => return .error (.worded .invalidInput "could not resolve to any addresses")
  | address :: more => do
    let target : Std.Net.SocketAddress := match address with
      | .v4 address => .v4 ⟨address, port⟩
      | .v6 address => .v6 ⟨address, port⟩
    let socket ← TCP.Socket.Client.mk
    try
      socket.connect target
      return .ok socket
    catch error =>
      if more.isEmpty then return .error (causeOf error) else openFirst port more

def lookupText : String := "failed to lookup address information: Name or service not known"

def openTo (host : String) (port : UInt16) : Async (Except Cause TCP.Socket.Client) := do
  let addresses ← try
      DNS.getAddrInfo host (toString port.toNat)
    catch _ => return .error (.worded .other lookupText)
  openFirst port addresses.toList

/-- What comes of an attempt to connect that ends before a time, together with the stop requests until
    then. -/
partial def awaitOpened (inbox : Inbox) (limit : Option Nat) (start : Nat) (stop : Stop) :
    Async (Except Cause TCP.Socket.Client × Stop) := do
  let passed := (← IO.monoNanosNow) - start
  let fault : Cause := .timedOut (limit.getD 0)
  if stop.exited.isSome then return (.error fault, stop)
  match ← inbox.next? (limit.map (· - passed)) with
  | none => return (.error fault, stop)
  | some (.opened result) => return (result, stop)
  | some (.act .ctrlC) => awaitOpened inbox limit start stop.press
  | some (.act (.signal signal)) => awaitOpened inbox limit start (stop.deliver signal)
  | some _ => awaitOpened inbox limit start stop

def runOver (env : Environment) (client : Client) (inbox : Inbox) (socket : TCP.Socket.Client)
    (stop : Stop) : Async Report := do
  let origin ← IO.monoNanosNow
  let link : Link := { env, client, socket, inbox, output := ← IO.getStdout, origin }
  try socket.noDelay catch _ => pure ()
  link.log [Program.connected client.config]
  discard <| (watchLines (← IO.getStdin) inbox).asTask .dedicated
  link.present client.greeting
  let session := client.session { stream := {} } 0
  background (watchStream socket session.buffer.length inbox)
  link.run false [] (← link.carryOut .connecting (.live session stop))

def runClient (env : Environment) (client : Client) : Async Report := do
  let inbox : Inbox ← Std.Channel.new
  watchSignals inbox
  let config := client.config
  let start ← IO.monoNanosNow
  background do inbox.put (.opened (← openTo config.host config.port))
  match ← awaitOpened inbox config.connectSpan start ({} : Stop).install with
  | (result, stop) =>
    match stop.exited, result with
    | some status, _ => return { status }
    | none, .error cause => return client.refused cause
    | none, .ok socket =>
      (← IO.getStderr).putStr client.logged
      runOver env client inbox socket stop

/-! ## The program -/

def run (arguments : List String) : IO Report := do
  let env ← environment
  let current := (Path.ofText (← IO.currentDir).toString).names
  let files ← (Program.pathsOf env arguments).foldlM (look entryAt) { current }
  let log := Program.logPathOf env files arguments
  let files ← log.toList.foldlM (look growingAt) files
  let (start, after) := Program.start env files (← timeText) arguments
  match ← (carryOut files after).toBaseIO, start with
  | .error error, _ => return .failed (causeOf error).text
  | .ok (), .ended report => return report
  | .ok (), .connecting client => (runClient env client).block

end Lifeline.Main

def main (arguments : List String) : IO UInt32 := do
  let report ← Lifeline.Main.run arguments
  (← IO.getStdout).putStr report.output
  (← IO.getStderr).putStr report.errors
  return report.status.toUInt32
