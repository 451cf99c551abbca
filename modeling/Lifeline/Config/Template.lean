import Lifeline.Config.Basic
import Lifeline.Json.Quoted

/-! # The text of a configuration

A configuration file that the program writes itself explains every setting and gives all of them but
the log file, which it only shows how to give.
-/

namespace Lifeline.Config

def textValue (value : String) : String := String.ofList (Json.quote value)

def setting (comment : List String) (name value : String) : List String :=
  "" :: comment.map ("# " ++ ·) ++ [name ++ " = " ++ value]

def documentLines (c : Config) : List String :=
  ["# tether configuration",
   "#",
   "# Every key is optional; missing keys fall back to the values shown here.",
   "# Command-line flags override anything set in this file."] ++
  setting ["Peer host name or address"] "host" (textValue c.host) ++
  setting ["Peer TCP port (1-65535)"] "port" s!"{c.port.toNat}" ++
  setting
    ["Seconds without outbound traffic before a heartbeat is sent.",
     "Set to 0 to disable heartbeats entirely."]
    "heartbeat_interval_secs" c.heartbeatInterval.pointedText ++
  setting
    ["Payload reserved for heartbeat probes. Inbound messages equal to this",
     "value are never displayed."]
    "heartbeat_sentinel" (textValue c.heartbeatSentinel) ++
  setting ["Upper bound (bytes) for a single read from the peer"]
    "receive_buffer_size" s!"{c.receiveBufferSize.toNat}" ++
  setting ["Operator command that ends the session (case-insensitive)"]
    "quit_keyword" (textValue c.quitKeyword) ++
  setting ["Timeout for establishing the connection in seconds (0 disables)"]
    "connect_timeout_secs" s!"{c.connectTimeout.toNat}" ++
  setting ["Write logs to this file instead of stderr"] "# log_file" (textValue "/tmp/tether.log")

def document (c : Config) : String := String.join (c.documentLines.map (· ++ "\n"))

def template : String := document {}

end Lifeline.Config
