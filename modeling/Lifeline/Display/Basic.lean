import Lifeline.Display.Writer
import Lifeline.Event.Json

/-! # Showing events

Events are shown as text for a person or as one JSON object per line.  A prompt and the clearing of
the current line are for a terminal only, so that text that goes elsewhere stays free of them.  Each
event is written in pieces and flushed behind the last one; a failed write is passed over, and the
next event is shown as if nothing had happened.
-/

namespace Lifeline.Display

inductive Mode where
  | text (interactive : Bool)
  | json
deriving DecidableEq, Repr

def prompt : String := "msg > "

/-- Clears the current line of a terminal, so that nothing lands on the prompt. -/
def clearLine : String := "\r\x1b[2K"

def textLine : Event → List String
  | .connected peer quitKeyword =>
    ["Connected to server(", peer, "). Type '", quitKeyword, "' to quit.\n"]
  | .sent text => ["Sent: ", text, "\n"]
  | .received text => ["Received: ", text, "\n"]
  | .skipped => []
  | .farewell => ["bye\n"]
  | .peerClosed => ["Connection closed by server.\n"]

/-- Whether the event comes from the peer's side, and so at a moment when the prompt is shown. -/
def interrupts : Event → Bool
  | .received _ | .peerClosed => true
  | _ => false

def reprompts : Event → Bool
  | .connected _ _ | .sent _ | .received _ | .skipped => true
  | .farewell | .peerClosed => false

def pieces (mode : Mode) (event : Event) : List String :=
  match mode with
  | .json => [event.line, "\n"]
  | .text false => textLine event
  | .text true =>
    (if interrupts event then [clearLine] else []) ++ textLine event ++
      (if reprompts event then [prompt] else [])

/-- Shows an event: its pieces are written, and flushed if all of them were taken. -/
def emit (mode : Mode) (w : Writer) (event : Event) : Writer :=
  match w.writeAll ((pieces mode event).map Text.encode) with
  | (true, w) => w.flush
  | (false, w) => w

def shown (mode : Mode) (budget : Option Nat) (event : Event) : Writer :=
  emit mode { budget } event

end Lifeline.Display
