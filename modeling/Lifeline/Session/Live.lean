import Lifeline.Session.Script

/-! # A session over a connection that is written elsewhere

What the session writes may have to be carried to the peer by something else, which takes its time.
The stream of such a session is always blocked: each write leaves the session suspended, until the
bytes have been carried or refused.  All other moves are made as usual.
-/

namespace Lifeline.World

/-- A session that begins to run after some stop requests, and whose writes are carried
    elsewhere. -/
def live (session : Session) (stop : Stop) : World :=
  let w : World := { session, stop }
  (w.apply (.stream .block)).2.begin.settle

def pendingWrite? (w : World) : Option Bytes :=
  match w.phase with
  | .sendingLine _ rest _ | .sendingProbe rest _ => some rest
  | _ => none

/-- Time goes on to a point, and the session runs if its deadline has passed. -/
def goOnTo (w : World) (time : Nat) : World := { w with now := max w.now time }.settle

/-- The pending write was carried, or refused for a reason.  The next one waits again. -/
def completeWrite (w : World) (failure : Option Cause) : World :=
  let refusal := failure.toList.map fun cause => Act.stream (.failWrites cause 0)
  let opened := (w.applyAll (.stream .unblock :: refusal)).2
  let written := opened.advance?.getD opened
  (written.apply (.stream .block)).2.settle

end Lifeline.World
