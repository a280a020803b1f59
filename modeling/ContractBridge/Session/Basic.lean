import ContractBridge.Session.Event
import ContractBridge.Table.Command

/-!
# Sessions

A running table that takes requests one at a time, answers each and announces what came of it.  A
refusal is answered and announces nothing.  A fault, or closing it from outside, ends the session:
from then on every request finds it closed.
-/

namespace ContractBridge

inductive SessionError where
  | refused (error : TableError)
  | closed
  deriving DecidableEq, Repr

def SessionError.message : SessionError → String
  | .refused error => error.message
  | .closed => "table is closed"

structure Session where
  table : Table
  isOpen : Bool

namespace Session

def start (table : Table) : Session × List Event :=
  (⟨table, true⟩, table.announceDeal)

def close (session : Session) : Session :=
  { session with isOpen := false }

inductive Request where
  | bid (seat : Seat) (code : UInt8)
  | play (actor seat : Seat) (code : UInt8)
  | autoPlay
  | nextDeal
  deriving DecidableEq, Repr

structure Turnout where
  reply : Except SessionError Table.Answer
  events : List Event

/-- Turns what the table did into a reply, and its success into events told from the table after. -/
def settle {α : Type} (session : Session) (label : α → Table.Answer)
    (announce : Table → α → List Event) :
    Except (Failure TableError) (α × Table) → Turnout × Session
  | .ok (answer, after) =>
      (⟨.ok (label answer), announce after answer⟩, { session with table := after })
  | .error (.refused error) => (⟨.error (.refused error), []⟩, session)
  | .error (.fault _) => (⟨.error .closed, []⟩, session.close)

def answer (session : Session) : Request → Turnout × Session
  | .bid seat code =>
      session.settle .bid (fun after => after.announceBid code) (session.table.bid seat code)
  | .play actor seat code =>
      session.settle .played Table.announcePlay (session.table.play actor seat code)
  | .autoPlay => session.settle .played Table.announcePlay session.table.autoPlay
  | .nextDeal => session.settle .dealer (fun after _ => after.announceDeal) session.table.nextDeal

def request (session : Session) (request : Request) : Turnout × Session :=
  if session.isOpen then session.answer request else (⟨.error .closed, []⟩, session)

def serve (session : Session) : List Request → List Turnout × Session
  | [] => ([], session)
  | request :: requests =>
      let (turnout, next) := session.request request
      let (turnouts, last) := next.serve requests
      (turnout :: turnouts, last)

end Session

end ContractBridge
