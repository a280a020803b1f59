import ContractBridge.Table.Error

/-!
# Card play at a table

Cards are accepted while the board is in play.  When a seat does not decide in time its default
card is played, and a finished board is followed by the next dealer's.
-/

namespace ContractBridge

namespace Table

def playOn (table : Table) (play : CardPlay) (actor seat : Seat) (card : Card) :
    Except (Failure TableError) (CardPlay.Played × Table) :=
  match play.playCard actor seat card with
  | .error failure => .error (failure.map .play)
  | .ok (played, next) => .ok (played, { table with stage := .playing next })

def playCard (table : Table) (actor seat : Seat) (card : Card) :
    Except (Failure TableError) (CardPlay.Played × Table) :=
  match table.stage with
  | .bidding _ => .error (.refused (.phaseMismatch .bidding))
  | .playing play =>
      if play.isExhausted then .error (.refused (.phaseMismatch .finished))
      else table.playOn play actor seat card

def play (table : Table) (actor seat : Seat) (code : UInt8) :
    Except (Failure TableError) (CardPlay.Played × Table) :=
  match Card.decode code with
  | .error error => .error (.refused (.card error))
  | .ok card => table.playCard actor seat card

def autoPlay (table : Table) : Except (Failure TableError) (CardPlay.Played × Table) :=
  match table.turn? with
  | none => .error (.refused (.phaseMismatch table.phase))
  | some (turn, legal) => table.playCard turn.actor turn.seat legal.defaultCard

def nextDeal (table : Table) : Except (Failure TableError) (Seat × Table) :=
  match table.phase with
  | .finished =>
      match { table with dealer := table.dealer.next }.redeal with
      | .error fault => .error (.fault fault)
      | .ok fresh => .ok (fresh.dealer, fresh)
  | phase => .error (.refused (.phaseMismatch phase))

end Table

end ContractBridge
