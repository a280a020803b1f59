import ContractBridge.Hand.Basic
import ContractBridge.Seat.Indexed
import ContractBridge.Seat.Name

/-!
# Deals

Four hands, one a seat.  A deal is valid when every hand is full and no card is dealt twice, which
makes it the whole pack.
-/

namespace ContractBridge

abbrev Deal := BySeat Hand

namespace Deal

def around (deal : Deal) (first : Seat) : List (Seat × Hand) :=
  (List.range 4).map fun steps =>
    let seat := first.rotate steps
    (seat, deal.get seat)

inductive Invalid where
  | wrongHandSize (seat : Seat) (size : Nat)
  | repeatedCard (card : Card)
  deriving DecidableEq, Repr

def Invalid.message : Invalid → String
  | .wrongHandSize seat size =>
      seat.text ++ " holds " ++ toString size ++ " cards instead of 13"
  | .repeatedCard card => card.text ++ " is dealt more than once"

def firstRepeated? (seen : List Card) : List Card → Option Card
  | [] => none
  | card :: rest => if card ∈ seen then some card else firstRepeated? (card :: seen) rest

def cards (deal : Deal) : List Card :=
  (deal.around .north).flatMap fun (_, hand) => hand.cards

/-- The first hand of a wrong size is reported before any repetition. -/
def invalid? (deal : Deal) : Option Invalid :=
  match (deal.around .north).find? fun (_, hand) => hand.size != handSize with
  | some (seat, hand) => some (.wrongHandSize seat hand.size)
  | none => (firstRepeated? [] deal.cards).map .repeatedCard

def validate (deal : Deal) : Except Invalid Unit :=
  match deal.invalid? with
  | some fault => .error fault
  | none => .ok ()

end Deal

end ContractBridge
