import ContractBridge.Deal.Basic
import ContractBridge.Hand.Text

/-!
# Texts of deals

The initial of a seat and a colon, then the four hands clockwise from that seat with a space
between them.
-/

namespace ContractBridge

namespace Deal

def chars (deal : Deal) (first : Seat) : List Char :=
  first.letter :: ':' ::
    List.intercalate [' '] ((deal.around first).map fun (_, hand) => hand.chars)

def text (deal : Deal) (first : Seat) : String :=
  String.ofList (deal.chars first)

end Deal

end ContractBridge
