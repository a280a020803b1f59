import ContractBridge.Hand.Basic

/-!
# Texts of hands

The ranks of each suit, spades first, separated by dots; high cards come first when a hand is
written.  A lone dash reads as the hand without cards.
-/

namespace ContractBridge

namespace Hand

def holding (hand : Hand) (suit : Suit) : List Card :=
  (Card.sortAscending (hand.cards.filter (·.suit = suit))).reverse

def chars (hand : Hand) : List Char :=
  List.intercalate ['.'] (Suit.descending.map fun suit => (hand.holding suit).map Card.rankChar)

def text (hand : Hand) : String :=
  String.ofList hand.chars

def readHolding (suit : Suit) : List Char → Except HandError (List Card)
  | [] => .ok []
  | c :: rest =>
      match (Card.rankOfChar? c).bind (Card.new? suit) with
      | none => .error .invalidRank
      | some card =>
          match readHolding suit rest with
          | .error error => .error error
          | .ok cards => .ok (card :: cards)

def readHoldings : List (Suit × List Char) → Except HandError (List Card)
  | [] => .ok []
  | (suit, ranks) :: rest =>
      match readHolding suit ranks with
      | .error error => .error error
      | .ok cards =>
          match readHoldings rest with
          | .error error => .error error
          | .ok others => .ok (cards ++ others)

def ofChars (chars : List Char) : Except HandError Hand :=
  if chars = ['-'] then .ok empty
  else
    let holdings := chars.splitOn '.'
    if holdings.length = 4 then
      match readHoldings (Suit.descending.zip holdings) with
      | .error error => .error error
      | .ok cards => ofCards (Card.sortAscending cards)
    else .error .notFourSuits

def ofText (text : String) : Except HandError Hand :=
  ofChars text.toList

end Hand

end ContractBridge
