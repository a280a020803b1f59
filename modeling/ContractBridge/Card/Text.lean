import ContractBridge.Card.Basic

/-!
# Texts of cards

A card is written as its suit symbol and a rank character.  It is read from a suit symbol or
letter, followed by a rank character or the number 10.
-/

namespace ContractBridge

inductive HandError where
  | invalidSuit
  | invalidRank
  | notFourSuits
  | repeatedCard
  | tooManyCards
  deriving DecidableEq, Repr

def HandError.message : HandError → String
  | .invalidSuit => "invalid suit"
  | .invalidRank => "invalid rank"
  | .notFourSuits => "a hand must contain exactly four suits"
  | .repeatedCard => "repeated card"
  | .tooManyCards => "too many cards for a hand"

namespace Card

def rankChars : List Char :=
  ['2', '3', '4', '5', '6', '7', '8', '9', 'T', 'J', 'Q', 'K', 'A']

def rankChar (card : Card) : Char :=
  rankChars.getD (card.rank - 2) '2'

def rankOfChar? (c : Char) : Option Nat :=
  (rankChars.idxOf? c.toUpper).map (· + 2)

@[simp] theorem rankOfChar?_rankChar (card : Card) : rankOfChar? card.rankChar = some card.rank := by
  have table : ∀ place : Fin 13, rankOfChar? (rankChars.getD place '2') = some (place.val + 2) := by
    decide
  have bounds := card.rank_bounds
  have read := table ⟨card.rank - 2, by omega⟩
  simp only [show card.rank - 2 + 2 = card.rank by omega] at read
  exact read

def suitOfChar? : Char → Option Suit
  | 'C' | 'c' | '♣' => some .clubs
  | 'D' | 'd' | '♦' => some .diamonds
  | 'H' | 'h' | '♥' => some .hearts
  | 'S' | 's' | '♠' => some .spades
  | _ => none

@[simp] theorem suitOfChar?_symbol (suit : Suit) : suitOfChar? suit.symbol = some suit := by
  cases suit <;> rfl

def text (card : Card) : String :=
  String.ofList [card.suit.symbol, card.rankChar]

def rankOfChars? : List Char → Option Nat
  | [c] => rankOfChar? c
  | ['1', '0'] => some 10
  | _ => none

def ofChars : List Char → Except HandError Card
  | [] => .error .invalidSuit
  | c :: rest =>
      match suitOfChar? c with
      | none => .error .invalidSuit
      | some suit =>
          match (rankOfChars? rest).bind (new? suit) with
          | none => .error .invalidRank
          | some card => .ok card

def ofText (text : String) : Except HandError Card :=
  ofChars text.toList

@[simp] theorem ofText_text (card : Card) : ofText card.text = .ok card := by
  have read_rank : rankOfChars? [card.rankChar] = some card.rank := rankOfChar?_rankChar card
  simp [ofText, text, ofChars, read_rank]

end Card

end ContractBridge
