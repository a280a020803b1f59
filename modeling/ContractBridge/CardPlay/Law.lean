import ContractBridge.CardPlay.Basic

/-!
# The law of play

Which cards may be played, told from the hands as dealt and the cards played since.  Play goes
clockwise from the leader of a trick, declarer decides for dummy, and a seat that still has cards of
the suit led plays one of them.
-/

namespace ContractBridge

namespace CardPlay

def Unplayed (dealt : Deal) (plays : List (Seat × Card)) (seat : Seat) (card : Card) : Prop :=
  card ∈ (dealt.get seat).cards ∧ (seat, card) ∉ plays

/-- The card is of the suit led to the trick, or the seat is out of that suit. -/
def FollowsSuit (dealt : Deal) (plays trick : List (Seat × Card)) (seat : Seat) (card : Card) :
    Prop :=
  ∀ lead ∈ trick.head?, card.suit = lead.2.suit ∨
    ∀ other, Unplayed dealt plays seat other → other.suit ≠ lead.2.suit

/-- A play to a trick in progress, after the given plays of the board. -/
def Lawful (dealt : Deal) (declaration : Declaration) (plays : List (Seat × Card)) (trick : Trick)
    (actor seat : Seat) (card : Card) : Prop :=
  seat = trick.leader.rotate trick.plays.length ∧ actor = declaration.controller seat ∧
    Unplayed dealt plays seat card ∧ FollowsSuit dealt plays trick.plays seat card

end CardPlay

namespace Trick

/-- A card beats a lower one of its suit, and a trump beats every other suit. -/
def Beats (trump : Option Suit) (card other : Card) : Prop :=
  card.suit = other.suit ∧ other.code < card.code ∨ some card.suit = trump ∧ some other.suit ≠ trump

/-- The plays of a board in groups of four, the last of which may be short. -/
def split : List (Seat × Card) → List (List (Seat × Card))
  | a :: b :: c :: d :: rest => [a, b, c, d] :: split rest
  | [] => []
  | short => [short]

theorem flatten_split (plays : List (Seat × Card)) : (split plays).flatten = plays := by
  fun_induction split plays with
  | case1 a b c d rest ih => simp [ih]
  | case2 => rfl
  | case3 short => simp

end Trick

end ContractBridge
