import ContractBridge.Hand.Basic

/-!
# Following suit

The cards that follow suit in a trick are an interval of card codes: the block of the suit led, or
the whole pack for the leader.  What a hand may play against such an interval is an interval again.
-/

namespace ContractBridge

structure CardRange where
  low : Card
  high : Card
  deriving DecidableEq, Repr

namespace CardRange

def full : CardRange :=
  ⟨⟨1, by decide, by decide⟩, ⟨52, by decide, by decide⟩⟩

def ofSuit : Suit → CardRange
  | .clubs => ⟨⟨1, by decide, by decide⟩, ⟨13, by decide, by decide⟩⟩
  | .diamonds => ⟨⟨14, by decide, by decide⟩, ⟨26, by decide, by decide⟩⟩
  | .hearts => ⟨⟨27, by decide, by decide⟩, ⟨39, by decide, by decide⟩⟩
  | .spades => ⟨⟨40, by decide, by decide⟩, ⟨52, by decide, by decide⟩⟩

def ledBy (card : Card) : CardRange :=
  ofSuit card.suit

/-- Codes that are no card ask for nothing. -/
def ofCode (code : UInt8) : CardRange :=
  match Card.ofCode? code.toNat with
  | some card => ledBy card
  | none => full

def contains (range : CardRange) (card : Card) : Bool :=
  range.low.code ≤ card.code && card.code ≤ range.high.code

theorem contains_iff {range : CardRange} {card : Card} :
    range.contains card = true ↔ range.low.code ≤ card.code ∧ card.code ≤ range.high.code := by
  simp [contains]

@[simp] theorem contains_full (card : Card) : full.contains card = true :=
  contains_iff.mpr ⟨card.pos, card.le_max⟩

theorem contains_ofSuit (suit : Suit) (card : Card) :
    (ofSuit suit).contains card = true ↔ card.suit = suit := by
  have pos := card.pos
  have le_max := card.le_max
  rw [contains_iff, ← Suit.index_inj, Card.index_suit]
  cases suit <;> simp only [ofSuit, Suit.index] <;> omega

end CardRange

/-- The default card is what is played for a seat that does not decide in time. -/
structure LegalPlay where
  range : CardRange
  defaultCard : Card
  defaultSlot : Nat
  deriving DecidableEq, Repr

namespace LegalPlay

def lower (best next : Nat × Card) : Nat × Card :=
  if next.2.code < best.2.code then next else best

def higher (best next : Card) : Card :=
  if best.code ≤ next.code then next else best

def spanning (first : Nat × Card) (rest : List (Nat × Card)) : LegalPlay :=
  let lowest := rest.foldl lower first
  let highest := (rest.map Prod.snd).foldl higher first.2
  { range := ⟨lowest.2, highest⟩
    defaultCard := lowest.2
    defaultSlot := lowest.1 }

def anyCard (first : Nat × Card) : LegalPlay :=
  { range := .full
    defaultCard := first.2
    defaultSlot := first.1 }

end LegalPlay

def Hand.legalPlay? (hand : Hand) (round : CardRange) : Option LegalPlay :=
  match hand.held.filter fun (_, card) => round.contains card with
  | first :: rest => some (.spanning first rest)
  | [] => hand.held.head?.map .anyCard

end ContractBridge
