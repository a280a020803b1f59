import ContractBridge.Card.Text
import Mathlib.Data.List.Basic

/-!
# Rank characters

A suit and a rank character name one card, in capitals and in small letters alike.  What is written
for a card is the capital, which reads as the card again.
-/

namespace ContractBridge

namespace Card

theorem new?_eq_some_iff {suit : Suit} {rank : Nat} {card : Card} :
    new? suit rank = some card ↔ card.suit = suit ∧ card.rank = rank := by
  constructor
  · intro h
    unfold new? at h
    split at h
    case isFalse => cases h
    case isTrue bounds =>
      unfold ofCode? at h
      split at h
      case isFalse => cases h
      case isTrue =>
        cases h
        constructor
        · rw [← Suit.index_inj, index_suit]
          simp only
          omega
        · simp only [Card.rank]
          omega
  · rintro ⟨rfl, rfl⟩
    exact new?_suit_rank card

theorem exists_of_rank (suit : Suit) {rank : Nat} (hlow : 2 ≤ rank) (hhigh : rank ≤ 14) :
    ∃ card, new? suit rank = some card := by
  have block : suit.index ≤ 3 := by cases suit <;> decide
  have range : 1 ≤ suit.index * 13 + rank - 1 ∧ suit.index * 13 + rank - 1 ≤ 52 := by omega
  exact ⟨⟨_, range.1, range.2⟩, by rw [new?, if_pos ⟨hlow, hhigh⟩, ofCode?, dif_pos range]⟩

theorem rank_le_rank_iff {card other : Card} (h : card.suit = other.suit) :
    card.rank ≤ other.rank ↔ card.code ≤ other.code := by
  have block := congrArg Suit.index h
  rw [index_suit, index_suit] at block
  have pos := card.pos
  have pos' := other.pos
  unfold rank
  omega

section Search

variable {p : Char → Prop} [DecidablePred p] (chars : List Char)

/-- Lists are searched for characters, where one could also go through all characters there are. -/
instance (priority := high) decidableForallChar : Decidable (∀ c ∈ chars, p c) :=
  List.decidableBAll p chars

instance (priority := high) decidableExistsChar : Decidable (∃ c ∈ chars, p c) :=
  List.decidableBEx p chars

end Search

def NamesRank (c : Char) : Prop :=
  c ∈ ['2', '3', '4', '5', '6', '7', '8', '9', 'T', 'J', 'Q', 'K', 'A', 't', 'j', 'q', 'k', 'a']

instance : DecidablePred NamesRank := fun _ => List.instDecidableMemOfLawfulBEq ..

theorem namesRank_iff {c : Char} : NamesRank c ↔ c.toUpper ∈ rankChars := by
  constructor
  · intro h
    have capitals : ∀ letter, NamesRank letter → letter.toUpper ∈ rankChars := by
      unfold NamesRank
      decide
    exact capitals c h
  · intro h
    by_cases hlower : 'a'.val ≤ c.val ∧ c.val ≤ 'z'.val
    · have letters : ∀ place : Fin 26, (Char.ofNat (97 + place)).toUpper ∈ rankChars →
          NamesRank (Char.ofNat (97 + place)) := by
        decide
      have bounds : 97 ≤ c.toNat ∧ c.toNat ≤ 122 := by
        simpa [UInt32.le_iff_toNat_le] using hlower
      have letter := letters ⟨c.toNat - 97, by omega⟩
      rw [Nat.add_sub_cancel' bounds.1, Char.ofNat_toNat] at letter
      exact letter h
    · have unchanged : c.toUpper = c := dif_neg hlower
      have capitals : ∀ letter ∈ rankChars, NamesRank letter := by decide
      rw [unchanged] at h
      exact capitals c h

/-- The ranks from the deuce up to the ace. -/
def ranksUpward : List Char :=
  ['2', '3', '4', '5', '6', '7', '8', '9', 'T', 'J', 'Q', 'K', 'A']

theorem getElem?_ranksUpward (card : Card) : ranksUpward[card.rank - 2]? = some card.rankChar := by
  have table : ∀ place : Fin 13, ranksUpward[place.val]? = some (rankChars.getD place '2') := by
    decide
  have bounds := card.rank_bounds
  exact table ⟨card.rank - 2, by omega⟩

theorem rankChar_mem (card : Card) : card.rankChar ∈ rankChars := by
  have bounds := card.rank_bounds
  have hlt : card.rank - 2 < rankChars.length := by
    simp only [rankChars, List.length_cons, List.length_nil]
    omega
  have read : card.rankChar = rankChars[card.rank - 2] := by
    simp [rankChar, List.getElem?_eq_getElem hlt]
  rw [read]
  exact List.getElem_mem hlt

theorem toUpper_rankChar (card : Card) : card.rankChar.toUpper = card.rankChar := by
  have capitals : ∀ c ∈ rankChars, c.toUpper = c := by decide
  exact capitals _ card.rankChar_mem

theorem namesRank_rankChar (card : Card) : NamesRank card.rankChar := by
  rw [namesRank_iff, toUpper_rankChar]
  exact card.rankChar_mem

theorem rankChar_ne_dot (card : Card) : card.rankChar ≠ '.' := by
  intro h
  have names := card.namesRank_rankChar
  rw [h] at names
  exact absurd names (by decide)

theorem rankChar_eq_of_getElem? {card : Card} {place : Nat} (hrank : card.rank = place + 2)
    {c : Char} (hc : rankChars[place]? = some c) : card.rankChar = c := by
  simp [rankChar, hrank, hc]

theorem named_eq_some_iff {suit : Suit} {c : Char} {card : Card} :
    (rankOfChar? c).bind (new? suit) = some card ↔
      card.suit = suit ∧ card.rankChar = c.toUpper := by
  constructor
  · intro h
    obtain ⟨rank, hrank, hnew⟩ := Option.bind_eq_some_iff.mp h
    obtain ⟨place, hplace, rfl⟩ := Option.map_eq_some_iff.mp hrank
    obtain ⟨hlt, hchar, -⟩ := List.idxOf?_eq_some_iff.mp hplace
    have named := new?_eq_some_iff.mp hnew
    exact ⟨named.1, rankChar_eq_of_getElem? named.2 (List.getElem?_eq_some_iff.mpr ⟨hlt, hchar⟩)⟩
  · rintro ⟨rfl, hchar⟩
    have same : rankOfChar? c = rankOfChar? card.rankChar := by
      rw [rankOfChar?, rankOfChar?, toUpper_rankChar, hchar]
    rw [same, rankOfChar?_rankChar]
    exact new?_suit_rank card

theorem namesRank_iff_exists (suit : Suit) {c : Char} :
    NamesRank c ↔ ∃ card : Card, card.suit = suit ∧ card.rankChar = c.toUpper := by
  rw [namesRank_iff]
  constructor
  · intro h
    obtain ⟨place, hlt, hplace⟩ := List.mem_iff_getElem.mp h
    have bound : place + 2 ≤ 14 := Nat.succ_le_of_lt (Nat.succ_lt_succ hlt)
    obtain ⟨card, hcard⟩ := exists_of_rank suit (Nat.le_add_left 2 place) bound
    have named := new?_eq_some_iff.mp hcard
    exact ⟨card, named.1,
      rankChar_eq_of_getElem? named.2 (List.getElem?_eq_some_iff.mpr ⟨hlt, hplace⟩)⟩
  · rintro ⟨card, -, hchar⟩
    rw [← hchar]
    exact card.rankChar_mem

theorem eq_of_rankChar_eq {card other : Card} (hsuit : card.suit = other.suit)
    (hchar : card.rankChar = other.rankChar) : card = other := by
  rw [← toUpper_rankChar other] at hchar
  have named := named_eq_some_iff.mpr ⟨hsuit, hchar⟩
  rw [rankOfChar?_rankChar, Option.bind_some, new?_suit_rank] at named
  exact (Option.some.inj named).symm

theorem idxOf_rankChar (card : Card) : ranksUpward.idxOf card.rankChar = card.rank - 2 := by
  have table : ∀ place : Fin 13, ranksUpward.idxOf (rankChars.getD place '2') = place.val := by
    decide
  have bounds := card.rank_bounds
  exact table ⟨card.rank - 2, by omega⟩

theorem idxOf_rankChar_le_iff {card other : Card} (h : card.suit = other.suit) :
    ranksUpward.idxOf card.rankChar ≤ ranksUpward.idxOf other.rankChar ↔
      card.code ≤ other.code := by
  have bounds := card.rank_bounds
  have bounds' := other.rank_bounds
  rw [idxOf_rankChar, idxOf_rankChar, ← rank_le_rank_iff h]
  omega

end Card

end ContractBridge
