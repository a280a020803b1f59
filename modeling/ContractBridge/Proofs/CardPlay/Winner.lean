import ContractBridge.CardPlay.Trick
import ContractBridge.Proofs.Card.Rank
import ContractBridge.Proofs.CardPlay.Range

/-!
# Who wins a trick

The strengths of cards put trumps above the suit led and that suit above the others, so that the
strongest card is the highest trump, or the highest card of the suit led when no trump was played.
-/

namespace ContractBridge

namespace Trick

/-- The seat played the highest card of a suit, which is trumps if the trick holds any and else the
suit led. -/
def WonBy (trump : Option Suit) (cards : List (Seat × Card)) (winner : Seat) : Prop :=
  ∃ card, (winner, card) ∈ cards ∧
    (∀ other ∈ cards, other.2.suit = card.suit → other.2.rank ≤ card.rank) ∧
    (some card.suit = trump ∨
      (∀ other ∈ cards, some other.2.suit ≠ trump) ∧ ∃ lead ∈ cards.head?, card.suit = lead.2.suit)

section Strength

variable {trump : Option Suit} {led : Suit} {card : Card}

theorem strength_of_trump (h : some card.suit = trump) :
    strength trump led card = 104 + card.code := by
  rw [strength, if_pos h]

theorem strength_of_led (h : some card.suit ≠ trump) (hled : card.suit = led) :
    strength trump led card = 52 + card.code := by
  rw [strength, if_neg h, if_pos hled]

theorem strength_of_discard (h : some card.suit ≠ trump) (hled : card.suit ≠ led) :
    strength trump led card = card.code := by
  rw [strength, if_neg h, if_neg hled]

theorem strength_le_of_ne_trump (h : some card.suit ≠ trump) : strength trump led card ≤ 104 := by
  have le_max := card.le_max
  by_cases hled : card.suit = led
  · rw [strength_of_led h hled]
    omega
  · rw [strength_of_discard h hled]
    omega

end Strength

theorem foldl_stronger (trump : Option Suit) (led : Suit) (first : Seat × Card)
    (rest : List (Seat × Card)) :
    rest.foldl (stronger trump led) first ∈ first :: rest ∧
      ∀ other ∈ first :: rest, strength trump led other.2 ≤
        strength trump led (rest.foldl (stronger trump led) first).2 := by
  apply foldl_choice
    (fun best other : Seat × Card => strength trump led other.2 ≤ strength trump led best.2)
    (fun _ => Nat.le_refl _) fun hab hbc => Nat.le_trans hbc hab
  intro best next
  unfold stronger
  split
  case isTrue hmore => exact ⟨.inr rfl, hmore, Nat.le_refl _⟩
  case isFalse hmore => exact ⟨.inl rfl, Nat.le_refl _, Nat.le_of_lt (Nat.not_le.mp hmore)⟩

theorem wonBy_of_winner? {trick : Trick} {trump : Option Suit} {winner : Seat}
    (h : trick.winner? trump = some winner) : WonBy trump trick.plays winner := by
  unfold winner? best? at h
  split at h
  case h_1 => cases h
  case h_2 lead rest hplays =>
    rw [hplays]
    obtain ⟨hmem, hstrongest⟩ := foldl_stronger trump lead.2.suit lead rest
    generalize rest.foldl (stronger trump lead.2.suit) lead = best at h hmem hstrongest
    obtain ⟨seat, card⟩ := best
    cases h
    replace hstrongest : ∀ other ∈ lead :: rest, strength trump lead.2.suit other.2 ≤
        strength trump lead.2.suit card := hstrongest
    have hlead := hstrongest lead (by simp)
    by_cases htrump : some card.suit = trump
    · refine ⟨card, hmem, ?_, .inl htrump⟩
      intro other hother hsuit
      have hle := hstrongest other hother
      rw [strength_of_trump htrump, strength_of_trump (by rw [hsuit, htrump])] at hle
      rw [Card.rank_le_rank_iff hsuit]
      omega
    · have hle := @strength_le_of_ne_trump trump lead.2.suit card htrump
      have noTrump : ∀ other ∈ lead :: rest, some other.2.suit ≠ trump := by
        intro other hother hsuit
        have pos := other.2.pos
        have hstronger := hstrongest other hother
        rw [strength_of_trump hsuit] at hstronger
        omega
      have hled : card.suit = lead.2.suit := by
        by_contra hdiscard
        have pos := lead.2.pos
        have le_max := card.le_max
        rw [strength_of_discard htrump hdiscard,
          strength_of_led (noTrump lead (by simp)) rfl] at hlead
        omega
      refine ⟨card, hmem, ?_, .inr ⟨noTrump, lead, rfl, hled⟩⟩
      intro other hother hsuit
      have hle := hstrongest other hother
      rw [strength_of_led htrump hled,
        strength_of_led (noTrump other hother) (hsuit.trans hled)] at hle
      rw [Card.rank_le_rank_iff hsuit]
      omega

end Trick

end ContractBridge
