import ContractBridge.Proofs.Table.Course

/-!
# No card is lost

From the deal of a board to its end every card is in the hand to which it was dealt, in the slot in
which it was laid out, or has been played once by that hand.
-/

namespace ContractBridge

namespace Table

/-- Whose card a command asks to play, and the code of the card. -/
def asked? (table : Table) : Command → Option (Seat × Nat)
  | .play _ seat code => some (seat, code.toNat)
  | .playCard _ seat card => some (seat, card.code)
  | .autoPlay => table.turn?.map fun (turn, legal) => (turn.seat, legal.defaultCard.code)
  | _ => none

theorem playCard_of_perform {table next : Table} {command : Command} {result : CardPlay.Played}
    (h : table.perform command = .ok (.played result, next)) :
    ∃ actor seat card, table.asked? command = some (seat, card.code) ∧
      table.playCard actor seat card = .ok (result, next) := by
  cases command with
  | play actor seat code =>
      obtain ⟨_, ⟨⟩, hplay⟩ := labelled_eq_ok h
      obtain ⟨card, hdecode, hcard⟩ := play_eq_ok hplay
      refine ⟨actor, seat, card, ?_, hcard⟩
      rw [Card.decode_eq_ok_iff.mp hdecode, asked?]
  | playCard actor seat card =>
      obtain ⟨_, ⟨⟩, hcard⟩ := labelled_eq_ok h
      exact ⟨actor, seat, card, rfl, hcard⟩
  | autoPlay =>
      obtain ⟨_, ⟨⟩, hauto⟩ := labelled_eq_ok h
      obtain ⟨turn, legal, hturn, hcard⟩ := autoPlay_eq_ok hauto
      refine ⟨turn.actor, turn.seat, legal.defaultCard, ?_, hcard⟩
      rw [asked?, hturn, Option.map_some]
  | bid | call | nextDeal =>
      obtain ⟨_, ⟨⟩, -⟩ := labelled_eq_ok h

section Sound

variable {table : Table} {plays : List (Seat × Card)}

theorem Sound.playCard (h : table.Sound plays) {actor seat : Seat} {card : Card}
    {result : CardPlay.Played} {next : Table}
    (hplay : table.playCard actor seat card = .ok (result, next)) :
    result.seat = seat ∧ result.card = card ∧
      (table.dealt.get seat).slot? result.slot = some (some card) ∧
      result.remaining = (table.dealt.get seat).cards.filter (fun other =>
        (seat, other) ∉ plays ++ [(seat, card)]) ∧
      result.remaining.length + 1 = (table.deal.get seat).size := by
  obtain ⟨play, after, hstage, hopen, haccepted, rfl⟩ := playCard_eq_ok hplay
  have recorded := (h.playing play hstage).recorded
  obtain ⟨extended, hseat, hcard, hremaining, hslot⟩ := recorded.playCard h.valid haccepted
  have hdeal : table.deal = play.deal := by rw [deal, hstage]
  refine ⟨hseat, hcard, hslot, ?_, ?_⟩
  · rw [hremaining, extended.cards_hand]
  · have before := recorded.size_hand h.valid seat
    have now := extended.size_hand h.valid seat
    rw [List.map_append, List.count_append, List.map_singleton, List.count_singleton_self] at now
    rw [hremaining, hdeal]
    simp only [Hand.size] at before now ⊢
    omega

/-- On the whole way of a board through its play, the cards are in the slots in which they were
dealt or have been played once. -/
theorem cards_conserved (h : Course table plays) (hphase : table.phase ≠ .bidding) :
    ∃ play, table.play? = some play ∧
      (∀ (seat : Seat) (slot : Nat), slot < handSize →
        ∃ card, (table.dealt.get seat).slot? slot = some (some card) ∧
          (table.deal.get seat).slot? slot =
            some (if (seat, card) ∈ plays then none else some card)) ∧
      (plays.map Prod.snd).Nodup ∧
      (∀ card, table.deal.cards.count card + (plays.map Prod.snd).count card = 1) ∧
      (∀ seat, (table.deal.get seat).size + play.tricksPlayed +
        (if seat ∈ play.trick.plays.map Prod.fst then 1 else 0) = handSize) ∧
      ∀ command result next, table.perform command = .ok (.played result, next) →
        table.asked? command = some (result.seat, result.card.code) ∧
        (table.dealt.get result.seat).slot? result.slot = some (some result.card) ∧
        result.remaining = (table.dealt.get result.seat).cards.filter (fun card =>
          (result.seat, card) ∉ plays ++ [(result.seat, result.card)]) ∧
        result.remaining.length + 1 = (table.deal.get result.seat).size := by
  have valid := h.sound.valid
  cases hstage : table.stage with
  | bidding next => simp [phase, hstage] at hphase
  | playing play =>
      have recorded := (h.sound.playing play hstage).recorded
      have hdeal : table.deal = play.deal := by rw [deal, hstage]
      refine ⟨play, by rw [play?, hstage], ?_, recorded.nodup_cards valid, ?_, ?_, ?_⟩
      · intro seat slot hlt
        rw [hdeal]
        exact recorded.exists_slot valid seat hlt
      · rw [hdeal]
        exact recorded.count_card valid
      · rw [hdeal]
        exact recorded.size_hand_eq valid
      · intro command result next hperform
        obtain ⟨actor, seat, card, hasked, hplay⟩ := playCard_of_perform hperform
        obtain ⟨rfl, rfl, hslot, hremaining, hlength⟩ := h.sound.playCard hplay
        exact ⟨hasked, hslot, hremaining, hlength⟩

end Sound

theorem cards_conserved_unshuffled :
    ((unshuffled .north).run oneClubLed).2.deal.cards.count deuceOfDiamonds +
      [deuceOfDiamonds].count deuceOfDiamonds = 1 := by
  have hcourse := (Course.opened (opened_unshuffled .north)).run oneClubLed
  obtain ⟨-, -, -, -, hcount, -⟩ := cards_conserved hcourse (by decide +kernel)
  exact hcount deuceOfDiamonds

end Table

end ContractBridge
