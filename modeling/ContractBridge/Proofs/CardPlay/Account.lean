import ContractBridge.CardPlay.Law
import ContractBridge.Proofs.CardPlay.Order
import ContractBridge.Proofs.Deal.Valid

/-!
# The account of the cards

The state of play is told by the deal and the cards played since: a hand is what was dealt without
the cards played from it, the trick in progress is the end of the list of plays, and the round is
that of its lead.  Every card accepted extends the account by one play.
-/

namespace ContractBridge

namespace CardPlay

def roundOf : List (Seat × Card) → CardRange
  | [] => .full
  | lead :: _ => .ledBy lead.2

structure Recorded (dealt : Deal) (plays : List (Seat × Card)) (play : CardPlay) : Prop where
  orderly : play.Orderly
  hands : ∀ seat, play.deal.get seat = (dealt.get seat).keep fun card => (seat, card) ∉ plays
  owned : ∀ entry ∈ plays, entry.2 ∈ (dealt.get entry.1).cards
  distinct : plays.Nodup
  tricks : ∃ finished, plays = finished ++ play.trick.plays ∧
    finished.length = 4 * play.tricksPlayed
  turns : ∀ seat, (plays.map Prod.fst).count seat =
    play.tricksPlayed + (play.trick.plays.map Prod.fst).count seat
  round : play.round = roundOf play.trick.plays

theorem recorded_start (dealt : Deal) (declaration : Declaration) :
    (start dealt declaration).Recorded dealt [] where
  orderly := orderly_start dealt declaration
  hands seat := by simp [start, Hand.keep_all]
  owned := by simp
  distinct := List.nodup_nil
  tricks := ⟨[], rfl, rfl⟩
  turns seat := rfl
  round := rfl

section Recorded

variable {dealt : Deal} {plays : List (Seat × Card)} {play : CardPlay}

theorem Recorded.cards_hand (h : play.Recorded dealt plays) (seat : Seat) :
    (play.deal.get seat).cards =
      (dealt.get seat).cards.filter fun card => (seat, card) ∉ plays := by
  rw [h.hands, Hand.cards_keep]

theorem Recorded.mem_hand_iff (h : play.Recorded dealt plays) {seat : Seat} {card : Card} :
    card ∈ (play.deal.get seat).cards ↔ Unplayed dealt plays seat card := by
  rw [h.cards_hand, List.mem_filter, decide_eq_true_iff]
  rfl

theorem Recorded.mem_played_iff (h : play.Recorded dealt plays) (hvalid : dealt.Valid) {seat : Seat}
    {card : Card} (hcard : card ∈ (dealt.get seat).cards) :
    card ∈ plays.map Prod.snd ↔ (seat, card) ∈ plays := by
  constructor
  · intro hmem
    obtain ⟨⟨player, other⟩, hplayed, heq⟩ := List.mem_map.mp hmem
    obtain rfl : other = card := heq
    rw [hvalid.seat_eq hcard (h.owned _ hplayed)]
    exact hplayed
  · exact List.mem_map_of_mem

theorem Recorded.nodup_cards (h : play.Recorded dealt plays) (hvalid : dealt.Valid) :
    (plays.map Prod.snd).Nodup := by
  refine List.Nodup.map_on ?_ h.distinct
  rintro ⟨seat, card⟩ hseat ⟨other, same⟩ hother heq
  obtain rfl : card = same := heq
  have hsame : seat = other := hvalid.seat_eq (h.owned _ hseat) (h.owned _ hother)
  rw [hsame]

theorem Recorded.nodup_deal (h : play.Recorded dealt plays) (hvalid : dealt.Valid) :
    play.deal.cards.Nodup := by
  have distinct := hvalid.distinct
  rw [Deal.cards_eq, List.nodup_flatMap] at distinct
  rw [Deal.cards_eq, List.nodup_flatMap]
  constructor
  · intro seat hseat
    rw [h.cards_hand]
    exact (distinct.1 seat hseat).filter _
  · refine distinct.2.imp ?_
    intro seat other hdisjoint card hcard hother
    rw [h.mem_hand_iff] at hcard hother
    exact hdisjoint hcard.1 hother.1

theorem Recorded.exists_slot (h : play.Recorded dealt plays) (hvalid : dealt.Valid) (seat : Seat)
    {slot : Nat} (hlt : slot < handSize) :
    ∃ card, (dealt.get seat).slot? slot = some (some card) ∧
      (play.deal.get seat).slot? slot =
        some (if (seat, card) ∈ plays then none else some card) := by
  obtain ⟨card, hcard⟩ := Hand.exists_card_of_full (hvalid.full seat) hlt
  refine ⟨card, hcard, ?_⟩
  rw [Hand.slot?, h.hands, Hand.getElem?_keep, hcard, Option.map_some, Option.filter]
  split
  case isTrue hkept => rw [if_neg (of_decide_eq_true hkept)]
  case isFalse hgone => rw [if_pos (by simpa using hgone)]

theorem Recorded.count_card (h : play.Recorded dealt plays) (hvalid : dealt.Valid) (card : Card) :
    play.deal.cards.count card + (plays.map Prod.snd).count card = 1 := by
  obtain ⟨seat, hcard⟩ := hvalid.exists_seat card
  have held_iff : card ∈ play.deal.cards ↔ card ∉ plays.map Prod.snd := by
    rw [h.mem_played_iff hvalid hcard, Deal.mem_cards]
    constructor
    · rintro ⟨holder, hheld⟩
      obtain ⟨hdealt, hunplayed⟩ := h.mem_hand_iff.mp hheld
      rwa [hvalid.seat_eq hcard hdealt]
    · intro hunplayed
      exact ⟨seat, h.mem_hand_iff.mpr ⟨hcard, hunplayed⟩⟩
  by_cases hplayed : card ∈ plays.map Prod.snd
  · have hgone : card ∉ play.deal.cards := fun hheld => held_iff.mp hheld hplayed
    rw [List.count_eq_zero.mpr hgone, List.count_eq_one_of_mem (h.nodup_cards hvalid) hplayed]
  · rw [List.count_eq_one_of_mem (h.nodup_deal hvalid) (held_iff.mpr hplayed),
      List.count_eq_zero.mpr hplayed]

theorem Recorded.perm_pack (h : play.Recorded dealt plays) (hvalid : dealt.Valid) :
    (play.deal.cards ++ plays.map Prod.snd).Perm Card.pack := by
  rw [List.perm_iff_count]
  intro card
  rw [List.count_append, h.count_card hvalid,
    List.count_eq_one_of_mem Card.nodup_pack card.mem_pack]

theorem Recorded.size_hand (h : play.Recorded dealt plays) (hvalid : dealt.Valid) (seat : Seat) :
    (play.deal.get seat).size + (plays.map Prod.fst).count seat = handSize := by
  have hplayed : ((dealt.get seat).cards.filter fun card => (seat, card) ∈ plays).Perm
      ((plays.filter fun entry => entry.1 = seat).map Prod.snd) := by
    rw [List.perm_ext_iff_of_nodup ((hvalid.nodup_hand seat).filter _)
      ((h.nodup_cards hvalid).sublist ((List.filter_sublist ..).map _))]
    intro card
    simp only [List.mem_filter, List.mem_map, decide_eq_true_iff]
    constructor
    · rintro ⟨-, hmem⟩
      exact ⟨(seat, card), ⟨hmem, rfl⟩, rfl⟩
    · rintro ⟨⟨player, other⟩, ⟨hmem, rfl⟩, rfl⟩
      exact ⟨h.owned _ hmem, hmem⟩
  have hcount : (plays.map Prod.fst).count seat =
      ((dealt.get seat).cards.filter fun card => (seat, card) ∈ plays).length := by
    rw [hplayed.length_eq, List.length_map, List.count, List.countP_map,
      List.countP_eq_length_filter]
    rfl
  rw [Hand.size, h.cards_hand, hcount, ← hvalid.full seat, Hand.size, Nat.add_comm,
    List.length_eq_length_filter_add (l := (dealt.get seat).cards) fun card => (seat, card) ∈ plays]
  simp

/-- A hand is a card short of the tricks left once it has played to the one in progress. -/
theorem Recorded.size_hand_eq (h : play.Recorded dealt plays) (hvalid : dealt.Valid) (seat : Seat) :
    (play.deal.get seat).size + play.tricksPlayed +
      (if seat ∈ play.trick.plays.map Prod.fst then 1 else 0) = handSize := by
  have size := h.size_hand hvalid seat
  have turns := h.turns seat
  have nodup := h.orderly.inTurn.nodup_seats (Nat.le_of_lt h.orderly.short)
  split
  case isTrue hmem =>
    rw [List.count_eq_one_of_mem nodup hmem] at turns
    omega
  case isFalse hmem =>
    rw [List.count_eq_zero.mpr hmem] at turns
    omega

/-! ## The step -/

theorem Advanced.deal_eq {laid next : CardPlay} {seat : Seat} {trick : Option TrickResult}
    (hstep : Advanced laid seat trick next) : next.deal = laid.deal := by
  cases hstep <;> rfl

theorem Recorded.hands_lay (h : play.Recorded dealt plays) (seat : Seat) (card : Card)
    (other : Seat) :
    (play.lay seat card ((dealt.get seat).keep fun kept => (seat, kept) ∉ plays && kept != card)
      ).deal.get other =
    (dealt.get other).keep fun kept => (other, kept) ∉ plays ++ [(seat, card)] := by
  rw [lay_deal, BySeat.get_set]
  split
  case isTrue heq =>
    subst heq
    refine Hand.keep_congr ?_
    intro kept _
    rw [Bool.eq_iff_iff]
    simp
  case isFalse hne =>
    rw [h.hands]
    refine Hand.keep_congr ?_
    intro kept _
    simp [Ne.symm hne]

theorem Recorded.round_lay (h : play.Recorded dealt plays) (seat : Seat) (card : Card)
    (hand : Hand) :
    (play.lay seat card hand).round = roundOf (play.lay seat card hand).trick.plays := by
  have round := h.round
  change (if play.trick.plays.isEmpty then .ledBy card else play.round) =
    roundOf (play.trick.plays ++ [(seat, card)])
  cases hplays : play.trick.plays with
  | nil => rfl
  | cons lead rest => simpa [hplays, roundOf] using round

theorem Recorded.turns_add (h : play.Recorded dealt plays) (seat : Seat) (card : Card)
    (other : Seat) :
    ((plays ++ [(seat, card)]).map Prod.fst).count other =
      play.tricksPlayed + ((play.trick.add seat card).plays.map Prod.fst).count other := by
  simp only [Trick.add, List.map_append, List.count_append, h.turns]
  omega

theorem Recorded.owned_concat (h : play.Recorded dealt plays) {seat : Seat} {card : Card}
    (hcard : Unplayed dealt plays seat card) :
    ∀ entry ∈ plays ++ [(seat, card)], entry.2 ∈ (dealt.get entry.1).cards := by
  intro entry hentry
  rcases List.mem_append.mp hentry with hentry | hentry
  · exact h.owned entry hentry
  · rw [List.mem_singleton.mp hentry]
    exact hcard.1

theorem Recorded.distinct_concat (h : play.Recorded dealt plays) {seat : Seat} {card : Card}
    (hcard : Unplayed dealt plays seat card) : (plays ++ [(seat, card)]).Nodup := by
  refine List.nodup_append.mpr ⟨h.distinct, List.nodup_singleton _, ?_⟩
  rintro entry hentry _ hlast rfl
  rw [List.mem_singleton.mp hlast] at hentry
  exact hcard.2 hentry

theorem Recorded.of_advanced (h : play.Recorded dealt plays) (hopen : play.isExhausted = false)
    {card : Card} (hcard : Unplayed dealt plays play.due.seat card) {trick : Option TrickResult}
    {next : CardPlay}
    (hstep : Advanced (play.lay play.due.seat card
      ((dealt.get play.due.seat).keep fun kept => (play.due.seat, kept) ∉ plays && kept != card))
      play.due.seat trick next) :
    next.Recorded dealt (plays ++ [(play.due.seat, card)]) := by
  have orderly := h.orderly.of_advanced hopen hstep
  have hands := h.hands_lay play.due.seat card
  rw [← hstep.deal_eq] at hands
  have owned := h.owned_concat hcard
  have distinct := h.distinct_concat hcard
  obtain ⟨finished, hplays, hlength⟩ := h.tricks
  cases hstep with
  | passed short =>
      refine ⟨orderly, hands, owned, distinct, ⟨finished, ?_, hlength⟩,
        h.turns_add play.due.seat card, h.round_lay play.due.seat card _⟩
      simp [Trick.add, hplays]
  | closed full won =>
      refine ⟨orderly, hands, owned, distinct, ⟨plays ++ [(play.due.seat, card)], ?_, ?_⟩, ?_, rfl⟩
      · simp [credit, Trick.ledBy]
      · have htrick : play.trick.plays.length + 1 = 4 := by simpa using full
        have htotal := congrArg List.length hplays
        simp only [List.length_append, List.length_singleton, credit, lay_tricksPlayed] at htotal ⊢
        omega
      · intro other
        have inTurn : (play.trick.add play.due.seat card).InTurn := by
          rw [h.orderly.due]
          exact h.orderly.inTurn.add card
        have hmem := inTurn.mem_of_complete full other
        have nodup := inTurn.nodup_seats (Nat.le_of_eq full)
        rw [h.turns_add, List.count_eq_one_of_mem nodup hmem]
        rfl

theorem Recorded.playCard (h : play.Recorded dealt plays) (hvalid : dealt.Valid)
    {actor seat : Seat} {card : Card} {result : Played} {next : CardPlay}
    (hplay : play.playCard actor seat card = .ok (result, next)) :
    next.Recorded dealt (plays ++ [(seat, card)]) ∧ result.seat = seat ∧ result.card = card ∧
      result.remaining = (next.deal.get seat).cards ∧
      (dealt.get seat).slots[result.slot]? = some (some card) := by
  obtain ⟨haccepted, slot, hand, trick, hremove, hstep, rfl⟩ := h.orderly.playCard_eq_ok hplay
  obtain ⟨hopen, rfl, -, hheld, -⟩ := refusal?_eq_none_iff.mp haccepted
  have hcard := h.mem_hand_iff.mp hheld
  obtain ⟨dealtSlot, hslot, htaken⟩ := Hand.remove?_keep (hvalid.nodup_hand play.due.seat) hcard.1
    (p := fun kept => (play.due.seat, kept) ∉ plays) (decide_eq_true hcard.2)
  rw [h.hands, htaken] at hremove
  cases hremove
  refine ⟨h.of_advanced hopen hcard hstep, rfl, rfl, ?_, hslot⟩
  rw [hstep.deal_eq, lay_deal, BySeat.get_set, if_pos rfl]

theorem Recorded.exists_pending (h : play.Recorded dealt plays) (hvalid : dealt.Valid)
    (hopen : play.isExhausted = false) :
    ∃ legal, play.legalPlay? play.due.seat = some legal ∧
      play.pending? = some (play.due, legal) := by
  have hdue : play.due.seat ∉ play.trick.plays.map Prod.fst := by
    rw [h.orderly.due]
    exact h.orderly.inTurn.due_not_mem h.orderly.short
  have size := h.size_hand_eq hvalid play.due.seat
  have hplayed := h.orderly.tricksPlayed_lt hopen
  rw [if_neg hdue] at size
  cases hlegal : play.legalPlay? play.due.seat with
  | none =>
      have hempty : (play.deal.get play.due.seat).size = 0 := by
        rw [Hand.size, Hand.legalPlay?_eq_none_iff.mp hlegal]
        rfl
      omega
  | some legal =>
      exact ⟨legal, rfl, pending?_eq_some_iff.mpr ⟨hopen, rfl, hlegal⟩⟩

theorem Recorded.map_fst_pending? (h : play.Recorded dealt plays) (hvalid : dealt.Valid) :
    play.pending?.map Prod.fst = play.turn? := by
  unfold turn?
  split
  case isTrue hexhausted => rw [pending?_of_exhausted hexhausted, Option.map_none]
  case isFalse hopen =>
    obtain ⟨legal, -, hpending⟩ := h.exists_pending hvalid (Bool.not_eq_true _ ▸ hopen)
    rw [hpending, Option.map_some]

end Recorded

end CardPlay

end ContractBridge
