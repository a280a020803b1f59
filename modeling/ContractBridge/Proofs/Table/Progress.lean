import ContractBridge.Proofs.Table.Refusal
import ContractBridge.Proofs.Table.Tricks

/-!
# Boards are played to the end

No table gets stuck.  The seat due may always pass, the card offered by default is always accepted,
and a finished board is followed by the next one.  Every card accepted leaves one card less in the
hands, so that as many default cards as are still held finish a board.
-/

namespace ContractBridge

namespace Table

section Course

variable {table : Table} {plays : List (Seat × Card)}

theorem Course.length_deal (h : Course table plays) :
    table.deal.cards.length + plays.length = 52 := by
  cases hstage : table.stage with
  | bidding next =>
      obtain rfl := (h.sound.bidding next hstage).unplayed
      rw [deal, hstage]
      exact h.sound.valid.length_cards
  | playing play =>
      have recorded := (h.sound.playing play hstage).recorded
      have hlength := (recorded.perm_pack h.sound.valid).length_eq
      rw [List.length_append, List.length_map, Card.length_pack] at hlength
      rwa [deal, hstage]

theorem Course.finished_iff_held (h : Course table plays) (hphase : table.phase ≠ .bidding) :
    table.phase = .finished ↔ table.deal.cards.length = 0 := by
  obtain ⟨play, hstage⟩ := phase_ne_bidding_iff.mp hphase
  have hlength := h.length_deal
  rw [(h.finished_iff hstage).2]
  omega

theorem Course.playing_iff_held (h : Course table plays) (hphase : table.phase ≠ .bidding) :
    table.phase = .playing ↔ 0 < table.deal.cards.length := by
  have hfinished := h.finished_iff_held hphase
  cases hphase' : table.phase with
  | bidding => exact absurd hphase' hphase
  | playing => simpa [hphase', Nat.pos_iff_ne_zero] using hfinished
  | finished => simpa [hphase'] using hfinished

theorem Course.autoPlay_spec (h : Course table plays) (hphase : table.phase = .playing) :
    ∃ turn legal result, table.turn? = some (turn, legal) ∧
      table.autoPlay = .ok (result, (table.step .autoPlay).2) ∧ result.seat = turn.seat ∧
      result.card = legal.defaultCard ∧ result.next = (table.step .autoPlay).2.turn? ∧
      (table.step .autoPlay).2.phase ≠ .bidding ∧
      (table.step .autoPlay).2.deal.cards.length + 1 = table.deal.cards.length := by
  obtain ⟨result, next, hauto⟩ := h.sound.autoPlay_isOk hphase
  obtain ⟨turn, legal, hturn, hcard⟩ := autoPlay_eq_ok hauto
  obtain ⟨play, after, hstage, -, hplay, rfl⟩ := playCard_eq_ok hcard
  have orderly := (h.sound.playing play hstage).recorded.orderly
  obtain ⟨-, slot, hand, trick, -, -, rfl⟩ := orderly.playCard_eq_ok hplay
  have hperform : table.perform .autoPlay = labelled .played table.autoPlay := rfl
  rw [hauto] at hperform
  have hstep := step_of_perform hperform
  have hlength := h.length_deal
  have hlengthNext := (h.step .autoPlay).length_deal
  rw [hstep] at hlengthNext ⊢
  simp only [playsAfter, List.length_append, List.length_singleton] at hlengthNext
  refine ⟨turn, legal, _, hturn, hauto, rfl, rfl, rfl, ?_, ?_⟩
  · exact phase_ne_bidding_iff.mpr ⟨after, rfl⟩
  · dsimp only
    omega

theorem Sound.turn?_eq_none_iff (h : table.Sound plays) :
    table.turn? = none ↔ table.phase ≠ .playing := by
  refine ⟨?_, turn?_eq_none⟩
  intro hnone hphase
  obtain ⟨result, next, hauto⟩ := h.autoPlay_isOk hphase
  rw [autoPlay, hnone] at hauto
  cases hauto

end Course

def afterDefaults (table : Table) (count : Nat) : Table :=
  (table.run (List.replicate count .autoPlay)).2

theorem afterDefaults_succ (table : Table) (count : Nat) :
    table.afterDefaults (count + 1) = ((table.afterDefaults count).step .autoPlay).2 := by
  induction count generalizing table with
  | zero => rfl
  | succ count ih => exact ih (table.step .autoPlay).2

/-- As many cards as are held are played by default, each by the seat due and as it was offered.
Nobody is due after the last one, which finishes the board. -/
structure PlayedOut (table : Table) : Prop where
  card : ∀ count < table.deal.cards.length, ∃ turn legal result,
    (table.afterDefaults count).phase = .playing ∧
    (table.afterDefaults count).turn? = some (turn, legal) ∧
    (table.afterDefaults count).autoPlay = .ok (result, table.afterDefaults (count + 1)) ∧
    result.seat = turn.seat ∧ result.card = legal.defaultCard ∧
    (result.next = none ↔ count + 1 = table.deal.cards.length)
  finished : (table.afterDefaults table.deal.cards.length).phase = .finished
  refused : (table.afterDefaults table.deal.cards.length).autoPlay =
    .error (.refused (.phaseMismatch .finished))
  handsEmpty : ∀ seat,
    ((table.afterDefaults table.deal.cards.length).deal.get seat).isEmpty = true
  tricks : ∃ play, (table.afterDefaults table.deal.cards.length).play? = some play ∧
    play.tricksWon.northSouth + play.tricksWon.eastWest = handSize

section Course

variable {table : Table} {plays : List (Seat × Card)}

theorem Course.length_deal_afterDefaults (h : Course table plays) (hphase : table.phase ≠ .bidding)
    {count : Nat} (hcount : count ≤ table.deal.cards.length) :
    (∃ later, Course (table.afterDefaults count) later) ∧
      (table.afterDefaults count).phase ≠ .bidding ∧
      (table.afterDefaults count).deal.cards.length + count = table.deal.cards.length := by
  induction count with
  | zero => exact ⟨⟨plays, h⟩, hphase, rfl⟩
  | succ count ih =>
      obtain ⟨⟨later, hcourse⟩, hopen, hheld⟩ := ih (by omega)
      have hplaying := (hcourse.playing_iff_held hopen).mpr (by omega)
      obtain ⟨_, _, _, -, -, -, -, -, hnext, hless⟩ := hcourse.autoPlay_spec hplaying
      rw [afterDefaults_succ]
      exact ⟨⟨_, hcourse.step .autoPlay⟩, hnext, by omega⟩

theorem Course.playedOut (h : Course table plays) (hphase : table.phase ≠ .bidding) :
    table.PlayedOut := by
  obtain ⟨⟨later, hlast⟩, hclosed, hnone⟩ :=
    h.length_deal_afterDefaults hphase (Nat.le_refl _)
  have hfinished := (hlast.finished_iff_held hclosed).mpr (by omega)
  constructor
  case card =>
    intro count hcount
    obtain ⟨⟨later, hcourse⟩, hopen, hheld⟩ := h.length_deal_afterDefaults hphase (Nat.le_of_lt hcount)
    have hplaying := (hcourse.playing_iff_held hopen).mpr (by omega)
    obtain ⟨turn, legal, result, hturn, hauto, hseat, hcard, hnext, hafter, hless⟩ :=
      hcourse.autoPlay_spec hplaying
    refine ⟨turn, legal, result, hplaying, hturn, ?_, hseat, hcard, ?_⟩
    · rw [afterDefaults_succ, hauto]
    · have hcourse' := hcourse.step .autoPlay
      rw [hnext, hcourse'.sound.turn?_eq_none_iff, ne_eq, hcourse'.playing_iff_held hafter]
      omega
  case finished => exact hfinished
  case refused =>
    rw [hlast.sound.autoPlay_eq_error_iff, hfinished]
    simp
  case handsEmpty =>
    intro seat
    have hempty : (table.afterDefaults table.deal.cards.length).deal.cards = [] :=
      List.length_eq_zero_iff.mp (by omega)
    rw [Hand.isEmpty_iff, List.eq_nil_iff_forall_not_mem]
    intro card hcard
    have hmem := Deal.mem_cards.mpr ⟨seat, hcard⟩
    simp [hempty] at hmem
  case tricks =>
    obtain ⟨play, hstage⟩ := phase_ne_bidding_iff.mp hclosed
    have orderly := (hlast.sound.playing play hstage).recorded.orderly
    refine ⟨play, by rw [play?, hstage], ?_⟩
    rw [orderly.sum]
    exact (hlast.finished_iff hstage).1.mp hfinished

end Course

theorem InBidding.pass_isOk {table : Table} {plays : List (Seat × Card)} {due : Seat}
    (h : table.InBidding plays due) (hstage : table.stage = .bidding due)
    (hvalid : table.dealt.Valid) {value : BidValue} (hpass : value.call = .pass)
    (hboard : Auction.PassedOut (table.auction.calls ++ [⟨due, value⟩]) →
      ∃ board, Deal.shuffle table.generator = .ok board) :
    ∃ outcome next, table.call due value = .ok (outcome, next) ∧
      table.bid due (TaggedBid.encode ⟨due, value⟩) = .ok (outcome, next) := by
  have hlegal : Auction.LegalAfter table.dealer table.auction.calls ⟨due, value⟩ := by
    refine ⟨h.due, ?_⟩
    rw [hpass]
    exact trivial
  have haccepted := (h.callRefusal?_eq_none_iff hstage).mpr hlegal
  obtain ⟨outcome, next, henter⟩ := (h.enter_isOk_iff hvalid hlegal).mpr hboard
  have hcall := (call_of_accepted haccepted).trans henter
  exact ⟨outcome, next, hcall, (bid_of_decode (TaggedBid.decode_encode _)).trans hcall⟩

/-- In every phase something is accepted: a pass of the seat due, a card by default, the next deal.
Only where a new board is needed does it take a shuffle that comes to an end.  A board in play can
be played out by default. -/
theorem never_stuck {table : Table} (h : Reachable table) :
    (table.phase = .bidding → ∃ due, table.nextBidder? = some due ∧
      ∀ value : BidValue, value.call = .pass →
        (Auction.PassedOut (table.auction.calls ++ [⟨due, value⟩]) →
          ∃ board, Deal.shuffle table.generator = .ok board) →
        ∃ outcome next, table.call due value = .ok (outcome, next) ∧
          table.bid due (TaggedBid.encode ⟨due, value⟩) = .ok (outcome, next)) ∧
    (table.phase = .playing → 0 < table.deal.cards.length ∧ table.PlayedOut) ∧
    (table.phase = .finished → (∃ board, Deal.shuffle table.generator = .ok board) →
      ∃ next, table.nextDeal = .ok (table.dealer.next, next)) := by
  obtain ⟨plays, hcourse⟩ := reachable_iff.mp h
  refine ⟨?_, ?_, ?_⟩
  · intro hphase
    obtain ⟨due, hstage⟩ := phase_eq_bidding_iff.mp hphase
    have bidding := hcourse.sound.bidding due hstage
    refine ⟨due, by rw [nextBidder?, hstage], ?_⟩
    intro value hpass hboard
    exact bidding.pass_isOk hstage hcourse.sound.valid hpass hboard
  · intro hphase
    have hplayed : table.phase ≠ .bidding := by simp [hphase]
    exact ⟨(hcourse.playing_iff_held hplayed).mp hphase, hcourse.playedOut hplayed⟩
  · rintro hphase ⟨board, hshuffle⟩
    cases hnext : table.nextDeal with
    | ok result =>
        obtain ⟨dealer, next⟩ := result
        obtain ⟨-, rfl, -⟩ := nextDeal_eq_ok hnext
        exact ⟨next, rfl⟩
    | error failure =>
        rcases nextDeal_eq_error_iff.mp hnext with ⟨hother, -⟩ | ⟨-, -, hstalled⟩
        · exact absurd hphase hother
        · rw [hshuffle] at hstalled
          cases hstalled

theorem never_stuck_oneClubLed :
    ((unshuffled .north).run oneClubLed).2.deal.cards.length = 51 ∧
      ((unshuffled .north).run oneClubLed).2.PlayedOut ∧
      ∃ next, ((unshuffled .north).run (oneClub ++ List.replicate 52 .autoPlay)).2.nextDeal =
        .ok (.east, next) := by
  have hopened := Reachable.opened (opened_unshuffled .north)
  obtain ⟨-, hplaying, -⟩ := never_stuck (hopened.run oneClubLed)
  obtain ⟨-, -, hfinished⟩ := never_stuck (hopened.run (oneClub ++ List.replicate 52 .autoPlay))
  exact ⟨by decide +kernel, (hplaying (by decide +kernel)).2,
    hfinished (by decide +kernel) ⟨_, rfl⟩⟩

end Table

end ContractBridge
