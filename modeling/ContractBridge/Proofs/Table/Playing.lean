import ContractBridge.Proofs.Table.Course

/-!
# Cards that a table accepts

While a board is in play, a card byte is accepted exactly when the law of play allows its card, told
from the deal and the plays of the board.  Someone is always due, and the offer made to them singles
out the lawful cards.
-/

namespace ContractBridge

namespace Table

section Playing

variable {table : Table} {play : CardPlay}

theorem playCard_isOk_iff (hstage : table.stage = .playing play)
    (hopen : play.isExhausted = false) {actor seat : Seat} {card : Card} :
    (∃ result next, table.playCard actor seat card = .ok (result, next)) ↔
      ∃ result after, play.playCard actor seat card = .ok (result, after) := by
  simp only [playCard, hstage, hopen, playOn]
  cases play.playCard actor seat card with
  | error failure => simp
  | ok result =>
      obtain ⟨result, after⟩ := result
      simp

theorem play_isOk_iff {actor seat : Seat} {code : UInt8} :
    (∃ result next, table.play actor seat code = .ok (result, next)) ↔
      ∃ card : Card, card.code = code.toNat ∧
        ∃ result next, table.playCard actor seat card = .ok (result, next) := by
  constructor
  · rintro ⟨result, next, hplay⟩
    obtain ⟨card, hdecode, hcard⟩ := play_eq_ok hplay
    exact ⟨card, Card.decode_eq_ok_iff.mp hdecode, result, next, hcard⟩
  · rintro ⟨card, hcode, result, next, hcard⟩
    refine ⟨result, next, ?_⟩
    simp only [Table.play, Card.decode_eq_ok_iff.mpr hcode]
    exact hcard

/-- In every state of play the lawful cards are the ones accepted, and the ones offered. -/
theorem lawful_play_iff {plays : List (Seat × Card)} (h : Course table plays)
    (hphase : table.phase = .playing) :
    ∃ play, table.play? = some play ∧
      (∀ (actor seat : Seat) (code : UInt8),
        (∃ result next, table.play actor seat code = .ok (result, next)) ↔
          ∃ card : Card, card.code = code.toNat ∧
            CardPlay.Lawful table.dealt play.declaration plays play.trick actor seat card) ∧
      ∃ turn legal, table.turn? = some (turn, legal) ∧
        ∀ card, CardPlay.Unplayed table.dealt plays turn.seat card →
          (legal.range.contains card = true ↔
            CardPlay.Lawful table.dealt play.declaration plays play.trick
              turn.actor turn.seat card) := by
  obtain ⟨play, hstage, hopen⟩ := phase_eq_playing_iff.mp hphase
  have recorded := (h.sound.playing play hstage).recorded
  have hplay : table.play? = some play := by rw [Table.play?, hstage]
  obtain ⟨legal, hlegal, hpending⟩ := recorded.exists_pending h.sound.valid hopen
  refine ⟨play, hplay, ?_, play.due, legal, ?_, ?_⟩
  · intro actor seat code
    simp only [play_isOk_iff, playCard_isOk_iff hstage hopen, recorded.playCard_isOk_iff hopen]
  · rw [Table.turn?, hplay, Option.bind_some, hpending]
  · intro card hcard
    exact recorded.contains_range_iff hlegal hcard

/-- Dummy has only hearts and discards on the lead of a diamond, as declarer decides. -/
theorem lawful_play_unshuffled :
    ∃ play, ((unshuffled .north).run oneClubLed).2.play? = some play ∧
      ∃ card : Card, card.code = 27 ∧
        CardPlay.Lawful (unshuffled .north).dealt play.declaration [(.east, deuceOfDiamonds)]
          play.trick .north .south card := by
  have hcourse := (Course.opened (opened_unshuffled .north)).run oneClubLed
  obtain ⟨play, hplay, haccepted, -⟩ := lawful_play_iff hcourse (by decide +kernel)
  obtain ⟨card, hcode, hlawful⟩ := (haccepted .north .south 27).mp ⟨_, _, rfl⟩
  exact ⟨play, hplay, card, hcode, hlawful⟩

end Playing

end Table

end ContractBridge
