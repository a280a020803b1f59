import ContractBridge.Proofs.CardPlay.Revoke
import ContractBridge.Proofs.Table.Course

/-!
# No revoke at a table

The cards accepted on a board are a lawful record of its deal, so that none of the tricks of a board
ever holds a revoke.
-/

namespace ContractBridge

namespace Table

section Course

variable {table : Table} {plays : List (Seat × Card)}

theorem Course.lawful (h : Course table plays) :
    EachAfter (CardPlay.LawfulAfter table.dealt) plays := by
  refine h.induction
    (motive := fun table plays => EachAfter (CardPlay.LawfulAfter table.dealt) plays) ?_ ?_
  · intro table opening
    exact eachAfter_nil
  · intro table plays answer next before ih hstep
    cases hstep with
    | @called seat value outcome _ accepted entered =>
        have hstage := (callRefusal?_eq_none_iff.mp accepted).1
        obtain rfl := (before.sound.bidding seat hstage).unplayed
        rw [playsAfter_bid]
        exact eachAfter_nil
    | @played play after actor seat card result stage isOpen accepted =>
        have recorded := (before.sound.playing play stage).recorded
        obtain ⟨hrefusal, slot, hand, trick, -, -, rfl⟩ := recorded.orderly.playCard_eq_ok accepted
        exact eachAfter_concat_iff.mpr ⟨ih, recorded.lawfulAfter hrefusal⟩
    | dealt => exact eachAfter_nil

/-- Whenever a seat has not followed suit to a trick of a board, it plays no card of the suit led in
that trick or in a later one, and it has played all those dealt to it in earlier tricks. -/
theorem no_revoke (h : Course table plays) {before after : List (List (Seat × Card))}
    {trick : List (Seat × Card)} (hsplit : Trick.split plays = before ++ trick :: after)
    {lead : Seat × Card} (hlead : lead ∈ trick.head?) {seat : Seat} {card : Card}
    (hmem : (seat, card) ∈ trick) (hdiscard : card.suit ≠ lead.2.suit) :
    (∀ other, (seat, other) ∈ (trick :: after).flatten → other.suit ≠ lead.2.suit) ∧
      ∀ other ∈ (table.dealt.get seat).cards, other.suit = lead.2.suit →
        (seat, other) ∈ before.flatten :=
  CardPlay.discard_without_revoke h.lawful hsplit hlead hmem hdiscard

end Course

/-- A table on the pack cut below its lowest card: each hand holds a suit without its deuce, and the
deuce of the next suit. -/
def cutPack : Table :=
  start {} (.ofWords fun _ => 0) (.unsorted (Card.pack.drop 1 ++ Card.pack.take 1))

/-- North ruffs East's lead and plays two rounds of trumps, to the first of which West follows. -/
def trumpsDrawn : List Command :=
  oneClub ++ [.play .east .east 27, .autoPlay, .play .west .west 41] ++ List.replicate 9 .autoPlay

def trumpsDrawnPlays : List (Seat × Card) :=
  (cutPack.run trumpsDrawn).1.foldl playsAfter []

theorem no_revoke_cutPack :
    ∃ before trick lead spade, Course (cutPack.run trumpsDrawn).2 trumpsDrawnPlays ∧
      Trick.split trumpsDrawnPlays = before ++ [trick] ∧ lead ∈ trick.head? ∧
      (.west, spade) ∈ trick ∧ spade.suit ≠ lead.2.suit ∧
      (∀ other, (.west, other) ∈ trick → other.suit ≠ lead.2.suit) ∧
      (.west, (CardRange.ofSuit .clubs).low) ∈ before.flatten := by
  have hopened : Opened cutPack := by
    refine opened_of_valid (Deal.valid_unsorted ?_)
    exact List.perm_append_comm.trans (.of_eq (List.take_append_drop ..))
  have hcourse : Course (cutPack.run trumpsDrawn).2 trumpsDrawnPlays :=
    (Course.opened hopened).run trumpsDrawn
  have hsplit : Trick.split trumpsDrawnPlays =
      (Trick.split trumpsDrawnPlays).take 2 ++ [trumpsDrawnPlays.drop 8] := by decide +kernel
  have hlead : (trumpsDrawnPlays.drop 8).head? = some (.north, ⟨4, by decide, by decide⟩) := by
    decide +kernel
  have hmem : (.west, ⟨42, by decide, by decide⟩) ∈ trumpsDrawnPlays.drop 8 := by decide +kernel
  obtain ⟨hafter, hearlier⟩ := no_revoke hcourse hsplit hlead hmem (by decide)
  refine ⟨_, _, _, _, hcourse, hsplit, hlead, hmem, by decide, ?_, ?_⟩
  · intro other hother
    exact hafter other (by simpa using hother)
  · exact hearlier _ (by decide +kernel) (by decide)

end Table

end ContractBridge
