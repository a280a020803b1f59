import ContractBridge.Proofs.CardPlay.Order

/-!
# Cards lie face down

What everybody can see of a play is the play without its hands.  It settles how the play goes on
after a card and why a seat that is not due is turned away; beyond that only the hand that is due
has a say in the answer.
-/

namespace ContractBridge

namespace CardPlay

/-- The play as it looks to somebody who sees no hand. -/
def faceDown (play : CardPlay) : CardPlay :=
  { play with deal := .replicate .empty }

section Single

variable (play : CardPlay)

@[simp] theorem isExhausted_faceDown : play.faceDown.isExhausted = play.isExhausted := rfl

@[simp] theorem turn?_faceDown : play.faceDown.turn? = play.turn? := rfl

@[simp] theorem declaration_faceDown : play.faceDown.declaration = play.declaration := rfl

@[simp] theorem trick_faceDown : play.faceDown.trick = play.trick := rfl

@[simp] theorem round_faceDown : play.faceDown.round = play.round := rfl

@[simp] theorem tricksPlayed_faceDown : play.faceDown.tricksPlayed = play.tricksPlayed := rfl

@[simp] theorem tricksWon_faceDown : play.faceDown.tricksWon = play.tricksWon := rfl

theorem closeTrick_faceDown :
    play.faceDown.closeTrick = play.closeTrick.map (Prod.map id faceDown) := by
  unfold closeTrick tricksOf
  simp only [trick_faceDown, declaration_faceDown, tricksPlayed_faceDown, tricksWon_faceDown]
  cases play.trick.winner? play.declaration.strain.trump? with
  | none => rfl
  | some winner =>
      dsimp only
      cases raise? play.tricksPlayed with
      | none => rfl
      | some tricksPlayed =>
          cases raise? (play.tricksWon.get winner.side) with
          | none => rfl
          | some tricks => rfl

theorem advance_faceDown (seat : Seat) :
    play.faceDown.advance seat = (play.advance seat).map (Prod.map id faceDown) := by
  unfold advance
  rw [trick_faceDown, closeTrick_faceDown]
  split
  case isFalse => rfl
  case isTrue =>
    cases play.closeTrick with
    | error fault => rfl
    | ok closed => rfl

end Single

def offTurn (turn? : Option Turn) (actor seat : Seat) : PlayError :=
  match turn? with
  | none => .handExhausted
  | some turn => if seat = turn.seat then .notController seat actor else .outOfTurn turn.seat seat

theorem playCard_of_not_due {play : CardPlay} {actor seat : Seat}
    (h : play.turn? ≠ some ⟨seat, actor⟩) (card : Card) :
    play.playCard actor seat card = .error (.refused (offTurn play.turn? actor seat)) := by
  have hrefusal : play.refusal? actor seat card = some (offTurn play.turn? actor seat) := by
    unfold refusal? offTurn
    cases hturn : play.turn? with
    | none => rfl
    | some turn =>
        dsimp only
        by_cases hseat : seat = turn.seat
        case neg => rw [if_pos hseat, if_neg hseat]
        have hactor : actor ≠ turn.actor := by
          rintro rfl
          subst hseat
          exact h hturn
        rw [if_neg (not_not_intro hseat), if_pos hseat, if_pos hactor]
  rw [playCard, hrefusal]

section Same

variable {play other : CardPlay} {actor seat : Seat} {card : Card}

theorem isExhausted_congr (h : play.faceDown = other.faceDown) :
    play.isExhausted = other.isExhausted := by
  rw [← isExhausted_faceDown, h, isExhausted_faceDown]

theorem turn?_congr (h : play.faceDown = other.faceDown) : play.turn? = other.turn? := by
  rw [← turn?_faceDown, h, turn?_faceDown]

theorem advance_congr (h : play.faceDown = other.faceDown) (seat : Seat) :
    (∃ fault, play.advance seat = .error fault ∧ other.advance seat = .error fault) ∨
    ∃ trick next next', play.advance seat = .ok (trick, next) ∧
      other.advance seat = .ok (trick, next') := by
  have hadvance := advance_faceDown play seat
  rw [h, advance_faceDown] at hadvance
  generalize play.advance seat = advanced at hadvance ⊢
  generalize other.advance seat = advanced' at hadvance ⊢
  match advanced, advanced' with
  | .ok _, .error _ | .error _, .ok _ => cases hadvance
  | .error _, .error _ =>
      cases hadvance
      exact .inl ⟨_, rfl, rfl⟩
  | .ok (trick, next), .ok (trick', next') =>
      obtain rfl : trick' = trick := congrArg Prod.fst (Except.ok.inj hadvance)
      exact .inr ⟨_, _, _, rfl, rfl⟩

theorem advance_of_playCard {next : CardPlay} {result : Played}
    (h : play.playCard actor seat card = .ok (result, next)) :
    (play.faceDown.addToTrick seat card).advance seat = .ok (result.trick, next.faceDown) := by
  unfold playCard at h
  split at h
  case h_1 => cases h
  case h_2 =>
    unfold commit takeCard at h
    cases hremove : (play.deal.get seat).remove? card with
    | none => simp [hremove] at h
    | some taken =>
        obtain ⟨slot, hand⟩ := taken
        simp only [hremove] at h
        split at h
        case h_1 => cases h
        case h_2 trick after hadvance =>
          cases h
          have hfaceDown := advance_faceDown (play.lay seat card hand) seat
          rw [lay, hadvance] at hfaceDown
          exact hfaceDown

theorem faceDown_of_playCard (h : play.faceDown = other.faceDown) {next next' : CardPlay}
    {result result' : Played} (hplay : play.playCard actor seat card = .ok (result, next))
    (hother : other.playCard actor seat card = .ok (result', next')) :
    result.trick = result'.trick ∧ next.faceDown = next'.faceDown := by
  have hadvance := advance_of_playCard hplay
  rw [h, advance_of_playCard hother, Except.ok.injEq, Prod.mk.injEq] at hadvance
  exact ⟨hadvance.1.symm, hadvance.2.symm⟩

theorem refusal?_congr (h : play.faceDown = other.faceDown)
    (hhand : play.deal.get seat = other.deal.get seat) (actor : Seat) (card : Card) :
    play.refusal? actor seat card = other.refusal? actor seat card := by
  have hround : play.round = other.round := by rw [← round_faceDown, h, round_faceDown]
  unfold refusal? legalPlay?
  rw [turn?_congr h, hhand, hround]

theorem playCard_of_hand (h : play.faceDown = other.faceDown)
    (hhand : play.deal.get seat = other.deal.get seat) (actor : Seat) (card : Card) :
    (∃ failure, play.playCard actor seat card = .error failure ∧
      other.playCard actor seat card = .error failure) ∨
    ∃ result after after', play.playCard actor seat card = .ok (result, after) ∧
      result.next = after.pending? ∧
      other.playCard actor seat card = .ok ({ result with next := after'.pending? }, after') := by
  unfold playCard commit takeCard
  rw [refusal?_congr h hhand, hhand]
  cases other.refusal? actor seat card with
  | some error => exact .inl ⟨_, rfl, rfl⟩
  | none =>
      cases (other.deal.get seat).remove? card with
      | none => exact .inl ⟨_, rfl, rfl⟩
      | some taken =>
          obtain ⟨slot, hand⟩ := taken
          have laid : (play.lay seat card hand).faceDown = (other.lay seat card hand).faceDown :=
            congrArg (fun hidden : CardPlay => hidden.addToTrick seat card) h
          unfold lay at laid
          rcases advance_congr laid seat with
            ⟨fault, hfault, hfault'⟩ | ⟨trick, after, after', hadvance, hadvance'⟩
          · simp only [hfault, hfault']
            exact .inl ⟨_, rfl, rfl⟩
          · simp only [hadvance, hadvance']
            exact .inr ⟨_, after, after', rfl, rfl, rfl⟩

end Same

end CardPlay

end ContractBridge
