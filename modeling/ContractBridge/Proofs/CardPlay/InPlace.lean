import ContractBridge.CardPlay.Step

/-!
# Playing a card in place

The step of a play once more, as writes to one state in the order in which they are made.  What was
written stays when the step gives up, so that it matters where a failure stands: every refusal
comes before the first write.
-/

namespace ContractBridge

/-- Steps that write to their state as they go. -/
abbrev InPlace (σ ε : Type) := ExceptT (Failure ε) (StateM σ)

namespace InPlace

variable {σ ε α β : Type}

/-- The result, and the state as it was left, also by a step that gave up. -/
def attempt (step : InPlace σ ε α) (state : σ) : Except (Failure ε) α × σ :=
  (step.run.run state).run

section Attempt

variable (state : σ)

@[simp] theorem attempt_get : attempt (get : InPlace σ ε σ) state = (.ok state, state) := rfl

@[simp] theorem attempt_modify (f : σ → σ) :
    attempt (modify f : InPlace σ ε PUnit) state = (.ok ⟨⟩, f state) := rfl

theorem attempt_bind (step : InPlace σ ε α) (next : α → InPlace σ ε β) :
    attempt (step >>= next) state =
      match step.attempt state with
      | (.ok a, after) => (next a).attempt after
      | (.error failure, after) => (.error failure, after) := by
  change ExceptT.bindCont next (step.attempt state).1 (step.attempt state).2 = _
  obtain ⟨result, after⟩ := step.attempt state
  cases result <;> rfl

end Attempt

/-- What a step in place may come to, by what the step as a function comes to: the same, but for
what a fault leaves behind. -/
inductive Realizes (before : σ) : Except (Failure ε) (α × σ) → Except (Failure ε) α × σ → Prop
  | done (a : α) (after : σ) : Realizes before (.ok (a, after)) (.ok a, after)
  | refused (error : ε) : Realizes before (.error (.refused error)) (.error (.refused error), before)
  | fault (fault : Fault) (after : σ) :
      Realizes before (.error (.fault fault)) (.error (.fault fault), after)

def settled (before : σ) : Except (Failure ε) (α × σ) → Except (Failure ε) α × σ
  | .ok (a, after) => (.ok a, after)
  | .error failure => (.error failure, before)

section Realizes

variable {before : σ} {left : Except (Failure ε) α × σ}

theorem Realizes.of_ok {a : α} {after : σ} (h : Realizes before (.ok (a, after)) left) :
    left = (.ok a, after) := by
  cases h
  rfl

theorem Realizes.of_refused {error : ε} (h : Realizes before (.error (.refused error)) left) :
    left = (.error (.refused error), before) := by
  cases h
  rfl

theorem Realizes.of_fault {fault : Fault} (h : Realizes before (.error (.fault fault)) left) :
    ∃ after, left = (.error (.fault fault), after) := by
  cases h with
  | fault _ after => exact ⟨after, rfl⟩

theorem Realizes.eq_settled {result : Except (Failure ε) (α × σ)} (h : Realizes before result left)
    (hfault : ∀ fault, result ≠ .error (.fault fault)) : left = settled before result := by
  cases h with
  | done => rfl
  | refused => rfl
  | fault fault => exact absurd rfl (hfault fault)

theorem Realizes.map {step : InPlace σ ε α} {result : Except (Failure ε) (α × σ)}
    (h : Realizes before result (step.attempt before)) (label : α → β) :
    Realizes before (result.map (Prod.map label id)) ((label <$> step).attempt before) := by
  rw [map_eq_pure_bind, attempt_bind]
  generalize step.attempt before = left at h ⊢
  cases h with
  | done => exact .done _ _
  | refused => exact .refused _
  | fault => exact .fault _ _

end Realizes

end InPlace

namespace CardPlay

def takeInPlace (seat : Seat) (card : Card) : InPlace CardPlay PlayError TakenCard := do
  let play ← get
  match (play.deal.get seat).remove? card with
  | none => throw (.refused (.cardNotInHand seat card))
  | some (slot, hand) =>
      set { play with deal := play.deal.set seat hand }
      return ⟨hand.cards, slot⟩

def addInPlace (seat : Seat) (card : Card) : InPlace CardPlay PlayError Unit := do
  if (← get).trick.plays.isEmpty then
    modify fun play => play.setRound card
  modify fun play => { play with trick := play.trick.add seat card }

def raiseInPlace (count : Nat) : InPlace CardPlay PlayError Nat :=
  match raise? count with
  | none => throw (.fault .trickCountOverflow)
  | some raised => return raised

def closeInPlace : InPlace CardPlay PlayError TrickResult := do
  let play ← get
  match play.trick.winner? play.declaration.strain.trump? with
  | none => throw (.fault .noTrickWinner)
  | some winner =>
      modify fun play => { play with trick := .ledBy winner }
      let tricksPlayed ← raiseInPlace play.tricksPlayed
      modify fun play => { play with tricksPlayed }
      let tricks ← raiseInPlace (play.tricksOf winner)
      modify fun play => { play with tricksWon := play.tricksWon.set winner.side tricks }
      modify fun play => { play with round := .full, due := .ofSeat play.declaration winner }
      return ⟨play.trick.plays, winner, tricksPlayed⟩

def advanceInPlace (seat : Seat) : InPlace CardPlay PlayError (Option TrickResult) := do
  if (← get).trick.isComplete then
    let trick ← closeInPlace
    return some trick
  else
    modify fun play => { play with due := play.turnAfter seat }
    return none

def playInPlace (actor seat : Seat) (card : Card) : InPlace CardPlay PlayError Played := do
  match (← get).refusal? actor seat card with
  | some error => throw (.refused error)
  | none =>
      let taken ← takeInPlace seat card
      addInPlace seat card
      let trick ← advanceInPlace seat
      let next := (← get).pending?
      return ⟨seat, card, taken.remaining, taken.slot, trick, next⟩

section InPlace

variable (play : CardPlay) (actor seat : Seat) (card : Card)

theorem attempt_takeInPlace :
    (takeInPlace seat card).attempt play =
      match play.takeCard seat card with
      | .ok (taken, held) => (.ok taken, held)
      | .error error => (.error (.refused error), play) := by
  simp only [takeInPlace, takeCard, InPlace.attempt_bind, InPlace.attempt_get]
  cases (play.deal.get seat).remove? card with
  | none => rfl
  | some taken => rfl

theorem attempt_addInPlace :
    (addInPlace seat card).attempt play = (.ok (), play.addToTrick seat card) := by
  simp only [addInPlace, addToTrick, InPlace.attempt_bind, InPlace.attempt_get]
  cases play.trick.plays.isEmpty <;> rfl

theorem attempt_raiseInPlace (count : Nat) :
    (raiseInPlace count).attempt play =
      match raise? count with
      | none => (.error (.fault .trickCountOverflow), play)
      | some raised => (.ok raised, play) := by
  unfold raiseInPlace
  cases raise? count <;> rfl

theorem realizes_closeInPlace :
    InPlace.Realizes play (play.closeTrick.mapError .fault) (closeInPlace.attempt play) := by
  simp only [closeInPlace, closeTrick, InPlace.attempt_bind, InPlace.attempt_get]
  cases play.trick.winner? play.declaration.strain.trump? with
  | none => exact .fault _ _
  | some winner =>
      simp only [InPlace.attempt_bind, InPlace.attempt_modify, attempt_raiseInPlace]
      cases raise? play.tricksPlayed with
      | none => exact .fault _ _
      | some tricksPlayed =>
          cases raise? (play.tricksOf winner) with
          | none => exact .fault _ _
          | some tricks => exact .done _ _

theorem realizes_advanceInPlace :
    InPlace.Realizes play ((play.advance seat).mapError .fault)
      ((advanceInPlace seat).attempt play) := by
  simp only [advanceInPlace, advance, InPlace.attempt_bind, InPlace.attempt_get]
  split
  case isFalse => exact .done _ _
  case isTrue =>
    have close := realizes_closeInPlace play
    simp only [InPlace.attempt_bind]
    cases hclose : play.closeTrick with
    | error fault =>
        rw [hclose] at close
        obtain ⟨after, hleft⟩ := close.of_fault
        rw [hleft]
        exact .fault fault after
    | ok closed =>
        rw [hclose] at close
        rw [close.of_ok]
        exact .done _ _

/-- The card is taken out of the hand before anything else is written, and nothing after that
refuses the play. -/
theorem realizes_playInPlace :
    InPlace.Realizes play (play.playCard actor seat card)
      ((playInPlace actor seat card).attempt play) := by
  simp only [playInPlace, playCard, InPlace.attempt_bind, InPlace.attempt_get]
  cases play.refusal? actor seat card with
  | some error => exact .refused error
  | none =>
      simp only [commit, InPlace.attempt_bind, attempt_takeInPlace]
      cases play.takeCard seat card with
      | error error => exact .refused error
      | ok taken =>
          have advance := realizes_advanceInPlace (taken.2.addToTrick seat card) seat
          simp only [attempt_addInPlace]
          cases hadvance : (taken.2.addToTrick seat card).advance seat with
          | error fault =>
              rw [hadvance] at advance
              obtain ⟨after, hleft⟩ := advance.of_fault
              rw [hleft]
              exact .fault fault after
          | ok advanced =>
              rw [hadvance] at advance
              rw [advance.of_ok]
              exact .done _ _

end InPlace

end CardPlay

end ContractBridge
