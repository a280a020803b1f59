import ContractBridge.CardPlay.Request
import ContractBridge.Proofs.CardPlay.Account
import ContractBridge.Proofs.CardPlay.InPlace

/-!
# Any requests at all

The hands of a play may be of any sizes and share their cards, its declaration may come from no
auction, and a card can be taken or the round be fixed in the middle of a trick.  None of this
reaches what the order of play rests on: the trick, the turn and the counts change with accepted
plays only.  The hands lose cards and nothing else.
-/

namespace ContractBridge

namespace Deal

/-- One slot of the seat goes from the card to empty, and nothing else changes. -/
def Loses (before after : Deal) (seat : Seat) (card : Card) : Prop :=
  ∃ slot, (before.get seat).slot? slot = some (some card) ∧
    after = before.set seat ((before.get seat).clear slot)

/-- Every slot is as it was dealt, or the card dealt into it is gone. -/
def LeftOf (left dealt : Deal) : Prop :=
  ∀ seat slot, (left.get seat).slot? slot = (dealt.get seat).slot? slot ∨
    (∃ card, (dealt.get seat).slot? slot = some (some card)) ∧
      (left.get seat).slot? slot = some none

theorem leftOf_refl (deal : Deal) : deal.LeftOf deal :=
  fun _ _ => .inl rfl

theorem LeftOf.trans {left middle dealt : Deal} (h : left.LeftOf middle)
    (hmiddle : middle.LeftOf dealt) : left.LeftOf dealt := by
  intro seat slot
  rcases h seat slot with hsame | ⟨⟨card, hcard⟩, hgone⟩
  · rw [hsame]
    exact hmiddle seat slot
  · rcases hmiddle seat slot with hsame | ⟨-, hgone'⟩
    · exact .inr ⟨⟨card, hsame ▸ hcard⟩, hgone⟩
    · rw [hgone'] at hcard
      cases hcard

section Loses

variable {before after : Deal} {seat : Seat} {card : Card}

theorem loses_clear {slot : Nat} (h : (before.get seat).position? card = some slot) :
    before.Loses (before.set seat ((before.get seat).clear slot)) seat card :=
  ⟨slot, Hand.getElem?_of_position? h, rfl⟩

theorem Loses.leftOf (h : before.Loses after seat card) : after.LeftOf before := by
  obtain ⟨slot, hslot, rfl⟩ := h
  intro other index
  rw [BySeat.get_set]
  split
  case isFalse => exact .inl rfl
  case isTrue heq =>
    subst heq
    rw [Hand.slot?, Hand.clear, List.getElem?_set]
    split
    case isFalse => exact .inl rfl
    case isTrue heq =>
      subst heq
      have hlt : slot < (before.get seat).slots.length := (List.getElem?_eq_some_iff.mp hslot).1
      rw [if_pos hlt]
      exact .inr ⟨⟨card, hslot⟩, rfl⟩

theorem Loses.length_cards (h : before.Loses after seat card) :
    after.cards.length + 1 = before.cards.length := by
  obtain ⟨slot, hslot, rfl⟩ := h
  have hcleared := Hand.length_cards_clear hslot
  generalize (before.get seat).clear slot = hand at hcleared ⊢
  simp only [cards_eq, Seat.all, List.flatMap_cons, List.flatMap_nil, List.length_append,
    BySeat.get_set]
  cases seat <;> simp <;> omega

end Loses

end Deal

namespace CardPlay

def performInPlace : Request → InPlace CardPlay PlayError Response
  | .play actor seat card => .played <$> playInPlace actor seat card
  | .take seat card => .taken <$> takeInPlace seat card
  | .setRound led => do
      modify fun play => play.setRound led
      return .roundSet

def attempt (play : CardPlay) (request : Request) : Reply × CardPlay :=
  (performInPlace request).attempt play

def attempts (play : CardPlay) : List Request → List Reply × CardPlay
  | [] => ([], play)
  | request :: requests =>
      let (reply, left) := play.attempt request
      let (replies, last) := left.attempts requests
      (reply :: replies, last)

theorem realizes_attempt (play : CardPlay) (request : Request) :
    InPlace.Realizes play (play.perform request) (play.attempt request) := by
  cases request with
  | play actor seat card => exact (realizes_playInPlace play actor seat card).map Response.played
  | take seat card =>
      refine InPlace.Realizes.map ?_ Response.taken
      rw [attempt_takeInPlace]
      cases play.takeCard seat card with
      | error error => exact .refused error
      | ok taken => exact .done _ _
  | setRound led => exact .done _ _

/-! ## What a request does -/

/-- What comes of a request that is carried out. -/
inductive Effect (play : CardPlay) : Request → Response → CardPlay → Prop
  | played {actor seat : Seat} {card : Card} {result : Played} {next : CardPlay}
      (accepted : play.playCard actor seat card = .ok (result, next))
      (lost : play.deal.Loses next.deal seat card) :
      Effect play (.play actor seat card) (.played result) next
  | taken {seat : Seat} {card : Card} {result : TakenCard} {deal : Deal}
      (lost : play.deal.Loses deal seat card) :
      Effect play (.take seat card) (.taken result) { play with deal }
  | roundSet (led : Card) : Effect play (.setRound led) .roundSet (play.setRound led)

section Results

variable {ε δ α β σ : Type}

theorem map_eq_ok {result : Except ε (α × σ)} {label : α → β} {b : β} {after : σ}
    (h : result.map (Prod.map label id) = .ok (b, after)) :
    ∃ a, result = .ok (a, after) ∧ b = label a := by
  cases result with
  | error error => cases h
  | ok done =>
      cases h
      exact ⟨done.1, rfl, rfl⟩

theorem map_eq_error {result : Except ε α} {f : α → β} {error : ε}
    (h : result.map f = .error error) : result = .error error := by
  cases result with
  | error error => exact congrArg Except.error (Except.error.inj h)
  | ok done => cases h

theorem mapError_eq_ok {result : Except ε α} {f : ε → δ} {a : α}
    (h : result.mapError f = .ok a) : result = .ok a := by
  cases result with
  | error error => cases h
  | ok done => exact congrArg Except.ok (Except.ok.inj h)

end Results

section Effect

variable {play next : CardPlay} {request : Request} {response : Response}

theorem takeCard_eq_ok {seat : Seat} {card : Card} {result : TakenCard}
    (h : play.takeCard seat card = .ok (result, next)) :
    ∃ deal, play.deal.Loses deal seat card ∧ next = { play with deal } := by
  unfold takeCard Hand.remove? at h
  cases hposition : (play.deal.get seat).position? card with
  | none => simp [hposition] at h
  | some slot =>
      simp only [hposition, Option.map_some, Except.ok.injEq, Prod.mk.injEq] at h
      obtain ⟨-, rfl⟩ := h
      exact ⟨_, Deal.loses_clear hposition, rfl⟩

theorem Orderly.loses_playCard (h : play.Orderly) {actor seat : Seat} {card : Card}
    {result : Played} (hplay : play.playCard actor seat card = .ok (result, next)) :
    play.deal.Loses next.deal seat card := by
  obtain ⟨-, slot, hand, trick, hremove, hstep, -⟩ := h.playCard_eq_ok hplay
  obtain ⟨index, hposition, hcleared⟩ := Option.map_eq_some_iff.mp hremove
  cases hcleared
  rw [hstep.deal_eq, lay_deal]
  exact Deal.loses_clear hposition

theorem Orderly.effect (h : play.Orderly) (hperform : play.perform request = .ok (response, next)) :
    Effect play request response next := by
  cases request with
  | play actor seat card =>
      obtain ⟨result, hplay, rfl⟩ := map_eq_ok hperform
      exact .played hplay (h.loses_playCard hplay)
  | take seat card =>
      obtain ⟨result, htake, rfl⟩ := map_eq_ok hperform
      obtain ⟨deal, hlost, rfl⟩ := takeCard_eq_ok (mapError_eq_ok htake)
      exact .taken hlost
  | setRound led =>
      cases hperform
      exact .roundSet led

theorem Orderly.perform_ne_fault (h : play.Orderly) {fault : Fault} :
    play.perform request ≠ .error (.fault fault) := by
  intro hfault
  cases request with
  | play actor seat card => exact h.playCard_ne_fault (map_eq_error hfault)
  | take seat card =>
      have htake := map_eq_error hfault
      cases hresult : play.takeCard seat card <;> simp [hresult, Except.mapError] at htake
  | setRound led => cases hfault

theorem step_eq_settled : play.step request = InPlace.settled play (play.perform request) := by
  unfold step
  cases play.perform request <;> rfl

theorem Orderly.attempt_eq_step (h : play.Orderly) (request : Request) :
    play.attempt request = play.step request := by
  rw [step_eq_settled]
  exact (play.realizes_attempt request).eq_settled fun _ => h.perform_ne_fault

theorem Effect.orderly (heffect : Effect play request response next) (h : play.Orderly) :
    next.Orderly := by
  cases heffect with
  | played accepted => exact h.playCard accepted
  | taken => exact ⟨h.inTurn, h.short, h.due, h.count, h.sum, h.idle⟩
  | roundSet => exact ⟨h.inTurn, h.short, h.due, h.count, h.sum, h.idle⟩

theorem Effect.declaration_eq (heffect : Effect play request response next) (h : play.Orderly) :
    next.declaration = play.declaration := by
  cases heffect with
  | played accepted => exact h.declaration_playCard accepted
  | taken => rfl
  | roundSet => rfl

end Effect

section Step

variable {play : CardPlay}

def Request.card? : Request → Option (Seat × Card)
  | .play _ seat card => some (seat, card)
  | .take seat card => some (seat, card)
  | .setRound _ => none

/-- A request that fails changes nothing.  One that is carried out changes no hand but for the slot
of its card. -/
def HandsAfter (play : CardPlay) (request : Request) : Reply × CardPlay → Prop
  | (.error _, next) => next = play
  | (.ok _, next) =>
      match request.card? with
      | none => next.deal = play.deal
      | some (seat, card) => play.deal.Loses next.deal seat card

theorem Orderly.handsAfter (h : play.Orderly) (request : Request) :
    HandsAfter play request (play.attempt request) := by
  rw [h.attempt_eq_step, step]
  cases hperform : play.perform request with
  | error failure => rfl
  | ok done =>
      obtain ⟨response, next⟩ := done
      cases h.effect hperform with
      | played _ lost => exact lost
      | taken lost => exact lost
      | roundSet => rfl

theorem Orderly.play_isOk_iff (h : play.Orderly) {actor seat : Seat} {card : Card} :
    (∃ response, (play.attempt (.play actor seat card)).1 = .ok response) ↔
      play.tricksPlayed < handSize ∧ play.due = ⟨seat, actor⟩ ∧
        card ∈ (play.deal.get seat).cards ∧
        (play.round.contains card = true ∨
          ∀ other ∈ (play.deal.get seat).cards, play.round.contains other = false) := by
  have hdue : play.due = ⟨seat, actor⟩ ↔ seat = play.due.seat ∧ actor = play.due.actor := by
    cases play.due
    simp [eq_comm]
  rw [hdue, ← h.isExhausted_eq_false_iff, and_assoc, ← refusal?_eq_none_iff, h.attempt_eq_step, step]
  constructor
  · rintro ⟨response, hok⟩
    cases hplay : play.playCard actor seat card with
    | error failure => simp [perform, hplay, Except.map] at hok
    | ok done => exact (h.playCard_eq_ok hplay).1
  · intro haccepted
    obtain ⟨slot, hand, trick, next, -, -, hplay⟩ := h.playCard_of_accepted haccepted
    simp [perform, hplay, Except.map]

end Step

/-! ## After any requests -/

def tookCard : Reply → Bool
  | .ok (.played _) => true
  | .ok (.taken _) => true
  | _ => false

/-- What replies and the state they lead to have to do with the state before. -/
structure Follows (play : CardPlay) (replies : List Reply) (last : CardPlay) : Prop where
  faultless : ∀ fault, .error (.fault fault) ∉ replies
  orderly : last.Orderly
  declaration : last.declaration = play.declaration
  hands : last.deal.LeftOf play.deal
  account : play.deal.cards.length = last.deal.cards.length + replies.countP tookCard

section Run

variable {play : CardPlay}

theorem Effect.follows {next : CardPlay} {request : Request} {response : Response}
    (heffect : Effect play request response next) (h : play.Orderly) :
    Follows play [.ok response] next := by
  constructor
  case faultless => simp
  case orderly => exact heffect.orderly h
  case declaration => exact heffect.declaration_eq h
  case hands =>
    cases heffect with
    | played _ lost => exact lost.leftOf
    | taken lost => exact lost.leftOf
    | roundSet => exact Deal.leftOf_refl _
  case account =>
    cases heffect with
    | played _ lost => exact lost.length_cards.symm
    | taken lost => exact lost.length_cards.symm
    | roundSet => rfl

theorem Orderly.follows_step (h : play.Orderly) (request : Request) :
    Follows play [(play.step request).1] (play.step request).2 := by
  rw [step]
  cases hperform : play.perform request with
  | ok done => exact (h.effect hperform).follows h
  | error failure =>
      cases failure with
      | fault fault => exact absurd hperform h.perform_ne_fault
      | refused error => exact ⟨by simp, h, rfl, Deal.leftOf_refl _, rfl⟩

theorem Follows.trans {next last : CardPlay} {replies more : List Reply}
    (h : Follows play replies next) (hnext : Follows next more last) :
    Follows play (replies ++ more) last where
  faultless fault hmem := (List.mem_append.mp hmem).elim (h.faultless fault) (hnext.faultless fault)
  orderly := hnext.orderly
  declaration := hnext.declaration.trans h.declaration
  hands := hnext.hands.trans h.hands
  account := by
    rw [h.account, hnext.account, List.countP_append]
    omega

theorem Orderly.follows_run (h : play.Orderly) (requests : List Request) :
    Follows play (play.run requests).1 (play.run requests).2 := by
  induction requests generalizing play with
  | nil => exact ⟨by simp [run], h, rfl, Deal.leftOf_refl _, rfl⟩
  | cons request requests ih =>
      have hstep := h.follows_step request
      exact hstep.trans (ih hstep.orderly)

theorem Orderly.attempts_eq_run (h : play.Orderly) (requests : List Request) :
    play.attempts requests = play.run requests := by
  induction requests generalizing play with
  | nil => rfl
  | cons request requests ih =>
      have hnext := (h.follows_step request).orderly
      simp only [attempts, run, h.attempt_eq_step, ih hnext]

end Run

/-- Whatever is asked of a play of whatever hands and declaration, no request runs into a fault and
none that fails leaves a trace.  The trick is short and clockwise from its leader, the turn is the
next seat's, the counts add up, only the turn can play and only until thirteen tricks are over, and
a slot changes only by losing its card, one for each card played or taken. -/
theorem robust_after_requests (dealt : Deal) (declaration : Declaration)
    (requests : List Request) :
    let run := (start dealt declaration).attempts requests
    run = (start dealt declaration).run requests ∧
      (∀ fault, .error (.fault fault) ∉ run.1) ∧
      (run.2.Orderly ∧ run.2.declaration = declaration ∧
        ∀ seat, run.2.trick.played.contains (.singleton seat) = true ↔
          seat ∈ run.2.trick.plays.map Prod.fst) ∧
      run.2.deal.LeftOf dealt ∧
      dealt.cards.length = run.2.deal.cards.length + run.1.countP tookCard ∧
      (∀ request, HandsAfter run.2 request (run.2.attempt request)) ∧
      ∀ actor seat card, (∃ response, (run.2.attempt (.play actor seat card)).1 = .ok response) ↔
        run.2.tricksPlayed < handSize ∧ run.2.due = ⟨seat, actor⟩ ∧
          card ∈ (run.2.deal.get seat).cards ∧
          (run.2.round.contains card = true ∨
            ∀ other ∈ (run.2.deal.get seat).cards, run.2.round.contains other = false) := by
  intro run
  have hstart := orderly_start dealt declaration
  have hrun : run = (start dealt declaration).run requests := hstart.attempts_eq_run requests
  have hfollows : Follows (start dealt declaration) run.1 run.2 := hrun ▸ hstart.follows_run requests
  have horderly := hfollows.orderly
  refine ⟨hrun, hfollows.faultless, ⟨horderly, hfollows.declaration, ?_⟩, hfollows.hands,
    hfollows.account, horderly.handsAfter, fun actor seat card => horderly.play_isOk_iff⟩
  intro seat
  rw [horderly.inTurn.played]
  exact SeatSet.contains_ofSeats_iff

def twoAces : Deal :=
  let ace : Hand := .layOut (Card.ofCode? 13).toList
  ⟨ace, ace, .empty, .empty⟩

/-- East leads the ace, and North's is taken away.  It is South's turn for good: the trick stays
open, and nothing can be played any more. -/
theorem robust_after_requests_dry :
    let ace : Card := ⟨13, by decide, by decide⟩
    let run := (start twoAces (.ofDeclarer ⟨⟨1, .notrump⟩, .none⟩ .north .north)).attempts
      [.play .east .east ace, .setRound ⟨52, by decide, by decide⟩, .take .north ace,
        .take .north ace, .play .north .south ace]
    run.1.map Except.isOk = [true, true, true, false, false] ∧ run.2.due = ⟨.south, .north⟩ ∧
      run.2.deal.cards = [] ∧ run.2.tricksPlayed = 0 ∧
      ∀ actor seat card, ¬ ∃ response, (run.2.attempt (.play actor seat card)).1 = .ok response := by
  intro ace run
  have hempty : run.2.deal.cards = [] := by decide
  refine ⟨by decide, by decide, hempty, by decide, ?_⟩
  obtain ⟨-, -, -, -, -, -, plays⟩ := robust_after_requests twoAces
    (.ofDeclarer ⟨⟨1, .notrump⟩, .none⟩ .north .north) [.play .east .east ace,
      .setRound ⟨52, by decide, by decide⟩, .take .north ace, .take .north ace,
      .play .north .south ace]
  intro actor seat card hplays
  obtain ⟨-, -, hheld, -⟩ := (plays actor seat card).mp hplays
  have hmem : card ∈ run.2.deal.cards := Deal.mem_cards.mpr ⟨seat, hheld⟩
  rw [hempty] at hmem
  cases hmem

end CardPlay

end ContractBridge
