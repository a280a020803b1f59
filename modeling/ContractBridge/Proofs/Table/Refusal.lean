import ContractBridge.Proofs.CardPlay.Refusal
import ContractBridge.Proofs.Table.InPlace
import ContractBridge.Proofs.Table.Playing
import ContractBridge.Proofs.Table.Safety

/-!
# Refused commands

A command that is refused writes nothing, and it is refused for the first of its checks that
applies.  Runs can therefore do without their refused commands.
-/

namespace ContractBridge

namespace Table

def caller (table : Table) : Seat :=
  table.dealer.rotate table.auction.calls.length

def outOfPhase (table : Table) (phase : Phase) : TableError → Prop :=
  failing (table.phase ≠ phase) (.phaseMismatch table.phase)

def callChecks (table : Table) (seat : Seat) (value : BidValue) : List (TableError → Prop) :=
  [table.outOfPhase .bidding,
   failing (seat ≠ table.caller) (.outOfTurn table.caller seat),
   failing (¬ Auction.Allowed table.auction.calls seat value.call) (.forbiddenBid seat value)]

/-- The two high bits of the byte tag a seat, the six low ones are the number of a value.  A byte
without a value does not come to the checks of a call. -/
def bidChecks (table : Table) (seat : Seat) (code : UInt8) : List (TableError → Prop) :=
  [failing (code.toNat % 64 = 0) (.bid (.unset code)),
   failing (56 < code.toNat % 64) (.bid (.outOfRange code)),
   failing (Seat.ofIndex (code.toNat / 64) ≠ seat)
    (.seatMismatch seat (Seat.ofIndex (code.toNat / 64)))] ++
  (BidValue.ofNumber? (code.toNat % 64)).elim [] (table.callChecks seat)

def cardChecks (table : Table) (actor seat : Seat) (card : Card) : List (TableError → Prop) :=
  table.outOfPhase .playing ::
    table.play?.elim [] fun play => play.rules .play actor seat card

def playChecks (table : Table) (actor seat : Seat) (code : UInt8) : List (TableError → Prop) :=
  [failing (code = 0) (.card .cover),
   failing (52 < code.toNat) (.card (.outOfRange code))] ++
  (Card.ofCode? code.toNat).elim [] (table.cardChecks actor seat)

section Sound

variable {table : Table} {plays : List (Seat × Card)} {error : TableError}

theorem Sound.callRefusal?_eq_some_iff (h : table.Sound plays) {seat : Seat} {value : BidValue} :
    table.callRefusal? seat value = some error ↔ FirstOf (table.callChecks seat value) error := by
  unfold callRefusal? callChecks outOfPhase
  cases hstage : table.stage with
  | playing play =>
      have hphase := phase_ne_bidding_iff.mpr ⟨play, hstage⟩
      rw [firstOf_of_applies hphase, Option.some_inj]
  | bidding next =>
      have bidding := h.bidding next hstage
      have hphase := phase_eq_bidding_iff.mpr ⟨next, hstage⟩
      have hforbids := Auction.forbids_iff bidding.underway.1 seat value
      dsimp only
      rw [firstOf_of_passed (not_not_intro hphase), caller, ← bidding.due]
      by_cases hseat : seat = next
      case neg => rw [if_pos hseat, firstOf_of_applies hseat, Option.some_inj]
      rw [if_neg (not_not_intro hseat), firstOf_of_passed (not_not_intro hseat),
        Auction.contains_forbidden]
      by_cases hallowed : Auction.Allowed table.auction.calls seat value.call
      · have hclear := mt hforbids.mp (not_not_intro hallowed)
        rw [if_neg hclear, firstOf_of_passed (not_not_intro hallowed)]
        simp [not_firstOf_nil]
      · rw [if_pos (hforbids.mpr hallowed), firstOf_of_applies hallowed, Option.some_inj]

theorem Sound.call_refused_iff (h : table.Sound plays) {seat : Seat} {value : BidValue} :
    table.call seat value = .error (.refused error) ↔
      FirstOf (table.callChecks seat value) error := by
  rw [← h.callRefusal?_eq_some_iff]
  cases hrefusal : table.callRefusal? seat value with
  | some reported => simp [call, hrefusal]
  | none =>
      have hstage := (callRefusal?_eq_none_iff.mp hrefusal).1
      have bidding := h.bidding seat hstage
      have hlegal := (bidding.callRefusal?_eq_none_iff hstage).mp hrefusal
      rw [call_of_accepted hrefusal]
      rcases bidding.enter_cases h.valid hlegal with ⟨outcome, next, hok⟩ | ⟨-, -, hstalled⟩
      · simp [hok]
      · simp [hstalled]

theorem Sound.bid_refused_iff (h : table.Sound plays) {seat : Seat} {code : UInt8} :
    table.bid seat code = .error (.refused error) ↔ FirstOf (table.bidChecks seat code) error := by
  unfold bid TaggedBid.decode bidChecks
  by_cases hset : code.toNat % 64 = 0
  case pos => simp [hset, firstOf_of_applies]
  rw [if_neg hset, List.cons_append, firstOf_of_passed hset]
  by_cases hrange : 56 < code.toNat % 64
  case pos =>
    have hnone : BidValue.ofNumber? (code.toNat % 64) = none := dif_neg (by omega)
    simp [hnone, hrange, firstOf_of_applies]
  have hvalue : BidValue.ofNumber? (code.toNat % 64) =
      some ⟨code.toNat % 64, by omega, by omega⟩ := dif_pos (by omega)
  rw [List.cons_append, firstOf_of_passed hrange, hvalue]
  by_cases hseat : Seat.ofIndex (code.toNat / 64) = seat
  case neg => simp [hseat, firstOf_of_applies]
  simp only [hseat, ne_eq, not_true_eq_false, if_false, List.cons_append, List.nil_append,
    Option.elim_some, firstOf_of_passed not_false, h.call_refused_iff]

theorem playOn_refused_iff {play : CardPlay} (h : play.Orderly) {actor seat : Seat} {card : Card} :
    table.playOn play actor seat card = .error (.refused error) ↔
      (play.refusal? actor seat card).map TableError.play = some error := by
  cases hrefusal : play.refusal? actor seat card with
  | some reported => simp [playOn, CardPlay.playCard, hrefusal]
  | none =>
      obtain ⟨_, _, _, _, -, -, hok⟩ := h.playCard_of_accepted hrefusal
      simp [playOn, hok]

theorem Sound.playCard_refused_iff (h : table.Sound plays) {actor seat : Seat} {card : Card} :
    table.playCard actor seat card = .error (.refused error) ↔
      FirstOf (table.cardChecks actor seat card) error := by
  unfold Table.playCard cardChecks outOfPhase
  cases hstage : table.stage with
  | bidding next =>
      have hphase : table.phase = .bidding := phase_eq_bidding_iff.mpr ⟨next, hstage⟩
      rw [firstOf_of_applies (by simp [hphase]), hphase]
      simp
  | playing play =>
      dsimp only
      split
      case isTrue hexhausted =>
        have hphase := (phase_eq_finished_iff hstage).mpr hexhausted
        rw [firstOf_of_applies (by simp [hphase]), hphase]
        simp
      case isFalse hopen =>
        rw [Bool.not_eq_true] at hopen
        have hphase : table.phase = .playing := phase_eq_playing_iff.mpr ⟨play, hstage, hopen⟩
        have hplay : table.play? = some play := by rw [play?, hstage]
        have recorded := (h.playing play hstage).recorded
        rw [firstOf_of_passed (not_not_intro hphase), hplay, Option.elim_some,
          ← recorded.refusal?_eq_some_iff hopen, playOn_refused_iff recorded.orderly]

theorem Sound.play_refused_iff (h : table.Sound plays) {actor seat : Seat} {code : UInt8} :
    table.play actor seat code = .error (.refused error) ↔
      FirstOf (table.playChecks actor seat code) error := by
  unfold play Card.decode playChecks
  by_cases hcover : code = 0
  case pos => simp [hcover, firstOf_of_applies]
  rw [if_neg hcover, List.cons_append, firstOf_of_passed hcover]
  have pos : code.toNat ≠ 0 := fun hzero => hcover (UInt8.toNat_inj.mp hzero)
  by_cases hrange : 52 < code.toNat
  case pos =>
    have hnone : Card.ofCode? code.toNat = none := dif_neg (by omega)
    simp [hnone, hrange, firstOf_of_applies]
  have hcard : Card.ofCode? code.toNat = some ⟨code.toNat, by omega, by omega⟩ :=
    dif_pos (by omega)
  simp only [List.cons_append, List.nil_append, firstOf_of_passed hrange, hcard, Option.elim_some,
    h.playCard_refused_iff]

theorem Sound.autoPlay_isOk (h : table.Sound plays) (hphase : table.phase = .playing) :
    ∃ result next, table.autoPlay = .ok (result, next) := by
  obtain ⟨play, hstage, hopen⟩ := phase_eq_playing_iff.mp hphase
  have recorded := (h.playing play hstage).recorded
  obtain ⟨legal, hlegal, hpending⟩ := recorded.exists_pending h.valid hopen
  have hturn : table.turn? = some (play.due, legal) := by
    rw [turn?, play?, hstage, Option.bind_some, hpending]
  obtain ⟨hslot, hrange⟩ := Hand.default_spec hlegal
  have hdefault := recorded.mem_hand_iff.mp (Hand.snd_mem_cards (Hand.mem_held.mpr hslot))
  have hlawful := (recorded.contains_range_iff hlegal hdefault).mp hrange
  obtain ⟨result, next, hplay⟩ :=
    (playCard_isOk_iff hstage hopen).mpr ((recorded.playCard_isOk_iff hopen).mpr hlawful)
  refine ⟨result, next, ?_⟩
  rw [autoPlay, hturn]
  exact hplay

theorem turn?_eq_none {table : Table} (hphase : table.phase ≠ .playing) : table.turn? = none := by
  unfold turn? play?
  cases hstage : table.stage with
  | bidding next => rfl
  | playing play =>
      have hexhausted : play.isExhausted = true := by
        rw [← Bool.not_eq_false]
        exact fun hopen => hphase (phase_eq_playing_iff.mpr ⟨play, hstage, hopen⟩)
      exact CardPlay.pending?_of_exhausted hexhausted

theorem Sound.autoPlay_eq_error_iff (h : table.Sound plays) {failure : Failure TableError} :
    table.autoPlay = .error failure ↔
      table.phase ≠ .playing ∧ failure = .refused (.phaseMismatch table.phase) := by
  by_cases hphase : table.phase = .playing
  · obtain ⟨result, next, hok⟩ := h.autoPlay_isOk hphase
    simp [hok, hphase]
  · rw [autoPlay, turn?_eq_none hphase]
    simp [hphase, eq_comm]

theorem nextDeal_eq_error_iff {failure : Failure TableError} :
    table.nextDeal = .error failure ↔
      table.phase ≠ .finished ∧ failure = .refused (.phaseMismatch table.phase) ∨
      table.phase = .finished ∧ failure = .fault .stalledShuffle ∧
        Deal.shuffle table.generator = .error .stalledShuffle := by
  unfold nextDeal
  cases hphase : table.phase with
  | bidding => simp [eq_comm]
  | playing => simp [eq_comm]
  | finished =>
      rw [redeal_eq]
      cases hshuffle : Deal.shuffle table.generator with
      | ok board => simp [Except.map]
      | error fault =>
          obtain rfl := Deal.fault_of_shuffle hshuffle
          simp [Except.map, eq_comm]

/-! ## Answers in place -/

theorem labelled_eq_error_iff {α : Type} {label : α → Answer}
    {result : Except (Failure TableError) (α × Table)} {failure : Failure TableError} :
    labelled label result = .error failure ↔ result = .error failure := by
  constructor
  · exact labelled_eq_error
  · rintro rfl
    rfl

theorem attempt_eq_error_iff {command : Command} {failure : Failure TableError} :
    (table.attempt command).1 = .error failure ↔ table.perform command = .error failure := by
  rw [attempt_reply, step]
  cases table.perform command with
  | ok result => simp
  | error reported => simp

theorem callChecks_ne_handExhausted (seat : Seat) (value : BidValue) :
    ∀ check ∈ table.callChecks seat value, ¬ check (.play .handExhausted) := by
  simp [callChecks, outOfPhase, failing]

theorem cardChecks_ne_handExhausted (actor seat : Seat) (card : Card) :
    ∀ check ∈ table.cardChecks actor seat card, ¬ check (.play .handExhausted) := by
  unfold cardChecks
  cases table.play? <;> simp [CardPlay.rules, outOfPhase, failing]

/-- Once every trick has been played it is the phase that is reported. -/
theorem Sound.ne_handExhausted (h : table.Sound plays) {command : Command} :
    table.perform command ≠ .error (.refused (.play .handExhausted)) := by
  intro hexhausted
  cases command with
  | bid seat code =>
      refine not_firstOf ?_ (h.bid_refused_iff.mp (labelled_eq_error hexhausted))
      unfold bidChecks
      cases BidValue.ofNumber? (code.toNat % 64) with
      | none => simp [failing]
      | some value => simpa [failing] using callChecks_ne_handExhausted seat value
  | call seat value =>
      exact not_firstOf (callChecks_ne_handExhausted seat value)
        (h.call_refused_iff.mp (labelled_eq_error hexhausted))
  | play actor seat code =>
      refine not_firstOf ?_ (h.play_refused_iff.mp (labelled_eq_error hexhausted))
      unfold playChecks
      cases Card.ofCode? code.toNat with
      | none => simp [failing]
      | some card => simpa [failing] using cardChecks_ne_handExhausted actor seat card
  | playCard actor seat card =>
      exact not_firstOf (cardChecks_ne_handExhausted actor seat card)
        (h.playCard_refused_iff.mp (labelled_eq_error hexhausted))
  | autoPlay => cases (h.autoPlay_eq_error_iff.mp (labelled_eq_error hexhausted)).2
  | nextDeal =>
      rcases nextDeal_eq_error_iff.mp (labelled_eq_error hexhausted) with ⟨-, heq⟩ | ⟨-, heq, -⟩
      · cases heq
      · cases heq

end Sound

/-! ## Runs without their refused commands -/

def isRefusal : Reply → Bool
  | .error (.refused _) => true
  | _ => false

def unrefused (table : Table) (commands : List Command) : List Command :=
  ((commands.zip (table.attempts commands).1).filter fun entry => !isRefusal entry.2).map Prod.fst

theorem attempt_of_isRefusal {table : Table} {command : Command}
    (h : isRefusal (table.attempt command).1 = true) : (table.attempt command).2 = table := by
  unfold isRefusal at h
  split at h
  case h_1 error hrefused => exact attempt_of_refused hrefused
  case h_2 => cases h

theorem attempts_unrefused {table : Table} (commands : List Command) :
    table.attempts (table.unrefused commands) =
      ((table.attempts commands).1.filter fun reply => !isRefusal reply,
        (table.attempts commands).2) := by
  induction commands generalizing table with
  | nil => rfl
  | cons command commands ih =>
      have rest := @ih (table.attempt command).2
      unfold unrefused at rest ⊢
      cases hrefusal : isRefusal (table.attempt command).1 with
      | true =>
          rw [attempt_of_isRefusal hrefusal] at rest
          simpa [attempts, hrefusal, attempt_of_isRefusal hrefusal] using rest
      | false => simp [attempts, hrefusal, rest]

/-- What is refused leaves no trace, and the error is that of the first check that applies.  The
commands are carried out in place, so that a write before a refusal would show. -/
theorem refused_without_trace {table : Table} (h : Reachable table) :
    (∀ command error, (table.attempt command).1 = .error (.refused error) →
      (table.attempt command).2 = table) ∧
    (∀ seat code error, (table.attempt (.bid seat code)).1 = .error (.refused error) ↔
      FirstOf (table.bidChecks seat code) error) ∧
    (∀ seat value error, (table.attempt (.call seat value)).1 = .error (.refused error) ↔
      FirstOf (table.callChecks seat value) error) ∧
    (∀ actor seat code error, (table.attempt (.play actor seat code)).1 = .error (.refused error) ↔
      FirstOf (table.playChecks actor seat code) error) ∧
    (∀ actor seat card error,
      (table.attempt (.playCard actor seat card)).1 = .error (.refused error) ↔
        FirstOf (table.cardChecks actor seat card) error) ∧
    (∀ command, (table.attempt command).1 ≠ .error (.refused (.play .handExhausted))) ∧
    (∀ failure, (table.attempt .autoPlay).1 = .error failure ↔
      table.phase ≠ .playing ∧ failure = .refused (.phaseMismatch table.phase)) ∧
    (∀ failure, (table.attempt .nextDeal).1 = .error failure ↔
      table.phase ≠ .finished ∧ failure = .refused (.phaseMismatch table.phase) ∨
      table.phase = .finished ∧ failure = .fault .stalledShuffle ∧
        Deal.shuffle table.generator = .error .stalledShuffle) ∧
    (∀ commands, table.attempts (table.unrefused commands) =
      ((table.attempts commands).1.filter fun reply => !isRefusal reply,
        (table.attempts commands).2)) ∧
    ∀ commands, (∀ fault, .error (.fault fault) ∉ (table.run commands).1) →
      table.attempts commands = table.run commands := by
  obtain ⟨plays, hcourse⟩ := reachable_iff.mp h
  have sound := hcourse.sound
  simp only [ne_eq, attempt_eq_error_iff, perform, labelled_eq_error_iff]
  refine ⟨?_, ?_, ?_, ?_, ?_, ?_, ?_, ?_, ?_, ?_⟩
  · intro command error hrefused
    exact attempt_of_refused (attempt_eq_error_iff.mpr hrefused)
  · intro seat code error
    exact sound.bid_refused_iff
  · intro seat value error
    exact sound.call_refused_iff
  · intro actor seat code error
    exact sound.play_refused_iff
  · intro actor seat card error
    exact sound.playCard_refused_iff
  · intro command
    exact sound.ne_handExhausted
  · intro failure
    exact sound.autoPlay_eq_error_iff
  · intro failure
    exact nextDeal_eq_error_iff
  · intro commands
    exact attempts_unrefused commands
  · intro commands
    exact attempts_eq_run

theorem refused_without_trace_dummy :
    FirstOf (((unshuffled .north).run oneClubLed).2.playChecks .south .south 27)
        (.play (.notController .south .south)) ∧
      (((unshuffled .north).run oneClubLed).2.attempt (.play .south .south 27)).2 =
        ((unshuffled .north).run oneClubLed).2 := by
  have hreachable := (Reachable.opened (opened_unshuffled .north)).run oneClubLed
  have hrefused : (((unshuffled .north).run oneClubLed).2.attempt (.play .south .south 27)).1 =
      .error (.refused (.play (.notController .south .south))) := by decide +kernel
  obtain ⟨unchanged, -, -, hplay, -⟩ := refused_without_trace hreachable
  exact ⟨(hplay _ _ _ _).mp hrefused, unchanged _ _ hrefused⟩

end Table

end ContractBridge
