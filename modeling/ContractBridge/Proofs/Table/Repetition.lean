import ContractBridge.Proofs.Table.Ending
import ContractBridge.Proofs.Table.Refusal
import ContractBridge.Proofs.Table.Tricks

/-!
# Commands that arrive twice

A command that was carried out is refused when it comes again.  Between two deals no bid is made and
no card played a second time, and of two commands in a row only one can take the turn that both
compete for.
-/

namespace ContractBridge

theorem Bid.Outranks.ne {bid other : Bid} (h : bid.Outranks other) : bid ≠ other := by
  rintro rfl
  unfold Outranks at h
  omega

theorem Auction.Legal.bids_differ {dealer : Seat} {calls : List TaggedBid}
    (h : Legal dealer calls) : calls.Pairwise fun call later =>
      ∀ bid, call.value.call = .bid bid → later.value ≠ call.value := by
  induction calls using List.reverseRecOn with
  | nil => exact .nil
  | append_singleton calls last ih =>
      obtain ⟨hcalls, -, hallowed⟩ := legal_concat_iff.mp h
      refine List.pairwise_append.mpr ⟨ih hcalls, List.pairwise_singleton .., ?_⟩
      intro call hcall _ hlast bid hbid hsame
      rw [List.mem_singleton.mp hlast] at hsame
      rw [hsame, hbid] at hallowed
      exact (hallowed call hcall bid hbid).ne rfl

namespace Table

section Sound

variable {table : Table} {plays : List (Seat × Card)}

theorem Sound.legal (h : table.Sound plays) : Auction.Legal table.dealer table.auction.calls := by
  cases hstage : table.stage with
  | bidding next => exact (h.bidding next hstage).underway.1
  | playing play => exact (h.playing play hstage).legal

theorem Sound.nodup_cards (h : table.Sound plays) : (plays.map Prod.snd).Nodup := by
  cases hstage : table.stage with
  | bidding next =>
      rw [(h.bidding next hstage).unplayed]
      exact List.nodup_nil
  | playing play => exact (h.playing play hstage).recorded.nodup_cards h.valid

theorem Sound.playCard_again (h : table.Sound plays) {seat : Seat} {card : Card}
    (hplayed : (seat, card) ∈ plays) (actor : Seat) :
    ∃ error, table.playCard actor seat card = .error (.refused error) := by
  cases hplay : table.playCard actor seat card with
  | ok answered =>
      obtain ⟨play, after, hstage, -, haccepted, -⟩ := playCard_eq_ok hplay
      have recorded := (h.playing play hstage).recorded
      obtain ⟨hrefusal, -⟩ := recorded.orderly.playCard_eq_ok haccepted
      obtain ⟨-, -, -, hheld, -⟩ := CardPlay.refusal?_eq_none_iff.mp hrefusal
      exact absurd hplayed (recorded.mem_hand_iff.mp hheld).2
  | error failure =>
      cases failure with
      | refused error => exact ⟨error, rfl⟩
      | fault fault => exact absurd hplay h.playCard_ne_fault

end Sound

section Turn

variable {table next : Table} {plays : List (Seat × Card)} {seat : Seat}

theorem InBidding.nextBidder?_ne (h : table.InBidding plays seat) {value : BidValue}
    {outcome : BidOutcome} (hentered : Entered (table.note seat value) seat outcome next) :
    next.nextBidder? ≠ some seat := by
  cases hentered with
  | ongoing => simpa [nextBidder?] using seat.next_ne
  | settled => simp [nextBidder?]
  | passedOut status =>
      have hpassed := (Auction.status_eq_passedOut_iff h.underway (calls_note ..)).mp status
      have hfour := hpassed.1
      rw [calls_note, List.length_append, List.length_singleton] at hfour
      have hthree : table.auction.calls.length = 3 := by omega
      have hdue := h.due
      rw [hthree] at hdue
      simp only [nextBidder?, withBoard, note, ne_eq, Option.some.injEq]
      rw [hdue]
      cases table.dealer <;> decide

theorem call_refused_of_not_due (h : table.nextBidder? ≠ some seat) (value : BidValue) :
    ∃ error, table.call seat value = .error (.refused error) := by
  cases hrefusal : table.callRefusal? seat value with
  | some error => exact ⟨error, by rw [call, hrefusal]⟩
  | none =>
      have hstage := (callRefusal?_eq_none_iff.mp hrefusal).1
      exact absurd (by rw [nextBidder?, hstage]) h

/-- Two cards in a row come from one hand only if it won the trick that the first has closed. -/
theorem Sound.trick_of_same_hand (h : table.Sound plays) {actor actor' : Seat} {card card' : Card}
    {result result' : CardPlay.Played} {last : Table}
    (hfirst : table.playCard actor seat card = .ok (result, next))
    (hsecond : next.playCard actor' seat card' = .ok (result', last)) :
    ∃ trick, result.trick = some trick ∧ trick.winner = seat := by
  obtain ⟨play, after, hstage, -, haccepted, rfl⟩ := playCard_eq_ok hfirst
  obtain ⟨_, _, ⟨⟩, -, haccepted', -⟩ := playCard_eq_ok hsecond
  have orderly := (h.playing play hstage).recorded.orderly
  obtain ⟨hrefusal, -⟩ := (orderly.playCard haccepted).playCard_eq_ok haccepted'
  obtain ⟨-, hdue, -⟩ := CardPlay.refusal?_eq_none_iff.mp hrefusal
  rcases orderly.due_of_playCard haccepted with hnext | ⟨trick, htrick, hwinner⟩
  · exact absurd (hdue.trans hnext).symm seat.next_ne
  · exact ⟨trick, htrick, (hdue.trans hwinner).symm⟩

end Turn

/-! ## The same command again -/

theorem attempt_of_perform {table : Table} {command : Command} {error : TableError}
    (h : table.perform command = .error (.refused error)) :
    table.attempt command = (.error (.refused error), table) := by
  have realizes := table.realizes_attempt command
  rw [h] at realizes
  exact realizes.of_refused

def isSent : Command → Bool
  | .autoPlay => false
  | .nextDeal => false
  | _ => true

theorem Course.refused_again {table next : Table} {plays : List (Seat × Card)}
    (h : Course table plays) {command : Command} {answer : Answer} (hsent : isSent command = true)
    (hperform : table.perform command = .ok (answer, next)) :
    ∃ error, next.perform command = .error (.refused error) := by
  have hcall : ∀ {seat value outcome}, table.call seat value = .ok (outcome, next) →
      ∃ error, next.call seat value = .error (.refused error) := by
    intro seat value outcome hcall
    obtain ⟨haccepted, hentered⟩ := call_eq_ok hcall
    have bidding := h.sound.bidding seat (callRefusal?_eq_none_iff.mp haccepted).1
    exact call_refused_of_not_due (bidding.nextBidder?_ne hentered) value
  have hcard : ∀ {actor seat card result}, table.playCard actor seat card = .ok (result, next) →
      ∃ error, next.playCard actor seat card = .error (.refused error) := by
    intro actor seat card result hplay
    obtain ⟨rfl, rfl, -⟩ := h.sound.playCard hplay
    have hnext := h.sound.of_transition (transition_of_playCard hplay)
    exact hnext.playCard_again (List.mem_append_right _ (List.mem_singleton_self _)) actor
  cases command with
  | bid seat code =>
      obtain ⟨outcome, -, hbid⟩ := labelled_eq_ok hperform
      obtain ⟨value, hdecode, hmade⟩ := bid_eq_ok hbid
      obtain ⟨error, hrefused⟩ := hcall hmade
      exact ⟨error, by rw [perform, bid_of_decode hdecode, hrefused]; rfl⟩
  | call seat value =>
      obtain ⟨outcome, -, hmade⟩ := labelled_eq_ok hperform
      obtain ⟨error, hrefused⟩ := hcall hmade
      exact ⟨error, by rw [perform, hrefused]; rfl⟩
  | play actor seat code =>
      obtain ⟨result, -, hplay⟩ := labelled_eq_ok hperform
      obtain ⟨card, hdecode, hmade⟩ := play_eq_ok hplay
      obtain ⟨error, hrefused⟩ := hcard hmade
      exact ⟨error, by simp only [perform, play, hdecode, hrefused]; rfl⟩
  | playCard actor seat card =>
      obtain ⟨result, -, hmade⟩ := labelled_eq_ok hperform
      obtain ⟨error, hrefused⟩ := hcard hmade
      exact ⟨error, by rw [perform, hrefused]; rfl⟩
  | autoPlay | nextDeal => cases hsent

def acceptedCall? : Command × Reply → Option TaggedBid
  | (command, .ok (.bid _)) => called? command
  | _ => none

def acceptedCard? : Reply → Option (Seat × Card)
  | .ok (.played result) => some (result.seat, result.card)
  | _ => none

theorem call_of_acceptedCall? {table next : Table} {command : Command} {answer : Answer}
    {made : TaggedBid} (hperform : table.perform command = .ok (answer, next))
    (h : acceptedCall? (command, .ok answer) = some made) :
    ∃ outcome, table.call made.seat made.value = .ok (outcome, next) := by
  cases answer with
  | bid outcome =>
      obtain ⟨call, hcalled, hcall⟩ := call_of_perform hperform
      obtain rfl : call = made := Option.some.inj (hcalled.symm.trans h)
      exact ⟨outcome, hcall⟩
  | played | dealer => cases h

section Undealt

variable {table : Table} {commands : List Command}

theorem calls_step_of_undealt {command : Command} (h : isRedeal (table.step command).1 = false) :
    (table.step command).2.auction.calls =
      table.auction.calls ++ [(command, (table.step command).1)].filterMap acceptedCall? := by
  rcases step_cases table command with ⟨failure, hstep⟩ | ⟨answer, next, hperform, hstep⟩
  · simp [hstep, acceptedCall?]
  · rw [hstep] at h ⊢
    cases answer with
    | bid outcome =>
        obtain ⟨made, hcalled, hcall⟩ := call_of_perform hperform
        have hcalls : next.auction.calls = table.auction.calls ++ [made] := by
          obtain ⟨-, hentered⟩ := call_eq_ok hcall
          cases hentered with
          | ongoing => exact calls_note ..
          | settled => exact calls_note ..
          | passedOut => cases h
        simp [acceptedCall?, hcalled, hcalls]
    | played result =>
        obtain ⟨_, _, _, -, hplay⟩ := playCard_of_perform hperform
        obtain ⟨_, _, -, -, -, rfl⟩ := playCard_eq_ok hplay
        simp [acceptedCall?]
    | dealer seat => cases h

theorem calls_run_of_undealt (h : ∀ reply ∈ (table.run commands).1, isRedeal reply = false) :
    (table.run commands).2.auction.calls = table.auction.calls ++
      (commands.zip (table.run commands).1).filterMap acceptedCall? := by
  induction commands generalizing table with
  | nil => simp [run]
  | cons command commands ih =>
      rw [run_cons] at h ⊢
      obtain ⟨hfirst, hrest⟩ := List.forall_mem_cons.mp h
      rw [ih hrest, calls_step_of_undealt hfirst, List.append_assoc, ← List.filterMap_append]
      rfl

theorem playsAfter_of_undealt {plays : List (Seat × Card)} {reply : Reply}
    (h : isRedeal reply = false) :
    playsAfter plays reply = plays ++ [reply].filterMap acceptedCard? := by
  cases reply with
  | error failure => simp [playsAfter, acceptedCard?]
  | ok answer =>
      cases answer with
      | played result => rfl
      | dealer seat => cases h
      | bid outcome =>
          cases outcome with
          | reshuffled => cases h
          | continued | completed => simp [playsAfter, acceptedCard?]

theorem foldl_playsAfter_of_undealt {plays : List (Seat × Card)} {replies : List Reply}
    (h : ∀ reply ∈ replies, isRedeal reply = false) :
    replies.foldl playsAfter plays = plays ++ replies.filterMap acceptedCard? := by
  induction replies generalizing plays with
  | nil => simp
  | cons reply replies ih =>
      obtain ⟨hreply, hrest⟩ := List.forall_mem_cons.mp h
      rw [List.foldl_cons, playsAfter_of_undealt hreply, ih hrest, List.append_assoc,
        ← List.filterMap_append, List.singleton_append]

end Undealt

theorem run_of_refused {table : Table} {commands : List Command}
    (h : ∀ reply ∈ (table.run commands).1, ∃ failure, reply = .error failure) :
    (table.run commands).2 = table := by
  induction commands with
  | nil => rfl
  | cons command commands ih =>
      rw [run_cons] at h ⊢
      obtain ⟨⟨failure, hfirst⟩, hrest⟩ := List.forall_mem_cons.mp h
      have hstep : (table.step command).2 = table := by
        rcases step_cases table command with ⟨_, hfailed⟩ | ⟨answer, next, -, hdone⟩
        · rw [hfailed]
        · rw [hdone] at hfirst
          cases hfirst
      rw [hstep] at hrest ⊢
      exact ih hrest

/-! ## At most once -/

/-- Every command that a client sends is refused when it comes again, and changes nothing then.  As
long as no board is dealt, the strain bids accepted differ and so do the cards.  Of two commands
carried out in a row, with only refusals between them, the second is no call by the seat of the
first, and no card from the same hand unless the first has closed a trick which that hand won. -/
theorem carried_out_once {table : Table} (h : Reachable table) :
    (∀ command answer next, isSent command = true → table.perform command = .ok (answer, next) →
      ∃ error, next.attempt command = (.error (.refused error), next)) ∧
    (∀ commands, (∀ reply ∈ (table.run commands).1, isRedeal reply = false) →
      ((commands.zip (table.run commands).1).filterMap acceptedCall?).Pairwise (fun call later =>
        ∀ bid, call.value.call = .bid bid → later.value ≠ call.value) ∧
      (((table.run commands).1.filterMap acceptedCard?).map Prod.snd).Nodup) ∧
    ∀ first answer next between second answer' last,
      table.perform first = .ok (answer, next) →
      (∀ reply ∈ (next.run between).1, ∃ failure, reply = .error failure) →
      (next.run between).2.perform second = .ok (answer', last) →
        (∀ call call', acceptedCall? (first, .ok answer) = some call →
          acceptedCall? (second, .ok answer') = some call' → call'.seat ≠ call.seat) ∧
        ∀ result result', answer = .played result → answer' = .played result' →
          result'.seat = result.seat →
            ∃ trick, result.trick = some trick ∧ trick.winner = result.seat := by
  obtain ⟨plays, hcourse⟩ := reachable_iff.mp h
  refine ⟨?_, ?_, ?_⟩
  · intro command answer next hsent hperform
    obtain ⟨error, hrefused⟩ := hcourse.refused_again hsent hperform
    exact ⟨error, attempt_of_perform hrefused⟩
  · intro commands hundealt
    have hlast := (hcourse.run commands).sound
    constructor
    · have hlegal := hlast.legal
      rw [calls_run_of_undealt hundealt] at hlegal
      exact (List.pairwise_append.mp hlegal.bids_differ).2.1
    · have hnodup := hlast.nodup_cards
      rw [foldl_playsAfter_of_undealt hundealt, List.map_append] at hnodup
      exact (List.nodup_append.mp hnodup).2.1
  · intro first answer next between second answer' last hfirst hrefused hsecond
    rw [run_of_refused hrefused] at hsecond
    constructor
    · rintro call call' hcall hcall' hsame
      obtain ⟨outcome, hmade⟩ := call_of_acceptedCall? hfirst hcall
      obtain ⟨outcome', hmade'⟩ := call_of_acceptedCall? hsecond hcall'
      obtain ⟨haccepted, hentered⟩ := call_eq_ok hmade
      have bidding := hcourse.sound.bidding _ (callRefusal?_eq_none_iff.mp haccepted).1
      obtain ⟨error, hagain⟩ :=
        call_refused_of_not_due (bidding.nextBidder?_ne hentered) call'.value
      rw [hsame, hagain] at hmade'
      cases hmade'
    · rintro result result' rfl rfl hsame
      obtain ⟨actor, seat, card, -, hplay⟩ := playCard_of_perform hfirst
      obtain ⟨actor', seat', card', -, hplay'⟩ := playCard_of_perform hsecond
      have hnext := hcourse.sound.of_transition (transition_of_perform hfirst)
      obtain ⟨rfl, -⟩ := hcourse.sound.playCard hplay
      obtain ⟨rfl, -⟩ := hnext.playCard hplay'
      rw [hsame] at hplay'
      exact hcourse.sound.trick_of_same_hand hplay hplay'

def ruffable : Table :=
  ((unshuffled .north).run (oneClubLed ++ [.play .north .south 27, .autoPlay])).2

/-- North may not ruff twice, but leads to the next trick at once. -/
theorem carried_out_once_ruff :
    ∃ result next result' last error trick,
      ruffable.perform (.play .north .north 1) = .ok (.played result, next) ∧
      next.attempt (.play .north .north 1) = (.error (.refused error), next) ∧
      next.perform .autoPlay = .ok (.played result', last) ∧ result'.seat = .north ∧
      result.trick = some trick ∧ trick.winner = .north ∧
      (((ruffable.run [.play .north .north 1, .autoPlay]).1.filterMap acceptedCard?).map
        Prod.snd).Nodup := by
  obtain ⟨result, next, result', last, hruff, hlead, hseat, hseat'⟩ :
      ∃ result next result' last,
        ruffable.perform (.play .north .north 1) = .ok (.played result, next) ∧
        next.perform .autoPlay = .ok (.played result', last) ∧
        result.seat = .north ∧ result'.seat = .north := ⟨_, _, _, _, rfl, rfl, rfl, rfl⟩
  have hreachable := (Reachable.opened (opened_unshuffled .north)).run
    (oneClubLed ++ [.play .north .south 27, .autoPlay])
  obtain ⟨hagain, hdiffer, hinRow⟩ := carried_out_once hreachable
  obtain ⟨error, hrefused⟩ := hagain _ _ _ rfl hruff
  obtain ⟨-, hsame⟩ := hinRow _ _ _ [] _ _ _ hruff (by simp [run]) hlead
  obtain ⟨trick, htrick, hwinner⟩ := hsame result result' rfl rfl (hseat'.trans hseat.symm)
  obtain ⟨-, hcards⟩ := hdiffer [.play .north .north 1, .autoPlay] (by decide +kernel)
  exact ⟨result, next, result', last, error, trick, hruff, hrefused, hlead, hseat', htrick,
    hwinner.trans hseat, hcards⟩

end Table

end ContractBridge
