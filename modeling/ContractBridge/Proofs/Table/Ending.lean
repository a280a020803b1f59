import ContractBridge.Proofs.Table.Course

/-!
# How a call ends an auction

An accepted call passes the board out, closes the auction or leaves it open, told from the calls of
the auction with this one.  A board passed out is dealt again by the same dealer, and a closed
auction leads to the opening lead.
-/

namespace ContractBridge

namespace Table

def called? : Command → Option TaggedBid
  | .bid _ code => (TaggedBid.decode code).toOption
  | .call seat value => some ⟨seat, value⟩
  | _ => none

theorem call_of_perform {table next : Table} {command : Command} {outcome : BidOutcome}
    (h : table.perform command = .ok (.bid outcome, next)) :
    ∃ call, called? command = some call ∧
      table.call call.seat call.value = .ok (outcome, next) := by
  cases command with
  | bid seat code =>
      obtain ⟨_, ⟨⟩, hbid⟩ := labelled_eq_ok h
      obtain ⟨value, hdecode, hcall⟩ := bid_eq_ok hbid
      refine ⟨⟨seat, value⟩, ?_, hcall⟩
      rw [called?, hdecode]
      rfl
  | call seat value =>
      obtain ⟨_, ⟨⟩, hcall⟩ := labelled_eq_ok h
      exact ⟨⟨seat, value⟩, rfl, hcall⟩
  | play | playCard | autoPlay | nextDeal =>
      obtain ⟨_, ⟨⟩, -⟩ := labelled_eq_ok h

/-- What a call leaves behind: an open auction with the next seat due, the opening lead with the
hands as dealt, or a new deal by the same dealer without anything of the old auction. -/
def Follows (table : Table) (calls : List TaggedBid) (next : Table) : BidOutcome → Prop
  | .continued due forbidden =>
      next.phase = .bidding ∧ next.nextBidder? = some due ∧ next.forbidden? = some forbidden ∧
        next.auction.calls = calls ∧ next.dealer = table.dealer ∧ next.dealt = table.dealt
  | .completed declaration turn legal =>
      next.phase = .playing ∧ next.turn? = some (turn, legal) ∧ turn.seat = declaration.lead ∧
        next.declaration? = some declaration ∧ next.auction.calls = calls ∧
        next.deal = table.dealt ∧ next.dealt = table.dealt
  | .reshuffled dealer forbidden =>
      next.phase = .bidding ∧ next.auction.entries = [] ∧
        (∀ seat strain, next.auction.firstBid? seat strain = none) ∧
        next.dealer = table.dealer ∧ dealer = table.dealer ∧
        next.nextBidder? = some table.dealer ∧ next.forbidden? = some forbidden

theorem Entered.follows {table next : Table} {seat : Seat} {value : BidValue}
    {outcome : BidOutcome} (h : Entered (table.note seat value) seat outcome next) :
    table.Follows (table.auction.calls ++ [⟨seat, value⟩]) next outcome := by
  cases h with
  | ongoing => exact ⟨rfl, rfl, rfl, calls_note .., rfl, rfl⟩
  | settled _ _ lead =>
      obtain ⟨-, hturn, -⟩ := CardPlay.pending?_eq_some_iff.mp lead
      refine ⟨rfl, lead, ?_, rfl, calls_note .., rfl, rfl⟩
      rw [hturn]
      rfl
  | passedOut =>
      refine ⟨rfl, rfl, ?_, rfl, rfl, rfl, rfl⟩
      intro other strain
      simp [withBoard, Auction.empty, Auction.firstBid?]

/-- A call passes the board out if it is the fourth of four passes, closes the auction if it is the
third pass in a row after a bid, and otherwise makes the next seat due. -/
theorem call_outcome {table : Table} (h : Reachable table) (hphase : table.phase = .bidding) :
    table.auction.status.isComplete = false ∧
    ∀ command outcome next, table.perform command = .ok (.bid outcome, next) →
      ∃ call calls, called? command = some call ∧ calls = table.auction.calls ++ [call] ∧
        ((∃ dealer forbidden, outcome = .reshuffled dealer forbidden) ↔
          Auction.PassedOut calls) ∧
        ((∃ declaration turn legal, outcome = .completed declaration turn legal) ↔
          Auction.Ended calls ∧ ∃ bid ∈ calls, ∃ proposal, bid.value.call = .bid proposal) ∧
        ((∃ forbidden, outcome = .continued call.seat.next forbidden) ↔
          ¬ Auction.PassedOut calls ∧
            ¬ (Auction.Ended calls ∧ ∃ bid ∈ calls, ∃ proposal, bid.value.call = .bid proposal)) ∧
        table.Follows calls next outcome := by
  obtain ⟨due, hstage⟩ := phase_eq_bidding_iff.mp hphase
  obtain ⟨plays, hcourse⟩ := reachable_iff.mp h
  have bidding := hcourse.sound.bidding due hstage
  have hopen := bidding.underway.2 _ (List.prefix_refl _)
  refine ⟨by simp [Auction.status_eq_ongoing_iff.mpr hopen, Auction.Status.isComplete], ?_⟩
  intro command outcome next hperform
  obtain ⟨⟨seat, value⟩, hcalled, hcall⟩ := call_of_perform hperform
  obtain ⟨accepted, entered⟩ := call_eq_ok hcall
  have hlegal := (bidding.callRefusal?_eq_none_iff hstage).mp accepted
  have hcalls := calls_note table seat value
  have passedOut_iff := Auction.status_eq_passedOut_iff bidding.underway hcalls
  have settled_iff := Auction.status_eq_settled_iff bidding.underway hcalls hlegal
  rw [hcalls] at passedOut_iff settled_iff
  refine ⟨⟨seat, value⟩, _, hcalled, rfl, ?_⟩
  rw [← passedOut_iff, ← settled_iff]
  have hfollows := entered.follows
  cases entered with
  | ongoing status => simpa [status] using hfollows
  | settled status => simpa [status] using hfollows
  | passedOut status => simpa [status] using hfollows

/-- Four passes at the levels one, two, three and seven pass North's board out. -/
theorem call_outcome_passes :
    ∃ outcome next,
      ((unshuffled .north).run [.bid .north 1, .bid .east 73, .bid .south 145]).2.perform
        (.bid .west 241) = .ok (.bid outcome, next) ∧
      (∃ dealer forbidden, outcome = .reshuffled dealer forbidden) ∧
      next.auction.entries = [] ∧ next.nextBidder? = some .north := by
  have hreachable := (Reachable.opened (opened_unshuffled .north)).run
    [.bid .north 1, .bid .east 73, .bid .south 145]
  obtain ⟨outcome, next, hperform⟩ : ∃ outcome next,
      ((unshuffled .north).run [.bid .north 1, .bid .east 73, .bid .south 145]).2.perform
        (.bid .west 241) = .ok (.bid outcome, next) := ⟨_, _, rfl⟩
  obtain ⟨-, houtcome⟩ := call_outcome hreachable (by decide +kernel)
  obtain ⟨call, calls, ⟨⟩, rfl, hpassed, -, -, hfollows⟩ := houtcome _ outcome next hperform
  obtain ⟨dealer, forbidden, rfl⟩ := hpassed.mpr ⟨rfl, by decide +kernel⟩
  obtain ⟨-, hentries, -, -, -, hdue, -⟩ := hfollows
  exact ⟨_, next, hperform, ⟨dealer, forbidden, rfl⟩, hentries, hdue⟩

end Table

end ContractBridge
