import ContractBridge.Proofs.Auction.Longest
import ContractBridge.Proofs.Table.Progress

/-!
# The length of auctions at a table

An open auction has at most 318 calls and one more call ends it, so that stamps never start again
and no board can be bid for ever.
-/

namespace ContractBridge

namespace Table

variable {table : Table}

def acceptsCall : Reply → Bool
  | .ok (.bid _) => true
  | _ => false

def endsAuction : Reply → Bool
  | .ok (.bid (.completed ..)) => true
  | .ok (.bid (.reshuffled ..)) => true
  | _ => false

theorem step_of_open {command : Command} (hphase : table.phase = .bidding)
    (hopen : endsAuction (table.step command).1 = false) :
    (table.step command).2.phase = .bidding ∧
      (table.step command).2.auction.length =
        table.auction.length + [(table.step command).1].countP acceptsCall := by
  rcases step_cases table command with ⟨failure, hstep⟩ | ⟨answer, next, hperform, hstep⟩
  · rw [hstep]
    exact ⟨hphase, rfl⟩
  · rw [hstep] at hopen ⊢
    obtain ⟨due, hstage⟩ := phase_eq_bidding_iff.mp hphase
    cases transition_of_perform hperform with
    | called accepted entered =>
        cases entered with
        | ongoing => exact ⟨rfl, Auction.length_append ..⟩
        | settled => cases hopen
        | passedOut => cases hopen
    | played stage =>
        rw [hstage] at stage
        cases stage
    | dealt finished =>
        rw [hphase] at finished
        cases finished

theorem run_of_open (commands : List Command) (hphase : table.phase = .bidding)
    (hopen : ∀ reply ∈ (table.run commands).1, endsAuction reply = false) :
    (table.run commands).2.phase = .bidding ∧
      (table.run commands).2.auction.length =
        table.auction.length + (table.run commands).1.countP acceptsCall := by
  induction commands generalizing table with
  | nil => exact ⟨hphase, rfl⟩
  | cons command commands ih =>
      rw [run_cons] at hopen ⊢
      obtain ⟨hfirst, hrest⟩ := List.forall_mem_cons.mp hopen
      obtain ⟨hnext, hlength⟩ := step_of_open hphase hfirst
      obtain ⟨hlast, hcount⟩ := ih hnext hrest
      refine ⟨hlast, hcount.trans ?_⟩
      rw [hlength, Nat.add_assoc, ← List.countP_append]
      rfl

theorem Reachable.length_auction_of_bidding (h : Reachable table) (hphase : table.phase = .bidding) :
    table.auction.length ≤ 318 := by
  obtain ⟨due, hstage⟩ := phase_eq_bidding_iff.mp hphase
  obtain ⟨plays, hcourse⟩ := reachable_iff.mp h
  have hlength := (hcourse.sound.bidding due hstage).underway.length_le
  rwa [Auction.length_calls] at hlength

theorem exists_longest (dealer : Seat) :
    ∃ table, Reachable table ∧ table.dealer = dealer ∧ table.phase = .bidding ∧
      table.auction.length = 318 := by
  obtain ⟨table, hreachable, hphase, hdealer, hcalls⟩ :=
    reachable_of_underway (Auction.underway_longest dealer)
  refine ⟨table, hreachable, hdealer, hphase, ?_⟩
  rw [← Auction.length_calls, hcalls, Auction.length_longest]

theorem exists_settled_longest (dealer : Seat) :
    ∃ table, Reachable table ∧ table.dealer = dealer ∧ table.auction.length = 319 := by
  obtain ⟨table, hreachable, hdealer, hphase, hlength⟩ := exists_longest dealer
  obtain ⟨due, hstage⟩ := phase_eq_bidding_iff.mp hphase
  obtain ⟨plays, hcourse⟩ := reachable_iff.mp hreachable
  have bidding := hcourse.sound.bidding due hstage
  have hcalls : table.auction.calls.length = 318 := by rwa [Auction.length_calls]
  have hplayed : ¬ Auction.PassedOut (table.auction.calls ++ [⟨due, Auction.passAtOne⟩]) := by
    rintro ⟨hfour, -⟩
    rw [List.length_append, hcalls] at hfour
    cases hfour
  obtain ⟨outcome, next, hcall, -⟩ :=
    bidding.pass_isOk hstage hcourse.sound.valid Auction.call_passAtOne fun hpassed =>
      absurd hpassed hplayed
  have hperform : table.perform (.call due Auction.passAtOne) = .ok (.bid outcome, next) := by
    rw [perform, hcall]
    rfl
  have hnext : Reachable next := by
    have hstep := hreachable.step (.call due Auction.passAtOne)
    rwa [step_of_perform hperform] at hstep
  refine ⟨next, hnext, ?_⟩
  obtain ⟨-, entered⟩ := call_eq_ok hcall
  cases entered with
  | ongoing => exact ⟨hdealer, by rw [note, Auction.length_append, hlength]⟩
  | settled => exact ⟨hdealer, by rw [note, Auction.length_append, hlength]⟩
  | passedOut status =>
      have hpassed :=
        (Auction.status_eq_passedOut_iff bidding.underway (calls_note ..)).mp status
      rw [calls_note] at hpassed
      exact absurd hpassed hplayed

/-- An auction has at most 318 calls while it is open and 319 ever, and some auctions have as many
whoever deals.  Stamps are therefore the places of the entries.  Accepted calls that do not end an
auction come to no more than that, and the seat due can then still pass. -/
theorem auction_bounded :
    (∀ table, Reachable table →
      (table.phase = .bidding → table.auction.length ≤ 318) ∧ table.auction.length ≤ 319 ∧
      table.auction.entries.map Entry.stamp = List.range table.auction.length ∧
      table.auction.nextStamp = table.auction.length) ∧
    (∀ dealer,
      (∃ table, Reachable table ∧ table.dealer = dealer ∧ table.phase = .bidding ∧
        table.auction.length = 318) ∧
      ∃ table, Reachable table ∧ table.dealer = dealer ∧ table.auction.length = 319) ∧
    ∀ table, Reachable table → table.phase = .bidding → ∀ commands replies last,
      table.run commands = (replies, last) → (∀ reply ∈ replies, endsAuction reply = false) →
        last.phase = .bidding ∧
        last.auction.length = table.auction.length + replies.countP acceptsCall ∧
        table.auction.length + replies.countP acceptsCall ≤ 318 ∧
        ∃ due, last.nextBidder? = some due ∧ ∀ value : BidValue, value.call = .pass →
          (Auction.PassedOut (last.auction.calls ++ [⟨due, value⟩]) →
            ∃ board, Deal.shuffle last.generator = .ok board) →
          ∃ outcome next, last.call due value = .ok (outcome, next) := by
  refine ⟨?_, ?_, ?_⟩
  · intro table hreachable
    obtain ⟨plays, hcourse⟩ := reachable_iff.mp hreachable
    have hlength := hcourse.length_auction
    refine ⟨hreachable.length_auction_of_bidding, hlength, ?_, ?_⟩
    · exact hcourse.indexed.stamps_eq_range hcourse.length_auction_le_size
    · exact Nat.mod_eq_of_lt (Nat.lt_of_le_of_lt hlength (by decide))
  · intro dealer
    exact ⟨exists_longest dealer, exists_settled_longest dealer⟩
  · intro table hreachable hphase commands replies last hrun hopen
    have hlast : Reachable last := by
      have hrest := hreachable.run commands
      rwa [hrun] at hrest
    obtain ⟨hbid, hlength⟩ : last.phase = .bidding ∧
        last.auction.length = table.auction.length + replies.countP acceptsCall := by
      have hundecided := run_of_open commands hphase (by rwa [hrun])
      rwa [hrun] at hundecided
    refine ⟨hbid, hlength, hlength ▸ hlast.length_auction_of_bidding hbid, ?_⟩
    obtain ⟨due, hstage⟩ := phase_eq_bidding_iff.mp hbid
    obtain ⟨plays, hcourse⟩ := reachable_iff.mp hlast
    refine ⟨due, by rw [nextBidder?, hstage], ?_⟩
    intro value hpass hboard
    obtain ⟨outcome, next, hcall, -⟩ :=
      (hcourse.sound.bidding due hstage).pass_isOk hstage hcourse.sound.valid hpass hboard
    exact ⟨outcome, next, hcall⟩

/-- North bids one club and two seats pass, East once out of turn. -/
def oneClubPassed : List Command :=
  [.bid .north 2, .bid .east 65, .bid .east 65, .bid .south 129]

theorem auction_bounded_oneClub :
    ((unshuffled .north).run oneClubPassed).2.auction.length = 3 ∧
      ((unshuffled .north).run oneClubPassed).2.auction.nextStamp = 3 ∧
      ∃ outcome next, ((unshuffled .north).run oneClubPassed).2.call .west Auction.passAtOne =
        .ok (outcome, next) := by
  have hopened := Reachable.opened (opened_unshuffled .north)
  obtain ⟨hbounds, -, hopen⟩ := auction_bounded
  obtain ⟨-, hlength, -, due, hdue, hpass⟩ :=
    hopen _ hopened rfl oneClubPassed ((unshuffled .north).run oneClubPassed).1
      ((unshuffled .north).run oneClubPassed).2 rfl (by decide +kernel)
  have hthree : ((unshuffled .north).run oneClubPassed).2.auction.length = 3 :=
    hlength.trans (by decide +kernel)
  obtain ⟨-, -, -, hstamp⟩ := hbounds _ (hopened.run oneClubPassed)
  refine ⟨hthree, hstamp.trans hthree, ?_⟩
  obtain rfl : due = .west := by
    have hwest : ((unshuffled .north).run oneClubPassed).2.nextBidder? = some .west := by
      decide +kernel
    rw [hwest] at hdue
    cases hdue
    rfl
  refine hpass Auction.passAtOne Auction.call_passAtOne ?_
  rintro ⟨-, hpasses⟩
  have hclub : (⟨.north, ⟨2, by decide, by decide⟩⟩ : TaggedBid) ∈
      ((unshuffled .north).run oneClubPassed).2.auction.calls := by decide +kernel
  exact absurd (hpasses _ (List.mem_append_left _ hclub)) (by decide)

end Table

end ContractBridge
