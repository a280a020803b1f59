import ContractBridge.Proofs.Table.Course
import Mathlib.Data.List.Induction

/-!
# Calls that a table accepts

While a board is bid, a bid byte is accepted exactly when it is a legal call of the seat that sends
it, and the calls forbidden to the seat due are the others.  The lists of calls that come about in
this way are all the legal ones that have not ended the auction.
-/

namespace ContractBridge

namespace Table

section Bidding

variable {table : Table} {plays : List (Seat × Card)} {seat : Seat} {value : BidValue}

theorem InBidding.enter_cases (h : table.InBidding plays seat) (hvalid : table.dealt.Valid)
    (hlegal : Auction.LegalAfter table.dealer table.auction.calls ⟨seat, value⟩) :
    (∃ outcome next, table.enter seat value = .ok (outcome, next)) ∨
      Auction.PassedOut (table.auction.calls ++ [⟨seat, value⟩]) ∧
        Deal.shuffle table.generator = .error .stalledShuffle ∧
        table.enter seat value = .error (.fault .stalledShuffle) := by
  rw [enter_eq]
  cases hstatus : (table.note seat value).auction.status with
  | ongoing => exact .inl ⟨_, _, rfl⟩
  | settled =>
      have legal : Auction.Legal table.dealer (table.note seat value).auction.calls := by
        rw [calls_note]
        exact Auction.legal_concat_iff.mpr ⟨h.underway.1, hlegal⟩
      obtain ⟨declaration, hresolve⟩ := Auction.resolve_of_settled legal hstatus
      obtain ⟨offer, -, hlead⟩ :=
        (CardPlay.recorded_start table.dealt declaration).exists_pending hvalid rfl
      simp [beginPlay, hresolve, hlead]
  | passedOut =>
      have hpassed :=
        (Auction.status_eq_passedOut_iff h.underway (calls_note table seat value)).mp hstatus
      rw [calls_note] at hpassed
      cases hshuffle : Deal.shuffle table.generator with
      | ok board => simp [passOut, redeal_eq, hshuffle, Except.map]
      | error fault =>
          obtain rfl := Deal.fault_of_shuffle hshuffle
          refine .inr ⟨hpassed, rfl, ?_⟩
          simp [passOut, redeal_eq, hshuffle, Except.map]

theorem InBidding.enter_isOk_iff (h : table.InBidding plays seat) (hvalid : table.dealt.Valid)
    (hlegal : Auction.LegalAfter table.dealer table.auction.calls ⟨seat, value⟩) :
    (∃ outcome next, table.enter seat value = .ok (outcome, next)) ↔
      (Auction.PassedOut (table.auction.calls ++ [⟨seat, value⟩]) →
        ∃ board, Deal.shuffle table.generator = .ok board) := by
  constructor
  · rintro ⟨outcome, next, henter⟩ hpassed
    rw [← calls_note] at hpassed
    have hstatus := (Auction.status_eq_passedOut_iff h.underway (calls_note ..)).mpr hpassed
    cases enter_eq_ok henter with
    | ongoing status =>
        rw [hstatus] at status
        cases status
    | settled status =>
        rw [hstatus] at status
        cases status
    | passedOut _ shuffled => exact ⟨_, shuffled⟩
  · intro hboard
    rcases h.enter_cases hvalid hlegal with hok | ⟨hpassed, hstalled, -⟩
    · exact hok
    · obtain ⟨board, hshuffle⟩ := hboard hpassed
      rw [hstalled] at hshuffle
      cases hshuffle

theorem call_of_accepted (h : table.callRefusal? seat value = none) :
    table.call seat value = table.enter seat value := by
  rw [call, h]

theorem bid_of_decode {code : UInt8} (h : TaggedBid.decode code = .ok ⟨seat, value⟩) :
    table.bid seat code = table.call seat value := by
  simp [bid, h]

theorem bid_refused_of_decode {code : UInt8}
    (h : ∀ value, TaggedBid.decode code ≠ .ok ⟨seat, value⟩) :
    ∃ error, table.bid seat code = .error (.refused error) := by
  unfold bid
  cases hdecode : TaggedBid.decode code with
  | error error => exact ⟨_, rfl⟩
  | ok tagged =>
      have hseat : tagged.seat ≠ seat := by
        rintro rfl
        exact h tagged.value hdecode
      simp [hseat]

theorem InBidding.bid_isOk_iff {next : Seat} (h : table.InBidding plays next)
    (hstage : table.stage = .bidding next) (hvalid : table.dealt.Valid) {code : UInt8} :
    (∃ outcome after, table.bid seat code = .ok (outcome, after)) ↔
      ∃ value, TaggedBid.decode code = .ok ⟨seat, value⟩ ∧
        Auction.LegalAfter table.dealer table.auction.calls ⟨seat, value⟩ ∧
        (Auction.PassedOut (table.auction.calls ++ [⟨seat, value⟩]) →
          ∃ board, Deal.shuffle table.generator = .ok board) := by
  constructor
  · rintro ⟨outcome, after, hbid⟩
    obtain ⟨value, hdecode, hcall⟩ := bid_eq_ok hbid
    obtain ⟨haccepted, -⟩ := call_eq_ok hcall
    have hlegal := (h.callRefusal?_eq_none_iff hstage).mp haccepted
    obtain rfl : seat = next := hlegal.1.trans h.due.symm
    rw [call_of_accepted haccepted] at hcall
    exact ⟨value, hdecode, hlegal, (h.enter_isOk_iff hvalid hlegal).mp ⟨outcome, after, hcall⟩⟩
  · rintro ⟨value, hdecode, hlegal, hboard⟩
    have haccepted := (h.callRefusal?_eq_none_iff hstage).mpr hlegal
    obtain rfl : seat = next := hlegal.1.trans h.due.symm
    rw [bid_of_decode hdecode, call_of_accepted haccepted]
    exact (h.enter_isOk_iff hvalid hlegal).mpr hboard

theorem InBidding.bid_isRefused_iff {next : Seat} (h : table.InBidding plays next)
    (hstage : table.stage = .bidding next) (hvalid : table.dealt.Valid) {code : UInt8} :
    (∃ error, table.bid seat code = .error (.refused error)) ↔
      ¬ ∃ value, TaggedBid.decode code = .ok ⟨seat, value⟩ ∧
        Auction.LegalAfter table.dealer table.auction.calls ⟨seat, value⟩ := by
  constructor
  · rintro ⟨error, hbid⟩ ⟨value, hdecode, hlegal⟩
    have haccepted := (h.callRefusal?_eq_none_iff hstage).mpr hlegal
    obtain rfl : seat = next := hlegal.1.trans h.due.symm
    rw [bid_of_decode hdecode, call_of_accepted haccepted] at hbid
    rcases h.enter_cases hvalid hlegal with ⟨outcome, after, hok⟩ | ⟨-, -, hstalled⟩
    · rw [hok] at hbid
      cases hbid
    · rw [hstalled] at hbid
      cases hbid
  · intro hunlawful
    by_cases hdecodes : ∃ value, TaggedBid.decode code = .ok ⟨seat, value⟩
    · obtain ⟨value, hdecode⟩ := hdecodes
      rw [bid_of_decode hdecode, call]
      cases hrefusal : table.callRefusal? seat value with
      | some error => exact ⟨error, rfl⟩
      | none =>
          have hlegal := (h.callRefusal?_eq_none_iff hstage).mp hrefusal
          exact absurd ⟨value, hdecode, hlegal⟩ hunlawful
    · exact bid_refused_of_decode (not_exists.mp hdecodes)

theorem InBidding.contains_forbidden_iff {next : Seat} (h : table.InBidding plays next) :
    (table.auction.forbidden next).contains value = true ↔
      ¬ Auction.LegalAfter table.dealer table.auction.calls ⟨next, value⟩ := by
  rw [Auction.contains_forbidden, Auction.forbids_iff h.underway.1, not_iff_not]
  constructor
  · intro hallowed
    exact ⟨h.due, hallowed⟩
  · rintro ⟨-, hallowed⟩
    exact hallowed

end Bidding

theorem reachable_of_underway {dealer : Seat} {calls : List TaggedBid}
    (h : Auction.Underway dealer calls) :
    ∃ table, Reachable table ∧ table.phase = .bidding ∧ table.dealer = dealer ∧
      table.auction.calls = calls := by
  induction calls using List.reverseRecOn with
  | nil => exact ⟨unshuffled dealer, .opened (opened_unshuffled dealer), rfl, rfl, rfl⟩
  | append_singleton calls call ih =>
      obtain ⟨hearlier, hlegal, hopen⟩ := Auction.underway_concat_iff.mp h
      obtain ⟨table, hreachable, hphase, rfl, rfl⟩ := ih hearlier
      obtain ⟨next, hstage⟩ := phase_eq_bidding_iff.mp hphase
      obtain ⟨plays, hcourse⟩ := reachable_iff.mp hreachable
      have haccepted :=
        ((hcourse.sound.bidding next hstage).callRefusal?_eq_none_iff hstage).mpr hlegal
      have hongoing : (table.note call.seat call.value).auction.status = .ongoing := by
        rw [Auction.status_eq_ongoing_iff, calls_note]
        exact hopen
      refine ⟨_, hreachable.step (.call call.seat call.value), ?_⟩
      simp only [step, perform, call_of_accepted haccepted, enter_eq, hongoing]
      exact ⟨rfl, rfl, calls_note ..⟩

/-- The bids accepted are the legal calls, except that a board passed out has to be shuffled anew;
all others are refused, and the forbidden bids are those.  The auctions that come about consist of
legal calls and have not ended. -/
theorem legal_bid_iff :
    (∀ table, Reachable table → table.phase = .bidding →
      (∀ (seat : Seat) (code : UInt8),
        ((∃ outcome next, table.bid seat code = .ok (outcome, next)) ↔
          ∃ value, TaggedBid.decode code = .ok ⟨seat, value⟩ ∧
            Auction.LegalAfter table.dealer table.auction.calls ⟨seat, value⟩ ∧
            (Auction.PassedOut (table.auction.calls ++ [⟨seat, value⟩]) →
              ∃ board, Deal.shuffle table.generator = .ok board)) ∧
        ((∃ error, table.bid seat code = .error (.refused error)) ↔
          ¬ ∃ value, TaggedBid.decode code = .ok ⟨seat, value⟩ ∧
            Auction.LegalAfter table.dealer table.auction.calls ⟨seat, value⟩)) ∧
      ∃ due forbidden, due = table.dealer.rotate table.auction.calls.length ∧
        table.nextBidder? = some due ∧ table.forbidden? = some forbidden ∧
        ∀ value, forbidden.contains value = true ↔
          ¬ Auction.LegalAfter table.dealer table.auction.calls ⟨due, value⟩) ∧
    ∀ dealer calls,
      (∃ table, Reachable table ∧ table.phase = .bidding ∧ table.dealer = dealer ∧
        table.auction.calls = calls) ↔ Auction.Underway dealer calls := by
  constructor
  · intro table hreachable hphase
    obtain ⟨next, hstage⟩ := phase_eq_bidding_iff.mp hphase
    obtain ⟨plays, hcourse⟩ := reachable_iff.mp hreachable
    have bidding := hcourse.sound.bidding next hstage
    have valid := hcourse.sound.valid
    refine ⟨?_, next, table.auction.forbidden next, bidding.due, ?_, ?_, ?_⟩
    · intro seat code
      exact ⟨bidding.bid_isOk_iff hstage valid, bidding.bid_isRefused_iff hstage valid⟩
    · rw [nextBidder?, hstage]
    · rw [forbidden?, nextBidder?, hstage, Option.map_some]
    · intro value
      exact bidding.contains_forbidden_iff
  · intro dealer calls
    constructor
    · rintro ⟨table, hreachable, hphase, rfl, rfl⟩
      obtain ⟨next, hstage⟩ := phase_eq_bidding_iff.mp hphase
      obtain ⟨plays, hcourse⟩ := reachable_iff.mp hreachable
      exact (hcourse.sound.bidding next hstage).underway
    · exact reachable_of_underway

theorem legal_double_unshuffled :
    ∃ value, TaggedBid.decode 71 = .ok ⟨.east, value⟩ ∧
      Auction.LegalAfter .north [⟨.north, ⟨2, by decide, by decide⟩⟩] ⟨.east, value⟩ := by
  have hreachable := (Reachable.opened (opened_unshuffled .north)).run [.bid .north 2]
  have hbids := (legal_bid_iff.1 _ hreachable (by decide +kernel)).1
  obtain ⟨value, hdecode, hlegal, -⟩ := (hbids .east 71).1.mp ⟨_, _, rfl⟩
  exact ⟨value, hdecode, hlegal⟩

end Table

end ContractBridge
