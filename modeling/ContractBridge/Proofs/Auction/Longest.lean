import ContractBridge.Proofs.Auction.Length

/-!
# The longest auction

After three passes all bids are called in ascending order, each of them doubled and redoubled, and
two passes follow every one of these calls.  Nothing can make an auction longer.
-/

namespace ContractBridge

theorem Seat.side_rotate_add_three (seat : Seat) (steps : Nat) :
    (seat.rotate steps).side ≠ (seat.rotate (steps + 3)).side := by
  rw [← rotate_rotate]
  generalize seat.rotate steps = turned
  cases turned <;> decide

namespace Auction

def inTurn (dealer : Seat) (calls : List TaggedBid) (value : BidValue) : List TaggedBid :=
  calls ++ [⟨dealer.rotate calls.length, value⟩]

section Turns

variable {dealer : Seat} {calls : List TaggedBid} {value : BidValue}

theorem length_inTurn : (inTurn dealer calls value).length = calls.length + 1 := by
  simp [inTurn]

theorem Underway.inTurn (h : Underway dealer calls)
    (hallowed : Allowed calls (dealer.rotate calls.length) value.call)
    (hopen : ¬ Ended (inTurn dealer calls value)) : Underway dealer (inTurn dealer calls value) :=
  underway_concat_iff.mpr ⟨h, ⟨rfl, hallowed⟩, hopen⟩

theorem not_ended_of_loud {earlier passes : List TaggedBid} {call : TaggedBid}
    (hloud : call.value.call ≠ .pass) (hshort : passes.length ≤ 2) :
    ¬ Ended (earlier ++ call :: passes) := by
  rintro ⟨-, hpasses⟩
  refine hloud (hpasses call ?_)
  have hdrop : (earlier ++ call :: passes).length - 3 - earlier.length = 0 := by
    rw [List.length_append, List.length_cons]
    omega
  rw [List.drop_append, hdrop]
  exact List.mem_append_right _ (List.mem_cons_self ..)

end Turns

def passAtOne : BidValue := ⟨1, by decide, by decide⟩

def doubleAtOne : BidValue := ⟨7, by decide, by decide⟩

def redoubleAtOne : BidValue := ⟨8, by decide, by decide⟩

@[simp] theorem call_passAtOne : passAtOne.call = .pass := by decide

@[simp] theorem call_doubleAtOne : doubleAtOne.call = .double := by decide

@[simp] theorem call_redoubleAtOne : redoubleAtOne.call = .redouble := by decide

def drawOut (dealer : Seat) (calls : List TaggedBid) (value : BidValue) : List TaggedBid :=
  [value, passAtOne, passAtOne].foldl (inTurn dealer) calls

section DrawOut

variable {dealer : Seat} {calls : List TaggedBid} {value : BidValue}

theorem drawOut_eq : drawOut dealer calls value =
    calls ++ ⟨dealer.rotate calls.length, value⟩ ::
      [⟨dealer.rotate (calls.length + 1), passAtOne⟩,
        ⟨dealer.rotate (calls.length + 2), passAtOne⟩] := by
  simp [drawOut, inTurn]

theorem length_drawOut : (drawOut dealer calls value).length = calls.length + 3 := by
  simp [drawOut_eq]

theorem Underway.drawOut (h : Underway dealer calls) (hloud : value.call ≠ .pass)
    (hallowed : Allowed calls (dealer.rotate calls.length) value.call) :
    Underway dealer (drawOut dealer calls value) := by
  have hcall : Underway dealer (Auction.inTurn dealer calls value) :=
    h.inTurn hallowed (not_ended_of_loud hloud (by simp))
  have hpass : Underway dealer
      (Auction.inTurn dealer (Auction.inTurn dealer calls value) passAtOne) := by
    refine hcall.inTurn trivial ?_
    simp only [Auction.inTurn, List.append_assoc, List.singleton_append]
    exact not_ended_of_loud hloud (by simp)
  have hsecond : ¬ Ended (Auction.drawOut dealer calls value) := by
    rw [drawOut_eq]
    exact not_ended_of_loud hloud (by simp)
  exact hpass.inTurn trivial hsecond

theorem standsAgainst_drawOut (hloud : value.call ≠ .pass) :
    StandsAgainst (drawOut dealer calls value)
      (dealer.rotate (drawOut dealer calls value).length) ⟨dealer.rotate calls.length, value⟩ := by
  refine ⟨⟨calls, _, drawOut_eq, hloud, by simp⟩, ?_⟩
  rw [length_drawOut]
  exact dealer.side_rotate_add_three _

theorem bid_mem_drawOut {call : TaggedBid} (h : call ∈ drawOut dealer calls value) {bid : Bid}
    (hbid : call.value.call = .bid bid) : call ∈ calls ∨ call.value = value := by
  simp only [drawOut_eq, List.mem_append, List.mem_cons, List.not_mem_nil, or_false] at h
  rcases h with h | rfl | rfl | rfl
  · exact .inl h
  · exact .inr rfl
  · simp at hbid
  · simp at hbid

end DrawOut

def contest (dealer : Seat) (calls : List TaggedBid) (value : BidValue) : List TaggedBid :=
  [value, doubleAtOne, redoubleAtOne].foldl (drawOut dealer) calls

section Contest

variable {dealer : Seat} {calls : List TaggedBid} {value : BidValue} {bid : Bid}

theorem length_contest : (contest dealer calls value).length = calls.length + 9 := by
  simp [contest, length_drawOut]

theorem Underway.contest (h : Underway dealer calls) (hvalue : value.call = .bid bid)
    (hhigher : ∀ earlier ∈ calls, ∀ other, earlier.value.call = .bid other → bid.Outranks other) :
    Underway dealer (contest dealer calls value) := by
  have hloud : value.call ≠ .pass := by simp [hvalue]
  have hbid : Underway dealer (Auction.drawOut dealer calls value) := by
    refine h.drawOut hloud ?_
    rw [hvalue]
    exact hhigher
  have hdouble : Underway dealer
      (Auction.drawOut dealer (Auction.drawOut dealer calls value) doubleAtOne) := by
    refine hbid.drawOut (by simp) ?_
    rw [call_doubleAtOne]
    exact ⟨_, bid, standsAgainst_drawOut hloud, hvalue⟩
  refine hdouble.drawOut (by simp) ?_
  rw [call_redoubleAtOne]
  exact ⟨_, standsAgainst_drawOut (by simp), call_doubleAtOne⟩

theorem bid_mem_contest {call : TaggedBid} (h : call ∈ contest dealer calls value)
    (hbid : call.value.call = .bid bid) : call ∈ calls ∨ call.value = value := by
  rcases bid_mem_drawOut h hbid with h | hredouble
  · rcases bid_mem_drawOut h hbid with h | hdouble
    · exact bid_mem_drawOut h hbid
    · simp [hdouble] at hbid
  · simp [hredouble] at hbid

end Contest

def ascendingBids : List BidValue :=
  BidValue.all.filter (·.strain?.isSome)

def longest (dealer : Seat) : List TaggedBid :=
  ascendingBids.foldl (contest dealer) (drawOut dealer [] passAtOne)

section Longest

variable {dealer : Seat} {calls : List TaggedBid}

theorem length_foldl_contest (values : List BidValue) :
    (values.foldl (contest dealer) calls).length = calls.length + 9 * values.length := by
  induction values generalizing calls with
  | nil => rfl
  | cons value values ih =>
      rw [List.foldl_cons, ih, length_contest, List.length_cons]
      omega

theorem length_longest (dealer : Seat) : (longest dealer).length = 318 := by
  have hbids : ascendingBids.length = 35 := by decide +kernel
  rw [longest, length_foldl_contest, hbids]
  rfl

theorem Underway.foldl_contest (h : Underway dealer calls) {values : List BidValue}
    (hstrains : ∀ value ∈ values, value.strain?.isSome = true)
    (hsorted : values.Pairwise fun value later => value.number < later.number)
    (habove : ∀ value ∈ values, ∀ call ∈ calls, ∀ bid, call.value.call = .bid bid →
      call.value.number < value.number) :
    Underway dealer (values.foldl (Auction.contest dealer) calls) := by
  induction values generalizing calls with
  | nil => exact h
  | cons value values ih =>
      obtain ⟨hfirst, hrest⟩ := List.pairwise_cons.mp hsorted
      obtain ⟨strain, hstrain⟩ := Option.isSome_iff_exists.mp (hstrains value (by simp))
      have hvalue := BidValue.strain?_eq_some_iff.mp hstrain
      have hcontest : Underway dealer (Auction.contest dealer calls value) := by
        refine h.contest hvalue ?_
        intro earlier hearlier other hother
        exact (BidValue.number_lt_iff_outranks hvalue hother).mp
          (habove value (by simp) earlier hearlier other hother)
      refine ih hcontest (fun later hlater => hstrains later (by simp [hlater])) hrest ?_
      intro later hlater call hcall bid hbid
      rcases bid_mem_contest hcall hbid with hcall | hsame
      · exact habove later (by simp [hlater]) call hcall bid hbid
      · rw [hsame]
        exact hfirst later hlater

theorem underway_threePasses (dealer : Seat) : Underway dealer (drawOut dealer [] passAtOne) := by
  have hshort : ∀ calls : List TaggedBid, calls.length < 4 → ¬ Ended calls :=
    fun calls hlength hended => absurd hended.1 (Nat.not_le.mpr hlength)
  have hone : Underway dealer (Auction.inTurn dealer [] passAtOne) :=
    (underway_nil dealer).inTurn trivial (hshort _ (by simp [length_inTurn]))
  have htwo : Underway dealer
      (Auction.inTurn dealer (Auction.inTurn dealer [] passAtOne) passAtOne) :=
    hone.inTurn trivial (hshort _ (by simp [length_inTurn]))
  exact htwo.inTurn trivial (hshort _ (by simp [length_inTurn]))

theorem underway_longest (dealer : Seat) : Underway dealer (longest dealer) := by
  refine (underway_threePasses dealer).foldl_contest ?_ ?_ ?_
  · intro value hvalue
    exact (List.mem_filter.mp hvalue).2
  · decide +kernel
  · intro value hvalue call hcall bid hbid
    rcases bid_mem_drawOut hcall hbid with hnone | hpass
    · simp at hnone
    · simp [hpass] at hbid

end Longest

end Auction

end ContractBridge
