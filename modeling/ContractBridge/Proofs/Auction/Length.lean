import ContractBridge.Proofs.Auction.Contract

/-!
# Auctions are short

Every strain bid outranks the one before, at most a double and a redouble answer it, and at most
three passes follow one another.  So an auction comes to its end long before the stamps of its
entries could start again.
-/

namespace ContractBridge

def Bid.rank (bid : Bid) : Nat :=
  5 * bid.level + bid.strain.index

theorem Bid.outranks_iff_rank_lt {bid other : Bid} :
    bid.Outranks other ↔ other.rank < bid.rank := by
  have index_lt := bid.strain.index_lt
  have index_lt' := other.strain.index_lt
  unfold Outranks rank
  omega

theorem BidValue.rank_bounds {value : BidValue} {bid : Bid} (h : value.call = .bid bid) :
    5 ≤ bid.rank ∧ bid.rank < 40 := by
  obtain ⟨level_eq, -⟩ := call_eq_bid_iff.mp h
  have level_pos := value.level_pos
  have level_le := value.level_le
  have index_lt := bid.strain.index_lt
  unfold Bid.rank
  omega

namespace Auction

theorem Answers.length_le {bidders : Side} {answers : List TaggedBid} {penalty : Penalty}
    (h : Answers bidders answers penalty) : answers.length ≤ 2 := by
  cases h <;> simp

theorem length_crucial_proposal (before : List TaggedBid) {after : List TaggedBid}
    {last : TaggedBid} {bid : Bid} {penalty : Penalty} (hlast : last.value.call = .bid bid)
    (hanswers : Answers last.seat.side (crucial after) penalty) :
    (crucial (before ++ last :: after)).length ≤ (crucial before).length + 3 := by
  have hloud : last.value.call ≠ .pass := by simp [hlast]
  have hshort := hanswers.length_le
  rw [crucial_append, crucial_cons_of_ne_pass hloud, List.length_append, List.length_cons]
  omega

/-- Each rank below that of a bid leaves room for a bid and its two answers. -/
theorem Legal.length_crucial_before {dealer : Seat} {before after : List TaggedBid}
    {last : TaggedBid} (h : Legal dealer (before ++ last :: after)) {bid : Bid}
    (hlast : last.value.call = .bid bid) :
    (crucial before).length ≤ 3 * (bid.rank - 5) := by
  induction hlength : before.length using Nat.strongRecOn generalizing before after last bid with
  | ind count ih =>
      rcases h.of_append.exists_contract with hsilent | ⟨lower, contract, hproposes⟩
      · simp [hsilent]
      · obtain ⟨earlier, answers, rfl, hlower, hanswers⟩ := hproposes
        have houtranks := h.outranks rfl hlast (by simp) hlower
        have hrank := Bid.outranks_iff_rank_lt.mp houtranks
        have hearlier := ih earlier.length (by simp [← hlength]) h.of_append hlower rfl
        have hproposal := length_crucial_proposal earlier hlower hanswers
        have hbounds := BidValue.rank_bounds hlower
        omega

theorem Legal.length_crucial_le {dealer : Seat} {calls : List TaggedBid}
    (h : Legal dealer calls) : (crucial calls).length ≤ 105 := by
  rcases h.exists_contract with hsilent | ⟨last, contract, before, after, rfl, hlast, hanswers⟩
  · simp [hsilent]
  · have hbefore := h.length_crucial_before hlast
    have hproposal := length_crucial_proposal before hlast hanswers
    have hbounds := BidValue.rank_bounds hlast
    omega

theorem Underway.of_append {dealer : Seat} {calls later : List TaggedBid}
    (h : Underway dealer (calls ++ later)) : Underway dealer calls := by
  refine ⟨h.1.of_append, ?_⟩
  intro first hfirst
  exact h.2 first (hfirst.trans (List.prefix_append ..))

/-- While an auction is open, of three calls in a row after the first one is not a pass. -/
theorem Underway.length_le_crucial {dealer : Seat} {calls : List TaggedBid}
    (h : Underway dealer calls) : calls.length ≤ 3 * (crucial calls).length + 3 := by
  induction hlength : calls.length using Nat.strongRecOn generalizing calls with
  | ind count ih =>
      subst hlength
      by_cases hfour : calls.length < 4
      · omega
      · obtain ⟨rest, fourth, third, second, last, rfl⟩ := exists_last_four (Nat.not_lt.mp hfour)
        have hopen := h.2 _ (List.prefix_refl _)
        have hloud : crucial [third, second, last] ≠ [] := by
          intro hsilent
          have hpass := crucial_eq_nil_iff.mp hsilent
          exact hopen (ended_append_iff.mpr (by simpa using hpass))
        have hpositive := List.length_pos_iff.mpr hloud
        have hsplit : rest ++ [fourth, third, second, last] =
            (rest ++ [fourth]) ++ [third, second, last] := by simp
        rw [hsplit] at h ih ⊢
        have hrest := ih _ (by simp) h.of_append rfl
        have hcrucial : (crucial ((rest ++ [fourth]) ++ [third, second, last])).length =
            (crucial (rest ++ [fourth])).length + (crucial [third, second, last]).length := by
          rw [crucial_append, List.length_append]
        simp only [List.length_append, List.length_cons, List.length_nil] at hrest ⊢
        omega

theorem Underway.length_le {dealer : Seat} {calls : List TaggedBid} (h : Underway dealer calls) :
    calls.length ≤ 318 := by
  have hcrucial := h.1.length_crucial_le
  have hlength := h.length_le_crucial
  omega

end Auction

end ContractBridge
