import ContractBridge.Auction.Basic

/-!
# The law of calls

Which calls may follow a list of calls, told from the whole list.  A bid outranks every bid before
it.  A double or a redouble answers the standing call, the last one that is not a pass, and that
call has to come from the other side.
-/

namespace ContractBridge

def Bid.Outranks (bid other : Bid) : Prop :=
  other.level < bid.level ∨ other.level = bid.level ∧ other.strain.index < bid.strain.index

def Entry.tagged (entry : Entry) : TaggedBid :=
  ⟨entry.seat, entry.value⟩

namespace Auction

def calls (auction : Auction) : List TaggedBid :=
  auction.entries.map Entry.tagged

def ofCalls (calls : List TaggedBid) : Auction :=
  calls.foldl (fun auction call => auction.append call.seat call.value) empty

/-- The call is the last one that is not a pass. -/
def Standing (calls : List TaggedBid) (standing : TaggedBid) : Prop :=
  ∃ earlier passes, calls = earlier ++ standing :: passes ∧ standing.value.call ≠ .pass ∧
    ∀ later ∈ passes, later.value.call = .pass

def StandsAgainst (calls : List TaggedBid) (seat : Seat) (standing : TaggedBid) : Prop :=
  Standing calls standing ∧ standing.seat.side ≠ seat.side

def Allowed (calls : List TaggedBid) (seat : Seat) : Call → Prop
  | .pass => True
  | .bid proposal =>
      ∀ earlier ∈ calls, ∀ other, earlier.value.call = .bid other → proposal.Outranks other
  | .double => ∃ standing bid, StandsAgainst calls seat standing ∧ standing.value.call = .bid bid
  | .redouble => ∃ standing, StandsAgainst calls seat standing ∧ standing.value.call = .double

/-- The call of the seat due, counted clockwise from the dealer. -/
def LegalAfter (dealer : Seat) (calls : List TaggedBid) (call : TaggedBid) : Prop :=
  call.seat = dealer.rotate calls.length ∧ Allowed calls call.seat call.value.call

@[simp] theorem calls_empty : empty.calls = [] := rfl

theorem length_calls (auction : Auction) : auction.calls.length = auction.length :=
  List.length_map ..

@[simp] theorem calls_append (auction : Auction) (seat : Seat) (value : BidValue) :
    (auction.append seat value).calls = auction.calls ++ [⟨seat, value⟩] := by
  simp [calls, newEntry, Entry.tagged]

private theorem calls_foldl_append (calls : List TaggedBid) (auction : Auction) :
    (calls.foldl (fun auction call => auction.append call.seat call.value) auction).calls =
      auction.calls ++ calls := by
  induction calls generalizing auction with
  | nil => simp
  | cons first rest ih =>
      rw [List.foldl_cons, ih, calls_append]
      simp

@[simp] theorem calls_ofCalls (calls : List TaggedBid) : (ofCalls calls).calls = calls := by
  simp [ofCalls, calls_foldl_append]

end Auction

end ContractBridge
