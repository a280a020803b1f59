import ContractBridge.Proofs.Auction.Resolution
import Mathlib.Data.List.Induction

/-!
# The contract

In a legal auction the calls after the last strain bid that are not passes are nothing, one double
by the other side, or such a double and a redouble by the bidding side.  A settled auction resolves
to that bid with the penalty they leave on it.
-/

namespace ContractBridge

theorem Side.eq_of_ne {side other third : Side} (h : side ≠ other) (hthird : side ≠ third) :
    third = other := by
  cases side <;> cases other <;> cases third <;> simp_all

namespace Auction

def crucial (calls : List TaggedBid) : List TaggedBid :=
  calls.filter (·.value.isCrucial)

/-- What can be left of the calls after a bid of a side when passes are left out, and the penalty
that it puts on the contract. -/
inductive Answers (bidders : Side) : List TaggedBid → Penalty → Prop
  | undoubled : Answers bidders [] .none
  | doubled {double : TaggedBid} (doubles : double.value.call = .double)
      (opposes : double.seat.side ≠ bidders) : Answers bidders [double] .doubled
  | redoubled {double redouble : TaggedBid} (doubles : double.value.call = .double)
      (opposes : double.seat.side ≠ bidders) (redoubles : redouble.value.call = .redouble)
      (supports : redouble.seat.side = bidders) :
      Answers bidders [double, redouble] .redoubled

def Proposes (calls : List TaggedBid) (last : TaggedBid) (contract : Contract) : Prop :=
  ∃ before after, calls = before ++ last :: after ∧ last.value.call = .bid contract.bid ∧
    Answers last.seat.side (crucial after) contract.penalty

theorem crucial_append (calls later : List TaggedBid) :
    crucial (calls ++ later) = crucial calls ++ crucial later :=
  List.filter_append ..

theorem crucial_cons_of_ne_pass {call : TaggedBid} (h : call.value.call ≠ .pass)
    (calls : List TaggedBid) : crucial (call :: calls) = call :: crucial calls :=
  List.filter_cons_of_pos (BidValue.isCrucial_iff.mpr h)

theorem crucial_eq_nil_iff {calls : List TaggedBid} :
    crucial calls = [] ↔ ∀ call ∈ calls, call.value.call = .pass := by
  simp only [crucial, List.filter_eq_nil_iff, BidValue.isCrucial_iff, ne_eq, not_not]

theorem Standing.getLast? {calls : List TaggedBid} {standing : TaggedBid}
    (h : Standing calls standing) : (crucial calls).getLast? = some standing := by
  rw [crucial, List.getLast?_filter]
  exact standing_iff.mp h

section Answers

variable {last standing call : TaggedBid} {answers : List TaggedBid} {penalty : Penalty}

theorem Answers.append_double (h : Answers last.seat.side answers penalty)
    (latest : (last :: answers).getLast? = some standing) {bid : Bid}
    (hbid : standing.value.call = .bid bid) (hopposes : standing.seat.side ≠ call.seat.side)
    (hcall : call.value.call = .double) :
    Answers last.seat.side (answers ++ [call]) .doubled := by
  cases h with
  | undoubled =>
      obtain rfl : last = standing := by simpa using latest
      exact .doubled hcall (Ne.symm hopposes)
  | @doubled double doubles =>
      obtain rfl : double = standing := by simpa using latest
      simp [doubles] at hbid
  | @redoubled _ redouble _ _ redoubles =>
      obtain rfl : redouble = standing := by simpa using latest
      simp [redoubles] at hbid

theorem Answers.append_redouble (h : Answers last.seat.side answers penalty)
    (latest : (last :: answers).getLast? = some standing) {bid : Bid}
    (hlast : last.value.call = .bid bid) (hdouble : standing.value.call = .double)
    (hopposes : standing.seat.side ≠ call.seat.side) (hcall : call.value.call = .redouble) :
    Answers last.seat.side (answers ++ [call]) .redoubled := by
  cases h with
  | undoubled =>
      obtain rfl : last = standing := by simpa using latest
      simp [hlast] at hdouble
  | @doubled double doubles opposes =>
      obtain rfl : double = standing := by simpa using latest
      exact .redoubled doubles opposes hcall (Side.eq_of_ne opposes hopposes)
  | @redoubled _ redouble _ _ redoubles =>
      obtain rfl : redouble = standing := by simpa using latest
      simp [redoubles] at hdouble

end Answers

section Proposes

variable {calls : List TaggedBid} {last call : TaggedBid} {contract : Contract}

theorem Proposes.call_eq (h : Proposes calls last contract) :
    last.value.call = .bid contract.bid := by
  obtain ⟨-, -, -, hlast, -⟩ := h
  exact hlast

theorem Proposes.append_pass (h : Proposes calls last contract)
    (hcall : call.value.call = .pass) : Proposes (calls ++ [call]) last contract := by
  obtain ⟨before, after, rfl, hlast, hanswers⟩ := h
  have silent : crucial [call] = [] := by simp [crucial_eq_nil_iff, hcall]
  refine ⟨before, after ++ [call], by simp, hlast, ?_⟩
  rwa [crucial_append, silent, List.append_nil]

theorem Proposes.append_answer (h : Proposes calls last contract) {standing : TaggedBid}
    (hstanding : Standing calls standing) (hcall : call.value.call ≠ .pass) {penalty : Penalty}
    (hextends : ∀ answers, Answers last.seat.side answers contract.penalty →
      (last :: answers).getLast? = some standing →
        Answers last.seat.side (answers ++ [call]) penalty) :
    Proposes (calls ++ [call]) last { contract with penalty } := by
  obtain ⟨before, after, rfl, hlast, hanswers⟩ := h
  have latest := hstanding.getLast?
  have hloud : last.value.call ≠ .pass := by simp [hlast]
  rw [crucial_append, crucial_cons_of_ne_pass hloud, List.getLast?_append,
    Option.or_of_isSome (by simp)] at latest
  refine ⟨before, after ++ [call], by simp, hlast, ?_⟩
  rw [crucial_append, crucial_cons_of_ne_pass hcall]
  exact hextends _ hanswers latest

end Proposes

theorem Legal.exists_contract {dealer : Seat} {calls : List TaggedBid} (h : Legal dealer calls) :
    crucial calls = [] ∨ ∃ last contract, Proposes calls last contract := by
  induction calls using List.reverseRecOn with
  | nil => exact .inl rfl
  | append_singleton calls call ih =>
      obtain ⟨hcalls, -, hallowed⟩ := legal_concat_iff.mp h
      cases hcall : call.value.call with
      | pass =>
          rcases ih hcalls with hsilent | ⟨last, contract, hproposes⟩
          · left
            rw [crucial_append, hsilent, crucial_eq_nil_iff.mpr (by simp [hcall]), List.append_nil]
          · exact .inr ⟨last, contract, hproposes.append_pass hcall⟩
      | bid proposal => exact .inr ⟨call, ⟨proposal, .none⟩, calls, [], rfl, hcall, .undoubled⟩
      | double =>
          rw [hcall] at hallowed
          obtain ⟨standing, bid, ⟨hstanding, hopposes⟩, hbid⟩ := hallowed
          rcases ih hcalls with hsilent | ⟨last, contract, hproposes⟩
          · simpa [hsilent] using hstanding.getLast?
          · refine .inr ⟨last, { contract with penalty := .doubled },
              hproposes.append_answer hstanding (by simp [hcall]) ?_⟩
            intro answers hanswers latest
            exact hanswers.append_double latest hbid hopposes hcall
      | redouble =>
          rw [hcall] at hallowed
          obtain ⟨standing, ⟨hstanding, hopposes⟩, hdouble⟩ := hallowed
          rcases ih hcalls with hsilent | ⟨last, contract, hproposes⟩
          · simpa [hsilent] using hstanding.getLast?
          · have hlast := hproposes.call_eq
            refine .inr ⟨last, { contract with penalty := .redoubled },
              hproposes.append_answer hstanding (by simp [hcall]) ?_⟩
            intro answers hanswers latest
            exact hanswers.append_redouble latest hlast hdouble hopposes hcall

theorem Answers.call_ne_bid {bidders : Side} {answers : List TaggedBid} {penalty : Penalty}
    (h : Answers bidders answers penalty) {call : TaggedBid} (hcall : call ∈ answers) (bid : Bid) :
    call.value.call ≠ .bid bid := by
  cases h with
  | undoubled => simp at hcall
  | doubled doubles =>
      rw [List.mem_singleton.mp hcall]
      simp [doubles]
  | redoubled doubles _ redoubles =>
      rcases List.mem_cons.mp hcall with rfl | hcall
      · simp [doubles]
      · rw [List.mem_singleton.mp hcall]
        simp [redoubles]

/-- The last bid of legal calls outranks all their other bids. -/
theorem Legal.highest {dealer : Seat} {before after : List TaggedBid} {last : TaggedBid}
    (h : Legal dealer (before ++ last :: after)) {bid : Bid} (hlast : last.value.call = .bid bid)
    {penalty : Penalty} (hanswers : Answers last.seat.side (crucial after) penalty)
    {call : TaggedBid} (hcall : call ∈ before ++ after) {other : Bid}
    (hother : call.value.call = .bid other) : bid.Outranks other := by
  rcases List.mem_append.mp hcall with hbefore | hafter
  · exact h.outranks rfl hlast hbefore hother
  · have hcrucial : call ∈ crucial after :=
      List.mem_filter.mpr ⟨hafter, BidValue.isCrucial_iff.mpr (by simp [hother])⟩
    exact absurd hother (hanswers.call_ne_bid hcrucial other)

theorem splitDoubles_append {doubles rest : List Entry} {bid : Entry}
    (hdoubles : ∀ entry ∈ doubles, entry.doubling ≠ .none) (hbid : bid.doubling = .none) :
    splitDoubles (doubles ++ bid :: rest) = some (doubles, bid) := by
  induction doubles with
  | nil => simp [splitDoubles, hbid]
  | cons first doubles ih =>
      have hfirst := hdoubles first (by simp)
      have hrest := ih fun entry hentry => hdoubles entry (by simp [hentry])
      simp [splitDoubles, hfirst, hrest]

theorem Answers.standingPenalty {bidders : Side} {entries : List Entry} {penalty : Penalty}
    (h : Answers bidders (entries.map Entry.tagged) penalty) :
    (∀ entry ∈ entries, entry.doubling ≠ .none) ∧
      Auction.standingPenalty entries.reverse = penalty := by
  generalize heq : entries.map Entry.tagged = answers at h
  cases h with
  | undoubled =>
      obtain rfl := List.map_eq_nil_iff.mp heq
      simp [Auction.standingPenalty]
  | doubled doubles =>
      obtain ⟨double, rfl, rfl⟩ := List.map_eq_singleton_iff.mp heq
      have hdouble : double.doubling = .double := BidValue.doubling_eq_double_iff.mpr doubles
      simp [Auction.standingPenalty, hdouble, Doubling.penalty]
  | redoubled doubles _ redoubles =>
      obtain ⟨double, rest, rfl, rfl, hrest⟩ := List.map_eq_cons_iff.mp heq
      obtain ⟨redouble, rfl, rfl⟩ := List.map_eq_singleton_iff.mp hrest
      have hdouble : double.doubling = .double := BidValue.doubling_eq_double_iff.mpr doubles
      have hredouble : redouble.doubling = .redouble :=
        BidValue.doubling_eq_redouble_iff.mpr redoubles
      simp [Auction.standingPenalty, hdouble, hredouble, Doubling.penalty]

theorem crucial_map_tagged (entries : List Entry) :
    crucial (entries.map Entry.tagged) =
      (entries.filter (·.value.isCrucial)).map Entry.tagged :=
  List.filter_map ..

theorem Proposes.resolve {auction : Auction} {last : TaggedBid} {contract : Contract}
    (h : Proposes auction.calls last contract) (hstatus : auction.status = .settled) :
    auction.resolve = .ok (.ofDeclarer contract last.seat
      (auction.declarerFor last.seat contract.bid.strain)) := by
  obtain ⟨before, after, hcalls, hlast, hanswers⟩ := h
  obtain ⟨earlier, recent, hentries, -, hrecent⟩ := List.map_eq_append_iff.mp hcalls
  obtain ⟨entry, later, rfl, rfl, rfl⟩ := List.map_eq_cons_iff.mp hrecent
  replace hlast : entry.value.call = .bid contract.bid := hlast
  have hloud : entry.value.call ≠ .pass := by simp [hlast]
  have hbid : entry.doubling = .none :=
    (BidValue.doubling_eq_none_iff hloud).mpr ⟨contract.bid, hlast⟩
  have hcrucial := BidValue.isCrucial_iff.mpr hloud
  rw [crucial_map_tagged] at hanswers
  obtain ⟨hdoubles, hpenalty⟩ := hanswers.standingPenalty
  have hsplit : splitDoubles (auction.entries.reverse.filter (·.value.isCrucial)) =
      some ((later.filter (·.value.isCrucial)).reverse, entry) := by
    rw [hentries, List.filter_reverse, List.filter_append, List.filter_cons, if_pos hcrucial,
      List.reverse_append, List.reverse_cons, List.append_assoc, List.singleton_append]
    refine splitDoubles_append ?_ hbid
    intro double hdouble
    exact hdoubles double (List.mem_reverse.mp hdouble)
  simp only [Auction.resolve, hstatus, hsplit, declare_eq_ok auction _ hlast, hpenalty]
  rfl

end Auction

end ContractBridge
