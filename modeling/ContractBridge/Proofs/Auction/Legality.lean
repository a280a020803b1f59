import ContractBridge.Auction.Legality
import ContractBridge.Proofs.BiddingBox.Call
import ContractBridge.Proofs.Record
import Mathlib.Logic.Basic

/-!
# The forbidden bids are the unlawful ones

The ledger looks at its last strain bid and at its last crucial entry only, while the law of calls
speaks of the whole list.  The two agree on lists of legal calls, whose strain bids grow, so that
the last of them outranks all the others.
-/

namespace ContractBridge

namespace Auction

def Legal (dealer : Seat) (calls : List TaggedBid) : Prop :=
  ∀ earlier call later, calls = earlier ++ call :: later → LegalAfter dealer earlier call

theorem legal_nil (dealer : Seat) : Legal dealer [] :=
  eachAfter_nil

theorem legal_concat_iff {dealer : Seat} {calls : List TaggedBid} {call : TaggedBid} :
    Legal dealer (calls ++ [call]) ↔ Legal dealer calls ∧ LegalAfter dealer calls call :=
  eachAfter_concat_iff

theorem Legal.of_append {dealer : Seat} {calls later : List TaggedBid}
    (h : Legal dealer (calls ++ later)) : Legal dealer calls :=
  EachAfter.of_append h

theorem find?_reverse_eq_some_iff {α : Type} {p : α → Bool} {list : List α} {a : α} :
    list.reverse.find? p = some a ↔
      p a = true ∧ ∃ before after, list = before ++ a :: after ∧ ∀ b ∈ after, p b = false := by
  rw [List.find?_eq_some_iff_append]
  constructor
  · rintro ⟨ha, after, before, heq, hafter⟩
    refine ⟨ha, before.reverse, after.reverse, ?_, ?_⟩
    · rw [← List.reverse_reverse list, heq]
      simp
    · intro b hb
      simpa using hafter b (List.mem_reverse.mp hb)
  · rintro ⟨ha, before, after, rfl, hafter⟩
    refine ⟨ha, after.reverse, before.reverse, by simp, ?_⟩
    intro b hb
    simpa using hafter b (List.mem_reverse.mp hb)

theorem tagged_lastCrucial? (auction : Auction) :
    auction.lastCrucial?.map Entry.tagged = auction.calls.reverse.find? (·.value.isCrucial) := by
  rw [calls, ← List.map_reverse, List.find?_map]
  rfl

theorem tagged_lastStrainBid? (auction : Auction) :
    auction.lastStrainBid?.map Entry.tagged =
      auction.calls.reverse.find? fun call => call.value.isCrucial && !call.value.isDouble := by
  rw [calls, ← List.map_reverse, List.find?_map]
  rfl

theorem standing_iff {calls : List TaggedBid} {standing : TaggedBid} :
    Standing calls standing ↔
      calls.reverse.find? (·.value.isCrucial) = some standing := by
  rw [find?_reverse_eq_some_iff]
  constructor
  · rintro ⟨earlier, passes, heq, hstanding, hpasses⟩
    refine ⟨BidValue.isCrucial_iff.mpr hstanding, earlier, passes, heq, ?_⟩
    intro later hlater
    have pass := BidValue.isPass_iff.mpr (hpasses later hlater)
    simp [BidValue.isCrucial, pass]
  · rintro ⟨hstanding, earlier, passes, heq, hpasses⟩
    refine ⟨earlier, passes, heq, BidValue.isCrucial_iff.mp hstanding, ?_⟩
    intro later hlater
    have notCrucial := hpasses later hlater
    rw [← BidValue.isPass_iff]
    simpa [BidValue.isCrucial] using notCrucial

theorem Standing.value_ne_pass {calls : List TaggedBid} {standing : TaggedBid}
    (h : Standing calls standing) : standing.value.call ≠ .pass := by
  obtain ⟨-, -, -, hstanding, -⟩ := h
  exact hstanding

theorem facesOpposing_iff {auction : Auction} {seat : Seat} {doubling : Doubling} :
    auction.facesOpposing seat doubling = true ↔
      ∃ standing, StandsAgainst auction.calls seat standing ∧
        Doubling.ofValue standing.value = doubling := by
  unfold facesOpposing StandsAgainst
  simp only [standing_iff, ← tagged_lastCrucial?]
  cases auction.lastCrucial? with
  | none => simp
  | some entry =>
      simp [Entry.tagged, Entry.doubling, Seat.isPartnerOf, and_assoc]

theorem Legal.outranks {dealer : Seat} {calls earlier later : List TaggedBid} {call : TaggedBid}
    (h : Legal dealer calls) (heq : calls = earlier ++ call :: later) {bid other : Bid}
    (hbid : call.value.call = .bid bid) {first : TaggedBid} (hfirst : first ∈ earlier)
    (hother : first.value.call = .bid other) : bid.Outranks other := by
  obtain ⟨-, hallowed⟩ := h earlier call later heq
  rw [hbid] at hallowed
  exact hallowed first hfirst other hother

theorem strainBid_iff {value : BidValue} :
    (value.isCrucial && !value.isDouble) = true ↔ ∃ bid, value.call = .bid bid := by
  cases hcall : value.call with
  | pass => simp [BidValue.isCrucial, BidValue.isPass_iff.mpr hcall]
  | double => simp [BidValue.isDouble_iff.mpr (.inl hcall)]
  | redouble => simp [BidValue.isDouble_iff.mpr (.inr hcall)]
  | bid proposal =>
      have crucial : value.isCrucial = true := by simp [BidValue.isCrucial_iff, hcall]
      have notDouble : ¬ value.isDouble = true := by simp [BidValue.isDouble_iff, hcall]
      simp [crucial, notDouble]

theorem not_strainBid_iff {value : BidValue} :
    (value.isCrucial && !value.isDouble) = false ↔ ∀ bid, value.call ≠ .bid bid := by
  rw [← Bool.not_eq_true, strainBid_iff, not_exists]

theorem barred_iff {dealer : Seat} {auction : Auction} (hlegal : Legal dealer auction.calls)
    {value : BidValue} {bid : Bid} (hvalue : value.call = .bid bid) :
    (auction.lastStrainBid?.any fun entry => value.number ≤ entry.value.number) = true ↔
      ¬ ∀ earlier ∈ auction.calls, ∀ other, earlier.value.call = .bid other →
        bid.Outranks other := by
  have hlast := tagged_lastStrainBid? auction
  cases hentry : auction.lastStrainBid? with
  | none =>
      rw [hentry, Option.map_none, eq_comm, List.find?_eq_none] at hlast
      have noBid : ∀ earlier ∈ auction.calls, ∀ other, earlier.value.call = .bid other →
          bid.Outranks other := by
        intro earlier hearlier other hother
        have notBid := hlast earlier (List.mem_reverse.mpr hearlier)
        rw [Bool.not_eq_true, not_strainBid_iff] at notBid
        exact absurd hother (notBid other)
      simpa using noBid
  | some entry =>
      rw [hentry, Option.map_some, eq_comm, find?_reverse_eq_some_iff] at hlast
      obtain ⟨hbid, before, after, heq, hafter⟩ := hlast
      obtain ⟨last, hlastBid⟩ : ∃ last, entry.value.call = .bid last := strainBid_iff.mp hbid
      simp only [Option.any_some, decide_eq_true_eq]
      rw [← Nat.not_lt, BidValue.number_lt_iff_outranks hvalue hlastBid, not_iff_not]
      constructor
      · intro houtranks earlier hearlier other hother
        rw [heq, List.mem_append, List.mem_cons] at hearlier
        rcases hearlier with hbefore | rfl | hlater
        · exact houtranks.trans (hlegal.outranks heq hlastBid hbefore hother)
        · rw [Entry.tagged, hlastBid] at hother
          cases hother
          exact houtranks
        · exact absurd hother (not_strainBid_iff.mp (hafter earlier hlater) other)
      · intro hall
        exact hall entry.tagged (by simp [heq]) last hlastBid

theorem forbids_iff {dealer : Seat} {auction : Auction} (hlegal : Legal dealer auction.calls)
    (seat : Seat) (value : BidValue) :
    auction.forbids seat value = true ↔ ¬ Allowed auction.calls seat value.call := by
  unfold forbids
  cases hcall : value.call with
  | pass => simp [BidValue.isPass_iff.mpr hcall, Allowed]
  | double =>
      have notPass : ¬ value.isPass = true := by simp [BidValue.isPass_iff, hcall]
      rw [if_neg notPass, BidValue.doubling_eq_double_iff.mpr hcall]
      simp only [Bool.not_eq_true', ← Bool.not_eq_true, not_iff_not, facesOpposing_iff]
      constructor
      · rintro ⟨standing, hstands, hdoubling⟩
        obtain ⟨bid, hbid⟩ :=
          (BidValue.doubling_eq_none_iff hstands.1.value_ne_pass).mp hdoubling
        exact ⟨standing, bid, hstands, hbid⟩
      · rintro ⟨standing, bid, hstands, hbid⟩
        exact ⟨standing, hstands,
          (BidValue.doubling_eq_none_iff hstands.1.value_ne_pass).mpr ⟨bid, hbid⟩⟩
  | redouble =>
      have notPass : ¬ value.isPass = true := by simp [BidValue.isPass_iff, hcall]
      rw [if_neg notPass, BidValue.doubling_eq_redouble_iff.mpr hcall]
      simp only [Bool.not_eq_true', ← Bool.not_eq_true, facesOpposing_iff,
        BidValue.doubling_eq_double_iff, Allowed]
  | bid proposal =>
      have notPass : ¬ value.isPass = true := by simp [BidValue.isPass_iff, hcall]
      have doubling := (BidValue.doubling_eq_none_iff (by simp [hcall])).mpr ⟨proposal, hcall⟩
      rw [if_neg notPass, doubling]
      exact barred_iff hlegal hcall

end Auction

end ContractBridge
