import ContractBridge.Auction.Declaration
import ContractBridge.Proofs.Auction.Legality

/-!
# How auctions end

The ledger sees the end of an auction in its last four entries.  On legal calls that window is
enough: four passes can only be the whole auction, and an auction that ends otherwise has a strain
bid, so that it resolves to a contract.
-/

namespace ContractBridge

namespace Auction

/-- Three passes in a row end an auction, but not before its fourth call. -/
def Ended (calls : List TaggedBid) : Prop :=
  4 ≤ calls.length ∧ ∀ call ∈ calls.drop (calls.length - 3), call.value.call = .pass

def PassedOut (calls : List TaggedBid) : Prop :=
  calls.length = 4 ∧ ∀ call ∈ calls, call.value.call = .pass

/-- Legal calls that have not come to an end at any time, themselves included. -/
def Underway (dealer : Seat) (calls : List TaggedBid) : Prop :=
  Legal dealer calls ∧ ∀ first, first <+: calls → ¬ Ended first

theorem not_ended_nil : ¬ Ended [] := by
  simp [Ended]

theorem underway_nil (dealer : Seat) : Underway dealer [] := by
  refine ⟨legal_nil dealer, ?_⟩
  intro first hfirst
  rw [List.prefix_nil.mp hfirst]
  exact not_ended_nil

theorem underway_concat_iff {dealer : Seat} {calls : List TaggedBid} {call : TaggedBid} :
    Underway dealer (calls ++ [call]) ↔
      Underway dealer calls ∧ LegalAfter dealer calls call ∧ ¬ Ended (calls ++ [call]) := by
  unfold Underway
  rw [legal_concat_iff]
  constructor
  · rintro ⟨⟨hlegal, hcall⟩, hopen⟩
    refine ⟨⟨hlegal, ?_⟩, hcall, hopen _ (List.prefix_refl _)⟩
    intro first hfirst
    exact hopen first (hfirst.trans (List.prefix_append _ _))
  · rintro ⟨⟨hlegal, hopen⟩, hcall, hlast⟩
    refine ⟨⟨hlegal, hcall⟩, ?_⟩
    intro first hfirst
    rcases List.prefix_concat_iff.mp hfirst with rfl | hfirst
    · exact hlast
    · exact hopen first hfirst

theorem exists_last_four {α : Type} {list : List α} (h : 4 ≤ list.length) :
    ∃ rest fourth third second last, list = rest ++ [fourth, third, second, last] := by
  have hlength : (list.drop (list.length - 4)).length = 4 := by
    rw [List.length_drop]
    omega
  match hdrop : list.drop (list.length - 4), hlength with
  | [fourth, third, second, last], _ =>
      refine ⟨list.take (list.length - 4), fourth, third, second, last, ?_⟩
      rw [← hdrop, List.take_append_drop]

theorem ended_append_iff {rest : List TaggedBid} {fourth third second last : TaggedBid} :
    Ended (rest ++ [fourth, third, second, last]) ↔
      third.value.call = .pass ∧ second.value.call = .pass ∧ last.value.call = .pass := by
  have hdrop : (rest ++ [fourth, third, second, last]).drop
      ((rest ++ [fourth, third, second, last]).length - 3) = [third, second, last] := by
    rw [List.drop_append]
    simp
  unfold Ended
  rw [hdrop]
  simp

theorem status_of_short {auction : Auction} (h : auction.length < 4) :
    auction.status = .ongoing := by
  unfold status
  split
  case h_1 last second third fourth rest heq =>
    have hlength := congrArg List.length heq
    rw [List.length_reverse] at hlength
    simp only [length, List.length_cons] at h hlength
    omega
  case h_2 => rfl

theorem status_of_last_four {auction : Auction} {rest : List Entry}
    {fourth third second last : Entry}
    (h : auction.entries = rest ++ [fourth, third, second, last]) :
    auction.status =
      if third.isPass && second.isPass && last.isPass then
        if fourth.isPass then .passedOut else .settled
      else .ongoing := by
  simp [status, h]

theorem status_eq_ongoing_iff {auction : Auction} :
    auction.status = .ongoing ↔ ¬ Ended auction.calls := by
  by_cases hlength : auction.length < 4
  · have short : ¬ Ended auction.calls := by
      rintro ⟨hfour, -⟩
      simp only [calls, List.length_map, length] at hfour hlength
      omega
    simp [status_of_short hlength, short]
  · obtain ⟨rest, fourth, third, second, last, hentries⟩ :=
      exists_last_four (Nat.not_lt.mp hlength)
    have hcalls : auction.calls =
        rest.map Entry.tagged ++ [fourth.tagged, third.tagged, second.tagged, last.tagged] := by
      simp [calls, hentries]
    have hended : Ended auction.calls ↔
        (third.isPass && second.isPass && last.isPass) = true := by
      rw [hcalls, ended_append_iff]
      simp [Entry.tagged, Entry.isPass, BidValue.isPass_iff, and_assoc]
    rw [status_of_last_four hentries, hended]
    split
    case isTrue hthree => split <;> simp [hthree]
    case isFalse hthree => simp [hthree]

/-- Once every earlier window was open, four passes at the end are the whole auction. -/
theorem status_eq_passedOut_iff {dealer : Seat} {auction : Auction} {earlier : List TaggedBid}
    {call : TaggedBid} (hopen : Underway dealer earlier)
    (hcalls : auction.calls = earlier ++ [call]) :
    auction.status = .passedOut ↔ PassedOut auction.calls := by
  by_cases hlength : auction.length < 4
  · have short : auction.calls.length ≠ 4 := by
      simp only [calls, List.length_map, length] at hlength ⊢
      omega
    simp [status_of_short hlength, PassedOut, short]
  · obtain ⟨rest, fourth, third, second, last, hentries⟩ :=
      exists_last_four (Nat.not_lt.mp hlength)
    have hlast : auction.calls =
        (rest.map Entry.tagged ++ [fourth.tagged, third.tagged, second.tagged]) ++
          [last.tagged] := by
      simp [calls, hentries]
    rw [status_of_last_four hentries]
    constructor
    · intro hstatus
      simp only [Entry.isPass, Bool.and_eq_true, BidValue.isPass_iff] at hstatus
      split at hstatus
      case isFalse => simp at hstatus
      case isTrue hthree =>
        split at hstatus
        case isFalse => simp at hstatus
        case isTrue hfourth =>
          rcases List.eq_nil_or_concat rest with rfl | ⟨rest, fifth, rfl⟩
          · simp [hlast, PassedOut, Entry.tagged, hfourth, hthree]
          · obtain ⟨rfl, -⟩ := List.append_inj' (hcalls.symm.trans hlast) rfl
            have hearlier : Ended (rest.map Entry.tagged ++
                [fifth.tagged, fourth.tagged, third.tagged, second.tagged]) :=
              ended_append_iff.mpr ⟨hfourth, hthree.1.1, hthree.1.2⟩
            refine absurd hearlier (hopen.2 _ ?_)
            simp
    · rintro ⟨hfour, hpasses⟩
      have hpass : ∀ entry ∈ [fourth, third, second, last], entry.isPass = true := by
        intro entry hentry
        refine BidValue.isPass_iff.mpr (hpasses entry.tagged ?_)
        rw [calls, hentries]
        exact List.mem_map_of_mem (List.mem_append_right rest hentry)
      simp [hpass fourth, hpass third, hpass second, hpass last]

end Auction

end ContractBridge
