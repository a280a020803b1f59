import ContractBridge.Proofs.Auction.Ending

/-!
# Settled auctions resolve

Doubles and redoubles need a bid to answer, so that legal calls other than passes always rest on a
strain bid.  A settled auction has such a call and therefore a contract.
-/

namespace ContractBridge

namespace Auction

theorem Standing.mem {calls : List TaggedBid} {standing : TaggedBid}
    (h : Standing calls standing) : standing ∈ calls := by
  obtain ⟨earlier, passes, rfl, -⟩ := h
  simp

theorem Legal.exists_bid {dealer : Seat} {calls : List TaggedBid} (h : Legal dealer calls)
    {call : TaggedBid} (hmem : call ∈ calls) (hcall : call.value.call ≠ .pass) :
    ∃ earlier ∈ calls, ∃ bid, earlier.value.call = .bid bid := by
  induction hlength : calls.length using Nat.strongRecOn generalizing calls call with
  | ind count ih =>
      subst hlength
      obtain ⟨before, after, rfl⟩ := List.append_of_mem hmem
      obtain ⟨-, hallowed⟩ := h before call after rfl
      cases hkind : call.value.call with
      | pass => exact absurd hkind hcall
      | bid proposal => exact ⟨call, hmem, proposal, hkind⟩
      | double =>
          rw [hkind] at hallowed
          obtain ⟨standing, bid, hstands, hbid⟩ := hallowed
          exact ⟨standing, List.mem_append_left _ hstands.1.mem, bid, hbid⟩
      | redouble =>
          rw [hkind] at hallowed
          obtain ⟨standing, hstands, hdouble⟩ := hallowed
          have shorter : before.length < (before ++ call :: after).length := by simp
          obtain ⟨earlier, hearlier, hbid⟩ :=
            ih before.length shorter h.of_append hstands.1.mem (by simp [hdouble]) rfl
          exact ⟨earlier, List.mem_append_left _ hearlier, hbid⟩

theorem splitDoubles_eq_none_iff {entries : List Entry} :
    splitDoubles entries = none ↔ ∀ entry ∈ entries, entry.doubling ≠ .none := by
  induction entries with
  | nil => simp [splitDoubles]
  | cons first rest ih =>
      unfold splitDoubles
      split
      case isTrue hfirst => simp [hfirst]
      case isFalse hfirst => simp [hfirst, ih]

theorem splitDoubles_eq_some {entries doubles : List Entry} {bid : Entry}
    (h : splitDoubles entries = some (doubles, bid)) :
    bid.doubling = .none ∧ (∀ entry ∈ doubles, entry.doubling ≠ .none) ∧
      ∃ rest, entries = doubles ++ bid :: rest := by
  induction entries generalizing doubles with
  | nil => simp [splitDoubles] at h
  | cons first rest ih =>
      unfold splitDoubles at h
      split at h
      case isTrue hfirst =>
        cases h
        exact ⟨hfirst, by simp, rest, rfl⟩
      case isFalse hfirst =>
        obtain ⟨⟨later, last⟩, hsplit, heq⟩ := Option.map_eq_some_iff.mp h
        cases heq
        obtain ⟨hlast, hlater, remaining, rfl⟩ := ih hsplit
        refine ⟨hlast, ?_, remaining, rfl⟩
        intro entry hentry
        rcases List.mem_cons.mp hentry with rfl | hentry
        · exact hfirst
        · exact hlater entry hentry

/-- A strain bid names a strain and a level of the box, so that nothing can go wrong with it. -/
theorem declare_eq_ok (auction : Auction) (doubles : List Entry) {entry : Entry} {bid : Bid}
    (h : entry.value.call = .bid bid) :
    auction.declare doubles entry =
      .ok (.ofDeclarer ⟨bid, standingPenalty doubles⟩ entry.seat
        (auction.declarerFor entry.seat bid.strain)) := by
  obtain ⟨level_eq, -⟩ := BidValue.call_eq_bid_iff.mp h
  have hstrain : entry.value.strain? = some bid.strain := by
    rw [BidValue.strain?_eq_some_iff, level_eq]
    exact h
  have hlevel : Bid.IsLevel entry.value.level := ⟨entry.value.level_pos, entry.value.level_le⟩
  rw [level_eq] at hlevel
  simp [declare, hstrain, Contract.new?, Bid.new?, level_eq, hlevel]

theorem exists_not_pass_of_settled {auction : Auction} (h : auction.status = .settled) :
    ∃ call ∈ auction.calls, call.value.call ≠ .pass := by
  have hlength : 4 ≤ auction.length := by
    apply Nat.not_lt.mp
    intro hshort
    rw [status_of_short hshort] at h
    cases h
  obtain ⟨rest, fourth, third, second, last, hentries⟩ := exists_last_four hlength
  rw [status_of_last_four hentries] at h
  split at h
  case isFalse => cases h
  case isTrue =>
    split at h
    case isTrue => cases h
    case isFalse hfourth =>
      refine ⟨fourth.tagged, by simp [calls, hentries], ?_⟩
      simpa [Entry.tagged, Entry.isPass, BidValue.isPass_iff] using hfourth

theorem status_eq_settled_iff {dealer : Seat} {auction : Auction} {earlier : List TaggedBid}
    {call : TaggedBid} (hopen : Underway dealer earlier)
    (hcalls : auction.calls = earlier ++ [call]) (hlegal : LegalAfter dealer earlier call) :
    auction.status = .settled ↔
      Ended auction.calls ∧ ∃ call ∈ auction.calls, ∃ bid, call.value.call = .bid bid := by
  have passedOut_iff := status_eq_passedOut_iff hopen hcalls
  have ongoing_iff := @status_eq_ongoing_iff auction
  constructor
  · intro hstatus
    rw [hstatus] at ongoing_iff
    have legal : Legal dealer auction.calls := by
      rw [hcalls]
      exact legal_concat_iff.mpr ⟨hopen.1, hlegal⟩
    obtain ⟨loud, hloud, hkind⟩ := exists_not_pass_of_settled hstatus
    exact ⟨by simpa using ongoing_iff, legal.exists_bid hloud hkind⟩
  · rintro ⟨hended, loud, hloud, bid, hbid⟩
    cases hstatus : auction.status with
    | ongoing => exact absurd hended (ongoing_iff.mp hstatus)
    | settled => rfl
    | passedOut =>
        have hpass := (passedOut_iff.mp hstatus).2 loud hloud
        rw [hbid] at hpass
        cases hpass

theorem resolve_of_settled {dealer : Seat} {auction : Auction}
    (hlegal : Legal dealer auction.calls) (hstatus : auction.status = .settled) :
    ∃ declaration, auction.resolve = .ok declaration := by
  obtain ⟨call, hcall, hkind⟩ := exists_not_pass_of_settled hstatus
  obtain ⟨earlier, hearlier, proposal, hproposal⟩ := hlegal.exists_bid hcall hkind
  obtain ⟨entry, hentry, rfl⟩ := List.mem_map.mp hearlier
  replace hproposal : entry.value.call = .bid proposal := hproposal
  have hnotPass : entry.value.call ≠ .pass := by simp [hproposal]
  have hcrucial : entry ∈ auction.entries.reverse.filter (·.value.isCrucial) := by
    simp [hentry, BidValue.isCrucial_iff, hnotPass]
  unfold resolve
  rw [hstatus]
  cases hsplit : splitDoubles (auction.entries.reverse.filter (·.value.isCrucial)) with
  | none =>
      refine absurd ?_ (splitDoubles_eq_none_iff.mp hsplit entry hcrucial)
      exact (BidValue.doubling_eq_none_iff hnotPass).mpr ⟨proposal, hproposal⟩
  | some split =>
      obtain ⟨doubles, bid⟩ := split
      obtain ⟨hdoubling, -, rest, heq⟩ := splitDoubles_eq_some hsplit
      have hbid : bid ∈ auction.entries.reverse.filter (·.value.isCrucial) := by simp [heq]
      have hcall := BidValue.isCrucial_iff.mp (List.mem_filter.mp hbid).2
      obtain ⟨contract, hcontract⟩ := (BidValue.doubling_eq_none_iff hcall).mp hdoubling
      exact ⟨_, declare_eq_ok auction doubles hcontract⟩

theorem isLevel_of_resolve {auction : Auction} {declaration : Declaration}
    (h : auction.resolve = .ok declaration) : Bid.IsLevel declaration.contract.bid.level := by
  unfold resolve at h
  split at h
  case h_2 => cases h
  case h_1 =>
    split at h
    case h_1 => cases h
    case h_2 doubles bid _ =>
      unfold declare at h
      split at h
      case h_1 => cases h
      case h_2 strain _ =>
        split at h
        case h_1 => cases h
        case h_2 contract hcontract =>
          cases h
          obtain ⟨proposal, hproposal, rfl⟩ := Option.map_eq_some_iff.mp hcontract
          unfold Bid.new? at hproposal
          split at hproposal
          case isTrue hlevel =>
            cases hproposal
            exact hlevel
          case isFalse => cases hproposal

end Auction

end ContractBridge
