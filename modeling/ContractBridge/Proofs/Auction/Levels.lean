import ContractBridge.Proofs.Auction.Relabel

/-!
# The level of a pass, double or redouble

Every level of the box has a pass, a double and a redouble of its own, but nothing in an auction
asks for their level.  With all of them taken from level one it forbids the same values, ends at the
same call and resolves to the same declaration.
-/

namespace ContractBridge

def Call.slot : Call → Nat
  | .pass => 0
  | .double => 6
  | .redouble => 7
  | .bid proposal => proposal.strain.slot

namespace BidValue

theorem slot_call (value : BidValue) : value.call.slot = value.slot := by
  rcases value.slot_cases with h | ⟨strain, h⟩ | h | h
  · rw [call_of_pass h, h, Call.slot]
  · rw [call_of_strain h, h, Call.slot]
  · rw [call_of_double h, h, Call.slot]
  · rw [call_of_redouble h, h, Call.slot]

theorem slot_eq_of_call_eq {value other : BidValue} (h : value.call = other.call) :
    value.slot = other.slot := by
  rw [← slot_call, h, slot_call]

/-- The same call at level one; a strain bid has a level of its own. -/
def plain (value : BidValue) : BidValue :=
  match value.call with
  | .bid _ => value
  | _ => ⟨value.slot + 1, Nat.succ_pos _, Nat.le_trans value.slot_lt (by decide)⟩

theorem plain_of_bid {value : BidValue} {bid : Bid} (h : value.call = .bid bid) :
    value.plain = value := by
  rw [plain, h]

@[simp] theorem slot_plain (value : BidValue) : value.plain.slot = value.slot := by
  unfold plain
  split
  case h_1 => rfl
  case h_2 => exact Nat.mod_eq_of_lt value.slot_lt

@[simp] theorem strain?_plain (value : BidValue) : value.plain.strain? = value.strain? := by
  rw [strain?, slot_plain, strain?]

@[simp] theorem isPass_plain (value : BidValue) : value.plain.isPass = value.isPass := by
  rw [isPass, slot_plain, isPass]

@[simp] theorem isDouble_plain (value : BidValue) : value.plain.isDouble = value.isDouble := by
  rw [isDouble, slot_plain, isDouble]

@[simp] theorem isRedouble_plain (value : BidValue) :
    value.plain.isRedouble = value.isRedouble := by
  rw [isRedouble, slot_plain, isRedouble]

@[simp] theorem doubling_plain (value : BidValue) :
    Doubling.ofValue value.plain = Doubling.ofValue value := by
  simp [Doubling.ofValue]

@[simp] theorem call_plain (value : BidValue) : value.plain.call = value.call := by
  cases hcall : value.call with
  | bid proposal => rw [plain_of_bid hcall, hcall]
  | pass => rw [← isPass_iff, isPass_plain, isPass_iff, hcall]
  | double => rw [← doubling_eq_double_iff, doubling_plain, doubling_eq_double_iff, hcall]
  | redouble => rw [← doubling_eq_redouble_iff, doubling_plain, doubling_eq_redouble_iff, hcall]

theorem plain_eq_iff {value other : BidValue} :
    value.plain = other.plain ↔ value.call = other.call := by
  constructor
  · intro h
    rw [← call_plain value, h, call_plain]
  · intro h
    have hslot := slot_eq_of_call_eq h
    cases hcall : value.call with
    | bid proposal =>
        have hcall' := h.symm.trans hcall
        rw [plain_of_bid hcall, plain_of_bid hcall']
        apply ext_number
        rw [number_eq value, number_eq other, hslot, (call_eq_bid_iff.mp hcall).1,
          (call_eq_bid_iff.mp hcall').1]
    | pass | double | redouble => simp [plain, hcall, h.symm.trans hcall, hslot]

end BidValue

def Entry.plain (entry : Entry) : Entry :=
  { entry with value := entry.value.plain }

theorem keepsSlots_plain : KeepsSlots Entry.plain :=
  fun entry => entry.value.slot_plain

theorem Entry.plain_of_isStrainBid {entry : Entry} (h : entry.isStrainBid = true) :
    entry.plain = entry := by
  obtain ⟨bid, hbid⟩ := Auction.strainBid_iff.mp h
  rw [plain, BidValue.plain_of_bid hbid]

namespace Auction

def plain (auction : Auction) : Auction :=
  { auction with entries := auction.entries.map Entry.plain }

section Plain

variable (auction : Auction) (seat : Seat) (value : BidValue)

theorem append_plain :
    auction.plain.append seat value.plain = (auction.append seat value).plain := by
  simp [append, plain, newEntry, nextStamp, length, index, firstBid?, Entry.plain]

theorem status_plain : auction.plain.status = auction.status :=
  status_relabel keepsSlots_plain rfl

theorem lastStrainBid?_plain : auction.plain.lastStrainBid? = auction.lastStrainBid? := by
  rw [lastStrainBid?_relabel keepsSlots_plain rfl]
  cases hlast : auction.lastStrainBid? with
  | none => rfl
  | some entry =>
      rw [Option.map_some, Entry.plain_of_isStrainBid (List.find?_some hlast)]

theorem facesOpposing_plain (doubling : Doubling) :
    auction.plain.facesOpposing seat doubling = auction.facesOpposing seat doubling := by
  rw [facesOpposing, facesOpposing, lastCrucial?_relabel keepsSlots_plain rfl]
  cases auction.lastCrucial? with
  | none => rfl
  | some entry => simp [Entry.plain, Entry.doubling]

theorem forbids_plain_auction : auction.plain.forbids seat value = auction.forbids seat value := by
  simp only [forbids, lastStrainBid?_plain, facesOpposing_plain]

theorem forbids_plain_value : auction.forbids seat value.plain = auction.forbids seat value := by
  cases hcall : value.call with
  | bid proposal => rw [BidValue.plain_of_bid hcall]
  | pass => simp [forbids, BidValue.isPass_iff.mpr hcall]
  | double => simp [forbids, BidValue.doubling_eq_double_iff.mpr hcall]
  | redouble => simp [forbids, BidValue.doubling_eq_redouble_iff.mpr hcall]

theorem forbidden_plain : auction.plain.forbidden seat = auction.forbidden seat :=
  forbidden_congr (auction.forbids_plain_auction seat)

theorem resolve_plain : auction.plain.resolve = auction.resolve := by
  unfold resolve
  rw [status_plain, filter_crucial_relabel keepsSlots_plain rfl, splitDoubles_map keepsSlots_plain]
  cases auction.status with
  | ongoing | passedOut => rfl
  | settled =>
      cases hsplit : splitDoubles (auction.entries.reverse.filter (·.value.isCrucial)) with
      | none => rfl
      | some split =>
          obtain ⟨doubles, bid⟩ := split
          obtain ⟨hbid, -, rest, hentries⟩ := splitDoubles_eq_some hsplit
          have hmem : bid ∈ auction.entries.reverse.filter (·.value.isCrucial) := by
            simp [hentries]
          have hloud := BidValue.isCrucial_iff.mp (List.mem_filter.mp hmem).2
          have hstrain : bid.isStrainBid = true :=
            strainBid_iff.mpr ((BidValue.doubling_eq_none_iff hloud).mp hbid)
          simp only [Option.map_some, Entry.plain_of_isStrainBid hstrain, declare,
            standingPenalty_map keepsSlots_plain]
          rfl

end Plain

end Auction

end ContractBridge
