import ContractBridge.Proofs.Auction.Resolution

/-!
# Relabelled entries

Which entries are crucial, which are strain bids and when an auction ends is told from the places of
the values within their levels.  Whatever else is changed in the entries, the ledger finds the same
ones.
-/

namespace ContractBridge

/-- A change of entries that keeps the place of every value within its level. -/
def KeepsSlots (f : Entry → Entry) : Prop :=
  ∀ entry, (f entry).value.slot = entry.value.slot

namespace KeepsSlots

variable {f : Entry → Entry} (h : KeepsSlots f) (entry : Entry)

include h

theorem isPass : (f entry).isPass = entry.isPass := by
  rw [Entry.isPass, BidValue.isPass, h, Entry.isPass, BidValue.isPass]

theorem isCrucial : (f entry).value.isCrucial = entry.value.isCrucial :=
  congrArg not (h.isPass entry)

theorem isDouble : (f entry).value.isDouble = entry.value.isDouble := by
  rw [BidValue.isDouble, h, BidValue.isDouble]

theorem isRedouble : (f entry).value.isRedouble = entry.value.isRedouble := by
  rw [BidValue.isRedouble, h, BidValue.isRedouble]

theorem isStrainBid : (f entry).isStrainBid = entry.isStrainBid := by
  rw [Entry.isStrainBid, h.isCrucial, h.isDouble, Entry.isStrainBid]

theorem doubling : (f entry).doubling = entry.doubling := by
  simp only [Entry.doubling, Doubling.ofValue, h.isRedouble, h.isDouble]

theorem comp_isCrucial : (·.value.isCrucial) ∘ f = (·.value.isCrucial) :=
  funext h.isCrucial

end KeepsSlots

namespace Auction

section Relabel

variable {f : Entry → Entry} (hf : KeepsSlots f) {auction relabelled : Auction}
  (h : relabelled.entries = auction.entries.map f)

include hf h

theorem status_relabel : relabelled.status = auction.status := by
  unfold status
  rw [h, ← List.map_reverse]
  match auction.entries.reverse with
  | last :: second :: third :: fourth :: rest => simp [hf.isPass]
  | [] | [_] | [_, _] | [_, _, _] => rfl

theorem lastCrucial?_relabel : relabelled.lastCrucial? = auction.lastCrucial?.map f := by
  rw [lastCrucial?, lastCrucial?, h, ← List.map_reverse, List.find?_map, hf.comp_isCrucial]

theorem lastStrainBid?_relabel : relabelled.lastStrainBid? = auction.lastStrainBid?.map f := by
  have hstrain : Entry.isStrainBid ∘ f = Entry.isStrainBid := funext hf.isStrainBid
  rw [lastStrainBid?, lastStrainBid?, h, ← List.map_reverse, List.find?_map, hstrain]

theorem filter_crucial_relabel :
    relabelled.entries.reverse.filter (·.value.isCrucial) =
      (auction.entries.reverse.filter (·.value.isCrucial)).map f := by
  rw [h, ← List.map_reverse, List.filter_map, hf.comp_isCrucial]

end Relabel

theorem forbidden_congr {auction other : Auction} {seat seat' : Seat}
    (h : ∀ value, auction.forbids seat value = other.forbids seat' value) :
    auction.forbidden seat = other.forbidden seat' := by
  have hforbids : auction.forbids seat = other.forbids seat' := funext h
  rw [forbidden, hforbids, forbidden]

section Split

variable {f : Entry → Entry} (hf : KeepsSlots f)

include hf

theorem splitDoubles_map (entries : List Entry) :
    splitDoubles (entries.map f) =
      (splitDoubles entries).map fun (doubles, bid) => (doubles.map f, f bid) := by
  induction entries with
  | nil => rfl
  | cons entry entries ih =>
      simp only [List.map_cons, splitDoubles, hf.doubling]
      split
      case isTrue => rfl
      case isFalse =>
        rw [ih, Option.map_map, Option.map_map]
        rfl

theorem standingPenalty_map (doubles : List Entry) :
    standingPenalty (doubles.map f) = standingPenalty doubles := by
  cases doubles with
  | nil => rfl
  | cons latest => simp [standingPenalty, hf.doubling]

end Split

end Auction

end ContractBridge
