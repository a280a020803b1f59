import ContractBridge.Proofs.Auction.Relabel
import ContractBridge.Proofs.Seat.Rotation

/-!
# Auctions on a turned table

When everybody moves the same number of seats clockwise, the same values are forbidden, the auction
ends at the same call and resolves to the same contract, declared by the seat that has moved along.
-/

namespace ContractBridge

variable (steps : Nat)

namespace TaggedBid

def rotate (bid : TaggedBid) : TaggedBid :=
  { bid with seat := bid.seat.rotate steps }

/-- The two high bits tag another seat, and the value stays. -/
def rotateCode (code : UInt8) : UInt8 :=
  UInt8.ofNat (code.toNat + 64 * steps)

def DecodeError.rotate : DecodeError → DecodeError
  | .unset code => .unset (rotateCode steps code)
  | .outOfRange code => .outOfRange (rotateCode steps code)

theorem decode_rotateCode (code : UInt8) :
    decode (rotateCode steps code) =
      match decode code with
      | .ok bid => .ok (bid.rotate steps)
      | .error error => .error (error.rotate steps) := by
  have toNat_rotateCode : (rotateCode steps code).toNat = (code.toNat + 64 * steps) % 256 :=
    UInt8.toNat_ofNat'
  have value_eq : (rotateCode steps code).toNat % 64 = code.toNat % 64 := by omega
  have seat_eq : Seat.ofIndex ((rotateCode steps code).toNat / 64) =
      (Seat.ofIndex (code.toNat / 64)).rotate steps := by
    apply Seat.index_injective
    rw [Seat.index_rotate, Seat.index_ofIndex, Seat.index_ofIndex]
    omega
  unfold decode
  rw [value_eq, seat_eq]
  split
  case isTrue => rfl
  case isFalse => cases BidValue.ofNumber? (code.toNat % 64) <;> rfl

end TaggedBid

def Entry.rotate (entry : Entry) : Entry :=
  { entry with seat := entry.seat.rotate steps }

theorem keepsSlots_rotate : KeepsSlots (Entry.rotate steps) :=
  fun _ => rfl

namespace Declaration

def rotate (declaration : Declaration) : Declaration where
  contract := declaration.contract
  bidder := declaration.bidder.rotate steps
  declarer := declaration.declarer.rotate steps
  dummy := declaration.dummy.rotate steps
  lead := declaration.lead.rotate steps
  defender := declaration.defender.rotate steps

theorem controller_rotate (declaration : Declaration) (seat : Seat) :
    (declaration.rotate steps).controller (seat.rotate steps) =
      (declaration.controller seat).rotate steps := by
  simp only [controller, rotate, Seat.rotate_eq_rotate_iff]
  split <;> rfl

theorem ofDeclarer_rotate (contract : Contract) (bidder declarer : Seat) :
    ofDeclarer contract (bidder.rotate steps) (declarer.rotate steps) =
      (ofDeclarer contract bidder declarer).rotate steps := by
  simp [ofDeclarer, rotate]

end Declaration

namespace Auction

def rotate (auction : Auction) : Auction where
  entries := auction.entries.map (Entry.rotate steps)
  firstBids := auction.firstBids.rotate steps

variable (auction : Auction) (seat : Seat) (value : BidValue)

@[simp] theorem rotate_empty : empty.rotate steps = empty := by
  simp [rotate, empty]

theorem firstBid?_rotate (strain : Strain) :
    (auction.rotate steps).firstBid? (seat.rotate steps) strain = auction.firstBid? seat strain := by
  simp [firstBid?, rotate]

theorem index_rotate (strain : Strain) (stamp : Nat) :
    (auction.rotate steps).index (seat.rotate steps) strain stamp =
      (auction.index seat strain stamp).rotate steps := by
  rw [index, index, firstBid?_rotate]
  cases auction.firstBid? seat strain with
  | some stored => rfl
  | none => simp [rotate]

theorem nextStamp_rotate : (auction.rotate steps).nextStamp = auction.nextStamp := by
  simp [nextStamp, length, rotate]

theorem append_rotate :
    (auction.rotate steps).append (seat.rotate steps) value =
      (auction.append seat value).rotate steps := by
  have hentries : (auction.rotate steps).entries ++
      [(auction.rotate steps).newEntry (seat.rotate steps) value] =
      (auction.entries ++ [auction.newEntry seat value]).map (Entry.rotate steps) := by
    simp [rotate, newEntry, nextStamp, length, Entry.rotate]
  unfold append
  rw [hentries, nextStamp_rotate, TaggedBid.strain?_eq, TaggedBid.strain?_eq]
  cases value.strain? with
  | none => rfl
  | some strain =>
      dsimp only
      rw [index_rotate]
      rfl

theorem status_rotate : (auction.rotate steps).status = auction.status :=
  status_relabel (keepsSlots_rotate steps) rfl

theorem forbids_rotate :
    (auction.rotate steps).forbids (seat.rotate steps) value = auction.forbids seat value := by
  have hfaces : ∀ doubling, (auction.rotate steps).facesOpposing (seat.rotate steps) doubling =
      auction.facesOpposing seat doubling := by
    intro doubling
    rw [facesOpposing, facesOpposing, lastCrucial?_relabel (keepsSlots_rotate steps) rfl]
    cases auction.lastCrucial? with
    | none => rfl
    | some entry => simp [Entry.rotate, Entry.doubling]
  have hbid : ((auction.rotate steps).lastStrainBid?.any fun entry =>
      value.number ≤ entry.value.number) =
      auction.lastStrainBid?.any fun entry => value.number ≤ entry.value.number := by
    rw [lastStrainBid?_relabel (keepsSlots_rotate steps) rfl]
    cases auction.lastStrainBid? <;> rfl
  simp only [forbids, hfaces, hbid]

theorem forbidden_rotate :
    (auction.rotate steps).forbidden (seat.rotate steps) = auction.forbidden seat :=
  forbidden_congr (auction.forbids_rotate steps seat)

theorem declarerFor_rotate (strain : Strain) :
    (auction.rotate steps).declarerFor (seat.rotate steps) strain =
      (auction.declarerFor seat strain).rotate steps := by
  unfold declarerFor
  rw [Seat.partner_rotate, firstBid?_rotate, firstBid?_rotate]
  cases auction.firstBid? seat strain with
  | none => cases auction.firstBid? seat.partner strain <;> rfl
  | some own =>
      cases auction.firstBid? seat.partner strain with
      | none => rfl
      | some partners =>
          dsimp only
          split <;> rfl

theorem declare_rotate (doubles : List Entry) (bid : Entry) :
    (auction.rotate steps).declare (doubles.map (Entry.rotate steps)) (bid.rotate steps) =
      (auction.declare doubles bid).map (Declaration.rotate steps) := by
  simp only [declare, TaggedBid.strain?_eq, standingPenalty_map (keepsSlots_rotate steps),
    Entry.rotate]
  cases bid.value.strain? with
  | none => rfl
  | some strain =>
      dsimp only
      cases Contract.new? bid.value.level strain (standingPenalty doubles) with
      | none => rfl
      | some contract =>
          dsimp only
          rw [declarerFor_rotate, Declaration.ofDeclarer_rotate]
          rfl

theorem resolve_rotate :
    (auction.rotate steps).resolve = auction.resolve.map (Declaration.rotate steps) := by
  unfold resolve
  rw [status_rotate, filter_crucial_relabel (keepsSlots_rotate steps) rfl,
    splitDoubles_map (keepsSlots_rotate steps)]
  cases auction.status with
  | ongoing | passedOut => rfl
  | settled =>
      cases splitDoubles (auction.entries.reverse.filter (·.value.isCrucial)) with
      | none => rfl
      | some split => exact auction.declare_rotate steps split.1 split.2

end Auction

end ContractBridge
