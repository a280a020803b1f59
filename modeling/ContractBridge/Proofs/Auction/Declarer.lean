import ContractBridge.Proofs.Auction.Contract

/-!
# The declarer

The index of an auction holds for each seat and strain the stamp of the earliest entry in which the
seat names the strain.  While stamps tell the entries apart, comparing the two stamps of a side
finds the earliest of its calls in that strain, whoever made the last one.
-/

namespace ContractBridge

theorem Seat.side_eq_iff {seat other : Seat} :
    other.side = seat.side ↔ other = seat ∨ other = seat.partner := by
  cases seat <;> cases other <;> decide

def Entry.names (seat : Seat) (strain : Strain) (entry : Entry) : Bool :=
  entry.seat == seat && entry.value.strain? == some strain

theorem Entry.names_iff {entry : Entry} {seat : Seat} {strain : Strain} :
    entry.names seat strain = true ↔ entry.seat = seat ∧ entry.value.strain? = some strain := by
  simp [names]

namespace Auction

/-- Stamps count the entries, and the index remembers the earliest entry of each kind. -/
structure Indexed (auction : Auction) : Prop where
  stamps : auction.entries.map Entry.stamp = (List.range auction.length).map (· % UInt32.size)
  firstBids : ∀ seat strain, auction.firstBid? seat strain =
    (auction.entries.find? (Entry.names seat strain)).map Entry.stamp

theorem indexed_empty : empty.Indexed where
  stamps := rfl
  firstBids seat strain := by simp [firstBid?, empty]

theorem get_index (auction : Auction) (seat : Seat) (named : Strain) (stamp : Nat) (other : Seat)
    (strain : Strain) :
    ((auction.index seat named stamp).get other).get strain =
      (auction.firstBid? other strain).or
        (if seat = other ∧ named = strain then some stamp else none) := by
  unfold index
  split
  case h_1 stored hstored =>
    split
    case isTrue hsame =>
      obtain ⟨rfl, rfl⟩ := hsame
      rw [hstored, Option.some_or]
      exact hstored
    case isFalse => rw [Option.or_none, firstBid?]
  case h_2 hunnamed =>
    rw [BySeat.get_set]
    split
    case isFalse hseat => simp [firstBid?, hseat]
    case isTrue hseat =>
      subst hseat
      rw [ByStrain.get_set]
      split
      case isFalse hstrain => simp [firstBid?, hstrain]
      case isTrue hstrain =>
        subst hstrain
        simp [hunnamed]

theorem firstBid?_append (auction : Auction) (seat : Seat) (value : BidValue) (other : Seat)
    (strain : Strain) :
    (auction.append seat value).firstBid? other strain =
      (auction.firstBid? other strain).or
        (if seat = other ∧ value.strain? = some strain then some auction.nextStamp else none) := by
  unfold append
  simp only [TaggedBid.strain?_eq]
  cases hvalue : value.strain? with
  | none => simp [firstBid?]
  | some named =>
      simp only [Option.some.injEq]
      exact get_index ..

theorem Indexed.append {auction : Auction} (h : auction.Indexed) (seat : Seat) (value : BidValue) :
    (auction.append seat value).Indexed := by
  constructor
  case stamps =>
    rw [entries_append, List.map_append, h.stamps, length_append, List.range_succ, List.map_append]
    rfl
  case firstBids =>
    intro other strain
    rw [firstBid?_append, h.firstBids, entries_append, List.find?_append, Option.map_or]
    congr 1
    have hnames : (auction.newEntry seat value).names other strain = true ↔
        seat = other ∧ value.strain? = some strain := Entry.names_iff
    simp only [List.find?_singleton, hnames]
    split <;> rfl

theorem find?_or_of_sorted {entries : List Entry}
    (sorted : entries.Pairwise fun entry later => entry.stamp < later.stamp)
    (p q : Entry → Bool) :
    entries.find? (fun entry => p entry || q entry) =
      match entries.find? p, entries.find? q with
      | some own, some other => if other.stamp < own.stamp then some other else some own
      | none, some other => some other
      | own?, none => own? := by
  induction sorted with
  | nil => rfl
  | @cons first rest hfirst _ ih =>
      simp only [List.find?_cons]
      cases hp : p first with
      | true =>
          cases hq : q first with
          | true => simp
          | false =>
              cases hother : rest.find? q with
              | none => rfl
              | some other =>
                  have later := hfirst other (List.mem_of_find?_eq_some hother)
                  simp [Nat.not_lt.mpr (Nat.le_of_lt later)]
      | false =>
          cases hq : q first with
          | true =>
              cases hown : rest.find? p with
              | none => rfl
              | some own =>
                  have later := hfirst own (List.mem_of_find?_eq_some hown)
                  simp [later]
          | false => simpa using ih

theorem Indexed.stamps_eq_range {auction : Auction} (h : auction.Indexed)
    (hshort : auction.length ≤ UInt32.size) :
    auction.entries.map Entry.stamp = List.range auction.length := by
  rw [h.stamps]
  refine (List.map_congr_left ?_).trans (List.map_id _)
  intro place hplace
  exact Nat.mod_eq_of_lt (Nat.lt_of_lt_of_le (List.mem_range.mp hplace) hshort)

theorem Indexed.sorted {auction : Auction} (h : auction.Indexed)
    (hshort : auction.length ≤ UInt32.size) :
    auction.entries.Pairwise fun entry later => entry.stamp < later.stamp := by
  have sorted : (auction.entries.map Entry.stamp).Pairwise (· < ·) := by
    rw [h.stamps_eq_range hshort]
    exact List.pairwise_lt_range
  exact List.pairwise_map.mp sorted

/-- The declarer is the seat of the earliest entry of either partner that names the strain. -/
theorem Indexed.declarerFor_eq {auction : Auction} (h : auction.Indexed)
    (hshort : auction.length ≤ UInt32.size) {bidder : Seat} {strain : Strain} {entry : Entry}
    (hentry : entry ∈ auction.entries) (hnames : entry.names bidder strain = true) :
    ∃ first, first.seat = auction.declarerFor bidder strain ∧
      auction.entries.find? (fun entry =>
        entry.names bidder strain || entry.names bidder.partner strain) = some first := by
  rw [find?_or_of_sorted (h.sorted hshort)]
  simp only [declarerFor, h.firstBids]
  cases hown : auction.entries.find? (Entry.names bidder strain) with
  | none => exact absurd hnames (List.find?_eq_none.mp hown entry hentry)
  | some own =>
      have own_seat := (Entry.names_iff.mp (List.find?_some hown)).1
      cases hother : auction.entries.find? (Entry.names bidder.partner strain) with
      | none => exact ⟨own, own_seat, rfl⟩
      | some other =>
          have other_seat := (Entry.names_iff.mp (List.find?_some hother)).1
          simp only [Option.map_some]
          split
          case isTrue => exact ⟨other, other_seat, rfl⟩
          case isFalse => exact ⟨own, own_seat, rfl⟩

/-! ## The declaration that the laws prescribe -/

def NamesStrain (call : TaggedBid) (strain : Strain) : Prop :=
  ∃ level, call.value.call = .bid ⟨level, strain⟩

theorem namesStrain_iff {call : TaggedBid} {strain : Strain} :
    NamesStrain call strain ↔ call.value.strain? = some strain := by
  rw [BidValue.strain?_eq_some_iff]
  constructor
  · rintro ⟨level, hcall⟩
    obtain ⟨rfl, -⟩ := BidValue.call_eq_bid_iff.mp hcall
    exact hcall
  · intro hcall
    exact ⟨_, hcall⟩

/-- What the laws make of a list of calls.  The contract is the highest bid with what answered it,
and the declarer is the first of the side that made it to have named its strain. -/
structure Prescribes (calls : List TaggedBid) (declaration : Declaration) : Prop where
  contract : ∃ before highest after, calls = before ++ highest :: after ∧
    highest.seat = declaration.bidder ∧
    highest.value.call = .bid declaration.contract.bid ∧
    (∀ call ∈ before ++ after, ∀ bid, call.value.call = .bid bid →
      declaration.contract.bid.Outranks bid) ∧
    Answers declaration.declarer.side (crucial after) declaration.contract.penalty
  declarer : ∃ before first after, calls = before ++ first :: after ∧
    first.seat = declaration.declarer ∧ first.seat.side = declaration.bidder.side ∧
    NamesStrain first declaration.strain ∧
    ∀ call ∈ before, call.seat.side = declaration.bidder.side →
      ¬ NamesStrain call declaration.strain
  dummy : declaration.dummy = declaration.declarer.partner
  lead : declaration.lead = declaration.declarer.next
  defender : declaration.defender = declaration.lead.partner
  sides : ∀ seat : Seat, seat.side = declaration.declarer.side ↔
    seat = declaration.declarer ∨ seat = declaration.dummy
  distinct : [declaration.declarer, declaration.lead, declaration.dummy,
    declaration.defender].Nodup

theorem Indexed.exists_first {auction : Auction} (h : auction.Indexed)
    (hshort : auction.length ≤ UInt32.size) {bid : TaggedBid} (hbid : bid ∈ auction.calls)
    {strain : Strain} (hnames : NamesStrain bid strain) :
    ∃ before first after, auction.calls = before ++ first :: after ∧
      first.seat = auction.declarerFor bid.seat strain ∧ first.seat.side = bid.seat.side ∧
      NamesStrain first strain ∧
      ∀ call ∈ before, call.seat.side = bid.seat.side → ¬ NamesStrain call strain := by
  obtain ⟨entry, hentry, hbid⟩ := List.mem_map.mp hbid
  have hentryNames : entry.names bid.seat strain = true := by
    rw [← hbid] at hnames ⊢
    exact Entry.names_iff.mpr ⟨rfl, namesStrain_iff.mp hnames⟩
  obtain ⟨first, hseat, hfind⟩ := h.declarerFor_eq hshort hentry hentryNames
  have names_iff : ∀ entry : Entry,
      (entry.names bid.seat strain || entry.names bid.seat.partner strain) = true ↔
        entry.seat.side = bid.seat.side ∧ NamesStrain entry.tagged strain := by
    intro entry
    rw [Bool.or_eq_true, Entry.names_iff, Entry.names_iff, Seat.side_eq_iff, namesStrain_iff,
      or_and_right]
    rfl
  obtain ⟨hfirst, before, after, hentries, hbefore⟩ := List.find?_eq_some_iff_append.mp hfind
  obtain ⟨hside, hnamed⟩ := (names_iff first).mp hfirst
  refine ⟨before.map Entry.tagged, first.tagged, after.map Entry.tagged, ?_, hseat, hside, hnamed,
    ?_⟩
  · rw [calls, hentries, List.map_append, List.map_cons]
  · intro call hcall hcallSide hcallNames
    obtain ⟨other, hother, rfl⟩ := List.mem_map.mp hcall
    have hunnamed := hbefore other hother
    rw [(names_iff other).mpr ⟨hcallSide, hcallNames⟩] at hunnamed
    cases hunnamed

theorem settled_of_resolve {auction : Auction} {declaration : Declaration}
    (h : auction.resolve = .ok declaration) : auction.status = .settled := by
  unfold resolve at h
  split at h
  case h_1 hstatus => exact hstatus
  case h_2 => cases h

theorem nodup_around (declarer : Seat) :
    [declarer, declarer.next, declarer.partner, declarer.next.partner].Nodup := by
  cases declarer <;> decide

theorem Indexed.prescribes {auction : Auction} (h : auction.Indexed)
    (hshort : auction.length ≤ UInt32.size) {dealer : Seat} (hlegal : Legal dealer auction.calls)
    {declaration : Declaration} (hresolve : auction.resolve = .ok declaration) :
    Prescribes auction.calls declaration := by
  have hstatus := settled_of_resolve hresolve
  rcases hlegal.exists_contract with hsilent | ⟨last, contract, hproposes⟩
  · obtain ⟨call, hcall, hloud⟩ := exists_not_pass_of_settled hstatus
    exact absurd (crucial_eq_nil_iff.mp hsilent call hcall) hloud
  · rw [hproposes.resolve hstatus] at hresolve
    cases hresolve
    obtain ⟨before, after, hcalls, hlast, hanswers⟩ := hproposes
    have hnames : NamesStrain last contract.bid.strain := ⟨contract.bid.level, hlast⟩
    obtain ⟨earlier, first, later, hearlier, hfirst, hside, hfirstNames, hunnamed⟩ :=
      h.exists_first hshort (by simp [hcalls]) hnames
    have declarer_side : (auction.declarerFor last.seat contract.bid.strain).side =
        last.seat.side := by rw [← hfirst, hside]
    constructor
    case contract =>
      refine ⟨before, last, after, hcalls, rfl, hlast, ?_, ?_⟩
      · rw [hcalls] at hlegal
        intro call hcall bid hbid
        exact hlegal.highest hlast hanswers hcall hbid
      · change Answers (auction.declarerFor last.seat contract.bid.strain).side _ _
        rwa [declarer_side]
    case declarer => exact ⟨earlier, first, later, hearlier, hfirst, hside, hfirstNames, hunnamed⟩
    case dummy => rfl
    case lead => rfl
    case defender => rfl
    case sides => exact fun seat => Seat.side_eq_iff
    case distinct => exact nodup_around _

end Auction

end ContractBridge
