import ContractBridge.Proofs.Auction.Unchecked
import Mathlib.Data.List.DropRight

/-!
# The ledger and its index

A ledger may be written to and cleared in any order.  It then holds the calls entered since it was
last cleared and is the ledger of these calls alone.  Its index, which is kept beside the entries,
tells the place of the earliest call in which a seat names a strain.
-/

namespace ContractBridge

namespace TaggedBid

theorem encode_of_decode {code : UInt8} {bid : TaggedBid} (h : decode code = .ok bid) :
    bid.encode = code := by
  unfold decode at h
  split at h
  case isTrue => cases h
  case isFalse =>
    split at h
    case h_2 => cases h
    case h_1 value hvalue =>
      cases h
      have number_eq : value.number = code.toNat % 64 := by
        unfold BidValue.ofNumber? at hvalue
        split at hvalue
        case isTrue =>
          cases hvalue
          rfl
        case isFalse => cases hvalue
      have seat_lt : code.toNat / 64 < 4 := by
        have code_lt := code.toNat_lt
        omega
      have whole : code.toNat / 64 % 4 * 64 + code.toNat % 64 = code.toNat := by omega
      rw [encode, Seat.index_ofIndex, number_eq, whole, UInt8.ofNat_toNat]

theorem strainOfCode?_eq_some_iff {code : UInt8} {strain : Strain} :
    strainOfCode? code = some strain ↔
      ∃ bid, bid.encode = code ∧ Auction.NamesStrain bid strain := by
  constructor
  · intro h
    unfold strainOfCode? at h
    split at h
    case h_1 bid hdecode => exact ⟨bid, encode_of_decode hdecode, Auction.namesStrain_iff.mpr h⟩
    case h_2 => cases h
  · rintro ⟨bid, rfl, hnames⟩
    rw [strainOfCode?, decode_encode]
    exact Auction.namesStrain_iff.mp hnames

def names (seat : Seat) (strain : Strain) (bid : TaggedBid) : Bool :=
  bid.seat = seat ∧ bid.value.strain? = some strain

theorem names_iff {seat : Seat} {strain : Strain} {bid : TaggedBid} :
    bid.names seat strain = true ↔ bid.seat = seat ∧ Auction.NamesStrain bid strain := by
  rw [names, decide_eq_true_iff, Auction.namesStrain_iff]

end TaggedBid

namespace Auction

inductive Action where
  | append (seat : Seat) (value : BidValue)
  | clear
  deriving DecidableEq, Repr

def act (auction : Auction) : Action → Auction
  | .append seat value => auction.append seat value
  | .clear => auction.clear

def ofActions (actions : List Action) : Auction :=
  actions.foldl act empty

def Action.call? : Action → Option TaggedBid
  | .append seat value => some ⟨seat, value⟩
  | .clear => none

def sinceClear (actions : List Action) : List TaggedBid :=
  (actions.rtakeWhile (· ≠ .clear)).filterMap Action.call?

theorem sinceClear_concat_append (actions : List Action) (seat : Seat) (value : BidValue) :
    sinceClear (actions ++ [.append seat value]) = sinceClear actions ++ [⟨seat, value⟩] := by
  simp [sinceClear, Action.call?]

theorem sinceClear_concat_clear (actions : List Action) :
    sinceClear (actions ++ [.clear]) = [] := by
  simp [sinceClear]

theorem ofActions_eq_ofCalls (actions : List Action) :
    ofActions actions = ofCalls (sinceClear actions) := by
  induction actions using List.reverseRecOn with
  | nil => rfl
  | append_singleton actions action ih =>
      rw [ofActions, List.foldl_append]
      change (ofActions actions).act action = _
      cases action with
      | append seat value =>
          rw [sinceClear_concat_append, ofCalls_concat, ih]
          rfl
      | clear =>
          rw [sinceClear_concat_clear]
          rfl

/-- The place of the earliest call in which a seat names a strain. -/
def FirstNaming (calls : List TaggedBid) (seat : Seat) (strain : Strain) (place : Nat) : Prop :=
  (∃ call, calls[place]? = some call ∧ call.seat = seat ∧ NamesStrain call strain) ∧
    ∀ earlier < place, ∀ call, calls[earlier]? = some call → call.seat = seat →
      ¬ NamesStrain call strain

theorem nextStamp_ofCalls {calls : List TaggedBid} (hshort : calls.length < UInt32.size) :
    (ofCalls calls).nextStamp = calls.length := by
  rw [nextStamp, length_ofCalls]
  exact Nat.mod_eq_of_lt hshort

theorem firstBid?_ofCalls {calls : List TaggedBid} (hshort : calls.length ≤ UInt32.size)
    (seat : Seat) (strain : Strain) :
    (ofCalls calls).firstBid? seat strain = calls.findIdx? (TaggedBid.names seat strain) := by
  induction calls using List.reverseRecOn with
  | nil => simp [ofCalls, firstBid?, empty]
  | append_singleton calls call ih =>
      rw [List.length_append, List.length_singleton] at hshort
      rw [ofCalls_concat, firstBid?_append, ih (Nat.le_of_succ_le hshort), List.findIdx?_append,
        List.findIdx?_singleton, nextStamp_ofCalls hshort]
      simp only [TaggedBid.names, decide_eq_true_eq]
      congr 1
      split <;> simp

theorem firstBid?_eq_some_iff {calls : List TaggedBid} (hshort : calls.length ≤ UInt32.size)
    {seat : Seat} {strain : Strain} {place : Nat} :
    (ofCalls calls).firstBid? seat strain = some place ↔ FirstNaming calls seat strain place := by
  rw [firstBid?_ofCalls hshort, List.findIdx?_eq_some_iff_getElem]
  simp only [TaggedBid.names_iff]
  constructor
  · rintro ⟨hlt, hnames, hearlier⟩
    refine ⟨⟨calls[place], List.getElem?_eq_getElem hlt, hnames⟩, ?_⟩
    intro earlier hless call hcall hseat hcallNames
    obtain ⟨_, rfl⟩ := List.getElem?_eq_some_iff.mp hcall
    exact hearlier earlier hless ⟨hseat, hcallNames⟩
  · rintro ⟨⟨call, hcall, hnames⟩, hearlier⟩
    obtain ⟨hlt, rfl⟩ := List.getElem?_eq_some_iff.mp hcall
    refine ⟨hlt, hnames, ?_⟩
    rintro earlier hless ⟨hseat, hearlierNames⟩
    exact hearlier earlier hless _ (List.getElem?_eq_getElem _) hseat hearlierNames

theorem firstBid?_eq_none_iff {calls : List TaggedBid} (hshort : calls.length ≤ UInt32.size)
    {seat : Seat} {strain : Strain} :
    (ofCalls calls).firstBid? seat strain = none ↔
      ∀ call ∈ calls, call.seat = seat → ¬ NamesStrain call strain := by
  rw [firstBid?_ofCalls hshort, List.findIdx?_eq_none_iff]
  simp only [← Bool.not_eq_true, TaggedBid.names_iff, not_and]

theorem firstBid?_foldl_act {auction : Auction} {seat : Seat} {strain : Strain} {stamp : Nat}
    (h : auction.firstBid? seat strain = some stamp) {later : List Action}
    (hkept : .clear ∉ later) : (later.foldl act auction).firstBid? seat strain = some stamp := by
  induction later generalizing auction with
  | nil => exact h
  | cons action later ih =>
      rw [List.mem_cons, not_or] at hkept
      obtain ⟨hfirst, hrest⟩ := hkept
      refine ih ?_ hrest
      cases action with
      | append other value =>
          change (auction.append other value).firstBid? seat strain = some stamp
          rw [firstBid?_append, h, Option.some_or]
      | clear => exact absurd rfl hfirst

theorem entries_ofCalls {calls : List TaggedBid} (hshort : calls.length ≤ UInt32.size) :
    (ofCalls calls).entries = calls.mapIdx fun place call => ⟨place, call.seat, call.value⟩ := by
  induction calls using List.reverseRecOn with
  | nil => rfl
  | append_singleton calls call ih =>
      rw [List.length_append, List.length_singleton] at hshort
      rw [ofCalls_concat, entries_append, ih (Nat.le_of_succ_le hshort), List.mapIdx_concat,
        newEntry, nextStamp_ofCalls hshort]

/-- The entry with the greatest stamp among those of a kind. -/
def LatestOf (kind : Call → Prop) (entries : List Entry) (latest : Entry) : Prop :=
  latest ∈ entries ∧ kind latest.value.call ∧
    ∀ other ∈ entries, kind other.value.call → other.stamp ≤ latest.stamp

theorem find?_reverse_eq_some_iff_latestOf {entries : List Entry}
    (sorted : entries.Pairwise fun entry later => entry.stamp < later.stamp) {p : Entry → Bool}
    {kind : Call → Prop} (hkind : ∀ entry, p entry = true ↔ kind entry.value.call)
    {latest : Entry} :
    entries.reverse.find? p = some latest ↔ LatestOf kind entries latest := by
  rw [find?_reverse_eq_some_iff]
  constructor
  · rintro ⟨hlatest, before, after, rfl, hafter⟩
    refine ⟨by simp, (hkind latest).mp hlatest, ?_⟩
    intro other hother hotherKind
    obtain ⟨-, -, hordered⟩ := List.pairwise_append.mp sorted
    rcases List.mem_append.mp hother with hbefore | hother
    · exact Nat.le_of_lt (hordered other hbefore latest (List.mem_cons_self ..))
    · rcases List.mem_cons.mp hother with rfl | hlater
      · exact Nat.le_refl _
      · have hpassed := hafter other hlater
        rw [(hkind other).mpr hotherKind] at hpassed
        cases hpassed
  · rintro ⟨hmem, hlatest, hgreatest⟩
    obtain ⟨before, after, rfl⟩ := List.append_of_mem hmem
    refine ⟨(hkind latest).mpr hlatest, before, after, rfl, ?_⟩
    intro later hlater
    rw [← Bool.not_eq_true, hkind]
    intro hlaterKind
    obtain ⟨-, hordered, -⟩ := List.pairwise_append.mp sorted
    have hless := (List.pairwise_cons.mp hordered).1 later hlater
    have hle := hgreatest later (by simp [hlater]) hlaterKind
    omega

/-! ## What a ledger keeps -/

/-- The entries are the calls with their places, and what else can be read is told from them. -/
structure Keeps (auction : Auction) (calls : List TaggedBid) : Prop where
  entries : auction.entries = calls.mapIdx fun place call => ⟨place, call.seat, call.value⟩
  doubles : ∀ entry ∈ auction.entries, entry.doubling = .double ↔ entry.value.call = .double
  redoubles : ∀ entry ∈ auction.entries, entry.doubling = .redouble ↔ entry.value.call = .redouble
  firstBid : ∀ seat strain place,
    auction.firstBid? seat strain = some place ↔ FirstNaming calls seat strain place
  unnamed : ∀ seat strain, auction.firstBid? seat strain = none ↔
    ∀ call ∈ calls, call.seat = seat → ¬ NamesStrain call strain
  lastCrucial : ∀ entry,
    auction.lastCrucial? = some entry ↔ LatestOf (· ≠ .pass) auction.entries entry
  lastStrainBid : ∀ entry,
    auction.lastStrainBid? = some entry ↔ LatestOf (∃ bid, · = .bid bid) auction.entries entry

theorem keeps_ofCalls {calls : List TaggedBid} (hshort : calls.length ≤ UInt32.size) :
    (ofCalls calls).Keeps calls := by
  have sorted : (ofCalls calls).entries.Pairwise fun entry later => entry.stamp < later.stamp := by
    refine (indexed_ofCalls calls).sorted ?_
    rwa [length_ofCalls]
  constructor
  case entries => exact entries_ofCalls hshort
  case doubles => exact fun entry _ => BidValue.doubling_eq_double_iff
  case redoubles => exact fun entry _ => BidValue.doubling_eq_redouble_iff
  case firstBid => exact fun seat strain place => firstBid?_eq_some_iff hshort
  case unnamed => exact fun seat strain => firstBid?_eq_none_iff hshort
  case lastCrucial =>
    exact fun entry => find?_reverse_eq_some_iff_latestOf sorted fun _ => BidValue.isCrucial_iff
  case lastStrainBid =>
    exact fun entry => find?_reverse_eq_some_iff_latestOf sorted fun _ => strainBid_iff

/-- Whatever is appended and cleared, the ledger keeps the calls since it was last cleared.  Strains
are looked up by the byte of a bid, and a stamp that is indexed stays so until the next clearing. -/
theorem ledger_keeps {actions : List Action} (hshort : (sinceClear actions).length < UInt32.size) :
    (ofActions actions).Keeps (sinceClear actions) ∧
    (∀ code strain, TaggedBid.strainOfCode? code = some strain ↔
      ∃ bid : TaggedBid, bid.encode = code ∧ NamesStrain bid strain) ∧
    ∀ seat strain stamp, (ofActions actions).firstBid? seat strain = some stamp →
      ∀ later : List Action, .clear ∉ later →
        (ofActions (actions ++ later)).firstBid? seat strain = some stamp := by
  refine ⟨?_, fun code strain => TaggedBid.strainOfCode?_eq_some_iff, ?_⟩
  · rw [ofActions_eq_ofCalls]
    exact keeps_ofCalls (Nat.le_of_lt hshort)
  · intro seat strain stamp hfirst later hkept
    rw [ofActions, List.foldl_append]
    exact firstBid?_foldl_act hfirst hkept

/-- North's two hearts are cleared away, and bid again after three hearts of South's.  North named
hearts with the second call, and goes on having done so; the double is the latest call that is not a
pass, and North's six notrump is the latest bid. -/
theorem ledger_keeps_reopened :
    let twoHearts : BidValue := ⟨12, by decide, by decide⟩
    let sixNotrump : BidValue := ⟨46, by decide, by decide⟩
    let reopened : List Action :=
      [.append .north twoHearts, .clear, .append .south ⟨20, by decide, by decide⟩,
        .append .north twoHearts, .append .north sixNotrump, .append .east doubleAtOne,
        .append .west passAtOne]
    (sinceClear reopened).length = 5 ∧
      twoHearts.call = .bid ⟨2, .suit .hearts⟩ ∧ sixNotrump.call = .bid ⟨6, .notrump⟩ ∧
      TaggedBid.strainOfCode? 46 = some .notrump ∧
      FirstNaming (sinceClear reopened) .north (.suit .hearts) 1 ∧
      (ofActions (reopened ++ [.append .north twoHearts])).firstBid? .north (.suit .hearts) =
        some 1 ∧
      LatestOf (· ≠ .pass) (ofActions reopened).entries ⟨3, .east, doubleAtOne⟩ ∧
      LatestOf (∃ bid, · = .bid bid) (ofActions reopened).entries ⟨2, .north, sixNotrump⟩ := by
  intro twoHearts sixNotrump reopened
  have hlength : (sinceClear reopened).length = 5 := by decide
  have hfirst : (ofActions reopened).firstBid? .north (.suit .hearts) = some 1 := by decide
  have hshort : (sinceClear reopened).length < UInt32.size := by
    rw [hlength]
    decide
  obtain ⟨keeps, strains, stays⟩ := ledger_keeps hshort
  refine ⟨hlength, by decide, by decide, (strains _ _).mpr ⟨⟨.north, sixNotrump⟩, rfl, 6, by decide⟩,
    (keeps.firstBid _ _ _).mp hfirst, stays _ _ _ hfirst _ (by decide),
    (keeps.lastCrucial _).mp ?_, (keeps.lastStrainBid _).mp ?_⟩
  · decide
  · decide

end Auction

end ContractBridge
