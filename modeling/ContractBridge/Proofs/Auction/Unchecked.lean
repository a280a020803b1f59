import ContractBridge.Proofs.Auction.Declarer
import ContractBridge.Proofs.Auction.Longest
import Mathlib.Data.List.Induction

/-!
# Ledgers without a referee

A ledger enters whatever it is given, any value by any seat, and may still be resolved.  Scanning
back over the doubles ends at the last strain bid, the first double met on the way is the last call
that is not a pass, and the index knows everybody who has named a strain.
-/

namespace ContractBridge

namespace Auction

/-- The last four calls are three passes after a call that is not one. -/
def Closes (calls : List TaggedBid) : Prop :=
  ∃ earlier fourth third second last, calls = earlier ++ [fourth, third, second, last] ∧
    fourth.value.call ≠ .pass ∧ third.value.call = .pass ∧ second.value.call = .pass ∧
    last.value.call = .pass

theorem closes_append_iff {rest : List TaggedBid} {fourth third second last : TaggedBid} :
    Closes (rest ++ [fourth, third, second, last]) ↔
      fourth.value.call ≠ .pass ∧ third.value.call = .pass ∧ second.value.call = .pass ∧
        last.value.call = .pass := by
  constructor
  · rintro ⟨earlier, _, _, _, _, heq, hpasses⟩
    obtain ⟨-, hlast⟩ := List.append_inj' heq rfl
    cases hlast
    exact hpasses
  · intro hpasses
    exact ⟨rest, fourth, third, second, last, rfl, hpasses⟩

theorem status_eq_settled_iff_closes {auction : Auction} :
    auction.status = .settled ↔ Closes auction.calls := by
  by_cases hlength : auction.length < 4
  · have short : ¬ Closes auction.calls := by
      rintro ⟨earlier, _, _, _, _, hcalls, -⟩
      have hcount := auction.length_calls
      rw [hcalls, List.length_append] at hcount
      simp only [List.length_cons, List.length_nil] at hcount
      omega
    simp [status_of_short hlength, short]
  · obtain ⟨rest, fourth, third, second, last, hentries⟩ :=
      exists_last_four (Nat.not_lt.mp hlength)
    have hcalls : auction.calls =
        rest.map Entry.tagged ++ [fourth.tagged, third.tagged, second.tagged, last.tagged] := by
      simp [calls, hentries]
    have hpass : ∀ entry : Entry, entry.tagged.value.call = .pass ↔ entry.isPass = true :=
      fun _ => BidValue.isPass_iff.symm
    rw [status_of_last_four hentries, hcalls, closes_append_iff]
    simp only [ne_eq, hpass]
    cases fourth.isPass <;> cases third.isPass <;> cases second.isPass <;> cases last.isPass <;>
      simp

theorem isStrainBid_iff_doubling {entry : Entry} (h : entry.value.isCrucial = true) :
    entry.isStrainBid = true ↔ entry.doubling = .none := by
  rw [Entry.isStrainBid, strainBid_iff]
  exact (BidValue.doubling_eq_none_iff (BidValue.isCrucial_iff.mp h)).symm

section Split

variable {auction : Auction}

/-- The scan for the bid leaves nothing over but doubles, so that it cannot run past a bid. -/
theorem lastStrainBid?_eq_none_of_split
    (h : splitDoubles (auction.entries.reverse.filter (·.value.isCrucial)) = none) :
    auction.lastStrainBid? = none := by
  rw [lastStrainBid?, List.find?_eq_none]
  intro entry hentry hbid
  have hcrucial : entry.value.isCrucial = true := by
    rw [Entry.isStrainBid, Bool.and_eq_true] at hbid
    exact hbid.1
  refine splitDoubles_eq_none_iff.mp h entry (List.mem_filter.mpr ⟨hentry, hcrucial⟩) ?_
  exact (isStrainBid_iff_doubling hcrucial).mp hbid

theorem lastStrainBid?_eq_some_of_split {doubles : List Entry} {bid : Entry}
    (h : splitDoubles (auction.entries.reverse.filter (·.value.isCrucial)) = some (doubles, bid)) :
    auction.lastStrainBid? = some bid := by
  obtain ⟨hbid, hdoubles, rest, heq⟩ := splitDoubles_eq_some h
  have hcrucial : ∀ entry ∈ doubles ++ bid :: rest, entry.value.isCrucial = true := by
    intro entry hentry
    rw [← heq] at hentry
    exact (List.mem_filter.mp hentry).2
  have hfind : (auction.entries.reverse.filter (·.value.isCrucial)).find? Entry.isStrainBid =
      auction.lastStrainBid? := by
    rw [List.find?_filter, lastStrainBid?]
    congr 1
    funext entry
    simp [Entry.isStrainBid]
  rw [← hfind, heq, List.find?_eq_some_iff_append]
  refine ⟨(isStrainBid_iff_doubling (hcrucial bid (by simp))).mpr hbid, doubles, rest, rfl, ?_⟩
  intro double hdouble
  rw [Bool.not_eq_true', ← Bool.not_eq_true,
    isStrainBid_iff_doubling (hcrucial double (List.mem_append_left _ hdouble))]
  exact hdoubles double hdouble

theorem lastCrucial?_of_split {doubles : List Entry} {bid : Entry}
    (h : splitDoubles (auction.entries.reverse.filter (·.value.isCrucial)) = some (doubles, bid)) :
    ∃ latest, auction.lastCrucial? = some latest ∧
      standingPenalty doubles = latest.doubling.penalty := by
  obtain ⟨hbid, -, rest, heq⟩ := splitDoubles_eq_some h
  have hlast : auction.lastCrucial? = (doubles ++ bid :: rest).head? := by
    rw [← heq, List.head?_filter, lastCrucial?]
  cases doubles with
  | nil => exact ⟨bid, hlast, by rw [hbid]; rfl⟩
  | cons latest doubles => exact ⟨latest, hlast, rfl⟩

end Split

def LastBid (calls : List TaggedBid) (last : TaggedBid) (bid : Bid) : Prop :=
  ∃ before after, calls = before ++ last :: after ∧ last.value.call = .bid bid ∧
    ∀ call ∈ after, ∀ other, call.value.call ≠ .bid other

theorem LastBid.mem {calls : List TaggedBid} {last : TaggedBid} {bid : Bid}
    (h : LastBid calls last bid) : last ∈ calls := by
  obtain ⟨before, after, rfl, -⟩ := h
  simp

theorem lastBid_of_lastStrainBid? {auction : Auction} {entry : Entry}
    (h : auction.lastStrainBid? = some entry) :
    ∃ bid, entry.value.call = .bid bid ∧ LastBid auction.calls entry.tagged bid := by
  have hlast := tagged_lastStrainBid? auction
  rw [h, Option.map_some, eq_comm, find?_reverse_eq_some_iff] at hlast
  obtain ⟨hbid, before, after, hcalls, hafter⟩ := hlast
  obtain ⟨bid, hcall⟩ := strainBid_iff.mp hbid
  refine ⟨bid, hcall, before, after, hcalls, hcall, ?_⟩
  intro call hmem
  exact not_strainBid_iff.mp (hafter call hmem)

theorem standing_of_lastCrucial? {auction : Auction} {entry : Entry}
    (h : auction.lastCrucial? = some entry) : Standing auction.calls entry.tagged := by
  rw [standing_iff, ← tagged_lastCrucial?, h, Option.map_some]

/-! ## The declarer -/

/-- One seat named the strain before another one had done so. -/
def NamesBefore (calls : List TaggedBid) (seat other : Seat) (strain : Strain) : Prop :=
  ∃ before first after, calls = before ++ first :: after ∧ first.seat = seat ∧
    NamesStrain first strain ∧ ∀ call ∈ before, call.seat = other → ¬ NamesStrain call strain

theorem length_ofCalls (calls : List TaggedBid) : (ofCalls calls).length = calls.length := by
  rw [← length_calls, calls_ofCalls]

theorem ofCalls_concat (calls : List TaggedBid) (call : TaggedBid) :
    ofCalls (calls ++ [call]) = (ofCalls calls).append call.seat call.value := by
  simp [ofCalls]

theorem indexed_ofCalls (calls : List TaggedBid) : (ofCalls calls).Indexed := by
  induction calls using List.reverseRecOn with
  | nil => exact indexed_empty
  | append_singleton calls call ih =>
      rw [ofCalls_concat]
      exact ih.append call.seat call.value

section Indexed

variable {auction : Auction}

theorem Indexed.isSome_firstBid? (h : auction.Indexed) {call : TaggedBid}
    (hcall : call ∈ auction.calls) {strain : Strain} (hnames : NamesStrain call strain) :
    (auction.firstBid? call.seat strain).isSome = true := by
  obtain ⟨entry, hentry, rfl⟩ := List.mem_map.mp hcall
  rw [h.firstBids, Option.isSome_map, List.find?_isSome]
  exact ⟨entry, hentry, Entry.names_iff.mpr ⟨rfl, namesStrain_iff.mp hnames⟩⟩

theorem eq_or_mem_of_append_cons_eq {α : Type} {before after earlier later : List α} {a b : α}
    (h : before ++ a :: after = earlier ++ b :: later) : a = b ∨ a ∈ earlier ∨ b ∈ before := by
  rcases List.append_eq_append_iff.mp h with ⟨between, rfl, hrest⟩ | ⟨between, rfl, hrest⟩
  · cases between with
    | nil => exact .inl (List.cons.inj hrest).1
    | cons first between =>
        obtain ⟨rfl, -⟩ := List.cons.inj hrest
        exact .inr (.inl (by simp))
  · cases between with
    | nil => exact .inl (List.cons.inj hrest).1.symm
    | cons first between =>
        obtain ⟨rfl, -⟩ := List.cons.inj hrest
        exact .inr (.inr (by simp))

theorem Indexed.declarerFor_cases (h : auction.Indexed) (hshort : auction.length ≤ UInt32.size)
    {bid : TaggedBid} (hbid : bid ∈ auction.calls) {strain : Strain}
    (hnames : NamesStrain bid strain) :
    (NamesBefore auction.calls bid.seat.partner bid.seat strain ∧
      auction.declarerFor bid.seat strain = bid.seat.partner) ∨
    (¬ NamesBefore auction.calls bid.seat.partner bid.seat strain ∧
      auction.declarerFor bid.seat strain = bid.seat) := by
  obtain ⟨before, first, after, hcalls, hfirst, hside, hfirstNames, hunnamed⟩ :=
    h.exists_first hshort hbid hnames
  rcases Seat.side_eq_iff.mp hside with hown | hpartner
  · right
    refine ⟨?_, hfirst.symm.trans hown⟩
    rintro ⟨earlier, other, later, hsplit, hother, hotherNames, hearlier⟩
    rcases eq_or_mem_of_append_cons_eq (hcalls.symm.trans hsplit) with rfl | hmem | hmem
    · exact absurd (hown.symm.trans hother) bid.seat.partner_ne.symm
    · exact hearlier first hmem hown hfirstNames
    · exact hunnamed other hmem (Seat.side_eq_iff.mpr (.inr hother)) hotherNames
  · left
    refine ⟨⟨before, first, after, hcalls, hpartner, hfirstNames, ?_⟩, hfirst.symm.trans hpartner⟩
    intro call hcall hseat
    exact hunnamed call hcall (by rw [hseat])

end Indexed

/-! ## What a ledger resolves to -/

/-- What the call that stands makes of the contract. -/
inductive Leaves : Call → Penalty → Prop
  | bid (bid : Bid) : Leaves (.bid bid) .none
  | double : Leaves .double .doubled
  | redouble : Leaves .redouble .redoubled

theorem leaves_doubling {value : BidValue} (h : value.call ≠ .pass) :
    Leaves value.call (Doubling.ofValue value).penalty := by
  cases hcall : value.call with
  | pass => exact absurd hcall h
  | bid bid =>
      rw [(BidValue.doubling_eq_none_iff h).mpr ⟨bid, hcall⟩]
      exact .bid bid
  | double =>
      rw [BidValue.doubling_eq_double_iff.mpr hcall]
      exact .double
  | redouble =>
      rw [BidValue.doubling_eq_redouble_iff.mpr hcall]
      exact .redouble

/-- What closed calls come to, whoever made them and in whatever order. -/
structure ResolvesTo (calls : List TaggedBid) (declaration : Declaration) : Prop where
  bid : ∃ last, LastBid calls last declaration.contract.bid ∧ last.seat = declaration.bidder
  penalty : ∃ standing, Standing calls standing ∧
    Leaves standing.value.call declaration.contract.penalty
  partner : NamesBefore calls declaration.bidder.partner declaration.bidder declaration.strain →
    declaration.declarer = declaration.bidder.partner
  bidder : ¬ NamesBefore calls declaration.bidder.partner declaration.bidder declaration.strain →
    declaration.declarer = declaration.bidder
  dummy : declaration.dummy = declaration.declarer.partner
  lead : declaration.lead = declaration.declarer.next
  defender : declaration.defender = declaration.lead.partner

section Resolve

variable {auction : Auction}

theorem resolve_cases (auction : Auction) :
    (auction.status = .settled ∧ ∃ entry latest bid, auction.lastStrainBid? = some entry ∧
      entry.value.call = .bid bid ∧ auction.lastCrucial? = some latest ∧
      auction.resolve = .ok (.ofDeclarer ⟨bid, latest.doubling.penalty⟩ entry.seat
        (auction.declarerFor entry.seat bid.strain))) ∨
    ((auction.status = .settled → auction.lastStrainBid? = none) ∧
      auction.resolve = .error (.refused .unsettled)) := by
  unfold resolve
  split
  case h_2 hopen => exact .inr ⟨fun hsettled => absurd hsettled hopen, rfl⟩
  case h_1 hsettled =>
    cases hsplit : splitDoubles (auction.entries.reverse.filter (·.value.isCrucial)) with
    | none => exact .inr ⟨fun _ => lastStrainBid?_eq_none_of_split hsplit, rfl⟩
    | some split =>
        obtain ⟨doubles, entry⟩ := split
        have hlast := lastStrainBid?_eq_some_of_split hsplit
        obtain ⟨latest, hlatest, hpenalty⟩ := lastCrucial?_of_split hsplit
        obtain ⟨bid, hcall, -⟩ := lastBid_of_lastStrainBid? hlast
        refine .inl ⟨hsettled, entry, latest, bid, hlast, hcall, hlatest, ?_⟩
        dsimp only
        rw [declare_eq_ok auction doubles hcall, hpenalty]

theorem exists_lastStrainBid?_iff :
    (∃ entry, auction.lastStrainBid? = some entry) ↔
      ∃ call ∈ auction.calls, ∃ bid, call.value.call = .bid bid := by
  constructor
  · rintro ⟨entry, hentry⟩
    obtain ⟨bid, hcall, hlast⟩ := lastBid_of_lastStrainBid? hentry
    exact ⟨entry.tagged, hlast.mem, bid, hcall⟩
  · rintro ⟨call, hcall, hbid⟩
    obtain ⟨entry, hentry, rfl⟩ := List.mem_map.mp hcall
    rw [← Option.isSome_iff_exists, lastStrainBid?, List.find?_isSome]
    exact ⟨entry, List.mem_reverse.mpr hentry, strainBid_iff.mpr hbid⟩

theorem resolve_isOk_iff :
    (∃ declaration, auction.resolve = .ok declaration) ↔
      Closes auction.calls ∧ ∃ call ∈ auction.calls, ∃ bid, call.value.call = .bid bid := by
  rw [← status_eq_settled_iff_closes, ← exists_lastStrainBid?_iff]
  rcases resolve_cases auction with ⟨hsettled, entry, _, _, hentry, -, -, hok⟩ | ⟨hnone, herror⟩
  · exact ⟨fun _ => ⟨hsettled, entry, hentry⟩, fun _ => ⟨_, hok⟩⟩
  · constructor
    · rintro ⟨declaration, hok⟩
      rw [herror] at hok
      cases hok
    · rintro ⟨hsettled, entry, hentry⟩
      rw [hnone hsettled] at hentry
      cases hentry

theorem resolve_eq_error {failure : Failure ResolveError} (h : auction.resolve = .error failure) :
    failure = .refused .unsettled := by
  rcases resolve_cases auction with ⟨-, _, _, _, -, -, -, hok⟩ | ⟨-, herror⟩
  · rw [hok] at h
    cases h
  · rw [herror] at h
    cases h
    rfl

theorem Indexed.resolvesTo (h : auction.Indexed) (hshort : auction.length ≤ UInt32.size)
    {declaration : Declaration} (hresolve : auction.resolve = .ok declaration) :
    ResolvesTo auction.calls declaration ∧
      (auction.firstBid? declaration.bidder declaration.strain).isSome = true := by
  rcases resolve_cases auction with
    ⟨-, entry, latest, bid, hentry, hcall, hlatest, hok⟩ | ⟨-, herror⟩
  case inr =>
    rw [herror] at hresolve
    cases hresolve
  case inl =>
    rw [hok] at hresolve
    cases hresolve
    have hlast : LastBid auction.calls entry.tagged bid := by
      obtain ⟨other, hother, hlast⟩ := lastBid_of_lastStrainBid? hentry
      obtain rfl : other = bid := Call.bid.inj (hother.symm.trans hcall)
      exact hlast
    have hnames : NamesStrain entry.tagged bid.strain := ⟨bid.level, hcall⟩
    have hdeclarer := h.declarerFor_cases hshort hlast.mem hnames
    refine ⟨?_, h.isSome_firstBid? hlast.mem hnames⟩
    constructor
    case bid => exact ⟨entry.tagged, hlast, rfl⟩
    case penalty =>
      have standing := standing_of_lastCrucial? hlatest
      exact ⟨latest.tagged, standing, leaves_doubling standing.value_ne_pass⟩
    case partner =>
      intro hbefore
      rcases hdeclarer with ⟨-, hpartner⟩ | ⟨hafter, -⟩
      · exact hpartner
      · exact absurd hbefore hafter
    case bidder =>
      intro hafter
      rcases hdeclarer with ⟨hbefore, -⟩ | ⟨-, hown⟩
      · exact absurd hbefore hafter
      · exact hown
    case dummy => rfl
    case lead => rfl
    case defender => rfl

end Resolve

/-- A ledger of any calls resolves exactly if it closes with three passes over a call that is not
one, and holds a strain bid; every other ledger is unsettled.  The bidder of what it resolves to is
known to the index. -/
theorem resolve_ofCalls {calls : List TaggedBid} (hshort : calls.length < UInt32.size) :
    ((∃ declaration, (ofCalls calls).resolve = .ok declaration) ↔
      Closes calls ∧ ∃ call ∈ calls, ∃ bid, call.value.call = .bid bid) ∧
    (∀ failure, (ofCalls calls).resolve = .error failure → failure = .refused .unsettled) ∧
    ∀ declaration, (ofCalls calls).resolve = .ok declaration →
      ResolvesTo calls declaration ∧
        ((ofCalls calls).firstBid? declaration.bidder declaration.strain).isSome = true := by
  have hlength : (ofCalls calls).length ≤ UInt32.size := by
    rw [length_ofCalls]
    exact Nat.le_of_lt hshort
  refine ⟨?_, fun failure => resolve_eq_error, ?_⟩
  · have hok := @resolve_isOk_iff (ofCalls calls)
    rwa [calls_ofCalls] at hok
  · intro declaration hresolve
    have resolves := (indexed_ofCalls calls).resolvesTo hlength hresolve
    rwa [calls_ofCalls] at resolves

/-- South's three hearts are followed by North's two, which South doubles and West redoubles. -/
def outOfOrder : List TaggedBid :=
  [⟨.south, ⟨20, by decide, by decide⟩⟩, ⟨.north, ⟨12, by decide, by decide⟩⟩,
   ⟨.south, doubleAtOne⟩, ⟨.west, redoubleAtOne⟩,
   ⟨.west, passAtOne⟩, ⟨.west, passAtOne⟩, ⟨.west, passAtOne⟩]

theorem resolve_ofCalls_outOfOrder :
    ∃ declaration, (ofCalls outOfOrder).resolve = .ok declaration ∧
      declaration.contract = ⟨⟨2, .suit .hearts⟩, .redoubled⟩ ∧ declaration.bidder = .north ∧
      declaration.declarer = .south ∧ declaration.lead = .west ∧
      ResolvesTo outOfOrder declaration := by
  obtain ⟨hok, -, hresolves⟩ := @resolve_ofCalls outOfOrder (by decide)
  have hcloses : Closes outOfOrder :=
    ⟨outOfOrder.take 3, _, _, _, _, rfl, by decide, by decide, by decide, by decide⟩
  obtain ⟨declaration, hresolve⟩ :=
    hok.mpr ⟨hcloses, _, List.mem_cons_self .., ⟨3, .suit .hearts⟩, by decide⟩
  have hwho : (ofCalls outOfOrder).resolve.toOption.map (fun declaration =>
      (declaration.contract, declaration.bidder, declaration.declarer, declaration.lead)) =
      some (⟨⟨2, .suit .hearts⟩, .redoubled⟩, .north, .south, .west) := by decide +kernel
  rw [hresolve, Except.toOption, Option.map_some, Option.some.injEq, Prod.mk.injEq,
    Prod.mk.injEq, Prod.mk.injEq] at hwho
  obtain ⟨hcontract, hbidder, hdeclarer, hlead⟩ := hwho
  exact ⟨declaration, hresolve, hcontract, hbidder, hdeclarer, hlead, (hresolves _ hresolve).1⟩

end Auction

end ContractBridge
