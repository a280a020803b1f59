import ContractBridge.Auction.Law

/-!
# Calls and places in the box

The place of a value within its level tells the kind of its call, and the number of a strain bid
ranks it: numbers grow exactly as the bids outrank one another.
-/

namespace ContractBridge

theorem Strain.index_lt (strain : Strain) : strain.index < 5 := by
  rcases strain with suit | _
  · cases suit <;> decide
  · decide

namespace BidValue

theorem slot_cases (value : BidValue) :
    value.slot = 0 ∨ (∃ strain : Strain, value.slot = strain.slot) ∨ value.slot = 6 ∨
      value.slot = 7 := by
  have slot_lt := value.slot_lt
  have places : value.slot = 0 ∨ value.slot = 1 ∨ value.slot = 2 ∨ value.slot = 3 ∨
      value.slot = 4 ∨ value.slot = 5 ∨ value.slot = 6 ∨ value.slot = 7 := by omega
  rcases places with h | h | h | h | h | h | h | h
  · exact .inl h
  · exact .inr (.inl ⟨.suit .clubs, h⟩)
  · exact .inr (.inl ⟨.suit .diamonds, h⟩)
  · exact .inr (.inl ⟨.suit .hearts, h⟩)
  · exact .inr (.inl ⟨.suit .spades, h⟩)
  · exact .inr (.inl ⟨.notrump, h⟩)
  · exact .inr (.inr (.inl h))
  · exact .inr (.inr (.inr h))

theorem call_of_pass {value : BidValue} (h : value.slot = 0) : value.call = .pass := by
  simp [call, strain?, isPass, h, Strain.ofSlot?]

theorem call_of_strain {value : BidValue} {strain : Strain} (h : value.slot = strain.slot) :
    value.call = .bid ⟨value.level, strain⟩ := by
  simp [call, strain?, h]

theorem call_of_double {value : BidValue} (h : value.slot = 6) : value.call = .double := by
  simp [call, strain?, isPass, isRedouble, h, Strain.ofSlot?]

theorem call_of_redouble {value : BidValue} (h : value.slot = 7) : value.call = .redouble := by
  simp [call, strain?, isPass, isRedouble, h, Strain.ofSlot?]

theorem isPass_iff {value : BidValue} : value.isPass = true ↔ value.call = .pass := by
  rcases value.slot_cases with h | ⟨strain, h⟩ | h | h
  · simp [isPass, h, call_of_pass h]
  · simp [isPass, h, call_of_strain h, Strain.slot]
  · simp [isPass, h, call_of_double h]
  · simp [isPass, h, call_of_redouble h]

theorem isCrucial_iff {value : BidValue} : value.isCrucial = true ↔ value.call ≠ .pass := by
  rw [ne_eq, ← isPass_iff]
  simp [isCrucial]

theorem doubling_of_strain {value : BidValue} {strain : Strain} (h : value.slot = strain.slot) :
    Doubling.ofValue value = .none := by
  have index_lt := strain.index_lt
  have below : value.slot < 6 := by
    rw [h]
    exact Nat.succ_lt_succ index_lt
  have notRedouble : ¬ value.slot = 7 := by omega
  have notDouble : ¬ 6 ≤ value.slot := by omega
  simp [Doubling.ofValue, isRedouble, isDouble, notRedouble, notDouble]

theorem doubling_eq_double_iff {value : BidValue} :
    Doubling.ofValue value = .double ↔ value.call = .double := by
  rcases value.slot_cases with h | ⟨strain, h⟩ | h | h
  · simp [Doubling.ofValue, isRedouble, isDouble, h, call_of_pass h]
  · simp [doubling_of_strain h, call_of_strain h]
  · simp [Doubling.ofValue, isRedouble, isDouble, h, call_of_double h]
  · simp [Doubling.ofValue, isRedouble, h, call_of_redouble h]

theorem doubling_eq_redouble_iff {value : BidValue} :
    Doubling.ofValue value = .redouble ↔ value.call = .redouble := by
  rcases value.slot_cases with h | ⟨strain, h⟩ | h | h
  · simp [Doubling.ofValue, isRedouble, isDouble, h, call_of_pass h]
  · simp [doubling_of_strain h, call_of_strain h]
  · simp [Doubling.ofValue, isRedouble, isDouble, h, call_of_double h]
  · simp [Doubling.ofValue, isRedouble, h, call_of_redouble h]

theorem doubling_eq_none_iff {value : BidValue} (h : value.call ≠ .pass) :
    Doubling.ofValue value = .none ↔ ∃ bid, value.call = .bid bid := by
  cases hdoubling : Doubling.ofValue value with
  | none =>
      refine ⟨fun _ => ?_, fun _ => rfl⟩
      cases hcall : value.call with
      | pass => exact absurd hcall h
      | double => simp [doubling_eq_double_iff.mpr hcall] at hdoubling
      | redouble => simp [doubling_eq_redouble_iff.mpr hcall] at hdoubling
      | bid proposal => exact ⟨proposal, rfl⟩
  | double => simp [doubling_eq_double_iff.mp hdoubling]
  | redouble => simp [doubling_eq_redouble_iff.mp hdoubling]

theorem isDouble_iff {value : BidValue} :
    value.isDouble = true ↔ value.call = .double ∨ value.call = .redouble := by
  rw [← doubling_eq_double_iff, ← doubling_eq_redouble_iff]
  unfold Doubling.ofValue
  cases hdouble : value.isDouble with
  | true => split <;> simp
  | false =>
      have small : ¬ value.isRedouble = true := by
        simp only [isDouble, decide_eq_false_iff_not] at hdouble
        simp only [isRedouble, beq_iff_eq]
        omega
      simp [small]

theorem number_eq (value : BidValue) : value.number = (value.level - 1) * 8 + value.slot + 1 := by
  have pos := value.pos
  unfold level slot
  omega

theorem call_eq_bid_iff {value : BidValue} {bid : Bid} :
    value.call = .bid bid ↔ value.level = bid.level ∧ value.slot = bid.strain.slot := by
  constructor
  · intro hcall
    rcases value.slot_cases with h | ⟨strain, h⟩ | h | h
    · simp [call_of_pass h] at hcall
    · rw [call_of_strain h, Call.bid.injEq] at hcall
      subst hcall
      exact ⟨rfl, h⟩
    · simp [call_of_double h] at hcall
    · simp [call_of_redouble h] at hcall
  · rintro ⟨level_eq, slot_eq⟩
    rw [call_of_strain slot_eq, level_eq]

theorem strain?_eq_some_iff {value : BidValue} {strain : Strain} :
    value.strain? = some strain ↔ value.call = .bid ⟨value.level, strain⟩ := by
  rcases value.slot_cases with h | ⟨other, h⟩ | h | h
  · simp [strain?, h, Strain.ofSlot?, call_of_pass h]
  · simp [strain?, h, call_of_strain h]
  · simp [strain?, h, Strain.ofSlot?, call_of_double h]
  · simp [strain?, h, Strain.ofSlot?, call_of_redouble h]

theorem number_lt_iff_outranks {value other : BidValue} {bid proposed : Bid}
    (hvalue : value.call = .bid bid) (hother : other.call = .bid proposed) :
    other.number < value.number ↔ bid.Outranks proposed := by
  obtain ⟨level_eq, slot_eq⟩ := call_eq_bid_iff.mp hvalue
  obtain ⟨level_eq', slot_eq'⟩ := call_eq_bid_iff.mp hother
  have level_pos := value.level_pos
  have level_pos' := other.level_pos
  have index_lt := bid.strain.index_lt
  have index_lt' := proposed.strain.index_lt
  rw [number_eq value, number_eq other, slot_eq, slot_eq', ← Nat.succ_lt_succ_iff]
  unfold Bid.Outranks Strain.slot
  omega

end BidValue

namespace Bid

theorem Outranks.trans {bid middle low : Bid} (h : bid.Outranks middle)
    (hlow : middle.Outranks low) : bid.Outranks low := by
  unfold Outranks at *
  omega

end Bid

@[simp] theorem TaggedBid.strain?_eq (bid : TaggedBid) : bid.strain? = bid.value.strain? := by
  simp [strain?, strainOfCode?]

end ContractBridge
