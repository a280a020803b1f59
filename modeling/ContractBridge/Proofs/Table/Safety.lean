import ContractBridge.Proofs.Table.Bidding
import ContractBridge.Proofs.Table.Conservation

/-!
# No command runs into a dead end

Whatever is asked of a table, the rules never give out: a settled auction resolves, the opening
leader has something to play, a full trick has a winner and the counts fit into their bytes.  Only
a shuffle that finds no acceptable word can stop a table.
-/

namespace ContractBridge

theorem Contract.result?_eq {contract : Contract} (h : Bid.IsLevel contract.bid.level)
    {tricks : Nat} (htricks : tricks ≤ handSize) :
    contract.result? tricks = some ((tricks : Int) - (contract.bid.level + book : Nat)) := by
  obtain ⟨hpos, hle⟩ := h
  have target : contract.target? = some (contract.bid.level + book) := by
    refine if_pos ?_
    simp only [book, UInt8.size]
    omega
  have small : ∀ count : Nat, count ≤ 13 → (count : Int).bmod UInt8.size = count := by
    intro count hcount
    simp only [Int.bmod, UInt8.size]
    omega
  have tricks_eq := small tricks htricks
  have target_eq := small (contract.bid.level + book) (by simp only [book]; omega)
  simp only [result?, target, Option.bind_some, tricks_eq, target_eq]
  refine if_pos ?_
  simp only [book, handSize] at htricks ⊢
  omega

namespace Table

section Sound

variable {table : Table} {plays : List (Seat × Card)}

theorem Sound.call_fault (h : table.Sound plays) {seat : Seat} {value : BidValue} {fault : Fault}
    (hfault : table.call seat value = .error (.fault fault)) :
    fault = .stalledShuffle ∧ Deal.shuffle table.generator = .error .stalledShuffle := by
  cases hrefusal : table.callRefusal? seat value with
  | some error => simp [call, hrefusal] at hfault
  | none =>
      have hstage := (callRefusal?_eq_none_iff.mp hrefusal).1
      have bidding := h.bidding seat hstage
      have hlegal := (bidding.callRefusal?_eq_none_iff hstage).mp hrefusal
      rw [call_of_accepted hrefusal] at hfault
      rcases bidding.enter_cases h.valid hlegal with ⟨outcome, next, hok⟩ | ⟨-, hshuffle, hstalled⟩
      · rw [hok] at hfault
        cases hfault
      · rw [hstalled] at hfault
        cases hfault
        exact ⟨rfl, hshuffle⟩

theorem Sound.playCard_ne_fault (h : table.Sound plays) {actor seat : Seat} {card : Card}
    {fault : Fault} : table.playCard actor seat card ≠ .error (.fault fault) := by
  intro hfault
  unfold Table.playCard at hfault
  split at hfault
  case h_1 => cases hfault
  case h_2 play hstage =>
    split at hfault
    case isTrue => cases hfault
    case isFalse =>
      have orderly := (h.playing play hstage).recorded.orderly
      unfold playOn at hfault
      split at hfault
      case h_2 => cases hfault
      case h_1 failure hplay =>
        cases failure with
        | refused error => simp at hfault
        | fault dead => exact orderly.playCard_ne_fault hplay

theorem nextDeal_fault {fault : Fault} (hfault : table.nextDeal = .error (.fault fault)) :
    fault = .stalledShuffle ∧ Deal.shuffle table.generator = .error .stalledShuffle := by
  unfold nextDeal at hfault
  split at hfault
  case h_2 => cases hfault
  case h_1 =>
    rw [redeal_eq] at hfault
    cases hshuffle : Deal.shuffle table.generator with
    | ok board => simp [hshuffle, Except.map] at hfault
    | error dead =>
        obtain rfl := Deal.fault_of_shuffle hshuffle
        simp only [hshuffle, Except.map, Except.error.injEq, Failure.fault.injEq] at hfault
        exact ⟨hfault.symm, rfl⟩

theorem labelled_eq_error {α : Type} {label : α → Answer}
    {result : Except (Failure TableError) (α × Table)} {failure : Failure TableError}
    (h : labelled label result = .error failure) : result = .error failure := by
  unfold labelled at h
  split at h
  case h_1 => cases h
  case h_2 =>
    cases h
    rfl

theorem Sound.perform_fault (h : table.Sound plays) {command : Command} {fault : Fault}
    (hfault : table.perform command = .error (.fault fault)) :
    fault = .stalledShuffle ∧ Deal.shuffle table.generator = .error .stalledShuffle := by
  cases command with
  | bid seat code =>
      replace hfault := labelled_eq_error hfault
      by_cases hdecodes : ∃ value, TaggedBid.decode code = .ok ⟨seat, value⟩
      · obtain ⟨value, hdecode⟩ := hdecodes
        rw [bid_of_decode hdecode] at hfault
        exact h.call_fault hfault
      · obtain ⟨error, hrefused⟩ := bid_refused_of_decode (not_exists.mp hdecodes)
        rw [hrefused] at hfault
        cases hfault
  | call seat value => exact h.call_fault (labelled_eq_error hfault)
  | play actor seat code =>
      replace hfault := labelled_eq_error hfault
      unfold play at hfault
      split at hfault
      case h_1 => cases hfault
      case h_2 => exact absurd hfault h.playCard_ne_fault
  | playCard actor seat card => exact absurd (labelled_eq_error hfault) h.playCard_ne_fault
  | autoPlay =>
      replace hfault := labelled_eq_error hfault
      unfold autoPlay at hfault
      split at hfault
      case h_1 => cases hfault
      case h_2 => exact absurd hfault h.playCard_ne_fault
  | nextDeal => exact nextDeal_fault (labelled_eq_error hfault)

end Sound

/-- A run of commands from a table that was just opened meets no fault but a stalled shuffle.  A
completed auction leads to a play, all slots named are slots of a hand, and the result of every
board can be told. -/
theorem run_fault {table : Table} (h : Opened table) (commands : List Command) :
    (∀ command fault, (table.run commands).2.perform command = .error (.fault fault) →
      fault = .stalledShuffle ∧
        Deal.shuffle (table.run commands).2.generator = .error .stalledShuffle) ∧
    (∀ command declaration turn legal next,
      (table.run commands).2.perform command =
        .ok (.bid (.completed declaration turn legal), next) →
      turn.seat = declaration.lead ∧ next.turn? = some (turn, legal)) ∧
    (∀ command result next, (table.run commands).2.perform command = .ok (.played result, next) →
      result.slot < handSize) ∧
    (∀ turn legal, (table.run commands).2.turn? = some (turn, legal) →
      legal.defaultSlot < handSize ∧ legal.range.contains legal.defaultCard = true) ∧
    ∀ play, (table.run commands).2.play? = some play →
      Bid.IsLevel play.declaration.contract.bid.level ∧
        play.tricksOf play.declaration.declarer ≤ handSize ∧
        play.declaration.contract.result? (play.tricksOf play.declaration.declarer) =
          some ((play.tricksOf play.declaration.declarer : Int) -
            (play.declaration.contract.bid.level + Contract.book : Nat)) := by
  have sound := ((Course.opened h).run commands).sound
  generalize (table.run commands).2 = last at sound ⊢
  refine ⟨?_, ?_, ?_, ?_, ?_⟩
  · intro command fault hfault
    exact sound.perform_fault hfault
  · intro command declaration turn legal next hperform
    cases transition_of_perform hperform with
    | called accepted entered =>
        cases entered with
        | settled status resolved lead =>
            obtain ⟨-, hturn, -⟩ := CardPlay.pending?_eq_some_iff.mp lead
            refine ⟨?_, lead⟩
            rw [hturn]
            rfl
  · intro command result next hperform
    obtain ⟨actor, seat, card, -, hplay⟩ := playCard_of_perform hperform
    obtain ⟨-, -, hslot, -, -⟩ := sound.playCard hplay
    exact Hand.slot_lt hslot
  · intro turn legal hturn
    obtain ⟨play, hplay, hpending⟩ := Option.bind_eq_some_iff.mp hturn
    obtain ⟨-, -, hlegal⟩ := CardPlay.pending?_eq_some_iff.mp hpending
    obtain ⟨hslot, hcontains⟩ := Hand.default_spec hlegal
    exact ⟨Hand.slot_lt hslot, hcontains⟩
  · intro play hplay
    have playing := sound.playing play (stage_of_play? hplay)
    have hlevel := Auction.isLevel_of_resolve playing.resolved
    have orderly := playing.recorded.orderly
    have htricks : play.tricksOf play.declaration.declarer ≤ handSize := by
      refine Nat.le_trans (BySide.get_le_sum ..) ?_
      rw [orderly.sum]
      exact orderly.count
    exact ⟨hlevel, htricks, Contract.result?_eq hlevel htricks⟩

theorem run_fault_unshuffled :
    ∃ play, ((unshuffled .north).run (oneClub ++ List.replicate 52 .autoPlay)).2.play? = some play ∧
      play.declaration.contract.result? (play.tricksOf play.declaration.declarer) =
        some ((play.tricksOf play.declaration.declarer : Int) -
          (play.declaration.contract.bid.level + Contract.book : Nat)) := by
  obtain ⟨-, -, -, -, hresult⟩ :=
    run_fault (opened_unshuffled .north) (oneClub ++ List.replicate 52 .autoPlay)
  have hplayed : ((unshuffled .north).run
      (oneClub ++ List.replicate 52 .autoPlay)).2.play?.isSome = true := by decide +kernel
  obtain ⟨play, hplay⟩ := Option.isSome_iff_exists.mp hplayed
  exact ⟨play, hplay, (hresult play hplay).2.2⟩

end Table

end ContractBridge
