import ContractBridge.Proofs.Deal.Shuffled
import ContractBridge.Proofs.Hand.Reading
import Mathlib.Data.List.Sort

/-!
# Texts there and back

A hand is written suit by suit and read suit by suit, so that the text of any hand reads as its
cards, laid out anew in ascending order.  A text that reads as a hand is written again in capitals,
each run from high to low, and in that form it stays.
-/

namespace ContractBridge

namespace Hand

open Card (NamesRank)

/-- Put together from cards, read from a text or dealt, and then bereft of any of its cards. -/
inductive Obtainable : Hand → Prop
  | ofCards {cards : List Card} {hand : Hand} (h : Hand.ofCards cards = .ok hand) : Obtainable hand
  | ofText {text : String} {hand : Hand} (h : Hand.ofText text = .ok hand) : Obtainable hand
  | dealt {generator rest : Generator} {deal : Deal} (h : Deal.shuffle generator = .ok (deal, rest))
      (seat : Seat) : Obtainable (deal.get seat)
  | remove {hand left : Hand} {card : Card} {slot : Nat} (held : Obtainable hand)
      (h : hand.remove? card = some (slot, left)) : Obtainable left

theorem sublist_set_none {α : Type} (list : List (Option α)) (place : Nat) :
    ((list.set place none).filterMap id).Sublist (list.filterMap id) := by
  induction list generalizing place with
  | nil => exact .refl _
  | cons first rest ih =>
      cases place with
      | zero => cases first <;> simp
      | succ place =>
          cases first with
          | none => simpa using ih place
          | some a => simpa using ih place

theorem Obtainable.nodup {hand : Hand} (h : Obtainable hand) : hand.cards.Nodup := by
  induction h with
  | ofCards h =>
      obtain ⟨hlength, hnodup, rfl⟩ := ofCards_eq_ok_iff.mp h
      rwa [cards_fill]
  | ofText h => exact (cards_of_ofText h).2
  | dealt h seat => exact (Deal.valid_of_shuffle h).nodup_hand seat
  | remove _ h ih =>
      obtain ⟨_, -, heq⟩ := Option.map_eq_some_iff.mp h
      cases heq
      exact ih.sublist (sublist_set_none _ _)

section Writing

variable (hand : Hand)

theorem perm_holding (suit : Suit) :
    (hand.holding suit).Perm (hand.cards.filter (·.suit = suit)) :=
  (List.reverse_perm _).trans (Card.perm_sortAscending _)

theorem suit_of_mem_holding {suit : Suit} {card : Card} (h : card ∈ hand.holding suit) :
    card.suit = suit := by
  simpa using (List.mem_filter.mp ((hand.perm_holding suit).mem_iff.mp h)).2

theorem descending_holding (suit : Suit) :
    (hand.holding suit).Pairwise fun card later => later.code ≤ card.code :=
  List.pairwise_reverse.mpr (Card.ascending_sortAscending _)

theorem holding_eq_of_perm {suit : Suit} {cards : List Card}
    (h : (hand.cards.filter (·.suit = suit)).Perm cards)
    (hdescending : cards.Pairwise fun card later => later.code ≤ card.code) :
    hand.holding suit = cards := by
  rw [holding, Card.sortAscending_eq_of_perm (h.trans (List.reverse_perm cards).symm)
    (List.pairwise_reverse.mpr hdescending), List.reverse_reverse]

theorem chars_empty : empty.chars = ['.', '.', '.'] := by
  have void : ∀ suit, empty.holding suit = [] := fun suit =>
    empty.holding_eq_of_perm (.refl _) .nil
  simp only [chars, void]
  rfl

theorem count_holding (suit : Suit) (card : Card) :
    (hand.holding suit).count card = if card.suit = suit then hand.cards.count card else 0 := by
  split
  case isTrue hsuit =>
    rw [(hand.perm_holding suit).count_eq, List.count_filter (by simpa using hsuit)]
  case isFalse hsuit =>
    exact List.count_eq_zero.mpr fun hmem => hsuit (hand.suit_of_mem_holding hmem)

theorem perm_flatMap_holding : (Suit.descending.flatMap hand.holding).Perm hand.cards := by
  rw [List.perm_iff_count]
  intro card
  simp only [Suit.descending, List.flatMap_cons, List.flatMap_nil, List.count_append, count_holding]
  cases card.suit <;> simp

theorem splitOn_chars :
    hand.chars.splitOn '.' =
      Suit.descending.map fun suit => (hand.holding suit).map Card.rankChar := by
  apply List.splitOn_intercalate
  · intro run hrun hdot
    obtain ⟨suit, -, rfl⟩ := List.mem_map.mp hrun
    obtain ⟨card, -, hcard⟩ := List.mem_map.mp hdot
    exact card.rankChar_ne_dot hcard
  · simp [Suit.descending]

theorem count_dot_chars : hand.chars.count '.' = 3 := by
  have length_eq := length_splitOn '.' hand.chars
  rw [splitOn_chars, List.length_map] at length_eq
  simpa [Suit.descending] using length_eq.symm

theorem runs_chars :
    runs hand.chars =
      Suit.descending.map fun suit => (suit, (hand.holding suit).map Card.rankChar) := by
  rw [runs, splitOn_chars]
  rfl

theorem namesRank_of_mem_chars {c : Char} (hc : c ∈ hand.chars) (hdot : c ≠ '.') : NamesRank c := by
  obtain ⟨run, hrun, hmem⟩ := mem_splitOn_iff.mpr ⟨hc, hdot⟩
  rw [splitOn_chars] at hrun
  obtain ⟨suit, -, rfl⟩ := List.mem_map.mp hrun
  obtain ⟨card, -, rfl⟩ := List.mem_map.mp hmem
  exact card.namesRank_rankChar

end Writing

/-! ## Reading what was written -/

theorem named_map_rankChar {suit : Suit} {cards : List Card}
    (h : ∀ card ∈ cards, card.suit = suit) :
    named suit (cards.map Card.rankChar) = cards := by
  induction cards with
  | nil => rfl
  | cons card cards ih =>
      obtain ⟨hcard, hcards⟩ := List.forall_mem_cons.mp h
      have reads := Card.named_eq_some_iff.mpr ⟨hcard, card.toUpper_rankChar.symm⟩
      rw [List.map_cons, named_cons reads, ih hcards]

theorem spelt_chars (hand : Hand) : spelt hand.chars = Suit.descending.flatMap hand.holding := by
  rw [spelt, runs_chars, List.flatMap_map]
  apply List.flatMap_congr
  intro suit _
  exact named_map_rankChar fun card => hand.suit_of_mem_holding

theorem ofText_text (hand : Hand) : ofText hand.text = ofCards (Card.sortAscending hand.cards) := by
  have dots := hand.count_dot_chars
  have not_dash : hand.chars ≠ ['-'] := by
    intro h
    rw [h] at dots
    cases dots
  have no_bad : ¬ ∃ c ∈ hand.chars, c ≠ '.' ∧ ¬ NamesRank c :=
    not_exists_nameless_iff.mpr fun c => hand.namesRank_of_mem_chars
  have same : Card.sortAscending (spelt hand.chars) = Card.sortAscending hand.cards := by
    apply Card.sortAscending_eq_of_perm _ (Card.ascending_sortAscending _)
    rw [spelt_chars]
    exact hand.perm_flatMap_holding.trans (Card.perm_sortAscending _).symm
  rw [ofText, text, String.toList_ofList, ofChars_eq, if_neg not_dash, if_neg (by simp [dots]),
    if_neg no_bad, same]

/-- What a hand comes to when its text is read: the same cards in ascending order, and after them
the empty slots. -/
structure LaidOut (hand anew : Hand) : Prop where
  same : anew.cards.Perm hand.cards
  ascending : anew.cards.Pairwise fun card later => card.code < later.code
  leading : anew.slots = anew.cards.map some ++ List.replicate (handSize - anew.cards.length) none

theorem laidOut_fill {hand : Hand} (hnodup : hand.cards.Nodup)
    (h : (Card.sortAscending hand.cards).length ≤ handSize) :
    LaidOut hand (fill (Card.sortAscending hand.cards) h) := by
  constructor
  · rw [cards_fill]
    exact Card.perm_sortAscending _
  · rw [cards_fill]
    exact Card.strictly_sortAscending hnodup
  · rw [cards_fill]
    rfl

theorem exists_laidOut {hand : Hand} (hnodup : hand.cards.Nodup) :
    ∃ anew, ofText hand.text = .ok anew ∧ LaidOut hand anew := by
  have sorted := Card.perm_sortAscending hand.cards
  have fits : (Card.sortAscending hand.cards).length ≤ handSize := by
    rw [sorted.length_eq]
    exact hand.size_le
  refine ⟨_, ?_, laidOut_fill hnodup fits⟩
  rw [ofText_text]
  exact ofCards_eq_ok_iff.mpr ⟨fits, sorted.nodup_iff.mpr hnodup, rfl⟩

theorem ofText_text_of_ofText {text : String} {hand : Hand} (h : ofText text = .ok hand) :
    ofText hand.text = .ok hand := by
  have sorted : Card.sortAscending hand.cards = Card.sortAscending (spelt text.toList) := by
    rw [(cards_of_ofText h).1]
    exact Card.sortAscending_eq_of_perm (.refl _) (Card.ascending_sortAscending _)
  rw [ofText_text, sorted]
  exact ofCards_of_ofText h

theorem not_mem_chars {c : Char} (hdot : c ≠ '.') (hrank : ¬ Card.NamesRank c) (hand : Hand) :
    c ∉ hand.chars :=
  fun hc => hrank (hand.namesRank_of_mem_chars hc hdot)

theorem chars_eq_iff {hand other : Hand} :
    hand.chars = other.chars ↔ hand.cards.Perm other.cards := by
  constructor
  · intro h
    have same : Suit.descending.flatMap hand.holding = Suit.descending.flatMap other.holding := by
      rw [← spelt_chars, h, spelt_chars]
    exact hand.perm_flatMap_holding.symm.trans (same ▸ other.perm_flatMap_holding)
  · intro h
    have holdings : hand.holding = other.holding := by
      funext suit
      have sorted := Card.sortAscending_eq_of_perm
        ((h.filter (·.suit = suit)).trans (Card.perm_sortAscending _).symm)
        (Card.ascending_sortAscending _)
      rw [holding, sorted]
      rfl
    rw [chars, holdings]
    rfl

theorem text_eq_iff {hand other : Hand} :
    hand.text = other.text ↔ hand.cards.Perm other.cards := by
  rw [← chars_eq_iff, text, text, String.ofList_inj]

theorem Arranged.ofText_text {hand : Hand} (h : hand.Arranged) : ofText hand.text = .ok hand := by
  have sorted : Card.sortAscending hand.cards = hand.cards :=
    Card.sortAscending_eq_of_perm (.refl _) (h.ascending.imp Nat.le_of_lt)
  have distinct : hand.cards.Nodup := h.ascending.imp fun hlt heq => by simp [heq] at hlt
  have full : hand.cards.length = handSize := by
    rw [← hand.length_slots, h.filled, List.length_map]
  rw [Hand.ofText_text, sorted]
  refine ofCards_eq_ok_iff.mpr ⟨hand.size_le, distinct, ext_slots ?_⟩
  rw [h.filled]
  simp [fill, full]

/-! ## Writing what was read -/

def NotBelow (c other : Char) : Prop :=
  Card.ranksUpward.idxOf other ≤ Card.ranksUpward.idxOf c

instance : DecidableRel NotBelow := fun _ _ => Nat.decLe ..

instance : Std.Total NotBelow := ⟨fun _ _ => Nat.le_total ..⟩

instance : IsTrans Char NotBelow := ⟨fun _ _ _ h h' => Nat.le_trans h' h⟩

def highFirst (run : List Char) : List Char :=
  (run.map Char.toUpper).insertionSort NotBelow

/-- A text in capitals, the ranks of each suit from high to low; a dash is spelt out. -/
def tidied (text : String) : String :=
  if text = "-" then "..."
  else String.ofList (List.intercalate ['.'] ((text.toList.splitOn '.').map highFirst))

theorem map_rankChar_eq_highFirst {suit : Suit} {run : List Char} {cards : List Card}
    (hnames : ∀ c ∈ run, NamesRank c) (hperm : cards.Perm (named suit run))
    (hdescending : cards.Pairwise fun card later => later.code ≤ card.code) :
    cards.map Card.rankChar = highFirst run := by
  have one_suit : ∀ card ∈ cards, card.suit = suit := by
    intro card hcard
    exact (mem_named_iff.mp (hperm.mem_iff.mp hcard)).1
  have same : (cards.map Card.rankChar).Perm (highFirst run) := by
    apply (hperm.map _).trans
    rw [map_rankChar_named suit hnames]
    exact (List.perm_insertionSort _ _).symm
  have falling : (cards.map Card.rankChar).Pairwise NotBelow := by
    apply List.pairwise_map.mpr
    apply hdescending.imp_of_mem
    intro card later hcard hlater hle
    have suits := (one_suit later hlater).trans (one_suit card hcard).symm
    exact (Card.idxOf_rankChar_le_iff suits).mpr hle
  apply List.Perm.eq_of_pairwise _ falling (List.pairwise_insertionSort _ _) same
  intro c other hc _ hle hge
  obtain ⟨card, -, rfl⟩ := List.mem_map.mp hc
  exact (List.idxOf_inj (List.mem_of_getElem? card.getElem?_ranksUpward)).mp
    (Nat.le_antisymm hge hle)

section Accepted

variable {text : String} {hand : Hand} (h : ofText text = .ok hand)

include h

theorem perm_holding_named (hdots : text.toList.count '.' = 3) {suit : Suit} {run : List Char}
    (hrun : (suit, run) ∈ runs text.toList) : (hand.holding suit).Perm (named suit run) := by
  obtain ⟨hcards, hnodup⟩ := cards_of_ofText h
  have spelt_nodup : (spelt text.toList).Nodup := by
    rw [hcards] at hnodup
    exact (Card.perm_sortAscending _).nodup_iff.mp hnodup
  have named_nodup : (named suit run).Nodup :=
    (List.nodup_flatMap.mp spelt_nodup).1 (suit, run) hrun
  apply (hand.perm_holding suit).trans
  apply (List.perm_ext_iff_of_nodup (hnodup.filter _) named_nodup).mpr
  intro card
  simp only [List.mem_filter, mem_cards_of_ofText h, mem_named_iff, decide_eq_true_eq]
  constructor
  · rintro ⟨⟨other, hother, hchar⟩, rfl⟩
    cases List.inj_on_of_nodup_map (nodup_map_fst_runs hdots) hrun hother rfl
    exact ⟨rfl, hchar⟩
  · rintro ⟨rfl, hchar⟩
    exact ⟨⟨run, hrun, hchar⟩, rfl⟩

theorem text_of_ofText : hand.text = tidied text := by
  unfold tidied
  split
  case isTrue hdash =>
    rw [hdash] at h
    cases h
    rw [Hand.text, chars_empty]
  case isFalse hdash =>
    have accepted := (ofText_isOk_iff.mp ⟨hand, h⟩).resolve_left hdash
    have dots := accepted.dots
    have run_names := (forall_namesRank_iff dots).mpr accepted.ranks
    have written : Suit.descending.map (fun suit => (hand.holding suit).map Card.rankChar) =
        (text.toList.splitOn '.').map highFirst := by
      rw [← map_fst_runs dots, ← map_snd_runs dots, List.map_map, List.map_map]
      apply List.map_congr_left
      rintro ⟨suit, run⟩ hrun
      exact map_rankChar_eq_highFirst (run_names _ hrun) (perm_holding_named h dots hrun)
        (hand.descending_holding suit)
    rw [Hand.text, chars, written]

end Accepted

/-- Writing a hand and reading it again gives the same cards, laid out in ascending order.  Reading
a text and writing it again puts the text in order and changes nothing after that, so that texts are
read alike just when they are written alike. -/
theorem text_there_and_back :
    (∀ hand, Obtainable hand → ∃ anew, ofText hand.text = .ok anew ∧ LaidOut hand anew) ∧
    (∀ text hand, ofText text = .ok hand →
      hand.text = tidied text ∧ ofText hand.text = .ok hand) ∧
    ∀ text other hand same, ofText text = .ok hand → ofText other = .ok same →
      (hand = same ↔ hand.text = same.text) := by
  refine ⟨fun hand held => exists_laidOut held.nodup, ?_, ?_⟩
  · intro text hand h
    exact ⟨text_of_ofText h, ofText_text_of_ofText h⟩
  · intro text other hand same h hother
    constructor
    · exact congrArg Hand.text
    · intro written
      have read := ofText_text_of_ofText h
      rw [written, ofText_text_of_ofText hother] at read
      exact (Except.ok.inj read).symm

/-- The ten of clubs leaves a hole between the four and the deuce of spades, which closes when the
hand is read again; a text in small letters comes back in capitals. -/
theorem text_there_and_back_hole :
    (∃ left anew : Hand,
      left.slots.take 3 = [some ⟨42, by decide, by decide⟩, none, some ⟨40, by decide, by decide⟩] ∧
      ofText left.text = .ok anew ∧ LaidOut left anew) ∧
    ∃ hand, ofText "9qa.tj2..k" = .ok hand ∧ hand.text = "AQ9.JT2..K" ∧
      ofText "AQ9.JT2..K" = .ok hand := by
  obtain ⟨reads, tidies, -⟩ := text_there_and_back
  constructor
  · let four : Card := ⟨42, by decide, by decide⟩
    let ten : Card := ⟨9, by decide, by decide⟩
    let deuce : Card := ⟨40, by decide, by decide⟩
    have together : ofCards [four, ten, deuce] = .ok (fill [four, ten, deuce] (by decide)) :=
      ofCards_eq_ok_iff.mpr ⟨_, by decide, rfl⟩
    have played : (fill [four, ten, deuce] (by decide)).remove? ten =
        some (1, (fill [four, ten, deuce] (by decide)).clear 1) := by decide
    obtain ⟨anew, hread, hanew⟩ := reads _ ((Obtainable.ofCards together).remove played)
    exact ⟨_, anew, rfl, hread, hanew⟩
  · obtain ⟨hand, hread⟩ : ∃ hand, ofText "9qa.tj2..k" = .ok hand :=
      ofText_isOk_iff.mpr (.inr ⟨by decide, by decide, by decide, by decide⟩)
    obtain ⟨written, again⟩ := tidies _ hand hread
    have tidy : tidied "9qa.tj2..k" = "AQ9.JT2..K" := by decide
    rw [written, tidy] at again
    exact ⟨hand, hread, written.trans tidy, again⟩

end Hand

end ContractBridge
