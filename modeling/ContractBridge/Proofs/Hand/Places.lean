import ContractBridge.Proofs.Hand.Slots

/-!
# Places in a hand

A hand is filled slot by slot from a list of cards, and cards are then taken out of it in any order,
held or not.  At every moment it is the list without the cards asked for so far, and a card that is
left has the place that it had in the list.
-/

namespace ContractBridge

namespace Hand

/-- Each slot takes the next card.  No card is drawn without a slot to put it in, so that what is
handed back is all that found no place. -/
def takeIn : List (Option Card) → List Card → List (Option Card) × List Card
  | [], cards => ([], cards)
  | slot :: slots, [] => (slot :: slots, [])
  | _ :: slots, card :: cards =>
      let (filled, left) := takeIn slots cards
      (some card :: filled, left)

/-- Marks the code of each card in a word and stops at a code that is marked. -/
def repeats (seen : BitVec 64) : List Card → Bool
  | [] => false
  | card :: cards =>
      seen.getLsbD card.code || repeats (seen ||| BitVec.twoPow 64 card.code) cards

theorem length_takeIn (slots : List (Option Card)) (cards : List Card) :
    (takeIn slots cards).1.length = slots.length := by
  induction slots generalizing cards with
  | nil => rfl
  | cons slot slots ih =>
      cases cards with
      | nil => rfl
      | cons card cards => exact congrArg Nat.succ (ih cards)

def assemble (cards : List Card) : Except HandError Hand :=
  let filled := takeIn empty.slots cards
  if filled.2 ≠ [] then .error .tooManyCards
  else if repeats 0#64 (filled.1.filterMap id) then .error .repeatedCard
  else .ok ⟨filled.1, (length_takeIn _ _).trans empty.length_slots⟩

theorem takeIn_replicate (count : Nat) (cards : List Card) :
    takeIn (List.replicate count none) cards =
      ((cards.take count).map some ++ List.replicate (count - cards.length) none,
        cards.drop count) := by
  induction count generalizing cards with
  | zero => simp [takeIn]
  | succ count ih =>
      cases cards with
      | nil => simp [List.replicate_succ, takeIn]
      | cons card cards => simp [List.replicate_succ, takeIn, ih]

theorem repeats_eq_false_iff (seen : BitVec 64) (cards : List Card) :
    repeats seen cards = false ↔
      cards.Nodup ∧ ∀ card ∈ cards, seen.getLsbD card.code = false := by
  induction cards generalizing seen with
  | nil => simp [repeats]
  | cons card cards ih =>
      have marked : ∀ other : Card, (BitVec.twoPow 64 card.code).getLsbD other.code =
          decide (card = other) := by
        intro other
        have le_max := card.le_max
        have narrow : card.code < 64 := by omega
        have same : card.code = other.code ↔ card = other :=
          ⟨Card.ext_code, congrArg Card.code⟩
        simp [BitVec.getLsbD_twoPow, narrow, same]
      simp only [repeats, Bool.or_eq_false_iff, ih, BitVec.getLsbD_or, marked, List.nodup_cons,
        List.forall_mem_cons, decide_eq_false_iff_not]
      grind

/-- Filling the slots and then looking for repetitions comes to looking at the list. -/
theorem assemble_eq_ofCards (cards : List Card) : assemble cards = ofCards cards := by
  have filled : takeIn empty.slots cards = _ := takeIn_replicate handSize cards
  unfold assemble ofCards
  by_cases hlength : cards.length ≤ handSize
  · have placed : (takeIn empty.slots cards).1 =
        cards.map some ++ List.replicate (handSize - cards.length) none := by
      rw [filled, List.take_of_length_le hlength]
    have held : (takeIn empty.slots cards).1.filterMap id = cards := by
      rw [placed]
      exact cards_fill cards hlength
    have left : (takeIn empty.slots cards).2 = [] := by
      rw [filled]
      exact List.drop_of_length_le hlength
    simp only [left, held, ne_eq, not_true_eq_false, if_false, hlength, dite_true]
    by_cases distinct : cards.Nodup
    · have unrepeated : repeats 0#64 cards = false :=
        (repeats_eq_false_iff _ _).mpr ⟨distinct, by simp⟩
      simp [unrepeated, distinct, placed, fill]
    · have repeated : repeats 0#64 cards = true := by
        rw [← Bool.not_eq_false, repeats_eq_false_iff]
        exact fun h => distinct h.1
      simp [repeated, distinct]
  · have left : (takeIn empty.slots cards).2 ≠ [] := by
      rw [filled]
      simpa using hlength
    simp [left, hlength]

/-! ## Asking for cards -/

/-- The answer to a request for a card, and the hand after it.  A card that is not held is not found,
and the hand stays as it is. -/
def take (hand : Hand) (card : Card) : Option Nat × Hand :=
  match hand.remove? card with
  | some (slot, left) => (some slot, left)
  | none => (none, hand)

def without (hand : Hand) (asked : List Card) : Hand :=
  asked.foldl (fun hand card => (hand.take card).2) hand

section Requests

variable {hand : Hand} {card : Card}

theorem fst_take : (hand.take card).1 = hand.position? card := by
  unfold take remove?
  cases hand.position? card <;> rfl

theorem take_of_not_held (h : card ∉ hand.cards) : hand.take card = (none, hand) := by
  have absent : hand.position? card = none := by
    rw [← Option.not_isSome_iff_eq_none]
    exact fun hheld => h (contains_iff.mp hheld)
  simp [take, remove?, absent]

theorem snd_take_keep (distinct : hand.cards.Nodup) (p : Card → Bool) :
    ((hand.keep p).take card).2 = hand.keep fun other => p other && other != card := by
  by_cases hheld : card ∈ hand.cards ∧ p card = true
  · obtain ⟨slot, -, htake⟩ := remove?_keep distinct hheld.1 hheld.2
    simp [take, htake]
  · have gone : card ∉ (hand.keep p).cards := by
      rw [cards_keep, List.mem_filter]
      exact hheld
    rw [take_of_not_held gone]
    apply keep_congr
    intro other hother
    by_cases hsame : other = card
    · subst hsame
      have unkept : p other = false := by simpa [hother] using hheld
      simp [unkept]
    · simp [hsame]

theorem without_keep (distinct : hand.cards.Nodup) (p : Card → Bool) (asked : List Card) :
    (hand.keep p).without asked = hand.keep fun card => p card && decide (card ∉ asked) := by
  induction asked generalizing p with
  | nil => simp [without]
  | cons card asked ih =>
      rw [without, List.foldl_cons, snd_take_keep distinct]
      refine (ih _).trans (keep_congr ?_)
      intro other _
      simp only [List.mem_cons, not_or, Bool.decide_and, Bool.and_assoc, decide_not, bne,
        beq_eq_decide]

theorem without_eq_keep (distinct : hand.cards.Nodup) (asked : List Card) :
    hand.without asked = hand.keep fun card => decide (card ∉ asked) := by
  simpa [keep_all] using without_keep distinct (fun _ => true) asked

end Requests

section Left

variable {cards : List Card} (h : cards.length ≤ handSize) (distinct : cards.Nodup)
  (asked : List Card)

include distinct

theorem without_fill :
    (fill cards h).without asked = (fill cards h).keep fun card => decide (card ∉ asked) := by
  apply without_eq_keep
  rwa [cards_fill]

theorem cards_without : ((fill cards h).without asked).cards = cards.filter (· ∉ asked) := by
  rw [without_fill h distinct, cards_keep, cards_fill]

theorem getElem?_without {place : Nat} (hplace : place < handSize) :
    ((fill cards h).without asked).slots[place]? = some (cards[place]?.filter (· ∉ asked)) := by
  rw [without_fill h distinct, getElem?_keep, getElem?_fill h hplace, Option.map_some]

theorem position?_without_iff {card : Card} {place : Nat} :
    ((fill cards h).without asked).position? card = some place ↔
      card ∉ asked ∧ cards[place]? = some card := by
  have left_distinct : ((fill cards h).without asked).cards.Nodup := by
    rw [cards_without h distinct]
    exact distinct.filter _
  rw [position?_eq_some_iff left_distinct]
  by_cases hplace : place < handSize
  · rw [getElem?_without h distinct asked hplace, Option.some_inj, Option.filter_eq_some_iff,
      and_comm, decide_eq_true_iff]
  · have beyond : cards[place]? = none :=
      List.getElem?_eq_none (Nat.le_trans h (Nat.le_of_not_lt hplace))
    constructor
    · exact fun hslot => absurd (slot_lt hslot) hplace
    · simp [beyond]

end Left

/-- A hand is what is left of a list of cards when some have been asked for, each in the place that
it has in the list. -/
structure KeepsPlaces (cards asked : List Card) (hand : Hand) : Prop where
  cards_eq : hand.cards = cards.filter (· ∉ asked)
  size_eq : hand.size = (cards.filter (· ∉ asked)).length
  isEmpty_iff : hand.isEmpty = true ↔ cards.filter (· ∉ asked) = []
  contains_iff : ∀ card, hand.contains card = true ↔ card ∈ cards.filter (· ∉ asked)
  slots_eq : ∀ place < 13, hand.slots[place]? = some (cards[place]?.filter (· ∉ asked))
  position_iff : ∀ card place,
    hand.position? card = some place ↔ card ∉ asked ∧ cards[place]? = some card
  found : ∀ card place, card ∉ asked → cards[place]? = some card →
    (hand.take card).1 = some place
  unfound : ∀ card, card ∈ asked ∨ card ∉ cards → hand.take card = (none, hand)

theorem keepsPlaces_without {cards : List Card} (h : cards.length ≤ handSize)
    (distinct : cards.Nodup) (asked : List Card) :
    KeepsPlaces cards asked ((fill cards h).without asked) := by
  have left := cards_without h distinct asked
  constructor
  case cards_eq => exact left
  case size_eq => rw [size, left]
  case isEmpty_iff => rw [isEmpty_iff, left]
  case contains_iff =>
    intro card
    rw [contains_iff, left]
  case slots_eq => exact fun place => getElem?_without h distinct asked
  case position_iff => exact fun card place => position?_without_iff h distinct asked
  case found =>
    intro card place hasked hcard
    rw [fst_take]
    exact (position?_without_iff h distinct asked).mpr ⟨hasked, hcard⟩
  case unfound =>
    intro card hcard
    apply take_of_not_held
    rw [left]
    rcases hcard with hasked | habsent
    · simp [hasked]
    · simp [habsent]

/-- A list of more than thirteen cards makes no hand, and neither does one with a repetition, which
is reported of the shorter lists only.  Any other list fills the slots from the first on, and however
its cards are asked for after that, those that are left keep their places. -/
theorem ofCards_keeps_places (cards : List Card) :
    assemble cards = ofCards cards ∧
    (ofCards cards = .error .tooManyCards ↔ 13 < cards.length) ∧
    (ofCards cards = .error .repeatedCard ↔ cards.length ≤ 13 ∧ ¬ cards.Nodup) ∧
    (cards.length ≤ 13 → cards.Nodup → ∃ hand, ofCards cards = .ok hand ∧
      (∀ place < 13, hand.slots[place]? = some cards[place]?) ∧
      ∀ asked, KeepsPlaces cards asked (hand.without asked)) := by
  refine ⟨assemble_eq_ofCards cards, ?_, ?_, ?_⟩
  · simp [ofCards_eq_error_iff, handSize]
  · simp [ofCards_eq_error_iff, handSize]
  · intro hlength distinct
    refine ⟨fill cards hlength, ?_, fun place => getElem?_fill hlength, ?_⟩
    · exact ofCards_eq_ok_iff.mpr ⟨hlength, distinct, rfl⟩
    · exact keepsPlaces_without hlength distinct

/-- The ten is found in its place and not again, the ace was never there, and the deuce behind the
ten stays where it is; of fourteen fours it is the number that is reported. -/
theorem ofCards_keeps_places_ten :
    let four : Card := ⟨42, by decide, by decide⟩
    let ten : Card := ⟨9, by decide, by decide⟩
    let deuce : Card := ⟨40, by decide, by decide⟩
    let ace : Card := ⟨52, by decide, by decide⟩
    (∃ hand, ofCards [four, ten, deuce] = .ok hand ∧
      ((hand.without [ace]).take ten).1 = some 1 ∧
      (hand.without [ace, ten]).take ten = (none, hand.without [ace, ten]) ∧
      (hand.without [ace, ten]).cards = [four, deuce] ∧
      (hand.without [ace, ten]).position? deuce = some 2) ∧
    ofCards (List.replicate 14 four) = .error .tooManyCards := by
  intro four ten deuce ace
  constructor
  · obtain ⟨-, -, -, keeps⟩ := ofCards_keeps_places [four, ten, deuce]
    obtain ⟨hand, hhand, -, places⟩ := keeps (by decide) (by decide)
    have before := places [ace]
    have after := places [ace, ten]
    refine ⟨hand, hhand, before.found ten 1 (by decide) rfl, after.unfound ten (by decide),
      after.cards_eq, ?_⟩
    exact (after.position_iff deuce 2).mpr ⟨by decide, rfl⟩
  · obtain ⟨-, too_many, -⟩ := ofCards_keeps_places (List.replicate 14 four)
    exact too_many.mpr (by decide)

end Hand

end ContractBridge
