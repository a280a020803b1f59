import ContractBridge.Hand.Text
import ContractBridge.Proofs.Card.Rank
import ContractBridge.Proofs.Hand.Slots
import Mathlib.Data.List.Nodup
import Mathlib.Data.List.Pairwise

/-!
# Reading a hand

The text of a hand is cut at its dots, and each run is read by itself for its suit.  What has been
read spells the runs: of each suit it has the cards whose ranks the run gives, in the order of the
run.  The faults of a text are thereby told from its characters alone.
-/

namespace ContractBridge

section Cutting

variable {α : Type} [DecidableEq α]

theorem length_splitOn (sep : α) (list : List α) :
    (list.splitOn sep).length = list.count sep + 1 := by
  induction list with
  | nil => rfl
  | cons first rest ih =>
      rw [List.splitOn_cons_eq_if_modifyHead, List.count_cons]
      split <;> simp [ih]

theorem flatten_splitOn (sep : α) (list : List α) :
    (list.splitOn sep).flatten = list.filter (· ≠ sep) := by
  induction list with
  | nil => rfl
  | cons first rest ih =>
      rw [List.splitOn_cons_eq_if_modifyHead]
      by_cases h : first = sep
      · simp [h, ih]
      · obtain ⟨run, runs, hrest⟩ := List.exists_cons_of_ne_nil (List.splitOn_ne_nil sep rest)
        rw [hrest, List.flatten_cons] at ih
        simp [h, hrest, ih]

theorem mem_splitOn_iff {sep a : α} {list : List α} :
    (∃ run ∈ list.splitOn sep, a ∈ run) ↔ a ∈ list ∧ a ≠ sep := by
  rw [← List.mem_flatten, flatten_splitOn]
  simp

end Cutting

namespace Hand

open Card (NamesRank)

def named (suit : Suit) (run : List Char) : List Card :=
  run.filterMap fun c => (Card.rankOfChar? c).bind (Card.new? suit)

theorem mem_named_iff {suit : Suit} {run : List Char} {card : Card} :
    card ∈ named suit run ↔ card.suit = suit ∧ card.rankChar ∈ run.map Char.toUpper := by
  simp only [named, List.mem_filterMap, Card.named_eq_some_iff, List.mem_map]
  grind

theorem named_cons {suit : Suit} {c : Char} {card : Card}
    (h : (Card.rankOfChar? c).bind (Card.new? suit) = some card) (run : List Char) :
    named suit (c :: run) = card :: named suit run :=
  List.filterMap_cons_some h

theorem map_rankChar_named (suit : Suit) {run : List Char} (h : ∀ c ∈ run, NamesRank c) :
    (named suit run).map Card.rankChar = run.map Char.toUpper := by
  induction run with
  | nil => rfl
  | cons c run ih =>
      rw [List.forall_mem_cons, Card.namesRank_iff_exists suit] at h
      obtain ⟨⟨card, hcard⟩, hrun⟩ := h
      rw [named_cons (Card.named_eq_some_iff.mpr hcard), List.map_cons, List.map_cons, ih hrun,
        hcard.2]

theorem nodup_named_iff (suit : Suit) {run : List Char} (h : ∀ c ∈ run, NamesRank c) :
    (named suit run).Nodup ↔ (run.map Char.toUpper).Nodup := by
  rw [← map_rankChar_named suit h]
  constructor
  · intro distinct
    apply distinct.map_on
    intro card hcard other hother hchar
    have same := (mem_named_iff.mp hcard).1.trans (mem_named_iff.mp hother).1.symm
    exact Card.eq_of_rankChar_eq same hchar
  · exact List.Nodup.of_map _

theorem readHolding_eq (suit : Suit) (run : List Char) :
    readHolding suit run =
      if ∀ c ∈ run, NamesRank c then .ok (named suit run) else .error .invalidRank := by
  induction run with
  | nil => rfl
  | cons c run ih =>
      unfold readHolding
      cases hcard : (Card.rankOfChar? c).bind (Card.new? suit) with
      | none =>
          have nameless : ¬ NamesRank c := by
            rw [Card.namesRank_iff_exists suit]
            rintro ⟨card, names⟩
            rw [Card.named_eq_some_iff.mpr names] at hcard
            cases hcard
          simp [nameless]
      | some card =>
          have names : NamesRank c :=
            (Card.namesRank_iff_exists suit).mpr ⟨card, Card.named_eq_some_iff.mp hcard⟩
          rw [ih, named_cons hcard]
          by_cases hrun : ∀ other ∈ run, NamesRank other
          · rw [if_pos hrun, if_pos (List.forall_mem_cons.mpr ⟨names, hrun⟩)]
          · rw [if_neg hrun, if_neg fun h => hrun (List.forall_mem_cons.mp h).2]

theorem readHoldings_eq (runs : List (Suit × List Char)) :
    readHoldings runs =
      if ∀ run ∈ runs, ∀ c ∈ run.2, NamesRank c then .ok (runs.flatMap fun run => named run.1 run.2)
      else .error .invalidRank := by
  induction runs with
  | nil => rfl
  | cons run runs ih =>
      unfold readHoldings
      rw [readHolding_eq, ih]
      by_cases hrun : ∀ c ∈ run.2, NamesRank c
      · by_cases hruns : ∀ run ∈ runs, ∀ c ∈ run.2, NamesRank c
        · rw [if_pos hrun, if_pos hruns, if_pos (List.forall_mem_cons.mpr ⟨hrun, hruns⟩)]
          rfl
        · rw [if_pos hrun, if_neg hruns, if_neg fun h => hruns (List.forall_mem_cons.mp h).2]
      · rw [if_neg hrun, if_neg fun h => hrun (List.forall_mem_cons.mp h).1]

/-! ## The runs of a text -/

def runs (chars : List Char) : List (Suit × List Char) :=
  Suit.descending.zip (chars.splitOn '.')

def spelt (chars : List Char) : List Card :=
  (runs chars).flatMap fun run => named run.1 run.2

theorem mem_spelt_iff {chars : List Char} {card : Card} :
    card ∈ spelt chars ↔
      ∃ run, (card.suit, run) ∈ runs chars ∧ card.rankChar ∈ run.map Char.toUpper := by
  simp only [spelt, List.mem_flatMap, mem_named_iff, Prod.exists]
  grind

section FourRuns

variable {chars : List Char} (hdots : chars.count '.' = 3)

include hdots

theorem length_splitOn_dot : (chars.splitOn '.').length = 4 := by
  rw [length_splitOn, hdots]

theorem map_fst_runs : (runs chars).map Prod.fst = Suit.descending :=
  List.map_fst_zip (Nat.le_of_eq (length_splitOn_dot hdots).symm)

theorem nodup_map_fst_runs : ((runs chars).map Prod.fst).Nodup := by
  rw [map_fst_runs hdots]
  decide

theorem map_snd_runs : (runs chars).map Prod.snd = chars.splitOn '.' :=
  List.map_snd_zip (Nat.le_of_eq (length_splitOn_dot hdots))

theorem forall_runs_iff {p : List Char → Prop} :
    (∀ run ∈ runs chars, p run.2) ↔ ∀ run ∈ chars.splitOn '.', p run := by
  rw [← map_snd_runs hdots, List.forall_mem_map]

theorem forall_namesRank_iff :
    (∀ run ∈ runs chars, ∀ c ∈ run.2, NamesRank c) ↔ ∀ c ∈ chars, c ≠ '.' → NamesRank c := by
  rw [forall_runs_iff hdots (p := fun run => ∀ c ∈ run, NamesRank c)]
  constructor
  · intro h c hc hdot
    obtain ⟨run, hrun, hmem⟩ := mem_splitOn_iff.mpr ⟨hc, hdot⟩
    exact h run hrun c hmem
  · intro h run hrun c hmem
    obtain ⟨hc, hdot⟩ := mem_splitOn_iff.mp ⟨run, hrun, hmem⟩
    exact h c hc hdot

variable (hnames : ∀ c ∈ chars, c ≠ '.' → NamesRank c)

include hnames

theorem map_rankChar_spelt :
    (spelt chars).map Card.rankChar = (chars.filter (· ≠ '.')).map Char.toUpper := by
  have run_names := (forall_namesRank_iff hdots).mpr hnames
  calc
    (spelt chars).map Card.rankChar =
        (runs chars).flatMap fun run => run.2.map Char.toUpper := by
      rw [spelt, List.map_flatMap]
      exact List.flatMap_congr fun run hrun => map_rankChar_named run.1 (run_names run hrun)
    _ = ((runs chars).map Prod.snd).flatten.map Char.toUpper := by
      rw [List.map_flatten, List.map_map, List.flatMap_def]
      rfl
    _ = (chars.filter (· ≠ '.')).map Char.toUpper := by
      rw [map_snd_runs hdots, flatten_splitOn]

theorem length_spelt : (spelt chars).length = (chars.filter (· ≠ '.')).length := by
  simpa using congrArg List.length (map_rankChar_spelt hdots hnames)

theorem nodup_spelt_iff :
    (spelt chars).Nodup ↔ ∀ run ∈ chars.splitOn '.', (run.map Char.toUpper).Nodup := by
  have run_names := (forall_namesRank_iff hdots).mpr hnames
  have apart : (runs chars).Pairwise
      (Function.onFun List.Disjoint fun run => named run.1 run.2) := by
    apply (List.pairwise_map.mp (nodup_map_fst_runs hdots)).imp
    intro run other hne card hrun hother
    exact hne ((mem_named_iff.mp hrun).1.symm.trans (mem_named_iff.mp hother).1)
  rw [spelt, List.nodup_flatMap,
    ← forall_runs_iff hdots (p := fun run => (run.map Char.toUpper).Nodup)]
  constructor
  · rintro ⟨distinct, -⟩ run hrun
    exact (nodup_named_iff run.1 (run_names run hrun)).mp (distinct run hrun)
  · intro distinct
    refine ⟨?_, apart⟩
    intro run hrun
    exact (nodup_named_iff run.1 (run_names run hrun)).mpr (distinct run hrun)

end FourRuns

/-! ## Reading a text -/

theorem not_exists_nameless_iff {chars : List Char} :
    (¬ ∃ c ∈ chars, c ≠ '.' ∧ ¬ NamesRank c) ↔ ∀ c ∈ chars, c ≠ '.' → NamesRank c := by
  simp only [not_exists, not_and, not_not]

theorem ofChars_eq (chars : List Char) :
    ofChars chars =
      if chars = ['-'] then .ok empty
      else if chars.count '.' ≠ 3 then .error .notFourSuits
      else if ∃ c ∈ chars, c ≠ '.' ∧ ¬ NamesRank c then .error .invalidRank
      else ofCards (Card.sortAscending (spelt chars)) := by
  unfold ofChars
  by_cases hdash : chars = ['-']
  · rw [if_pos hdash, if_pos hdash]
  · rw [if_neg hdash, if_neg hdash]
    by_cases hdots : chars.count '.' = 3
    · have read : readHoldings (Suit.descending.zip (chars.splitOn '.')) = _ :=
        readHoldings_eq (runs chars)
      simp only [length_splitOn_dot hdots, if_true, hdots, ne_eq, not_true_eq_false, if_false, read,
        forall_namesRank_iff hdots]
      by_cases hnames : ∀ c ∈ chars, c ≠ '.' → NamesRank c
      · rw [if_pos hnames, if_neg (not_exists_nameless_iff.mpr hnames)]
        rfl
      · rw [if_neg hnames, if_pos (not_not.mp (mt not_exists_nameless_iff.mp hnames))]
    · have length_ne : (chars.splitOn '.').length ≠ 4 := by
        rw [length_splitOn]
        omega
      simp [length_ne, hdots]

/-- Four runs of rank characters between dots, no rank repeated in a run, thirteen ranks at most. -/
structure WellFormed (text : String) : Prop where
  dots : text.toList.count '.' = 3
  ranks : ∀ c ∈ text.toList, c ≠ '.' → NamesRank c
  distinct : ∀ run ∈ text.toList.splitOn '.', (run.map Char.toUpper).Nodup
  few : (text.toList.filter (· ≠ '.')).length ≤ 13

section OfText

variable {text : String}

theorem toList_eq_dash_iff : text.toList = ['-'] ↔ text = "-" := by
  rw [← String.toList_inj]
  rfl

theorem ofCards_spelt_isOk_iff (hdots : text.toList.count '.' = 3)
    (hnames : ∀ c ∈ text.toList, c ≠ '.' → NamesRank c) :
    (∃ hand, ofCards (Card.sortAscending (spelt text.toList)) = .ok hand) ↔
      WellFormed text := by
  have sorted := Card.perm_sortAscending (spelt text.toList)
  simp only [ofCards_eq_ok_iff, sorted.nodup_iff, nodup_spelt_iff hdots hnames, sorted.length_eq,
    length_spelt hdots hnames]
  constructor
  · rintro ⟨hand, hfew, hdistinct, -⟩
    exact ⟨hdots, hnames, hdistinct, hfew⟩
  · intro h
    exact ⟨_, h.few, h.distinct, rfl⟩

theorem ofText_isOk_iff : (∃ hand, ofText text = .ok hand) ↔ text = "-" ∨ WellFormed text := by
  rw [ofText, ofChars_eq, ← toList_eq_dash_iff]
  by_cases hdash : text.toList = ['-']
  · simp [hdash]
  · by_cases hdots : text.toList.count '.' = 3
    · by_cases hbad : ∃ c ∈ text.toList, c ≠ '.' ∧ ¬ NamesRank c
      · have malformed : ¬ WellFormed text :=
          fun h => not_exists_nameless_iff.mpr h.ranks hbad
        simp [hdash, hdots, hbad, malformed]
      · have hnames := not_exists_nameless_iff.mp hbad
        rw [if_neg hdash, if_neg (by simp [hdots]), if_neg hbad,
          ofCards_spelt_isOk_iff hdots hnames]
        simp [hdash]
    · have malformed : ¬ WellFormed text := fun h => hdots h.dots
      simp [hdash, hdots, malformed]

theorem ofCards_of_ofText {hand : Hand} (h : ofText text = .ok hand) :
    ofCards (Card.sortAscending (spelt text.toList)) = .ok hand := by
  rw [ofText, ofChars_eq] at h
  split_ifs at h with hdash hdots hbad
  · cases h
    have hblank : spelt ['-'] = [] := by decide
    rw [hdash, hblank, Card.sortAscending, List.mergeSort_nil]
    rfl
  · exact h

theorem cards_of_ofText {hand : Hand} (h : ofText text = .ok hand) :
    hand.cards = Card.sortAscending (spelt text.toList) ∧ hand.cards.Nodup := by
  obtain ⟨hlength, hnodup, rfl⟩ := ofCards_eq_ok_iff.mp (ofCards_of_ofText h)
  rw [cards_fill]
  exact ⟨rfl, hnodup⟩

theorem mem_cards_of_ofText {hand : Hand} (h : ofText text = .ok hand) {card : Card} :
    card ∈ hand.cards ↔
      ∃ run, (card.suit, run) ∈ runs text.toList ∧ card.rankChar ∈ run.map Char.toUpper := by
  rw [(cards_of_ofText h).1, (Card.perm_sortAscending _).mem_iff, mem_spelt_iff]

theorem error_of_ofText {error : HandError} (h : ofText text = .error error) :
    error =
      if text.toList.count '.' ≠ 3 then .notFourSuits
      else if ∃ c ∈ text.toList, c ≠ '.' ∧ ¬ NamesRank c then .invalidRank
      else if 13 < (text.toList.filter (· ≠ '.')).length then .tooManyCards
      else .repeatedCard := by
  rw [ofText, ofChars_eq] at h
  split_ifs at h with hdash hdots hbad
  · rw [if_pos hdots]
    cases h
    rfl
  · rw [if_neg hdots, if_pos hbad]
    cases h
    rfl
  · have dots : text.toList.count '.' = 3 := not_not.mp hdots
    have names := not_exists_nameless_iff.mp hbad
    have fault := ofCards_eq_error_iff.mp h
    rw [(Card.perm_sortAscending _).length_eq, length_spelt dots names, handSize] at fault
    rw [if_neg hdots, if_neg hbad]
    rcases fault with ⟨hmany, rfl⟩ | ⟨hfew, -, rfl⟩
    · rw [if_pos hmany]
    · rw [if_neg (Nat.not_lt.mpr hfew)]

end OfText

/-- The reader of hands accepts a dash and the well-formed texts, and no others.  The hand that
comes of it holds the cards named, each once, and of a text that is refused the first fault is
reported: the number of runs, a character that is no rank, the number of ranks, a repetition. -/
theorem ofText_exact (text : String) :
    ((∃ hand, ofText text = .ok hand) ↔ text = "-" ∨ WellFormed text) ∧
    (∀ hand, ofText text = .ok hand → hand.cards.Nodup ∧ ∀ card, card ∈ hand.cards ↔
      ∃ run, (card.suit, run) ∈
          [.spades, .hearts, .diamonds, .clubs].zip (text.toList.splitOn '.') ∧
        ∃ c ∈ run, Card.ranksUpward[card.rank - 2]? = some c.toUpper) ∧
    ∀ error, ofText text = .error error → error =
      if text.toList.count '.' ≠ 3 then .notFourSuits
      else if ∃ c ∈ text.toList, c ≠ '.' ∧ ¬ NamesRank c then .invalidRank
      else if 13 < (text.toList.filter (· ≠ '.')).length then .tooManyCards
      else .repeatedCard := by
  refine ⟨ofText_isOk_iff, ?_, fun error => error_of_ofText⟩
  intro hand h
  refine ⟨(cards_of_ofText h).2, fun card => ?_⟩
  rw [mem_cards_of_ofText h]
  simp only [runs, Suit.descending, Card.getElem?_ranksUpward, Option.some.injEq, List.mem_map,
    eq_comm]

/-- Small letters are read as capitals are: the ten of spades, the jack of hearts, the three of
diamonds and the ace of clubs are in the hand.  Of fifteen ranks with a repetition among them it is
the number that is reported. -/
theorem ofText_exact_letters :
    (∃ hand, ofText "aQt7.jq9.32.Ak64" = .ok hand ∧
      (⟨48, by decide, by decide⟩ : Card) ∈ hand.cards ∧
      (⟨36, by decide, by decide⟩ : Card) ∈ hand.cards ∧
      (⟨15, by decide, by decide⟩ : Card) ∈ hand.cards ∧
      (⟨13, by decide, by decide⟩ : Card) ∈ hand.cards) ∧
    ofText "AKQJT98765432.AA.." = .error .tooManyCards := by
  constructor
  · obtain ⟨accepts, holds, -⟩ := ofText_exact "aQt7.jq9.32.Ak64"
    have grammatical : WellFormed "aQt7.jq9.32.Ak64" :=
      ⟨by decide, by decide, by decide, by decide⟩
    obtain ⟨hand, hread⟩ := accepts.mpr (.inr grammatical)
    have named := (holds hand hread).2
    refine ⟨hand, hread, (named _).mpr ?_, (named _).mpr ?_, (named _).mpr ?_, (named _).mpr ?_⟩
    · exact ⟨['a', 'Q', 't', '7'], by decide, by decide⟩
    · exact ⟨['j', 'q', '9'], by decide, by decide⟩
    · exact ⟨['3', '2'], by decide, by decide⟩
    · exact ⟨['A', 'k', '6', '4'], by decide, by decide⟩
  · obtain ⟨accepts, -, reports⟩ := ofText_exact "AKQJT98765432.AA.."
    cases hread : ofText "AKQJT98765432.AA.." with
    | ok hand =>
        rcases accepts.mp ⟨hand, hread⟩ with hdash | grammatical
        · exact absurd hdash (by decide)
        · exact absurd grammatical.few (by decide)
    | error error =>
        rw [reports error hread]
        decide

end Hand

end ContractBridge
