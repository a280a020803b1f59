import ContractBridge.Proofs.CardPlay.Legality

/-!
# The first rule broken

A play may break several rules at once, and only the first one of them is reported.  The rules are
told from the trick, the declaration and the hands as they stand.
-/

namespace ContractBridge

def failing {ε : Type} (applies : Prop) (reported : ε) : ε → Prop :=
  fun error => applies ∧ error = reported

/-- The error of the first check that applies. -/
inductive FirstOf {ε : Type} : List (ε → Prop) → ε → Prop
  | here {check : ε → Prop} {later : List (ε → Prop)} {error : ε} (applies : check error) :
      FirstOf (check :: later) error
  | later {check : ε → Prop} {later : List (ε → Prop)} {error : ε}
      (passed : ∀ other, ¬ check other) (found : FirstOf later error) :
      FirstOf (check :: later) error

section FirstOf

variable {ε δ : Type} {checks later : List (ε → Prop)} {reported error : ε} {applies : Prop}

theorem not_firstOf_nil : ¬ FirstOf [] error := by
  rintro ⟨⟩

theorem firstOf_of_applies (h : applies) :
    FirstOf (failing applies reported :: later) error ↔ reported = error := by
  constructor
  · intro hfirst
    cases hfirst with
    | here applies => exact applies.2.symm
    | later passed => exact absurd ⟨h, rfl⟩ (passed reported)
  · rintro rfl
    exact .here ⟨h, rfl⟩

theorem firstOf_of_passed (h : ¬ applies) :
    FirstOf (failing applies reported :: later) error ↔ FirstOf later error := by
  constructor
  · intro hfirst
    cases hfirst with
    | here applies => exact absurd applies.1 h
    | later _ found => exact found
  · intro found
    exact .later (fun _ applies => h applies.1) found

theorem not_firstOf (h : ∀ check ∈ checks, ¬ check error) : ¬ FirstOf checks error := by
  intro hfirst
  induction hfirst with
  | here applies => exact h _ (List.mem_cons_self ..) applies
  | later _ _ ih => exact ih fun check hmem => h check (List.mem_cons_of_mem _ hmem)

end FirstOf

namespace CardPlay

def seatDue (play : CardPlay) : Seat :=
  play.trick.leader.rotate play.trick.plays.length

/-- The card is not of the suit led, and the hand holds one that is. -/
def Revokes (play : CardPlay) (seat : Seat) (card : Card) : Prop :=
  ∃ lead ∈ play.trick.plays.head?, card.suit ≠ lead.2.suit ∧
    ∃ other ∈ (play.deal.get seat).cards, other.suit = lead.2.suit

def rules {ε : Type} (play : CardPlay) (report : PlayError → ε) (actor seat : Seat) (card : Card) :
    List (ε → Prop) :=
  [failing (seat ≠ play.seatDue) (report (.outOfTurn play.seatDue seat)),
   failing (actor ≠ play.declaration.controller seat) (report (.notController seat actor)),
   failing (card ∉ (play.deal.get seat).cards) (report (.cardNotInHand seat card)),
   failing (play.Revokes seat card) (report (.mustFollowSuit seat card))]

section Recorded

variable {dealt : Deal} {plays : List (Seat × Card)} {play : CardPlay}

theorem Recorded.revokes_iff (h : play.Recorded dealt plays) {seat : Seat} {card : Card} :
    play.Revokes seat card ↔
      ¬ (play.round.contains card = true ∨
        ∀ other ∈ (play.deal.get seat).cards, play.round.contains other = false) := by
  rw [← h.followsSuit_iff]
  simp only [Revokes, FollowsSuit, h.mem_hand_iff]
  cases play.trick.plays with
  | nil => simp
  | cons lead rest => simp

theorem Recorded.refusal?_eq_some_iff (h : play.Recorded dealt plays)
    (hopen : play.isExhausted = false) {ε : Type} {report : PlayError → ε} {actor seat : Seat}
    {card : Card} {error : ε} :
    (play.refusal? actor seat card).map report = some error ↔
      FirstOf (play.rules report actor seat card) error := by
  have hseatDue : play.due.seat = play.seatDue := by
    rw [h.orderly.due]
    rfl
  have hturn : play.turn? = some play.due := by
    rw [turn?, hopen]
    rfl
  unfold refusal? rules
  simp only [hturn, h.orderly.due_actor, hseatDue]
  by_cases hseat : seat = play.seatDue
  case neg => rw [if_pos hseat, firstOf_of_applies hseat, Option.map_some, Option.some_inj]
  rw [if_neg (not_not_intro hseat), firstOf_of_passed (not_not_intro hseat), ← hseat]
  by_cases hactor : actor = play.declaration.controller seat
  case neg => rw [if_pos hactor, firstOf_of_applies hactor, Option.map_some, Option.some_inj]
  rw [if_neg (not_not_intro hactor), firstOf_of_passed (not_not_intro hactor)]
  by_cases hheld : card ∈ (play.deal.get seat).cards
  case neg =>
    have hcontains : (play.deal.get seat).contains card = false := by
      simpa [← Hand.contains_iff] using hheld
    rw [firstOf_of_applies hheld]
    cases play.legalPlay? seat <;> simp [hcontains]
  rw [firstOf_of_passed (not_not_intro hheld)]
  have hcontains := Hand.contains_iff.mpr hheld
  cases hlegal : play.legalPlay? seat with
  | none =>
      rw [Hand.legalPlay?_eq_none_iff.mp hlegal] at hheld
      cases hheld
  | some legal =>
      have hrange := Hand.contains_range_iff hlegal hheld
      by_cases hrevokes : play.Revokes seat card
      · have houtside : legal.range.contains card = false := by
          rw [← Bool.not_eq_true, hrange]
          exact h.revokes_iff.mp hrevokes
        rw [firstOf_of_applies hrevokes]
        simp [hcontains, houtside]
      · have hinside : legal.range.contains card = true :=
          hrange.mpr (not_not.mp (mt h.revokes_iff.mpr hrevokes))
        rw [firstOf_of_passed hrevokes]
        simp [hcontains, hinside, not_firstOf_nil]

end Recorded

end CardPlay

end ContractBridge
