/-!
# Records judged entry by entry

The calls of an auction and the cards of a board are records that grow at their end.  What the laws
ask of an entry is told from the entries before it, so that a record is lawful when each of its
entries was so as it was made.
-/

namespace ContractBridge

section EachAfter

variable {α : Type} {rule : List α → α → Prop}

/-- Every entry obeyed the rule after the entries before it. -/
def EachAfter (rule : List α → α → Prop) (record : List α) : Prop :=
  ∀ earlier entry later, record = earlier ++ entry :: later → rule earlier entry

theorem eachAfter_nil : EachAfter rule [] := by
  intro earlier entry later h
  simp at h

theorem eachAfter_concat_iff {record : List α} {last : α} :
    EachAfter rule (record ++ [last]) ↔ EachAfter rule record ∧ rule record last := by
  constructor
  · intro h
    refine ⟨?_, h record last [] rfl⟩
    intro earlier entry later heq
    exact h earlier entry (later ++ [last]) (by simp [heq])
  · rintro ⟨hrecord, hlast⟩ earlier entry later heq
    rcases List.eq_nil_or_concat later with rfl | ⟨later, final, rfl⟩
    · obtain ⟨rfl, hsame⟩ := List.append_inj' heq rfl
      cases hsame
      exact hlast
    · rw [List.concat_eq_append, ← List.cons_append, ← List.append_assoc] at heq
      exact hrecord earlier entry later (List.append_inj' heq rfl).1

theorem EachAfter.of_append {record later : List α} (h : EachAfter rule (record ++ later)) :
    EachAfter rule record := by
  intro earlier entry rest heq
  exact h earlier entry (rest ++ later) (by simp [heq])

end EachAfter

end ContractBridge
