import ContractBridge.Proofs.Auction.Declarer
import ContractBridge.Proofs.Auction.Length
import ContractBridge.Proofs.Table.Course

/-!
# The declaration stands

Once an auction is closed, its calls and the declaration that they resolve to stay as they are until
the next deal, and the declaration is the one that the laws prescribe.
-/

namespace ContractBridge

namespace Table

section Transition

variable {table next : Table} {answer : Answer}

theorem Transition.auction_cases (h : Transition table answer next) :
    (∃ seat value, table.callRefusal? seat value = none ∧
      next.auction = table.auction.append seat value) ∨
    next.auction = .empty ∨ next.auction = table.auction := by
  cases h with
  | called accepted entered =>
      cases entered with
      | ongoing => exact .inl ⟨_, _, accepted, rfl⟩
      | settled => exact .inl ⟨_, _, accepted, rfl⟩
      | passedOut => exact .inr (.inl rfl)
  | played => exact .inr (.inr rfl)
  | dealt => exact .inr (.inl rfl)

end Transition

section Course

variable {table : Table} {plays : List (Seat × Card)}

theorem Opened.eq_start (h : Opened table) :
    ∃ config generator deal, table = start config generator deal := by
  cases h with
  | shuffled opening =>
      obtain ⟨deal, generator, -, rfl⟩ := new_eq_ok_iff.mp opening
      exact ⟨_, _, _, rfl⟩
  | prearranged opening =>
      obtain ⟨-, rfl⟩ := withDeal_eq_ok_iff.mp opening
      exact ⟨_, _, _, rfl⟩

theorem Course.indexed (h : Course table plays) : table.auction.Indexed := by
  refine h.induction (motive := fun table _ => table.auction.Indexed) ?_ ?_
  · intro table opening
    obtain ⟨config, generator, deal, rfl⟩ := opening.eq_start
    exact Auction.indexed_empty
  · intro table plays answer next _ ih hstep
    rcases hstep.auction_cases with ⟨seat, value, -, heq⟩ | heq | heq
    · rw [heq]
      exact ih.append seat value
    · rw [heq]
      exact Auction.indexed_empty
    · rwa [heq]

theorem Course.length_auction (h : Course table plays) : table.auction.length ≤ 319 := by
  refine h.induction (motive := fun table _ => table.auction.length ≤ 319) ?_ ?_
  · intro table opening
    obtain ⟨config, generator, deal, rfl⟩ := opening.eq_start
    exact Nat.zero_le _
  · intro table plays answer next before ih hstep
    rcases hstep.auction_cases with ⟨seat, value, accepted, heq⟩ | heq | heq
    · have hstage := (callRefusal?_eq_none_iff.mp accepted).1
      have hlength := (before.sound.bidding seat hstage).underway.length_le
      rw [Auction.length_calls] at hlength
      rw [heq, Auction.length_append]
      omega
    · rw [heq]
      exact Nat.zero_le _
    · rwa [heq]

theorem Course.length_auction_le_size (h : Course table plays) :
    table.auction.length ≤ UInt32.size :=
  Nat.le_trans h.length_auction (by decide)

theorem Course.prescribes (h : Course table plays) {play : CardPlay}
    (hstage : table.stage = .playing play) :
    Auction.Prescribes table.auction.calls play.declaration :=
  have playing := h.sound.playing play hstage
  h.indexed.prescribes h.length_auction_le_size playing.legal playing.resolved

end Course

/-- A table on the same board as one on which a call has just closed the auction. -/
inductive Since (closed : Table) : Table → Prop
  | closing {table : Table} {command : Command} {declaration : Declaration} {turn : Turn}
      {legal : LegalPlay} (reachable : Reachable table)
      (closes : table.perform command = .ok (.bid (.completed declaration turn legal), closed)) :
      Since closed closed
  | step {table : Table} (command : Command) (since : Since closed table)
      (undealt : ∀ dealer, (table.step command).1 ≠ .ok (.dealer dealer)) :
      Since closed (table.step command).2

section Since

variable {closed table : Table}

theorem Since.reachable (h : Since closed table) : Reachable table := by
  induction h with
  | @closing table command _ _ _ reachable closes =>
      have hnext := reachable.step command
      rwa [step_of_perform closes] at hnext
  | step command _ _ ih => exact ih.step command

theorem Transition.playing_cases {answer : Answer} {next : Table}
    (h : Transition table answer next) {plays : List (Seat × Card)} (hsound : table.Sound plays)
    {play : CardPlay} (hstage : table.stage = .playing play) :
    (∃ dealer, answer = .dealer dealer) ∨
      ∃ result after, answer = .played result ∧ next = { table with stage := .playing after } ∧
        after.declaration = play.declaration := by
  cases h with
  | called accepted =>
      rw [(callRefusal?_eq_none_iff.mp accepted).1] at hstage
      cases hstage
  | @played _ after actor seat card result stage isOpen accepted =>
      rw [hstage] at stage
      cases stage
      have orderly := (hsound.playing play hstage).recorded.orderly
      exact .inr ⟨result, after, rfl, rfl, orderly.declaration_playCard accepted⟩
  | dealt => exact .inl ⟨_, rfl⟩

theorem Since.unchanged (h : Since closed table) :
    table.phase ≠ .bidding ∧ table.auction = closed.auction ∧
      table.declaration? = closed.declaration? := by
  induction h with
  | @closing before command _ _ _ _ closes =>
      refine ⟨?_, rfl, rfl⟩
      rw [phase_ne_bidding_iff]
      cases transition_of_perform closes with
      | called _ entered =>
          cases entered with
          | settled => exact ⟨_, rfl⟩
  | @step table command since undealt ih =>
      obtain ⟨hphase, hauction, hdeclaration⟩ := ih
      obtain ⟨play, hstage⟩ := phase_ne_bidding_iff.mp hphase
      obtain ⟨plays, hcourse⟩ := reachable_iff.mp since.reachable
      rcases step_cases table command with ⟨failure, hstep⟩ | ⟨answer, next, hperform, hstep⟩
      · rw [hstep]
        exact ⟨hphase, hauction, hdeclaration⟩
      · rw [hstep] at undealt ⊢
        rcases (transition_of_perform hperform).playing_cases hcourse.sound hstage with
          ⟨dealer, rfl⟩ | ⟨result, after, rfl, rfl, hafter⟩
        · exact absurd rfl (undealt dealer)
        · refine ⟨phase_ne_bidding_iff.mpr ⟨after, rfl⟩, hauction, ?_⟩
          rw [← hdeclaration, declaration?, declaration?, play?, play?, hstage, Option.map_some,
            Option.map_some, hafter]

theorem Reachable.exists_since (h : Reachable table) (hphase : table.phase ≠ .bidding) :
    ∃ closed, Since closed table := by
  induction h with
  | opened opening =>
      obtain ⟨config, generator, deal, rfl⟩ := opening.eq_start
      exact absurd rfl hphase
  | @step table command before ih =>
      rcases step_cases table command with ⟨failure, hstep⟩ | ⟨answer, next, hperform, hstep⟩
      · rw [hstep] at hphase ⊢
        exact ih hphase
      · rw [hstep] at hphase ⊢
        cases transition_of_perform hperform with
        | called accepted entered =>
            cases entered with
            | ongoing => exact absurd rfl hphase
            | settled => exact ⟨_, .closing before hperform⟩
            | passedOut => exact absurd rfl hphase
        | played stage =>
            obtain ⟨closed, since⟩ := ih (phase_ne_bidding_iff.mpr ⟨_, stage⟩)
            refine ⟨closed, ?_⟩
            have hsince := since.step command (by simp [hstep])
            rwa [hstep] at hsince
        | dealt => exact absurd rfl hphase

end Since

/-- From the call that closes an auction to the next deal, the calls of the auction resolve to the
declaration, both are those of the close, and the declaration is the one that the laws prescribe. -/
theorem declaration_prescribed {table : Table} (h : Reachable table)
    (hphase : table.phase ≠ .bidding) :
    ∃ declaration, table.declaration? = some declaration ∧
      table.auction.resolve = .ok declaration ∧
      Auction.Prescribes table.auction.calls declaration ∧
      (∃ closed, Since closed table) ∧
      ∀ closed, Since closed table →
        table.auction = closed.auction ∧ closed.declaration? = some declaration := by
  obtain ⟨play, hstage⟩ := phase_ne_bidding_iff.mp hphase
  obtain ⟨plays, hcourse⟩ := reachable_iff.mp h
  have playing := hcourse.sound.playing play hstage
  have hdeclaration : table.declaration? = some play.declaration := by
    rw [declaration?, play?, hstage, Option.map_some]
  refine ⟨play.declaration, hdeclaration, playing.resolved, hcourse.prescribes hstage,
    h.exists_since hphase, ?_⟩
  intro closed since
  obtain ⟨-, hauction, hsame⟩ := since.unchanged
  exact ⟨hauction, hsame.symm.trans hdeclaration⟩

/-- East opens one club, South and North bid clubs over it, and East doubles what South redoubles. -/
def clubsByBothSides : List Command :=
  [.bid .east 66, .bid .south 138, .bid .west 193, .bid .north 18, .bid .east 71, .bid .south 136,
    .bid .west 193, .bid .north 1, .bid .east 65]

theorem declaration_prescribed_clubs :
    ∃ declaration, ((unshuffled .east).run clubsByBothSides).2.declaration? = some declaration ∧
      declaration.bidder = .north ∧ declaration.declarer = .south ∧
      declaration.contract = ⟨⟨3, .suit .clubs⟩, .redoubled⟩ ∧
      Auction.Prescribes ((unshuffled .east).run clubsByBothSides).2.auction.calls declaration := by
  have hreachable := (Reachable.opened (opened_unshuffled .east)).run clubsByBothSides
  obtain ⟨declaration, hdeclaration, -, hprescribes, -⟩ :=
    declaration_prescribed hreachable (by decide +kernel)
  have hwho : ((unshuffled .east).run clubsByBothSides).2.declaration?.map
      (fun declaration => (declaration.bidder, declaration.declarer, declaration.contract)) =
      some (.north, .south, ⟨⟨3, .suit .clubs⟩, .redoubled⟩) := by decide +kernel
  rw [hdeclaration, Option.map_some, Option.some.injEq, Prod.mk.injEq, Prod.mk.injEq] at hwho
  exact ⟨declaration, hdeclaration, hwho.1, hwho.2.1, hwho.2.2, hprescribes⟩

end Table

end ContractBridge
