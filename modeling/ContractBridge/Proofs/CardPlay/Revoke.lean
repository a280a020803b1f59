import ContractBridge.Proofs.CardPlay.Legality
import ContractBridge.Proofs.Record

/-!
# Revokes

A seat that does not follow suit has no card of the suit led.  It never gets one again, so the cards
of that suit that were dealt to it lie in earlier tricks.  This is told from the deal and from the
record of the cards played, in which each card was lawful after the ones before it.
-/

namespace ContractBridge

namespace Trick

def inProgress (plays : List (Seat × Card)) : List (Seat × Card) :=
  plays.drop (4 * (plays.length / 4))

theorem inProgress_append {finished short : List (Seat × Card)} {count : Nat}
    (hfinished : finished.length = 4 * count) (hshort : short.length < 4) :
    inProgress (finished ++ short) = short := by
  have hcount : (finished ++ short).length / 4 = count := by
    rw [List.length_append]
    omega
  rw [inProgress, hcount, ← hfinished, List.drop_left]

theorem length_flatten {tricks : List (List (Seat × Card))}
    (hfull : ∀ trick ∈ tricks, trick.length = 4) : tricks.flatten.length = 4 * tricks.length := by
  induction tricks with
  | nil => rfl
  | cons first tricks ih =>
      have hfirst := hfull first (List.mem_cons_self ..)
      have hrest := ih fun trick htrick => hfull trick (List.mem_cons_of_mem _ htrick)
      rw [List.flatten_cons, List.length_append, hfirst, hrest, List.length_cons]
      omega

theorem length_of_split {plays trick : List (Seat × Card)}
    {before after : List (List (Seat × Card))} (h : split plays = before ++ trick :: after) :
    (∀ earlier ∈ before, earlier.length = 4) ∧ trick.length ≤ 4 := by
  fun_induction split plays generalizing before with
  | case1 a b c d rest ih =>
      cases before with
      | nil =>
          obtain ⟨rfl, -⟩ := List.cons.inj h
          simp
      | cons first before =>
          obtain ⟨rfl, hrest⟩ := List.cons.inj h
          obtain ⟨hbefore, htrick⟩ := ih hrest
          refine ⟨?_, htrick⟩
          intro earlier hearlier
          rcases List.mem_cons.mp hearlier with rfl | hearlier
          · rfl
          · exact hbefore earlier hearlier
  | case2 => simp at h
  | case3 short hlong =>
      obtain ⟨rfl, rfl, -⟩ : before = [] ∧ short = trick ∧ after = [] := by
        cases before with
        | nil => simpa using h
        | cons first before => simp at h
      refine ⟨by simp, ?_⟩
      rcases short with _ | ⟨a, _ | ⟨b, _ | ⟨c, _ | ⟨d, rest⟩⟩⟩⟩
      case cons.cons.cons.cons => exact absurd rfl (hlong a b c d rest)
      all_goals simp

end Trick

namespace CardPlay

/-- A card of a seat that has not played to the trick in progress yet: the seat holds it, and it
follows suit unless the seat cannot. -/
def LawfulAfter (dealt : Deal) (plays : List (Seat × Card)) (entry : Seat × Card) : Prop :=
  entry.1 ∉ (Trick.inProgress plays).map Prod.fst ∧ Unplayed dealt plays entry.1 entry.2 ∧
    FollowsSuit dealt plays (Trick.inProgress plays) entry.1 entry.2

section Recorded

variable {dealt : Deal} {plays : List (Seat × Card)} {play : CardPlay}

theorem Recorded.inProgress_eq (h : play.Recorded dealt plays) :
    Trick.inProgress plays = play.trick.plays := by
  obtain ⟨finished, rfl, hfinished⟩ := h.tricks
  exact Trick.inProgress_append hfinished h.orderly.short

theorem Recorded.lawfulAfter (h : play.Recorded dealt plays) {actor seat : Seat} {card : Card}
    (haccepted : play.refusal? actor seat card = none) : LawfulAfter dealt plays (seat, card) := by
  have hopen := (CardPlay.refusal?_eq_none_iff.mp haccepted).1
  obtain ⟨rfl, -, hcard, hfollows⟩ := (h.refusal?_eq_none_iff hopen).mp haccepted
  rw [LawfulAfter, h.inProgress_eq]
  exact ⟨h.orderly.inTurn.due_not_mem h.orderly.short, hcard, hfollows⟩

end Recorded

section Record

variable {dealt : Deal} {plays : List (Seat × Card)}

theorem Unplayed.of_append {later : List (Seat × Card)} {seat : Seat} {card : Card}
    (h : Unplayed dealt (plays ++ later) seat card) : Unplayed dealt plays seat card :=
  ⟨h.1, fun hplayed => h.2 (List.mem_append_left _ hplayed)⟩

theorem suit_ne_of_shown_out {later : List (Seat × Card)} {seat : Seat} {suit : Suit}
    (h : EachAfter (LawfulAfter dealt) (plays ++ later))
    (hout : ∀ other, Unplayed dealt plays seat other → other.suit ≠ suit) {card : Card}
    (hplayed : (seat, card) ∈ later) : card.suit ≠ suit := by
  obtain ⟨between, rest, rfl⟩ := List.append_of_mem hplayed
  obtain ⟨-, hunplayed, -⟩ := h (plays ++ between) (seat, card) rest (by simp)
  exact hout card hunplayed.of_append

theorem discard_without_revoke (h : EachAfter (LawfulAfter dealt) plays)
    {before after : List (List (Seat × Card))} {trick : List (Seat × Card)}
    (hsplit : Trick.split plays = before ++ trick :: after) {lead : Seat × Card}
    (hlead : lead ∈ trick.head?) {seat : Seat} {card : Card} (hmem : (seat, card) ∈ trick)
    (hdiscard : card.suit ≠ lead.2.suit) :
    (∀ other, (seat, other) ∈ (trick :: after).flatten → other.suit ≠ lead.2.suit) ∧
      ∀ other ∈ (dealt.get seat).cards, other.suit = lead.2.suit →
        (seat, other) ∈ before.flatten := by
  obtain ⟨hbefore, htrick⟩ := Trick.length_of_split hsplit
  obtain ⟨ahead, behind, rfl⟩ := List.append_of_mem hmem
  have hshort : ahead.length < 4 := by
    rw [List.length_append, List.length_cons] at htrick
    omega
  have hplays : plays = (before.flatten ++ ahead) ++ (seat, card) :: (behind ++ after.flatten) := by
    rw [← Trick.flatten_split plays, hsplit]
    simp
  have hahead := Trick.inProgress_append (Trick.length_flatten hbefore) hshort
  obtain ⟨hfresh, -, hfollows⟩ := h _ _ _ hplays
  rw [hahead] at hfresh hfollows
  have hled : lead ∈ ahead.head? := by
    cases ahead with
    | nil =>
        cases hlead
        exact absurd rfl hdiscard
    | cons first ahead => exact hlead
  have hout := (hfollows lead hled).resolve_left hdiscard
  have hahead_ne : ∀ other, (seat, other) ∉ ahead := by
    intro other hother
    exact hfresh (List.mem_map.mpr ⟨(seat, other), hother, rfl⟩)
  constructor
  · intro other hother
    have hafter : (seat, other) ∈ (seat, card) :: (behind ++ after.flatten) := by
      simpa [hahead_ne other] using hother
    rw [hplays] at h
    exact suit_ne_of_shown_out h hout hafter
  · intro other hdealt hsuit
    have hplayed : (seat, other) ∈ before.flatten ++ ahead := by
      by_contra hunplayed
      exact hout other ⟨hdealt, hunplayed⟩ hsuit
    exact (List.mem_append.mp hplayed).resolve_right (hahead_ne other)

end Record

end CardPlay

end ContractBridge
