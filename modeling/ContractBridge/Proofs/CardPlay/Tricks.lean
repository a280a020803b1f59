import ContractBridge.CardPlay.Law
import ContractBridge.Proofs.CardPlay.Order
import ContractBridge.Proofs.CardPlay.Winner
import Mathlib.Data.List.Forall2

/-!
# The tricks of a board

The cards played fall into tricks of four.  Each is led by the winner of the one before and goes
clockwise from there, and the counts kept in the state of play are those of the tricks and of their
winners.
-/

namespace ContractBridge

namespace Trick

/-- The cards come from consecutive seats, the leader first. -/
def Clockwise (leader : Seat) (cards : List (Seat × Card)) : Prop :=
  cards.map Prod.fst = (List.range cards.length).map leader.rotate

theorem Clockwise.perm_all {leader : Seat} {cards : List (Seat × Card)} (h : Clockwise leader cards)
    (hfull : cards.length = 4) : (cards.map Prod.fst).Perm Seat.all := by
  rw [h, hfull]
  cases leader <;> decide

theorem exists_leader {leaders : List Seat} {tricks : List (List (Seat × Card))}
    (h : List.Forall₂ Clockwise leaders tricks) {trick : List (Seat × Card)}
    (htrick : trick ∈ tricks) : ∃ leader, Clockwise leader trick := by
  induction h with
  | nil => simp at htrick
  | @cons leader _ _ _ hled _ ih =>
      rcases List.mem_cons.mp htrick with rfl | htrick
      · exact ⟨leader, hled⟩
      · exact ih htrick

theorem split_short {short : List (Seat × Card)} (h : short.length < 4) :
    split short = if short = [] then [] else [short] := by
  match short, h with
  | [], _ => rfl
  | [_], _ => rfl
  | [_, _], _ => rfl
  | [_, _, _], _ => rfl

theorem split_flatten_append {tricks : List (List (Seat × Card))} {short : List (Seat × Card)}
    (hfull : ∀ trick ∈ tricks, trick.length = 4) (hshort : short.length < 4) :
    split (tricks.flatten ++ short) = tricks ++ if short = [] then [] else [short] := by
  induction tricks with
  | nil => exact split_short hshort
  | cons first tricks ih =>
      have hrest := ih fun trick htrick => hfull trick (List.mem_cons_of_mem _ htrick)
      match first, hfull first (List.mem_cons_self ..) with
      | [a, b, c, d], _ => simp [split, hrest]

end Trick

namespace CardPlay

/-- The complete tricks of a board with the seats that led and won them. -/
structure Tallied (plays : List (Seat × Card)) (play : CardPlay)
    (tricks : List (List (Seat × Card))) (leaders winners : List Seat) : Prop where
  played : plays = tricks.flatten ++ play.trick.plays
  full : ∀ trick ∈ tricks, trick.length = 4
  count : tricks.length = play.tricksPlayed
  chain : play.declaration.lead :: winners = leaders ++ [play.trick.leader]
  led : List.Forall₂ Trick.Clockwise leaders tricks
  won : List.Forall₂ (Trick.WonBy play.declaration.strain.trump?) tricks winners
  tricksWon : ∀ side, play.tricksWon.get side = winners.countP fun winner => winner.side = side

theorem tallied_start (dealt : Deal) (declaration : Declaration) :
    (start dealt declaration).Tallied [] [] [] [] where
  played := rfl
  full := by simp
  count := rfl
  chain := rfl
  led := .nil
  won := .nil
  tricksWon side := by cases side <;> rfl

section Tallied

variable {plays : List (Seat × Card)} {play : CardPlay} {tricks : List (List (Seat × Card))}
  {leaders winners : List Seat}

theorem Tallied.of_advanced (h : play.Tallied plays tricks leaders winners)
    (horderly : play.Orderly) {card : Card} {hand : Hand} {trick : Option TrickResult}
    {next : CardPlay}
    (hstep : Advanced (play.lay play.due.seat card hand) play.due.seat trick next) :
    ∃ tricks leaders winners,
      next.Tallied (plays ++ [(play.due.seat, card)]) tricks leaders winners := by
  have hplays : plays ++ [(play.due.seat, card)] =
      tricks.flatten ++ (play.trick.add play.due.seat card).plays := by
    rw [h.played, List.append_assoc]
    rfl
  cases hstep with
  | passed short =>
      exact ⟨tricks, leaders, winners, hplays, h.full, h.count, h.chain, h.led, h.won, h.tricksWon⟩
  | @closed winner full won =>
      refine ⟨tricks ++ [(play.trick.add play.due.seat card).plays],
        leaders ++ [play.trick.leader], winners ++ [winner], ?_⟩
      have inTurn : (play.trick.add play.due.seat card).InTurn := by
        rw [horderly.due]
        exact horderly.inTurn.add card
      constructor
      case played => simp [hplays, credit, Trick.ledBy]
      case full =>
        intro trick htrick
        rcases List.mem_append.mp htrick with htrick | htrick
        · exact h.full trick htrick
        · rw [List.mem_singleton.mp htrick]
          exact full
      case count =>
        rw [List.length_append, h.count]
        rfl
      case chain =>
        rw [← List.cons_append, credit, lay_declaration, h.chain]
        rfl
      case led => exact List.rel_append h.led (.cons inTurn.seats .nil)
      case won => exact List.rel_append h.won (.cons (Trick.wonBy_of_winner? won) .nil)
      case tricksWon =>
        intro side
        simp only [credit, tricksOf, lay_tricksWon, BySide.get_set, List.countP_append,
          List.countP_singleton, h.tricksWon, decide_eq_true_eq]
        split
        case isTrue hside => rw [hside]
        case isFalse => rfl

theorem Tallied.playCard (h : play.Tallied plays tricks leaders winners)
    (horderly : play.Orderly) {actor seat : Seat} {card : Card} {result : Played}
    {next : CardPlay} (hplay : play.playCard actor seat card = .ok (result, next)) :
    ∃ tricks leaders winners, next.Tallied (plays ++ [(seat, card)]) tricks leaders winners := by
  obtain ⟨haccepted, slot, hand, trick, -, hstep, -⟩ := horderly.playCard_eq_ok hplay
  obtain ⟨-, rfl, -⟩ := refusal?_eq_none_iff.mp haccepted
  exact h.of_advanced horderly hstep

end Tallied

end CardPlay

end ContractBridge
