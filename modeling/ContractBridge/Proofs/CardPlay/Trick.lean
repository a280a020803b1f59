import ContractBridge.CardPlay.Trick
import ContractBridge.Proofs.CardPlay.Range
import Mathlib.Data.List.Induction

/-!
# Tricks in turn

The cards of a trick lie clockwise from its leader.  The set of seats that have played is then the
set of the seats of its cards, and it is full with the fourth card.
-/

namespace ContractBridge

namespace SeatSet

def ofSeats (seats : List Seat) : SeatSet :=
  seats.foldl (fun set seat => set.union (.singleton seat)) .empty

@[simp] theorem ofSeats_concat (seats : List Seat) (seat : Seat) :
    ofSeats (seats ++ [seat]) = (ofSeats seats).union (.singleton seat) := by
  simp [ofSeats]

theorem contains_singleton_iff {set : SeatSet} {seat : Seat} :
    set.contains (.singleton seat) = true ↔ set.bits.getLsbD seat.index = true := by
  have hinter : (set.inter (.singleton seat)).bits =
      if set.bits.getLsbD seat.index then BitVec.twoPow 8 seat.index else 0#8 :=
    BitVec.and_twoPow set.bits seat.index
  have hnonzero : (0#8) ≠ BitVec.twoPow 8 seat.index := by cases seat <;> decide
  rw [contains, beq_iff_eq]
  constructor
  · intro heq
    by_contra hbit
    rw [if_neg hbit, heq] at hinter
    exact hnonzero hinter.symm
  · intro hbit
    rw [if_pos hbit] at hinter
    exact congrArg mk hinter

theorem contains_ofSeats_iff {seats : List Seat} {seat : Seat} :
    (ofSeats seats).contains (.singleton seat) = true ↔ seat ∈ seats := by
  rw [contains_singleton_iff]
  induction seats using List.reverseRecOn with
  | nil => cases seat <;> decide
  | append_singleton seats last ih =>
      have hlast : (singleton last).bits.getLsbD seat.index = true ↔ seat = last := by
        cases seat <;> cases last <;> decide
      rw [ofSeats_concat, union, BitVec.getLsbD_or, Bool.or_eq_true, ih, hlast]
      simp

end SeatSet

namespace Seat

theorem rotate_inj {seat : Seat} {steps more : Nat} (h : steps < 4) (hmore : more < 4) :
    seat.rotate steps = seat.rotate more ↔ steps = more := by
  constructor
  · intro heq
    have hindex := congrArg index heq
    rw [index_rotate, index_rotate] at hindex
    omega
  · rintro rfl
    rfl

theorem exists_rotate (seat other : Seat) : ∃ steps < 4, seat.rotate steps = other := by
  refine ⟨(other.index + 4 - seat.index) % 4, Nat.mod_lt _ (by decide), ?_⟩
  cases seat <;> cases other <;> rfl

end Seat

namespace Trick

/-- The cards lie clockwise from the leader, and the seats noted are those of the cards. -/
structure InTurn (trick : Trick) : Prop where
  seats : trick.plays.map Prod.fst = (List.range trick.plays.length).map trick.leader.rotate
  played : trick.played = .ofSeats (trick.plays.map Prod.fst)

@[simp] theorem length_plays_add (trick : Trick) (seat : Seat) (card : Card) :
    (trick.add seat card).plays.length = trick.plays.length + 1 := by
  simp [add]

theorem inTurn_ledBy (leader : Seat) : (ledBy leader).InTurn :=
  ⟨rfl, rfl⟩

theorem InTurn.add {trick : Trick} (h : trick.InTurn) (card : Card) :
    (trick.add (trick.leader.rotate trick.plays.length) card).InTurn := by
  constructor
  · simp [Trick.add, h.seats, List.range_succ]
  · simp [Trick.add, h.played]

theorem ofSeats_clockwise {leader : Seat} {count : Nat} (h : count ≤ 4) :
    SeatSet.ofSeats ((List.range count).map leader.rotate) = .all ↔ count = 4 := by
  have cases_count : count = 0 ∨ count = 1 ∨ count = 2 ∨ count = 3 ∨ count = 4 := by omega
  rcases cases_count with rfl | rfl | rfl | rfl | rfl <;> cases leader <;> decide

theorem InTurn.isComplete_iff {trick : Trick} (h : trick.InTurn) (hle : trick.plays.length ≤ 4) :
    trick.isComplete = true ↔ trick.plays.length = 4 := by
  rw [isComplete, h.played, h.seats, beq_iff_eq, ofSeats_clockwise hle]

theorem InTurn.due_not_mem {trick : Trick} (h : trick.InTurn) (hlt : trick.plays.length < 4) :
    trick.leader.rotate trick.plays.length ∉ trick.plays.map Prod.fst := by
  rw [h.seats]
  intro hmem
  obtain ⟨steps, hsteps, heq⟩ := List.mem_map.mp hmem
  have hless := List.mem_range.mp hsteps
  have hsame := (Seat.rotate_inj (by omega) hlt).mp heq
  omega

theorem InTurn.mem_of_complete {trick : Trick} (h : trick.InTurn) (hfull : trick.plays.length = 4)
    (seat : Seat) : seat ∈ trick.plays.map Prod.fst := by
  obtain ⟨steps, hsteps, rfl⟩ := trick.leader.exists_rotate seat
  rw [h.seats, hfull]
  exact List.mem_map_of_mem (List.mem_range.mpr hsteps)

theorem InTurn.nodup_seats {trick : Trick} (h : trick.InTurn) (hle : trick.plays.length ≤ 4) :
    (trick.plays.map Prod.fst).Nodup := by
  rw [h.seats]
  refine List.Nodup.map_on ?_ List.nodup_range
  intro steps hsteps more hmore heq
  rw [List.mem_range] at hsteps hmore
  exact (Seat.rotate_inj (by omega) (by omega)).mp heq

theorem exists_winner {trick : Trick} (h : trick.plays ≠ []) (trump : Option Suit) :
    ∃ winner, trick.winner? trump = some winner := by
  unfold winner? best?
  split
  case h_1 heq => exact absurd heq h
  case h_2 lead rest _ => exact ⟨_, rfl⟩

end Trick

end ContractBridge
