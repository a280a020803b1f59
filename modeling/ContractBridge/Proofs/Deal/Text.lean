import ContractBridge.Deal.Text
import ContractBridge.Proofs.CardPlay.Trick
import ContractBridge.Proofs.Hand.RoundTrip
import ContractBridge.Proofs.Seat.Rotation

/-!
# Reading the text of a deal

Neither a colon nor a space is written for a hand, so that the text of a deal comes apart where it
was put together: at the colon after the first seat and at the three spaces between the hands.  What
it says of a hand is which cards it holds, and the order of the pieces says which seat holds them.
-/

namespace ContractBridge

namespace Deal

def pieces? (text : String) : Option (String × List String) :=
  match text.toList.splitOn ':' with
  | [name, hands] => some (String.ofList name, (hands.splitOn ' ').map String.ofList)
  | _ => none

/-- The seat that is named, and the deal that gives the hands clockwise from it. -/
def ofText? (text : String) : Option (Seat × Deal) :=
  match pieces? text with
  | some (name, [own, left, across, right]) =>
      match Seat.ofText name, Hand.ofText own, Hand.ofText left, Hand.ofText across,
          Hand.ofText right with
      | .ok first, .ok own, .ok left, .ok across, .ok right =>
          some (first, BySeat.rotate ⟨own, left, across, right⟩ first.index)
      | _, _, _, _, _ => none
  | _ => none

section Text

variable (deal : Deal) (first : Seat)

def handChars : List Char :=
  List.intercalate [' '] ((deal.around first).map fun (_, hand) => hand.chars)

theorem splitOn_handChars :
    (deal.handChars first).splitOn ' ' = (deal.around first).map fun (_, hand) => hand.chars := by
  apply List.splitOn_intercalate
  · intro piece hpiece
    obtain ⟨⟨_, hand⟩, -, rfl⟩ := List.mem_map.mp hpiece
    exact hand.not_mem_chars (by decide) (by decide)
  · simp [around]

theorem splitOn_chars : (deal.chars first).splitOn ':' = [[first.letter], deal.handChars first] := by
  have joined : deal.chars first =
      List.intercalate [':'] [[first.letter], deal.handChars first] := by
    simp [chars, handChars, List.intercalate_cons_cons]
  rw [joined]
  refine List.splitOn_intercalate ':' ?_ (List.cons_ne_nil _ _)
  rw [List.forall_mem_cons, List.forall_mem_singleton]
  constructor
  · cases first <;> decide
  · intro hcolon
    obtain ⟨piece, hpiece, hmem⟩ := mem_splitOn_iff.mpr ⟨hcolon, show ':' ≠ ' ' by decide⟩
    rw [splitOn_handChars] at hpiece
    obtain ⟨⟨_, hand⟩, -, rfl⟩ := List.mem_map.mp hpiece
    exact hand.not_mem_chars (by decide) (by decide) hmem

theorem pieces?_text :
    pieces? (deal.text first) =
      some (first.text, (deal.around first).map fun (_, hand) => hand.text) := by
  unfold pieces?
  rw [text, String.toList_ofList, splitOn_chars]
  simp only [splitOn_handChars, List.map_map]
  rfl

theorem ofText?_text {anew : Deal}
    (h : ∀ seat, Hand.ofText (deal.get seat).text = .ok (anew.get seat)) :
    ofText? (deal.text first) = some (first, anew) := by
  have pieces : pieces? (deal.text first) = some (first.text,
      [(deal.get (first.rotate 0)).text, (deal.get (first.rotate 1)).text,
        (deal.get (first.rotate 2)).text, (deal.get (first.rotate 3)).text]) :=
    deal.pieces?_text first
  have turned : BySeat.rotate ⟨anew.get (first.rotate 0), anew.get (first.rotate 1),
      anew.get (first.rotate 2), anew.get (first.rotate 3)⟩ first.index = anew := by
    cases first <;> rfl
  unfold ofText?
  simp only [pieces, Seat.ofText_text, h, turned]

end Text

theorem text_eq_iff {deal other : Deal} {first second : Seat} :
    deal.text first = other.text second ↔
      first = second ∧ ∀ seat, (deal.get seat).cards.Perm (other.get seat).cards := by
  constructor
  · intro h
    have pieces := deal.pieces?_text first
    rw [h, pieces?_text, Option.some_inj, Prod.mk.injEq] at pieces
    obtain ⟨names, hands⟩ := pieces
    obtain rfl := Seat.text_inj.mp names
    refine ⟨rfl, ?_⟩
    intro seat
    obtain ⟨steps, hsteps, rfl⟩ := second.exists_rotate seat
    simp only [around, List.map_map, List.map_inj_left, List.mem_range] at hands
    exact Hand.text_eq_iff.mp (hands steps hsteps).symm
  · rintro ⟨rfl, h⟩
    have hands : (deal.around first).map (fun (_, hand) => hand.chars) =
        (other.around first).map fun (_, hand) => hand.chars := by
      simp only [around, List.map_map]
      exact List.map_congr_left fun steps _ => Hand.chars_eq_iff.mpr (h _)
    rw [text, chars, hands]
    rfl

theorem ofText?_text_of_shuffle {generator rest : Generator} {deal : Deal}
    (h : shuffle generator = .ok (deal, rest)) (first : Seat) :
    ofText? (deal.text first) = some (first, deal) := by
  obtain ⟨indices, -, -, rfl⟩ := shuffle_eq_ok h
  exact ofText?_text _ _ fun seat => (arranged_ofIndices indices seat).ofText_text

/-- A deal is read back from its text, apart from the slots of the hands: it comes apart at the
colon and the spaces, and every piece reads as the cards of its seat.  Two texts are therefore the
same only if they begin with the same seat and every seat holds the same cards, and of a deal fresh
from the shuffle the text gives the slots as well. -/
theorem text_identifies :
    (∀ (deal : Deal) first, (∀ seat, Hand.Obtainable (deal.get seat)) → ∃ anew : Deal,
      pieces? (deal.text first) =
        some (first.text, (deal.around first).map fun (_, hand) => hand.text) ∧
      ofText? (deal.text first) = some (first, anew) ∧
      ∀ seat, Hand.LaidOut (deal.get seat) (anew.get seat)) ∧
    (∀ (deal other : Deal) first second, deal.text first = other.text second ↔
      first = second ∧ ∀ seat, (deal.get seat).cards.Perm (other.get seat).cards) ∧
    ∀ generator rest deal, shuffle generator = .ok (deal, rest) →
      ∀ first, ofText? (deal.text first) = some (first, deal) := by
  refine ⟨?_, fun deal other first second => text_eq_iff, ?_⟩
  · intro deal first obtainable
    choose anew hread hlaid using fun seat => Hand.exists_laidOut (obtainable seat).nodup
    refine ⟨BySeat.ofFn anew, deal.pieces?_text first, deal.ofText?_text first ?_, ?_⟩
    · intro seat
      rw [BySeat.get_ofFn]
      exact hread seat
    · intro seat
      rw [BySeat.get_ofFn]
      exact hlaid seat
  · intro generator rest deal h first
    exact ofText?_text_of_shuffle h first

def threeCards : Hand :=
  Hand.layOut ([42, 9, 40].filterMap Card.ofCode?)

def twoSpades : Deal :=
  (BySeat.replicate Hand.empty).set .north (threeCards.clear 1)

theorem obtainable_twoSpades (seat : Seat) : Hand.Obtainable (twoSpades.get seat) := by
  have dash : Hand.ofText "-" = .ok Hand.empty := rfl
  have together : Hand.Obtainable threeCards :=
    .ofCards (Hand.ofCards_eq_ok_iff.mpr ⟨by decide, by decide, rfl⟩)
  have played : threeCards.remove? ⟨9, by decide, by decide⟩ = some (1, threeCards.clear 1) := by
    decide
  cases seat with
  | north => exact together.remove played
  | east => exact .ofText dash
  | south => exact .ofText dash
  | west => exact .ofText dash

theorem chars_twoSpades : (threeCards.clear 1).chars = ['4', '2', '.', '.', '.'] := by
  have holdings : ∀ suit, (threeCards.clear 1).holding suit =
      if suit = .spades then [⟨42, by decide, by decide⟩, ⟨40, by decide, by decide⟩] else [] := by
    intro suit
    apply Hand.holding_eq_of_perm
    · cases suit <;> decide
    · cases suit <;> decide
  simp only [Hand.chars, holdings]
  rfl

theorem text_twoSpades (first : Seat) :
    twoSpades.text first =
      match first with
      | .north => "N:42... ... ... ..."
      | .east => "E:... ... ... 42..."
      | .south => "S:... ... 42... ..."
      | .west => "W:... 42... ... ..." := by
  have around : (twoSpades.around first).map (fun (_, hand) => hand.chars) =
      (twoSpades.around first).map fun (seat, _) =>
        if seat = .north then (threeCards.clear 1).chars else Hand.empty.chars := by
    cases first <;> rfl
  rw [text, chars, around, Hand.chars_empty, chars_twoSpades]
  cases first <;> rfl

/-- North's hand stands third from South on and last from East on, and its hole is closed when it is
read; a deal of which every place was exchanged with the first one is read back whole. -/
theorem text_identifies_twoSpades :
    (∃ anew, ofText? "S:... ... 42... ..." = some (.south, anew) ∧
      Hand.LaidOut (twoSpades.get .north) (anew.get .north)) ∧
    (∃ anew, ofText? "E:... ... ... 42..." = some (.east, anew) ∧
      Hand.LaidOut (twoSpades.get .north) (anew.get .north)) ∧
    ∃ deal rest, shuffle ⟨fun _ => 0, 0, 1⟩ = .ok (deal, rest) ∧
      ofText? (deal.text .east) = some (.east, deal) := by
  obtain ⟨reads, -, fresh⟩ := text_identifies
  refine ⟨?_, ?_, ?_⟩
  · obtain ⟨anew, -, hread, hlaid⟩ := reads twoSpades .south obtainable_twoSpades
    rw [text_twoSpades] at hread
    exact ⟨anew, hread, hlaid .north⟩
  · obtain ⟨anew, -, hread, hlaid⟩ := reads twoSpades .east obtainable_twoSpades
    rw [text_twoSpades] at hread
    exact ⟨anew, hread, hlaid .north⟩
  · obtain ⟨deal, rest, h⟩ : ∃ deal rest, shuffle ⟨fun _ => 0, 0, 1⟩ = .ok (deal, rest) :=
      ⟨_, _, rfl⟩
    exact ⟨deal, rest, h, fresh _ _ _ h .east⟩

end Deal

end ContractBridge
