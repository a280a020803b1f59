import ContractBridge.Seat.Basic
import ContractBridge.Text.Quoted

/-!
# Names of seats

A seat is written by its initial.  It is read from the initial or the full English name, in any
mixture of ASCII cases.
-/

namespace ContractBridge

namespace Seat

def letter : Seat → Char
  | north => 'N'
  | east => 'E'
  | south => 'S'
  | west => 'W'

def text (seat : Seat) : String :=
  seat.letter.toString

def name : Seat → String
  | north => "north"
  | east => "east"
  | south => "south"
  | west => "west"

/-- The text began with this character and names no seat. -/
structure NameError where
  found : Char
  deriving DecidableEq, Repr

def NameError.message (error : NameError) : String :=
  "invalid seat " ++ Text.quoted error.found

def ofLetter (c : Char) : Except NameError Seat :=
  match c.toUpper with
  | 'N' => .ok north
  | 'E' => .ok east
  | 'S' => .ok south
  | 'W' => .ok west
  | _ => .error ⟨c⟩

/-- An empty text is reported as a blank. -/
def ofChars : List Char → Except NameError Seat
  | [] => .error ⟨' '⟩
  | c :: rest =>
      match ofLetter c with
      | .error error => .error error
      | .ok seat =>
          if rest = [] || (c :: rest).map Char.toLower = seat.name.toList then .ok seat
          else .error ⟨c⟩

def ofText (text : String) : Except NameError Seat :=
  ofChars text.toList

@[simp] theorem ofText_text (seat : Seat) : ofText seat.text = .ok seat := by
  cases seat <;> rfl

theorem text_inj {seat other : Seat} : seat.text = other.text ↔ seat = other := by
  constructor
  · intro h
    have read := ofText_text seat
    rw [h, ofText_text] at read
    exact (Except.ok.inj read).symm
  · exact congrArg text

end Seat

end ContractBridge
