import ContractBridge.Random.Generator

/-!
# Seeded generators

The words of a seeded generator are the keystream of ChaCha with twelve rounds.  The sixteen words
of a block are four rows of four lanes: a round works on all four columns at once, and rotating the
lanes of a row turns columns into diagonals.
-/

namespace ContractBridge

namespace ChaCha

def rotateLeft (word amount : UInt32) : UInt32 :=
  word <<< amount ||| word >>> (32 - amount)

structure Row where
  first : UInt32
  second : UInt32
  third : UInt32
  fourth : UInt32
  deriving DecidableEq, Repr

namespace Row

def add (r s : Row) : Row :=
  ⟨r.first + s.first, r.second + s.second, r.third + s.third, r.fourth + s.fourth⟩

/-- Adds one row to another bit by bit without carries, then rotates each word. -/
def mix (r s : Row) (amount : UInt32) : Row :=
  ⟨rotateLeft (r.first ^^^ s.first) amount, rotateLeft (r.second ^^^ s.second) amount,
   rotateLeft (r.third ^^^ s.third) amount, rotateLeft (r.fourth ^^^ s.fourth) amount⟩

def turn (r : Row) : Row :=
  ⟨r.second, r.third, r.fourth, r.first⟩

def toList (r : Row) : List UInt32 :=
  [r.first, r.second, r.third, r.fourth]

end Row

structure Block where
  a : Row
  b : Row
  c : Row
  d : Row
  deriving DecidableEq, Repr

namespace Block

def add (x y : Block) : Block :=
  ⟨x.a.add y.a, x.b.add y.b, x.c.add y.c, x.d.add y.d⟩

def round (x : Block) : Block :=
  let a := x.a.add x.b
  let d := x.d.mix a 16
  let c := x.c.add d
  let b := x.b.mix c 12
  let a := a.add b
  let d := d.mix a 8
  let c := c.add d
  let b := b.mix c 7
  ⟨a, b, c, d⟩

def diagonals (x : Block) : Block :=
  ⟨x.a, x.b.turn, x.c.turn.turn, x.d.turn.turn.turn⟩

def columns (x : Block) : Block :=
  ⟨x.a, x.b.turn.turn.turn, x.c.turn.turn, x.d.turn⟩

def doubleRound (x : Block) : Block :=
  x.round.diagonals.round.columns

def rounds : Nat → Block → Block
  | 0, x => x
  | count + 1, x => rounds count x.doubleRound

def words (x : Block) : List UInt32 :=
  x.a.toList ++ x.b.toList ++ x.c.toList ++ x.d.toList

end Block

structure Key where
  low : Row
  high : Row
  deriving DecidableEq, Repr

/-- The block before its rounds, with a 64-bit counter, low word first. -/
def Key.start (key : Key) (counter : Nat) : Block :=
  ⟨⟨0x61707865, 0x3320646e, 0x79622d32, 0x6b206574⟩, key.low, key.high,
   ⟨UInt32.ofNat counter, UInt32.ofNat (counter / UInt32.size), 0, 0⟩⟩

def Key.block (key : Key) (counter : Nat) : Block :=
  ((key.start counter).rounds 6).add (key.start counter)

def Key.word (key : Key) (position : Nat) : UInt32 :=
  (key.block (position / 16)).words.getD (position % 16) 0

/-- One step of the 64-bit linear congruential sequence behind a key. -/
def advance (state : UInt64) : UInt64 :=
  state * 6364136223846793005 + 11634580027462260723

/-- The output permutation of that sequence: fold, then rotate right by the top five bits. -/
def output (state : UInt64) : UInt32 :=
  let folded := ((state >>> 18 ^^^ state) >>> 27).toUInt32
  let amount := (state >>> 59).toUInt32
  folded >>> amount ||| folded <<< (32 - amount)

def keyWord (seed : UInt64) (position : Nat) : UInt32 :=
  output (Nat.repeat advance (position + 1) seed)

def Key.ofSeed (seed : UInt64) : Key :=
  let word := keyWord seed
  ⟨⟨word 0, word 1, word 2, word 3⟩, ⟨word 4, word 5, word 6, word 7⟩⟩

end ChaCha

namespace Generator

def seeded (seed : UInt64) : Generator :=
  let key := ChaCha.Key.ofSeed seed
  ofWords key.word

end Generator

end ContractBridge
