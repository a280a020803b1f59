import ContractBridge.Auction.Legality
import ContractBridge.CardPlay.Step
import ContractBridge.Deal.Shuffle
import ContractBridge.Random.ChaCha

/-!
# Tables

A table runs one board after another: it deals, keeps the auction and then the card play, and knows
whose turn it is.  A seeded table draws its deals from the seed alone.
-/

namespace ContractBridge

/-- The decision time, in milliseconds, and the capacity are for whoever runs the table. -/
structure TableConfig where
  id : UInt64 := 0
  dealer : Seat := .north
  seed : Option UInt64 := none
  decisionTime : Nat := 30000
  capacity : Nat := 64
  deriving DecidableEq, Repr

def TableConfig.generator (config : TableConfig) (entropy : Generator) : Generator :=
  match config.seed with
  | some seed => .seeded seed
  | none => entropy

inductive Phase where
  | bidding
  | playing
  | finished
  deriving DecidableEq, Repr

def Phase.text : Phase → String
  | .bidding => "Bidding"
  | .playing => "Playing"
  | .finished => "Finished"

inductive Stage where
  | bidding (next : Seat)
  | playing (play : CardPlay)
  deriving DecidableEq, Repr

structure Table where
  config : TableConfig
  generator : Generator
  dealer : Seat
  dealt : Deal
  auction : Auction
  stage : Stage

namespace Table

def start (config : TableConfig) (generator : Generator) (deal : Deal) : Table :=
  { config, generator
    dealer := config.dealer
    dealt := deal
    auction := .empty
    stage := .bidding config.dealer }

def new (config : TableConfig) (entropy : Generator) : Except Fault Table :=
  match Deal.shuffle (config.generator entropy) with
  | .error fault => .error fault
  | .ok (deal, generator) => .ok (start config generator deal)

def withDeal (config : TableConfig) (entropy : Generator) (deal : Deal) :
    Except Deal.Invalid Table :=
  match deal.validate with
  | .error invalid => .error invalid
  | .ok () => .ok (start config (config.generator entropy) deal)

def phase (table : Table) : Phase :=
  match table.stage with
  | .bidding _ => .bidding
  | .playing play => if play.isExhausted then .finished else .playing

def play? (table : Table) : Option CardPlay :=
  match table.stage with
  | .bidding _ => none
  | .playing play => some play

def deal (table : Table) : Deal :=
  match table.stage with
  | .bidding _ => table.dealt
  | .playing play => play.deal

def declaration? (table : Table) : Option Declaration :=
  table.play?.map CardPlay.declaration

def nextBidder? (table : Table) : Option Seat :=
  match table.stage with
  | .bidding next => some next
  | .playing _ => none

def forbidden? (table : Table) : Option BidSet :=
  table.nextBidder?.map table.auction.forbidden

def turn? (table : Table) : Option (Turn × LegalPlay) :=
  table.play?.bind CardPlay.pending?

def redeal (table : Table) : Except Fault Table :=
  match Deal.shuffle table.generator with
  | .error fault => .error fault
  | .ok (deal, generator) =>
      .ok { table with
        generator
        dealt := deal
        auction := .empty
        stage := .bidding table.dealer }

end Table

end ContractBridge
