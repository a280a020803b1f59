import ContractBridge.Auction.Basic
import ContractBridge.Auction.Declaration
import ContractBridge.Auction.Law
import ContractBridge.Auction.Legality
import ContractBridge.BiddingBox.Set
import ContractBridge.BiddingBox.Tagged
import ContractBridge.BiddingBox.Value
import ContractBridge.Card.Basic
import ContractBridge.Card.Text
import ContractBridge.CardPlay.Basic
import ContractBridge.CardPlay.Law
import ContractBridge.CardPlay.Range
import ContractBridge.CardPlay.Request
import ContractBridge.CardPlay.Step
import ContractBridge.CardPlay.Trick
import ContractBridge.Contract.Basic
import ContractBridge.Contract.Bid
import ContractBridge.Contract.Strain
import ContractBridge.Deal.Basic
import ContractBridge.Deal.Shuffle
import ContractBridge.Deal.Text
import ContractBridge.Failure
import ContractBridge.Hand.Basic
import ContractBridge.Hand.Text
import ContractBridge.Proofs.Auction.Contract
import ContractBridge.Proofs.Auction.Declarer
import ContractBridge.Proofs.Auction.Ending
import ContractBridge.Proofs.Auction.Ledger
import ContractBridge.Proofs.Auction.Legality
import ContractBridge.Proofs.Auction.Length
import ContractBridge.Proofs.Auction.Levels
import ContractBridge.Proofs.Auction.Longest
import ContractBridge.Proofs.Auction.Relabel
import ContractBridge.Proofs.Auction.Resolution
import ContractBridge.Proofs.Auction.Rotation
import ContractBridge.Proofs.Auction.Unchecked
import ContractBridge.Proofs.BiddingBox.Call
import ContractBridge.Proofs.BiddingBox.Set
import ContractBridge.Proofs.Card.Rank
import ContractBridge.Proofs.CardPlay.Account
import ContractBridge.Proofs.CardPlay.FaceDown
import ContractBridge.Proofs.CardPlay.InPlace
import ContractBridge.Proofs.CardPlay.Legality
import ContractBridge.Proofs.CardPlay.Offer
import ContractBridge.Proofs.CardPlay.Order
import ContractBridge.Proofs.CardPlay.Range
import ContractBridge.Proofs.CardPlay.Refusal
import ContractBridge.Proofs.CardPlay.Requests
import ContractBridge.Proofs.CardPlay.Revoke
import ContractBridge.Proofs.CardPlay.Rotation
import ContractBridge.Proofs.CardPlay.Trick
import ContractBridge.Proofs.CardPlay.Tricks
import ContractBridge.Proofs.CardPlay.Trumps
import ContractBridge.Proofs.CardPlay.Winner
import ContractBridge.Proofs.Deal.Fairness
import ContractBridge.Proofs.Deal.Faults
import ContractBridge.Proofs.Deal.Shuffled
import ContractBridge.Proofs.Deal.Text
import ContractBridge.Proofs.Deal.Valid
import ContractBridge.Proofs.Hand.Places
import ContractBridge.Proofs.Hand.Reading
import ContractBridge.Proofs.Hand.RoundTrip
import ContractBridge.Proofs.Hand.Slots
import ContractBridge.Proofs.Record
import ContractBridge.Proofs.Seat.Rotation
import ContractBridge.Proofs.Session.Follower
import ContractBridge.Proofs.Session.Opening
import ContractBridge.Proofs.Table.Bidding
import ContractBridge.Proofs.Table.Boards
import ContractBridge.Proofs.Table.Conservation
import ContractBridge.Proofs.Table.Course
import ContractBridge.Proofs.Table.Declaration
import ContractBridge.Proofs.Table.Ending
import ContractBridge.Proofs.Table.FaceDown
import ContractBridge.Proofs.Table.InPlace
import ContractBridge.Proofs.Table.Length
import ContractBridge.Proofs.Table.Levels
import ContractBridge.Proofs.Table.Playing
import ContractBridge.Proofs.Table.Progress
import ContractBridge.Proofs.Table.Refusal
import ContractBridge.Proofs.Table.Repetition
import ContractBridge.Proofs.Table.Revoke
import ContractBridge.Proofs.Table.Rotation
import ContractBridge.Proofs.Table.Safety
import ContractBridge.Proofs.Table.Transition
import ContractBridge.Proofs.Table.Tricks
import ContractBridge.Random.ChaCha
import ContractBridge.Random.Generator
import ContractBridge.Random.Recorded
import ContractBridge.Seat.Basic
import ContractBridge.Seat.Indexed
import ContractBridge.Seat.Name
import ContractBridge.Seat.Set
import ContractBridge.Session.Basic
import ContractBridge.Session.Event
import ContractBridge.Session.Follower
import ContractBridge.Table.Basic
import ContractBridge.Table.Bidding
import ContractBridge.Table.Command
import ContractBridge.Table.Error
import ContractBridge.Table.Playing
import ContractBridge.Table.Reachable
import ContractBridge.Text.CodePointRanges
import ContractBridge.Text.CombiningMark
import ContractBridge.Text.Graphic
import ContractBridge.Text.Printable
import ContractBridge.Text.Quoted
