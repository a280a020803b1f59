import ContractBridge.Proofs.Auction.Levels
import ContractBridge.Proofs.Table.Bidding

/-!
# Tables and the levels of passes, doubles and redoubles

Two runs whose calls differ in nothing but such levels are both the run with all of them taken from
level one, as far as anybody can tell.
-/

namespace ContractBridge

namespace TaggedBid

def plain (bid : TaggedBid) : TaggedBid :=
  { bid with value := bid.value.plain }

def plainCode (code : UInt8) : UInt8 :=
  match decode code with
  | .ok bid => bid.plain.encode
  | .error _ => code

theorem decode_plainCode (code : UInt8) : decode (plainCode code) = (decode code).map plain := by
  unfold plainCode
  cases hdecode : decode code with
  | ok bid => exact decode_encode bid.plain
  | error error => exact hdecode

end TaggedBid

def TableError.plain : TableError → TableError
  | .forbiddenBid seat value => .forbiddenBid seat value.plain
  | error => error

theorem TableError.eq_of_plain_eq {error error' : TableError} (h : error.plain = error'.plain) :
    error = error' ∨ ∃ seat value value', value.call = value'.call ∧
      error = .forbiddenBid seat value ∧ error' = .forbiddenBid seat value' := by
  cases error <;> cases error' <;> simp_all [plain, BidValue.plain_eq_iff]

namespace Table

def Command.plain : Command → Command
  | .bid seat code => .bid seat (TaggedBid.plainCode code)
  | .call seat value => .call seat value.plain
  | command => command

def plainReply : Reply → Reply
  | .ok answer => .ok answer
  | .error failure => .error (failure.map TableError.plain)

def plain (table : Table) : Table :=
  { table with auction := table.auction.plain }

def plainResult {α : Type} :
    Except (Failure TableError) (α × Table) → Except (Failure TableError) (α × Table)
  | .ok (a, table) => .ok (a, table.plain)
  | .error failure => .error (failure.map TableError.plain)

section Plain

variable (table : Table)

theorem forbidden?_plain : table.plain.forbidden? = table.forbidden? := by
  have hforbidden : table.plain.auction.forbidden = table.auction.forbidden :=
    funext fun seat => table.auction.forbidden_plain seat
  rw [forbidden?, hforbidden, forbidden?]
  rfl

theorem note_plain (seat : Seat) (value : BidValue) :
    table.plain.note seat value.plain = (table.note seat value).plain := by
  simp only [note, plain, Auction.append_plain]

theorem callRefusal?_plain (seat : Seat) (value : BidValue) :
    table.plain.callRefusal? seat value.plain =
      (table.callRefusal? seat value).map TableError.plain := by
  have hforbidden : (table.plain.auction.forbidden seat).contains value.plain =
      (table.auction.forbidden seat).contains value := by
    rw [plain, Auction.forbidden_plain, Auction.contains_forbidden, Auction.contains_forbidden,
      Auction.forbids_plain_value]
  have hstage : table.plain.stage = table.stage := rfl
  rw [callRefusal?, callRefusal?, hforbidden, hstage]
  cases table.stage with
  | playing play => rfl
  | bidding next =>
      dsimp only
      split
      case isTrue => rfl
      case isFalse => split <;> rfl

theorem passOut_plain : table.plain.passOut = plainResult table.passOut := by
  have hgenerator : table.plain.generator = table.generator := rfl
  simp only [passOut, redeal_eq, hgenerator]
  cases Deal.shuffle table.generator <;> rfl

theorem beginPlay_plain : table.plain.beginPlay = plainResult table.beginPlay := by
  have hresolve : table.plain.auction.resolve = table.auction.resolve :=
    table.auction.resolve_plain
  have hdealt : table.plain.dealt = table.dealt := rfl
  simp only [beginPlay, hresolve, hdealt]
  cases table.auction.resolve with
  | error failure => cases failure <;> rfl
  | ok declaration =>
      dsimp only
      cases (CardPlay.start table.dealt declaration).pending? <;> rfl

theorem passTurn_plain (next : Seat) :
    table.plain.passTurn next = ((table.passTurn next).1, (table.passTurn next).2.plain) := by
  have hforbidden : table.plain.auction.forbidden next = table.auction.forbidden next :=
    table.auction.forbidden_plain next
  rw [passTurn, hforbidden]
  rfl

theorem enter_plain (seat : Seat) (value : BidValue) :
    table.plain.enter seat value.plain = plainResult (table.enter seat value) := by
  rw [enter_eq, enter_eq, note_plain]
  generalize table.note seat value = noted
  have hstatus : noted.plain.auction.status = noted.auction.status := noted.auction.status_plain
  rw [hstatus]
  cases noted.auction.status with
  | passedOut => exact noted.passOut_plain
  | settled => exact noted.beginPlay_plain
  | ongoing =>
      simp only [passTurn_plain]
      rfl

theorem call_plain (seat : Seat) (value : BidValue) :
    table.plain.call seat value.plain = plainResult (table.call seat value) := by
  rw [call, call, callRefusal?_plain]
  cases table.callRefusal? seat value with
  | some error => rfl
  | none => exact table.enter_plain seat value

theorem bid_plain (seat : Seat) (code : UInt8) :
    table.plain.bid seat (TaggedBid.plainCode code) = plainResult (table.bid seat code) := by
  rw [bid, bid, TaggedBid.decode_plainCode]
  cases TaggedBid.decode code with
  | error error => rfl
  | ok tagged =>
      simp only [Except.map, TaggedBid.plain]
      split
      case isTrue => rfl
      case isFalse => exact table.call_plain seat tagged.value

theorem playCard_plain (actor seat : Seat) (card : Card) :
    table.plain.playCard actor seat card = plainResult (table.playCard actor seat card) := by
  have hstage : table.plain.stage = table.stage := rfl
  rw [playCard, playCard, hstage]
  cases table.stage with
  | bidding next => rfl
  | playing play =>
      dsimp only
      split
      case isTrue => rfl
      case isFalse =>
        unfold playOn
        cases play.playCard actor seat card with
        | ok result => rfl
        | error failure => cases failure <;> rfl

theorem play_plain (actor seat : Seat) (code : UInt8) :
    table.plain.play actor seat code = plainResult (table.play actor seat code) := by
  rw [play, play]
  cases Card.decode code with
  | error error => rfl
  | ok card => exact table.playCard_plain actor seat card

theorem autoPlay_plain : table.plain.autoPlay = plainResult table.autoPlay := by
  have hturn : table.plain.turn? = table.turn? := rfl
  rw [autoPlay, autoPlay, hturn]
  cases table.turn? with
  | none => rfl
  | some offer => exact table.playCard_plain ..

theorem nextDeal_plain : table.plain.nextDeal = plainResult table.nextDeal := by
  have hphase : table.plain.phase = table.phase := rfl
  rw [nextDeal, nextDeal, hphase]
  cases table.phase with
  | bidding | playing => rfl
  | finished =>
      have hgenerator : table.plain.generator = table.generator := rfl
      simp only [redeal_eq, hgenerator]
      cases Deal.shuffle table.generator <;> rfl

theorem labelled_plain {α : Type} (label : α → Answer)
    (result : Except (Failure TableError) (α × Table)) :
    labelled label (plainResult result) = plainResult (labelled label result) := by
  cases result <;> rfl

theorem perform_plain (command : Command) :
    table.plain.perform command.plain = plainResult (table.perform command) := by
  cases command with
  | bid seat code => exact (congrArg _ (table.bid_plain seat code)).trans (labelled_plain ..)
  | call seat value => exact (congrArg _ (table.call_plain seat value)).trans (labelled_plain ..)
  | play actor seat code =>
      exact (congrArg _ (table.play_plain actor seat code)).trans (labelled_plain ..)
  | playCard actor seat card =>
      exact (congrArg _ (table.playCard_plain actor seat card)).trans (labelled_plain ..)
  | autoPlay => exact (congrArg _ table.autoPlay_plain).trans (labelled_plain ..)
  | nextDeal => exact (congrArg _ table.nextDeal_plain).trans (labelled_plain ..)

theorem step_plain (command : Command) :
    table.plain.step command.plain =
      (plainReply (table.step command).1, (table.step command).2.plain) := by
  rw [step, step, perform_plain]
  cases table.perform command <;> rfl

theorem run_plain (commands : List Command) :
    table.plain.run (commands.map Command.plain) =
      ((table.run commands).1.map plainReply, (table.run commands).2.plain) := by
  induction commands generalizing table with
  | nil => rfl
  | cons command commands ih => simp only [List.map_cons, run_cons, step_plain, ih]

end Plain

/-! ## Two runs -/

/-- The same command, or two whose calls differ in nothing but the level of a pass, double or
redouble. -/
inductive SameKind : Command → Command → Prop
  | same (command : Command) : SameKind command command
  | bid (seat : Seat) {code code' : UInt8} {tagged tagged' : TaggedBid}
      (decode : TaggedBid.decode code = .ok tagged) (decode' : TaggedBid.decode code' = .ok tagged')
      (tag : tagged.seat = tagged'.seat) (kind : tagged.value.call = tagged'.value.call) :
      SameKind (.bid seat code) (.bid seat code')
  | call (seat : Seat) {value value' : BidValue} (kind : value.call = value'.call) :
      SameKind (.call seat value) (.call seat value')

/-- The same reply, or the refusals of two calls that differ in nothing but their level. -/
inductive SameReply : Reply → Reply → Prop
  | same (reply : Reply) : SameReply reply reply
  | forbidden (seat : Seat) {value value' : BidValue} (kind : value.call = value'.call) :
      SameReply (.error (.refused (.forbiddenBid seat value)))
        (.error (.refused (.forbiddenBid seat value')))

theorem SameKind.plain_eq {command command' : Command} (h : SameKind command command') :
    command.plain = command'.plain := by
  cases h with
  | same => rfl
  | call seat kind => rw [Command.plain, Command.plain, BidValue.plain_eq_iff.mpr kind]
  | @bid seat code code' tagged tagged' decode decode' tag kind =>
      have hplain : tagged.plain = tagged'.plain := by
        rw [TaggedBid.plain, TaggedBid.plain, tag, BidValue.plain_eq_iff.mpr kind]
      simp only [Command.plain, TaggedBid.plainCode, decode, decode', hplain]

theorem sameReply_of_plain_eq {reply reply' : Reply} (h : plainReply reply = plainReply reply') :
    SameReply reply reply' := by
  match reply, reply' with
  | .ok _, .ok _ | .error (.fault _), .error (.fault _) =>
      cases h
      exact .same _
  | .error (.refused error), .error (.refused error') =>
      have hplain : error.plain = error'.plain := Failure.refused.inj (Except.error.inj h)
      rcases TableError.eq_of_plain_eq hplain with rfl | ⟨seat, value, value', kind, rfl, rfl⟩
      · exact .same _
      · exact .forbidden seat kind
  | .ok _, .error _ | .error _, .ok _ => cases h
  | .error (.refused _), .error (.fault _) | .error (.fault _), .error (.refused _) => cases h

structure SameCall (entry entry' : Entry) : Prop where
  stamp : entry.stamp = entry'.stamp
  seat : entry.seat = entry'.seat
  call : entry.value.call = entry'.value.call
  doubling : entry.doubling = entry'.doubling

/-- All that can be read off two tables but the levels of passes, doubles and redoubles. -/
structure SameBoard (table table' : Table) : Prop where
  phase : table.phase = table'.phase
  nextBidder? : table.nextBidder? = table'.nextBidder?
  forbidden? : table.forbidden? = table'.forbidden?
  turn? : table.turn? = table'.turn?
  declaration? : table.declaration? = table'.declaration?
  play? : table.play? = table'.play?
  deal : table.deal = table'.deal
  dealt : table.dealt = table'.dealt
  dealer : table.dealer = table'.dealer
  generator : table.generator = table'.generator
  entries : List.Forall₂ SameCall table.auction.entries table'.auction.entries
  firstBids : table.auction.firstBids = table'.auction.firstBids

theorem map_eq_iff_forall₂ {α β : Type} {f : α → β} {list list' : List α} :
    list.map f = list'.map f ↔ List.Forall₂ (fun a b => f a = f b) list list' := by
  rw [← List.forall₂_eq_eq_eq, List.forall₂_map_left_iff, List.forall₂_map_right_iff]

theorem sameCall_of_plain_eq {entry entry' : Entry} (h : entry.plain = entry'.plain) :
    SameCall entry entry' := by
  have hsame : ∀ {α : Type} (f : Entry → α), f entry.plain = f entry'.plain := by
    intro α f
    rw [h]
  constructor
  case stamp => exact hsame Entry.stamp
  case seat => exact hsame Entry.seat
  case call => exact BidValue.plain_eq_iff.mp (hsame Entry.value)
  case doubling => simpa only [keepsSlots_plain.doubling] using hsame Entry.doubling

theorem sameBoard_of_plain_eq {table table' : Table} (h : table.plain = table'.plain) :
    SameBoard table table' := by
  have hsame : ∀ {α : Type} (f : Table → α), f table.plain = f table'.plain := by
    intro α f
    rw [h]
  constructor
  case phase => exact hsame Table.phase
  case nextBidder? => exact hsame Table.nextBidder?
  case forbidden? => simpa only [forbidden?_plain] using hsame Table.forbidden?
  case turn? => exact hsame Table.turn?
  case declaration? => exact hsame Table.declaration?
  case play? => exact hsame Table.play?
  case deal => exact hsame Table.deal
  case dealt => exact hsame Table.dealt
  case dealer => exact hsame Table.dealer
  case generator => exact hsame Table.generator
  case entries =>
    have hentries := map_eq_iff_forall₂.mp (hsame fun table => table.auction.entries)
    exact hentries.imp fun entry entry' => sameCall_of_plain_eq
  case firstBids => exact hsame fun table => table.auction.firstBids

/-- Two runs from one table whose commands differ in nothing but the levels of passes, doubles and
redoubles get the same replies, up to the level of a call forbidden, and leave the same board. -/
theorem levels_do_not_matter (table : Table) {commands commands' : List Command}
    (h : List.Forall₂ SameKind commands commands') :
    List.Forall₂ SameReply (table.run commands).1 (table.run commands').1 ∧
      SameBoard (table.run commands).2 (table.run commands').2 := by
  have hcommands : commands.map Command.plain = commands'.map Command.plain :=
    map_eq_iff_forall₂.mpr (h.imp fun command command' => SameKind.plain_eq)
  have hrun := table.run_plain commands
  rw [hcommands, run_plain, Prod.mk.injEq] at hrun
  obtain ⟨hreplies, hlast⟩ := hrun
  constructor
  · exact (map_eq_iff_forall₂.mp hreplies.symm).imp fun reply reply' => sameReply_of_plain_eq
  · exact sameBoard_of_plain_eq hlast.symm

/-- East doubles one club, South redoubles, and West tries to double again. -/
def lowDoubles : List Command :=
  [.bid .north 2, .bid .east 71, .bid .south 136, .bid .west 199]

def highDoubles : List Command :=
  [.bid .north 2, .bid .east 79, .bid .south 184, .bid .west 247]

theorem levels_do_not_matter_doubled :
    List.Forall₂ SameReply ((unshuffled .north).run lowDoubles).1
        ((unshuffled .north).run highDoubles).1 ∧
      SameBoard ((unshuffled .north).run lowDoubles).2 ((unshuffled .north).run highDoubles).2 :=
  levels_do_not_matter _ (.cons (.same _) (.cons (.bid .east rfl rfl rfl (by decide))
    (.cons (.bid .south rfl rfl rfl (by decide))
      (.cons (.bid .west rfl rfl rfl (by decide)) .nil))))

end Table

end ContractBridge
