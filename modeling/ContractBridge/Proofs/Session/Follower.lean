import ContractBridge.Proofs.Table.Progress
import ContractBridge.Session.Basic
import ContractBridge.Session.Follower

/-!
# What followers know

Whoever follows the events of a session from its start knows the table.  Each kind of outcome is
announced by events that turn what was known before into what is known after it; what is refused
is announced by none.
-/

namespace ContractBridge

theorem Follower.follow_append (observer : Follower) (events later : List Event) :
    observer.follow (events ++ later) = (observer.follow events).follow later :=
  List.foldl_append

theorem CardPlay.Orderly.told_of_playCard {play after : CardPlay} (h : play.Orderly)
    {actor seat : Seat} {card : Card} {result : CardPlay.Played}
    (hplay : play.playCard actor seat card = .ok (result, after)) :
    after.deal =
        play.deal.set result.seat ((play.deal.get result.seat).clear result.slot) ∧
      after.declaration = play.declaration ∧
      after.tricksWon = Follower.credited play.tricksWon result.trick ∧
      result.next = after.pending? := by
  obtain ⟨-, slot, hand, trick, hremove, hadvanced, rfl⟩ := h.playCard_eq_ok hplay
  obtain ⟨_, -, hcleared⟩ := Option.map_eq_some_iff.mp hremove
  cases hcleared
  cases hadvanced with
  | passed => exact ⟨rfl, rfl, rfl, rfl⟩
  | closed => exact ⟨rfl, rfl, rfl, rfl⟩

namespace Table

section Known

variable {table : Table}

theorem known_of_bidding {next : Seat} (hstage : table.stage = .bidding next) :
    table.known =
      { dealer := table.dealer
        hands := table.dealt
        calls := table.auction.calls
        phase := .bidding
        pending := .bid next (table.auction.forbidden next)
        declaration := none
        tricks := ⟨0, 0⟩
        declarerTricks := none } := by
  simp [known, deal, phase, pending, declaration?, play?, hstage]

theorem known_of_pending {play : CardPlay} {turn : Turn} {legal : LegalPlay}
    (hstage : table.stage = .playing play) (hpending : play.pending? = some (turn, legal)) :
    table.known =
      { dealer := table.dealer
        hands := play.deal
        calls := table.auction.calls
        phase := .playing
        pending := .play turn legal
        declaration := some play.declaration
        tricks := play.tricksWon
        declarerTricks := none } := by
  have hopen := (CardPlay.pending?_eq_some_iff.mp hpending).1
  simp [known, deal, phase, pending, declaration?, play?, hstage, hpending, hopen]

theorem known_of_exhausted {play : CardPlay} (hstage : table.stage = .playing play)
    (hexhausted : play.isExhausted = true) :
    table.known =
      { dealer := table.dealer
        hands := play.deal
        calls := table.auction.calls
        phase := .finished
        pending := .nobody
        declaration := some play.declaration
        tricks := play.tricksWon
        declarerTricks := some (play.tricksOf play.declaration.declarer) } := by
  have hpending := CardPlay.pending?_of_exhausted hexhausted
  simp [known, deal, phase, pending, declaration?, play?, hstage, hpending, hexhausted]

theorem pending_eq_bid_iff {seat : Seat} {forbidden : BidSet} :
    table.pending = .bid seat forbidden ↔
      table.nextBidder? = some seat ∧ table.forbidden? = some forbidden := by
  unfold pending forbidden? nextBidder?
  cases table.stage with
  | bidding next => simp [eq_comm]
  | playing play => cases hpending : play.pending? <;> simp [hpending]

theorem pending_eq_play_iff {turn : Turn} {legal : LegalPlay} :
    table.pending = .play turn legal ↔ table.turn? = some (turn, legal) := by
  unfold pending turn? play?
  cases table.stage with
  | bidding next => simp
  | playing play => cases hpending : play.pending? <;> simp [hpending, Prod.ext_iff]

end Known

/-! ## What the announcements tell -/

section Announcements

variable {table next : Table} {plays : List (Seat × Card)}

theorem follow_announceDeal {seat : Seat} (observer : Follower)
    (hstage : table.stage = .bidding seat) (hfresh : table.auction.calls = []) :
    observer.follow table.announceDeal = table.known := by
  rw [known_of_bidding hstage, hfresh]
  simp [announceDeal, announceBidTurn, nextBidder?, hstage, Follower.follow, Follower.note,
    Follower.ofDeal]

theorem follow_announceCall {seat : Seat} {value : BidValue} {outcome : BidOutcome}
    (hstage : table.stage = .bidding seat)
    (hentered : Entered (table.note seat value) seat outcome next) :
    table.known.follow (next.announceCall seat value outcome) = next.known := by
  have hdealer : (table.note seat value).dealer = table.dealer := rfl
  rw [known_of_bidding hstage]
  cases hentered with
  | ongoing status =>
      rw [known_of_bidding rfl]
      simp [announceCall, announceBidTurn, Follower.follow, Follower.note, hdealer]
  | settled status resolved lead =>
      rw [known_of_pending rfl lead]
      simp [announceCall, announcePlayTurn, Follower.follow, Follower.note, hdealer,
        CardPlay.start]
  | passedOut status shuffled =>
      exact follow_announceDeal _ rfl rfl

theorem Sound.follow_announcePlay (h : table.Sound plays) {actor seat : Seat} {card : Card}
    {result : CardPlay.Played} (hplay : table.playCard actor seat card = .ok (result, next)) :
    table.known.follow (next.announcePlay result) = next.known := by
  obtain ⟨play, after, hstage, hopen, hcard, rfl⟩ := playCard_eq_ok hplay
  have playing := h.playing play hstage
  obtain ⟨offer, -, hpending⟩ := playing.recorded.exists_pending h.valid hopen
  obtain ⟨hdeal, hdeclaration, htricks, hnext⟩ := playing.recorded.orderly.told_of_playCard hcard
  have recorded := (playing.recorded.playCard h.valid hcard).1
  rw [known_of_pending hstage hpending]
  cases hexhausted : after.isExhausted with
  | false =>
      obtain ⟨legal, -, hdue⟩ := recorded.exists_pending h.valid hexhausted
      rw [known_of_pending rfl hdue]
      simp [announcePlay, announcePlayTurn, Follower.follow, Follower.note, Follower.noteCard,
        hnext, hdue, hdeal, hdeclaration, htricks]
  | true =>
      have hdue := CardPlay.pending?_of_exhausted hexhausted
      rw [known_of_exhausted rfl hexhausted]
      simp [announcePlay, declarerTricks, play?, Follower.follow, Follower.note, Follower.noteCard,
        hnext, hdue, hdeal, hdeclaration, htricks]

theorem follow_announceBid {seat : Seat} {code : UInt8} {outcome : BidOutcome}
    (hbid : table.bid seat code = .ok (outcome, next)) :
    table.known.follow (next.announceBid code outcome) = next.known := by
  obtain ⟨value, hdecode, hcall⟩ := bid_eq_ok hbid
  obtain ⟨haccepted, hentered⟩ := call_eq_ok hcall
  rw [announceBid, hdecode]
  exact follow_announceCall (callRefusal?_eq_none_iff.mp haccepted).1 hentered

theorem Sound.stalled_of_step (h : table.Sound plays) {command : Command} {fault : Fault}
    (hfault : (table.step command).1 = .error (.fault fault)) :
    Deal.shuffle (table.step command).2.generator = .error .stalledShuffle := by
  unfold Table.step at hfault ⊢
  cases hperform : table.perform command with
  | ok result =>
      rw [hperform] at hfault
      cases hfault
  | error failure =>
      rw [hperform] at hfault
      cases hfault
      exact (h.perform_fault hperform).2

end Announcements

end Table

namespace Session

def Request.command : Request → Table.Command
  | .bid seat code => .bid seat code
  | .play actor seat code => .play actor seat code
  | .autoPlay => .autoPlay
  | .nextDeal => .nextDeal

def relayed : Table.Reply → Except SessionError Table.Answer
  | .ok answer => .ok answer
  | .error (.refused error) => .error (.refused error)
  | .error (.fault _) => .error .closed

/-- A request is answered as the table answers its command.  The events take what was known of the
table to what is known of it afterwards, and there are none unless the command is carried out. -/
structure Relays (session : Session) (command : Table.Command) (turnout : Turnout)
    (next : Session) : Prop where
  reply : turnout.reply = relayed (session.table.step command).1
  table : next.table = (session.table.step command).2
  closed : next.isOpen = false ↔ ∃ fault, (session.table.step command).1 = .error (.fault fault)
  silent : ∀ error, turnout.reply = .error error → turnout.events = []
  told : session.table.known.follow turnout.events = next.table.known

section Request

variable {session : Session}

theorem relays_settle {α : Type} {label : α → Table.Answer} {announce : Table → α → List Event}
    {result : Except (Failure TableError) (α × Table)} {command : Table.Command}
    (hopen : session.isOpen = true)
    (hperform : session.table.perform command = Table.labelled label result)
    (htold : ∀ answer after, result = .ok (answer, after) →
      session.table.known.follow (announce after answer) = after.known) :
    session.Relays command (session.settle label announce result).1
      (session.settle label announce result).2 := by
  cases result with
  | ok answered =>
      obtain ⟨answer, after⟩ := answered
      have hstep : session.table.step command = (.ok (label answer), after) :=
        Table.step_of_perform hperform
      constructor
      case reply => simp [hstep, settle, relayed]
      case table => simp [hstep, settle]
      case closed => simp [hstep, settle, hopen]
      case silent => simp [settle]
      case told => exact htold answer after rfl
  | error failure =>
      have hstep : session.table.step command = (.error failure, session.table) := by
        rw [Table.step, hperform]
        rfl
      cases failure with
      | refused error =>
          constructor
          case reply => simp [hstep, settle, relayed]
          case table => simp [hstep, settle]
          case closed => simp [hstep, settle, hopen]
          case silent => simp [settle]
          case told => rfl
      | fault fault =>
          constructor
          case reply => simp [hstep, settle, relayed]
          case table => simp [hstep, settle, close]
          case closed => simp [hstep, settle, close]
          case silent => simp [settle]
          case told => rfl

theorem relays_request {plays : List (Seat × Card)} (sound : session.table.Sound plays)
    (hopen : session.isOpen = true) (request : Request) :
    session.Relays request.command (session.request request).1 (session.request request).2 := by
  rw [Session.request, if_pos hopen]
  cases request with
  | bid seat code =>
      refine relays_settle hopen rfl ?_
      intro outcome after hbid
      exact Table.follow_announceBid hbid
  | play actor seat code =>
      refine relays_settle hopen rfl ?_
      intro result after hplay
      obtain ⟨card, -, hcard⟩ := Table.play_eq_ok hplay
      exact sound.follow_announcePlay hcard
  | autoPlay =>
      refine relays_settle hopen rfl ?_
      intro result after hauto
      obtain ⟨turn, legal, -, hcard⟩ := Table.autoPlay_eq_ok hauto
      exact sound.follow_announcePlay hcard
  | nextDeal =>
      refine relays_settle hopen rfl ?_
      intro dealer after hnext
      obtain ⟨-, -, deal, generator, -, rfl⟩ := Table.nextDeal_eq_ok hnext
      exact Table.follow_announceDeal _ rfl rfl

end Request

/-! ## A whole session -/

/-- The table is a reachable one, and only a stalled shuffle has closed the session. -/
structure Live (session : Session) : Prop where
  reachable : Table.Reachable session.table
  stalled : session.isOpen = false →
    Deal.shuffle session.table.generator = .error .stalledShuffle

theorem live_start {table : Table} (h : Table.Reachable table) : (start table).1.Live where
  reachable := h
  stalled := by rintro ⟨⟩

theorem Live.request {session : Session} (h : session.Live) (request : Request) :
    (session.request request).2.Live ∧
      session.table.known.follow (session.request request).1.events =
        (session.request request).2.table.known := by
  cases hopen : session.isOpen with
  | false =>
      have hclosed : session.request request = (⟨.error .closed, []⟩, session) := by
        rw [Session.request, hopen]
        rfl
      rw [hclosed]
      exact ⟨h, rfl⟩
  | true =>
      obtain ⟨plays, hcourse⟩ := Table.reachable_iff.mp h.reachable
      have relays := relays_request hcourse.sound hopen request
      refine ⟨⟨?_, ?_⟩, relays.told⟩
      · rw [relays.table]
        exact h.reachable.step request.command
      · intro hclosed
        obtain ⟨fault, hfault⟩ := relays.closed.mp hclosed
        rw [relays.table]
        exact hcourse.sound.stalled_of_step hfault

theorem Live.serve {session : Session} (h : session.Live) (requests : List Request) :
    (session.serve requests).2.Live ∧
      session.table.known.follow ((session.serve requests).1.flatMap Turnout.events) =
        (session.serve requests).2.table.known := by
  induction requests generalizing session with
  | nil => exact ⟨h, rfl⟩
  | cons request requests ih =>
      obtain ⟨hnext, htold⟩ := h.request request
      obtain ⟨hlast, hrest⟩ := ih hnext
      refine ⟨hlast, ?_⟩
      rw [Session.serve, List.flatMap_cons, Follower.follow_append, htold, hrest]

def announced (table : Table) (requests : List Request) : List Event :=
  (start table).2 ++ ((start table).1.serve requests).1.flatMap Turnout.events

def served (table : Table) (requests : List Request) : Session :=
  ((start table).1.serve requests).2

/-- Whoever hears everything that a session on a new board announces knows the table after every
request: the dealer, the hands, the calls, the phase, who is due with what choice, the declaration
and the tricks.  A request is answered as the table answers it, and a refusal is not announced.
Only a stalled shuffle closes the session. -/
theorem followed {table : Table} (h : Table.Reachable table) (hphase : table.phase = .bidding)
    (hfresh : table.auction.entries = []) (observer : Follower) (requests : List Request) :
    observer.follow (announced table requests) = (served table requests).table.known ∧
    (∀ seat forbidden, (served table requests).table.known.pending = .bid seat forbidden ↔
      (served table requests).table.nextBidder? = some seat ∧
        (served table requests).table.forbidden? = some forbidden) ∧
    (∀ turn legal, (served table requests).table.known.pending = .play turn legal ↔
      (served table requests).table.turn? = some (turn, legal)) ∧
    ((served table requests).isOpen = true → ∀ request : Request,
      (served table requests).Relays request.command
        ((served table requests).request request).1 ((served table requests).request request).2) ∧
    ((served table requests).isOpen = false →
      Deal.shuffle (served table requests).table.generator = .error .stalledShuffle) := by
  obtain ⟨live, htold⟩ := (live_start h).serve requests
  obtain ⟨next, hstage⟩ := Table.phase_eq_bidding_iff.mp hphase
  obtain ⟨plays, hcourse⟩ := Table.reachable_iff.mp live.reachable
  refine ⟨?_, ?_, ?_, ?_, live.stalled⟩
  · have hcalls : table.auction.calls = [] := by rw [Auction.calls, hfresh, List.map_nil]
    have hstart : observer.follow (start table).2 = table.known :=
      Table.follow_announceDeal observer hstage hcalls
    rw [announced, Follower.follow_append, hstart]
    exact htold
  · intro seat forbidden
    exact Table.pending_eq_bid_iff
  · intro turn legal
    exact Table.pending_eq_play_iff
  · intro hopen request
    exact relays_request hcourse.sound hopen request

/-- One club passed round after a call out of turn, a board played by default, and the next one. -/
def oneBoard : List Request :=
  [.bid .east 65, .bid .north 2, .bid .east 65, .bid .south 129, .bid .west 193] ++
    List.replicate 52 .autoPlay ++ [.nextDeal]

def stranger : Follower :=
  .ofDeal .west (.replicate .empty)

theorem followed_oneBoard :
    (stranger.follow (announced (Table.unshuffled .north) oneBoard)).dealer = .east ∧
      (stranger.follow (announced (Table.unshuffled .north) oneBoard)).phase = .bidding ∧
      ∃ forbidden, (stranger.follow (announced (Table.unshuffled .north) oneBoard)).pending =
        .bid .east forbidden := by
  obtain ⟨htold, -⟩ := followed (.opened (Table.opened_unshuffled .north)) rfl rfl stranger oneBoard
  rw [htold]
  exact ⟨by decide +kernel, by decide +kernel, _, rfl⟩

end Session

end ContractBridge
