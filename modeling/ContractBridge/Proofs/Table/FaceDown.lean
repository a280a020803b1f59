import ContractBridge.Proofs.CardPlay.FaceDown
import ContractBridge.Proofs.Table.Bidding
import ContractBridge.Proofs.Table.Declaration

/-!
# What can be learnt about the cards

Two tables with the same dealer are driven by the same commands, of which both accept the same
ones.  Then nothing that everybody can see tells their deals apart, nor does any answer, except to
the seat that plays from the hand due and in what the next hand may play.
-/

namespace ContractBridge

def Stage.faceDown : Stage → Stage
  | .bidding next => .bidding next
  | .playing play => .playing play.faceDown

namespace Table

/-- Two tables that differ in nothing but their cards, in the hands and still to be dealt. -/
structure Alike (table other : Table) : Prop where
  dealer : table.dealer = other.dealer
  auction : table.auction = other.auction
  stage : table.stage.faceDown = other.stage.faceDown

/-- The same reply, up to the plays that it offers to the next hand. -/
inductive UpToOffer : Reply → Reply → Prop
  | same (reply : Reply) : UpToOffer reply reply
  | completed (declaration : Declaration) (turn : Turn) (legal legal' : LegalPlay) :
      UpToOffer (.ok (.bid (.completed declaration turn legal)))
        (.ok (.bid (.completed declaration turn legal')))
  | played (result : CardPlay.Played) {next : Option (Turn × LegalPlay)}
      (turn : result.next.map Prod.fst = next.map Prod.fst) :
      UpToOffer (.ok (.played result)) (.ok (.played { result with next }))

section Alike

variable {table other : Table}

theorem Alike.stage_cases (h : table.Alike other) :
    (∃ next, table.stage = .bidding next ∧ other.stage = .bidding next) ∨
      ∃ play play', table.stage = .playing play ∧ other.stage = .playing play' ∧
        play.faceDown = play'.faceDown := by
  have hstage := h.stage
  generalize table.stage = stage at hstage ⊢
  generalize other.stage = stage' at hstage ⊢
  match stage, stage' with
  | .bidding _, .playing _ | .playing _, .bidding _ => cases hstage
  | .bidding next, .bidding next' =>
      cases hstage
      exact .inl ⟨next, rfl, rfl⟩
  | .playing play, .playing play' => exact .inr ⟨play, play', rfl, rfl, Stage.playing.inj hstage⟩

theorem Alike.phase_eq (h : table.Alike other) : table.phase = other.phase := by
  unfold phase
  rcases h.stage_cases with ⟨next, hstage, hother⟩ | ⟨play, play', hstage, hother, hplay⟩
  · rw [hstage, hother]
  · simp only [hstage, hother, CardPlay.isExhausted_congr hplay]

theorem Alike.callRefusal?_eq (h : table.Alike other) (seat : Seat) (value : BidValue) :
    table.callRefusal? seat value = other.callRefusal? seat value := by
  unfold callRefusal?
  rw [h.phase_eq, h.auction]
  rcases h.stage_cases with ⟨next, hstage, hother⟩ | ⟨play, play', hstage, hother, -⟩
  · rw [hstage, hother]
  · rw [hstage, hother]

theorem Alike.of_entered (h : table.Alike other) {seat : Seat} {value : BidValue}
    {outcome outcome' : BidOutcome} {next next' : Table}
    (entered : Entered (table.note seat value) seat outcome next)
    (entered' : Entered (other.note seat value) seat outcome' next') :
    UpToOffer (.ok (.bid outcome)) (.ok (.bid outcome')) ∧
      (isRedeal (.ok (.bid outcome)) = false → next.Alike next') := by
  have hdealer : (table.note seat value).dealer = (other.note seat value).dealer := h.dealer
  have hauction : (table.note seat value).auction = (other.note seat value).auction :=
    congrArg (Auction.append · seat value) h.auction
  generalize table.note seat value = noted at entered hdealer hauction
  generalize other.note seat value = noted' at entered' hdealer hauction
  have hstatus := congrArg Auction.status hauction
  cases entered with
  | ongoing status =>
      cases entered' with
      | settled status' | passedOut status' => simp [hstatus, status'] at status
      | ongoing =>
          refine ⟨?_, fun _ => ⟨hdealer, hauction, rfl⟩⟩
          rw [hauction]
          exact .same _
  | @settled declaration turn legal status resolved lead =>
      cases entered' with
      | ongoing status' | passedOut status' => simp [hstatus, status'] at status
      | @settled declaration' turn' legal' _ resolved' lead' =>
          obtain rfl : declaration = declaration' := by
            rw [hauction, resolved'] at resolved
            exact (Except.ok.inj resolved).symm
          obtain ⟨-, rfl, -⟩ := CardPlay.pending?_eq_some_iff.mp lead
          obtain ⟨-, rfl, -⟩ := CardPlay.pending?_eq_some_iff.mp lead'
          exact ⟨.completed declaration _ legal legal', fun _ => ⟨hdealer, hauction, rfl⟩⟩
  | passedOut status =>
      cases entered' with
      | ongoing status' | settled status' => simp [hstatus, status'] at status
      | passedOut =>
          refine ⟨?_, by simp [isRedeal]⟩
          rw [hdealer]
          exact .same _

theorem Alike.of_playCard (h : table.Alike other) {actor seat : Seat} {card : Card}
    {result result' : CardPlay.Played} {next next' : Table}
    (hplay : table.playCard actor seat card = .ok (result, next))
    (hother : other.playCard actor seat card = .ok (result', next')) : next.Alike next' := by
  obtain ⟨play, after, hstage, -, haccepted, rfl⟩ := playCard_eq_ok hplay
  obtain ⟨play', after', hstage', -, haccepted', rfl⟩ := playCard_eq_ok hother
  have hsame := h.stage
  rw [hstage, hstage'] at hsame
  obtain ⟨-, hafter⟩ :=
    CardPlay.faceDown_of_playCard (Stage.playing.inj hsame) haccepted haccepted'
  exact ⟨h.dealer, h.auction, congrArg Stage.playing hafter⟩

theorem Alike.of_perform (h : table.Alike other) {command : Command} (hauto : command ≠ .autoPlay)
    {answer answer' : Answer} (hundealt : isRedeal (.ok answer) = false) {next next' : Table}
    (hperform : table.perform command = .ok (answer, next))
    (hother : other.perform command = .ok (answer', next')) : next.Alike next' := by
  cases command with
  | bid seat code =>
      obtain ⟨outcome, rfl, hbid⟩ := labelled_eq_ok hperform
      obtain ⟨outcome', rfl, hbid'⟩ := labelled_eq_ok hother
      obtain ⟨value, hdecode, hcall⟩ := bid_eq_ok hbid
      obtain ⟨value', hdecode', hcall'⟩ := bid_eq_ok hbid'
      obtain rfl : value = value' := by
        rw [hdecode] at hdecode'
        cases hdecode'
        rfl
      exact (h.of_entered (call_eq_ok hcall).2 (call_eq_ok hcall').2).2 hundealt
  | call seat value =>
      obtain ⟨outcome, rfl, hcall⟩ := labelled_eq_ok hperform
      obtain ⟨outcome', rfl, hcall'⟩ := labelled_eq_ok hother
      exact (h.of_entered (call_eq_ok hcall).2 (call_eq_ok hcall').2).2 hundealt
  | play actor seat code =>
      obtain ⟨result, rfl, hplay⟩ := labelled_eq_ok hperform
      obtain ⟨result', rfl, hplay'⟩ := labelled_eq_ok hother
      obtain ⟨card, hdecode, hcard⟩ := play_eq_ok hplay
      obtain ⟨card', hdecode', hcard'⟩ := play_eq_ok hplay'
      obtain rfl : card = card' := by
        rw [hdecode] at hdecode'
        exact Except.ok.inj hdecode'
      exact h.of_playCard hcard hcard'
  | playCard actor seat card =>
      obtain ⟨result, rfl, hcard⟩ := labelled_eq_ok hperform
      obtain ⟨result', rfl, hcard'⟩ := labelled_eq_ok hother
      exact h.of_playCard hcard hcard'
  | autoPlay => exact absurd rfl hauto
  | nextDeal =>
      obtain ⟨dealer, rfl, -⟩ := labelled_eq_ok hperform
      cases hundealt

theorem Alike.step (h : table.Alike other) {command : Command} (hauto : command ≠ .autoPlay)
    (hundealt : isRedeal (table.step command).1 = false)
    (hsame : (table.step command).1.isOk = (other.step command).1.isOk) :
    (table.step command).2.Alike (other.step command).2 := by
  rcases step_cases table command with ⟨failure, hstep⟩ | ⟨answer, next, hperform, hstep⟩
  · rcases step_cases other command with ⟨failure', hstep'⟩ | ⟨answer', next', -, hstep'⟩
    · rw [hstep, hstep']
      exact h
    · rw [hstep, hstep'] at hsame
      cases hsame
  · rcases step_cases other command with ⟨failure', hstep'⟩ | ⟨answer', next', hother, hstep'⟩
    · rw [hstep, hstep'] at hsame
      cases hsame
    · rw [hstep] at hundealt
      rw [hstep, hstep']
      exact h.of_perform hauto hundealt hperform hother

theorem Alike.run (h : table.Alike other) {commands : List Command}
    (hauto : .autoPlay ∉ commands)
    (hundealt : ∀ reply ∈ (table.run commands).1, isRedeal reply = false)
    (hsame : (table.run commands).1.map Except.isOk = (other.run commands).1.map Except.isOk) :
    (table.run commands).2.Alike (other.run commands).2 := by
  induction commands generalizing table other with
  | nil => exact h
  | cons command commands ih =>
      rw [run_cons, run_cons, List.map_cons, List.map_cons, List.cons.injEq] at hsame
      rw [run_cons] at hundealt
      obtain ⟨hfirst, hrest⟩ := List.forall_mem_cons.mp hundealt
      have hcommand : command ≠ .autoPlay := fun heq => hauto (heq ▸ List.mem_cons_self ..)
      have hcommands : .autoPlay ∉ commands := fun hmem => hauto (List.mem_cons_of_mem _ hmem)
      exact ih (h.step hcommand hfirst hsame.1) hcommands hrest hsame.2

/-! ## What everybody sees -/

theorem Sound.map_fst_turn? {plays : List (Seat × Card)} (h : table.Sound plays) :
    table.turn?.map Prod.fst = table.play?.bind CardPlay.turn? := by
  unfold turn? play?
  cases hstage : table.stage with
  | bidding next => rfl
  | playing play => exact (h.playing play hstage).recorded.map_fst_pending? h.valid

/-- Whatever is read off a table without looking at a hand. -/
structure SameView (table other : Table) : Prop where
  dealer : table.dealer = other.dealer
  history : table.auction = other.auction
  phase : table.phase = other.phase
  nextBidder : table.nextBidder? = other.nextBidder?
  forbidden : table.forbidden? = other.forbidden?
  declaration : table.declaration? = other.declaration?
  turn : table.turn?.map Prod.fst = other.turn?.map Prod.fst
  trick : table.play?.map CardPlay.trick = other.play?.map CardPlay.trick
  tricksPlayed : table.play?.map CardPlay.tricksPlayed = other.play?.map CardPlay.tricksPlayed
  tricksWon : table.play?.map CardPlay.tricksWon = other.play?.map CardPlay.tricksWon

theorem Alike.map_play? (h : table.Alike other) {α : Type} (read : CardPlay → α)
    (hidden : ∀ play, read play.faceDown = read play) :
    table.play?.map read = other.play?.map read := by
  unfold play?
  rcases h.stage_cases with ⟨next, hstage, hother⟩ | ⟨play, play', hstage, hother, hplay⟩
  · rw [hstage, hother]
  · simp only [hstage, hother, Option.map_some]
    rw [← hidden, hplay, hidden]

section Sound

variable {plays plays' : List (Seat × Card)}

theorem Alike.map_fst_turn?_eq (h : table.Alike other) (sound : table.Sound plays)
    (sound' : other.Sound plays') :
    table.turn?.map Prod.fst = other.turn?.map Prod.fst := by
  rw [sound.map_fst_turn?, sound'.map_fst_turn?]
  unfold play?
  rcases h.stage_cases with ⟨next, hstage, hother⟩ | ⟨play, play', hstage, hother, hplay⟩
  · rw [hstage, hother]
  · rw [hstage, hother]
    exact CardPlay.turn?_congr hplay

theorem Alike.sameView (h : table.Alike other) (sound : table.Sound plays)
    (sound' : other.Sound plays') : table.SameView other := by
  have hnext : table.nextBidder? = other.nextBidder? := by
    unfold nextBidder?
    rcases h.stage_cases with ⟨next, hstage, hother⟩ | ⟨play, play', hstage, hother, -⟩
    · rw [hstage, hother]
    · rw [hstage, hother]
  constructor
  case dealer => exact h.dealer
  case history => exact h.auction
  case phase => exact h.phase_eq
  case nextBidder => exact hnext
  case forbidden => rw [forbidden?, forbidden?, hnext, h.auction]
  case declaration => exact h.map_play? _ CardPlay.declaration_faceDown
  case turn => exact h.map_fst_turn?_eq sound sound'
  case trick => exact h.map_play? _ CardPlay.trick_faceDown
  case tricksPlayed => exact h.map_play? _ CardPlay.tricksPlayed_faceDown
  case tricksWon => exact h.map_play? _ CardPlay.tricksWon_faceDown

theorem reply_eq (table : Table) (command : Command) :
    (table.step command).1 = (table.perform command).map Prod.fst := by
  unfold Table.step
  cases table.perform command <;> rfl

theorem Alike.call_reply (h : table.Alike other) (sound : table.Sound plays)
    (sound' : other.Sound plays') (seat : Seat) (value : BidValue) :
    UpToOffer (table.step (.call seat value)).1 (other.step (.call seat value)).1 ∨
      (table.step (.call seat value)).1 = .error (.fault .stalledShuffle) ∨
      (other.step (.call seat value)).1 = .error (.fault .stalledShuffle) := by
  simp only [reply_eq, perform, call]
  have hrefusal := h.callRefusal?_eq seat value
  cases hother : other.callRefusal? seat value with
  | some error =>
      rw [hrefusal, hother]
      exact .inl (.same _)
  | none =>
      rw [hother] at hrefusal
      have hstage := (callRefusal?_eq_none_iff.mp hrefusal).1
      have hstage' := (callRefusal?_eq_none_iff.mp hother).1
      have bidding := sound.bidding seat hstage
      have bidding' := sound'.bidding seat hstage'
      have hlegal := (bidding.callRefusal?_eq_none_iff hstage).mp hrefusal
      have hlegal' := (bidding'.callRefusal?_eq_none_iff hstage').mp hother
      rw [hrefusal]
      rcases bidding.enter_cases sound.valid hlegal with ⟨outcome, next, hok⟩ | ⟨-, -, hstalled⟩
      case inr =>
        rw [hstalled]
        exact .inr (.inl rfl)
      rcases bidding'.enter_cases sound'.valid hlegal' with
        ⟨outcome', next', hok'⟩ | ⟨-, -, hstalled'⟩
      case inr =>
        rw [hstalled']
        exact .inr (.inr rfl)
      rw [hok, hok']
      exact .inl (h.of_entered (enter_eq_ok hok) (enter_eq_ok hok')).1

theorem Alike.bid_reply (h : table.Alike other) (sound : table.Sound plays)
    (sound' : other.Sound plays') (seat : Seat) (code : UInt8) :
    UpToOffer (table.step (.bid seat code)).1 (other.step (.bid seat code)).1 ∨
      (table.step (.bid seat code)).1 = .error (.fault .stalledShuffle) ∨
      (other.step (.bid seat code)).1 = .error (.fault .stalledShuffle) := by
  simp only [reply_eq, perform, bid]
  cases TaggedBid.decode code with
  | error error => exact .inl (.same _)
  | ok tagged =>
      dsimp only
      split
      case isTrue => exact .inl (.same _)
      case isFalse =>
        have hcall := h.call_reply sound sound' seat tagged.value
        simpa only [reply_eq, perform] using hcall

theorem Alike.playCard_of_not_due (h : table.Alike other) (sound : table.Sound plays)
    {actor seat : Seat} (hturn : table.turn?.map Prod.fst ≠ some ⟨seat, actor⟩) (card : Card) :
    (table.step (.playCard actor seat card)).1 = (other.step (.playCard actor seat card)).1 := by
  rw [sound.map_fst_turn?, play?] at hturn
  simp only [reply_eq, perform, Table.playCard]
  rcases h.stage_cases with ⟨next, hstage, hother⟩ | ⟨play, play', hstage, hother, hplay⟩
  · rw [hstage, hother]
  · rw [hstage] at hturn
    have hsame := CardPlay.turn?_congr hplay
    have hturn' : play'.turn? ≠ some ⟨seat, actor⟩ := by
      rw [← hsame]
      exact hturn
    simp only [hstage, hother, CardPlay.isExhausted_congr hplay, playOn,
      CardPlay.playCard_of_not_due hturn, CardPlay.playCard_of_not_due hturn', hsame]

theorem Alike.play_of_not_due (h : table.Alike other) (sound : table.Sound plays)
    {actor seat : Seat} (hturn : table.turn?.map Prod.fst ≠ some ⟨seat, actor⟩) (code : UInt8) :
    (table.step (.play actor seat code)).1 = (other.step (.play actor seat code)).1 := by
  simp only [reply_eq, perform, play]
  cases Card.decode code with
  | error error => rfl
  | ok card =>
      have hcard := h.playCard_of_not_due sound hturn card
      simpa only [reply_eq, perform] using hcard

theorem Alike.playCard_of_hand (h : table.Alike other) (sound : table.Sound plays)
    (sound' : other.Sound plays') {seat : Seat}
    (hhand : table.deal.get seat = other.deal.get seat) (actor : Seat) (card : Card) :
    UpToOffer (table.step (.playCard actor seat card)).1
      (other.step (.playCard actor seat card)).1 := by
  unfold deal at hhand
  simp only [reply_eq, perform, Table.playCard]
  rcases h.stage_cases with ⟨next, hstage, hother⟩ | ⟨play, play', hstage, hother, hplay⟩
  · rw [hstage, hother]
    exact .same _
  · have recorded := (sound.playing play hstage).recorded
    have recorded' := (sound'.playing play' hother).recorded
    rw [hstage, hother] at hhand
    simp only [hstage, hother, CardPlay.isExhausted_congr hplay]
    split
    case isTrue => exact .same _
    case isFalse =>
      unfold playOn
      rcases CardPlay.playCard_of_hand hplay hhand actor card with
        ⟨failure, hfailure, hfailure'⟩ | ⟨result, after, after', hok, hnext, hok'⟩
      · simp only [hfailure, hfailure']
        exact .same _
      · obtain ⟨-, hafter⟩ := CardPlay.faceDown_of_playCard hplay hok hok'
        have offered := (recorded.playCard sound.valid hok).1.map_fst_pending? sound.valid
        have offered' := (recorded'.playCard sound'.valid hok').1.map_fst_pending? sound'.valid
        simp only [hok, hok']
        refine .played result ?_
        rw [hnext, offered, offered', CardPlay.turn?_congr hafter]

theorem Alike.play_of_hand (h : table.Alike other) (sound : table.Sound plays)
    (sound' : other.Sound plays') {seat : Seat}
    (hhand : table.deal.get seat = other.deal.get seat) (actor : Seat) (code : UInt8) :
    UpToOffer (table.step (.play actor seat code)).1 (other.step (.play actor seat code)).1 := by
  simp only [reply_eq, perform, play]
  cases Card.decode code with
  | error error => exact .same _
  | ok card =>
      have hcard := h.playCard_of_hand sound sound' hhand actor card
      simpa only [reply_eq, perform] using hcard

end Sound

end Alike

/-! ## Two runs -/

def isCall : Command → Bool
  | .bid .. => true
  | .call .. => true
  | _ => false

def askedTurn? : Command → Option Turn
  | .play actor seat _ => some ⟨seat, actor⟩
  | .playCard actor seat _ => some ⟨seat, actor⟩
  | _ => none

theorem Opened.alike {table other : Table} (h : Opened table) (h' : Opened other)
    (hdealer : table.config.dealer = other.config.dealer) : table.Alike other := by
  obtain ⟨config, generator, deal, rfl⟩ := h.eq_start
  obtain ⟨config', generator', deal', rfl⟩ := h'.eq_start
  exact ⟨hdealer, rfl, congrArg Stage.bidding hdealer⟩

/-- Two tables whose commands were accepted alike look the same, whatever their hands.  Calls are
answered in the same way but for the plays offered to the opening leader, unless a shuffle stalls.
So are plays of a seat that is not due, and all others that are made from the same cards, but for
the plays offered to the next hand. -/
theorem hands_unseen {table other : Table} (hopen : Opened table) (hopen' : Opened other)
    (hdealer : table.config.dealer = other.config.dealer) {commands : List Command}
    {replies replies' : List Reply} {last last' : Table}
    (hrun : table.run commands = (replies, last)) (hrun' : other.run commands = (replies', last'))
    (hauto : .autoPlay ∉ commands) (hundealt : ∀ reply ∈ replies, isRedeal reply = false)
    (hsame : replies.map Except.isOk = replies'.map Except.isOk) :
    last.SameView last' ∧
      (∀ command, isCall command = true →
        UpToOffer (last.step command).1 (last'.step command).1 ∨
          (last.step command).1 = .error (.fault .stalledShuffle) ∨
          (last'.step command).1 = .error (.fault .stalledShuffle)) ∧
      ∀ command turn, askedTurn? command = some turn →
        (last.turn?.map Prod.fst ≠ some turn →
          (last.step command).1 = (last'.step command).1) ∧
        (last.deal.get turn.seat = last'.deal.get turn.seat →
          UpToOffer (last.step command).1 (last'.step command).1) := by
  have sound := ((Course.opened hopen).run commands).sound
  have sound' := ((Course.opened hopen').run commands).sound
  have alike := (hopen.alike hopen' hdealer).run hauto (by rwa [hrun]) (by rwa [hrun, hrun'])
  rw [hrun] at sound alike
  rw [hrun'] at sound' alike
  refine ⟨alike.sameView sound sound', ?_, ?_⟩
  · intro command hcall
    cases command with
    | bid seat code => exact alike.bid_reply sound sound' seat code
    | call seat value => exact alike.call_reply sound sound' seat value
    | play | playCard | autoPlay | nextDeal => cases hcall
  · intro command turn hasked
    cases command with
    | bid | call | autoPlay | nextDeal => cases hasked
    | play actor seat code =>
        cases hasked
        constructor
        · intro hturn
          exact alike.play_of_not_due sound hturn code
        · intro hhand
          exact alike.play_of_hand sound sound' hhand actor code
    | playCard actor seat card =>
        cases hasked
        constructor
        · intro hturn
          exact alike.playCard_of_not_due sound hturn card
        · intro hhand
          exact alike.playCard_of_hand sound sound' hhand actor card

def exchanged : Deal :=
  { Deal.unsorted Card.pack with
    north := (Deal.unsorted Card.pack).get .south
    south := (Deal.unsorted Card.pack).get .north }

def unshuffledExchanged : Table :=
  start { dealer := .north } (.ofWords fun _ => 0) exchanged

/-- Whether North plays one club with all the clubs or without one, East leads a diamond to the
same answer, but for what dummy may play to it, and North is turned away alike. -/
theorem hands_unseen_oneClub :
    ((unshuffled .north).run oneClub).2.SameView (unshuffledExchanged.run oneClub).2 ∧
      UpToOffer
        (((unshuffled .north).run oneClub).2.step (.playCard .east .east deuceOfDiamonds)).1
        ((unshuffledExchanged.run oneClub).2.step (.playCard .east .east deuceOfDiamonds)).1 ∧
      (((unshuffled .north).run oneClub).2.step (.play .north .north 1)).1 =
        ((unshuffledExchanged.run oneClub).2.step (.play .north .north 1)).1 := by
  have hvalid : exchanged.Valid := Deal.validate_eq_ok_iff.mp (by decide +kernel)
  have hopened : Opened unshuffledExchanged := opened_of_valid hvalid
  have hrun := (Prod.eta ((unshuffled .north).run oneClub)).symm
  have hrun' := (Prod.eta (unshuffledExchanged.run oneClub)).symm
  obtain ⟨sameView, -, hplays⟩ := hands_unseen (opened_unshuffled .north) hopened rfl hrun hrun'
    (by decide) (by decide +kernel) (by decide +kernel)
  refine ⟨sameView, ?_, ?_⟩
  · exact (hplays _ ⟨.east, .east⟩ rfl).2 (by decide +kernel)
  · exact (hplays _ ⟨.north, .north⟩ rfl).1 (by decide +kernel)

end Table

end ContractBridge
