import ContractBridge.Proofs.CardPlay.Tricks
import ContractBridge.Proofs.Table.Declaration

/-!
# The tricks of a board at a table

The cards accepted on a board are followed together with the seats that sent them.  They fall into
the tricks that the state of play counts, and dummy sends none of them.
-/

namespace ContractBridge

structure SentCard where
  sender : Seat
  seat : Seat
  card : Card
  deriving DecidableEq, Repr

def SentCard.play (sent : SentCard) : Seat × Card :=
  (sent.seat, sent.card)

namespace Table

/-- The seat that sends the card of a command; a card played by default is that of the seat due. -/
def sender? (table : Table) : Command → Option Seat
  | .play actor _ _ => some actor
  | .playCard actor _ _ => some actor
  | .autoPlay => table.turn?.map fun (turn, _) => turn.actor
  | _ => none

def sentAfter (table : Table) (sent : List SentCard) (command : Command) : List SentCard :=
  match (table.step command).1, table.sender? command with
  | .ok (.played result), some sender => sent ++ [⟨sender, result.seat, result.card⟩]
  | .ok (.bid (.reshuffled _ _)), _ => []
  | .ok (.dealer _), _ => []
  | _, _ => sent

/-- A table with the cards accepted on its board since it was dealt, oldest first. -/
inductive Logged : Table → List SentCard → Prop
  | opened {table : Table} (opening : Opened table) : Logged table []
  | step {table : Table} {sent : List SentCard} (command : Command) (before : Logged table sent) :
      Logged (table.step command).2 (table.sentAfter sent command)

def sentDuring (table : Table) (sent : List SentCard) : List Command → List SentCard
  | [] => sent
  | command :: commands =>
      (table.step command).2.sentDuring (table.sentAfter sent command) commands

theorem Logged.run {table : Table} {sent : List SentCard} (h : Logged table sent)
    (commands : List Command) :
    Logged (table.run commands).2 (table.sentDuring sent commands) := by
  induction commands generalizing table sent with
  | nil => exact h
  | cons command commands ih => exact ih (h.step command)

theorem Reachable.exists_logged {table : Table} (h : Reachable table) :
    ∃ sent, Logged table sent := by
  induction h with
  | opened opening => exact ⟨[], .opened opening⟩
  | step command _ ih =>
      obtain ⟨sent, hlogged⟩ := ih
      exact ⟨_, hlogged.step command⟩

theorem sender_of_perform {table next : Table} {command : Command} {result : CardPlay.Played}
    (h : table.perform command = .ok (.played result, next)) :
    ∃ actor seat card, table.sender? command = some actor ∧
      table.playCard actor seat card = .ok (result, next) := by
  cases command with
  | play actor seat code =>
      obtain ⟨_, ⟨⟩, hplay⟩ := labelled_eq_ok h
      obtain ⟨card, -, hcard⟩ := play_eq_ok hplay
      exact ⟨actor, seat, card, rfl, hcard⟩
  | playCard actor seat card =>
      obtain ⟨_, ⟨⟩, hcard⟩ := labelled_eq_ok h
      exact ⟨actor, seat, card, rfl, hcard⟩
  | autoPlay =>
      obtain ⟨_, ⟨⟩, hauto⟩ := labelled_eq_ok h
      obtain ⟨turn, legal, hturn, hcard⟩ := autoPlay_eq_ok hauto
      refine ⟨turn.actor, turn.seat, legal.defaultCard, ?_, hcard⟩
      rw [sender?, hturn, Option.map_some]
  | bid | call | nextDeal =>
      obtain ⟨_, ⟨⟩, -⟩ := labelled_eq_ok h

theorem map_play_sentAfter (table : Table) (sent : List SentCard) (command : Command) :
    (table.sentAfter sent command).map SentCard.play =
      playsAfter (sent.map SentCard.play) (table.step command).1 := by
  rcases step_cases table command with ⟨failure, hstep⟩ | ⟨answer, next, hperform, hstep⟩
  · simp [sentAfter, hstep, playsAfter]
  · rw [sentAfter, hstep]
    cases answer with
    | bid outcome => cases outcome <;> rfl
    | dealer seat => rfl
    | played result =>
        obtain ⟨actor, seat, card, hsender, -⟩ := sender_of_perform hperform
        simp [hsender, playsAfter, SentCard.play]

theorem Logged.course {table : Table} {sent : List SentCard} (h : Logged table sent) :
    Course table (sent.map SentCard.play) := by
  induction h with
  | opened opening => exact .opened opening
  | step command _ ih =>
      rw [map_play_sentAfter]
      exact ih.step command

theorem Logged.senders {table : Table} {sent : List SentCard} (h : Logged table sent)
    {play : CardPlay} (hstage : table.stage = .playing play) :
    ∀ entry ∈ sent, entry.sender = play.declaration.controller entry.seat := by
  induction h generalizing play with
  | opened opening =>
      obtain ⟨config, generator, deal, rfl⟩ := opening.eq_start
      cases hstage
  | @step table sent command before ih =>
      have sound := before.course.sound
      rcases step_cases table command with ⟨failure, hstep⟩ | ⟨answer, next, hperform, hstep⟩
      · simp only [sentAfter, hstep] at hstage ⊢
        exact ih hstage
      · simp only [sentAfter, hstep] at hstage ⊢
        cases answer with
        | bid outcome =>
            cases transition_of_perform hperform with
            | @called seat value _ _ accepted entered =>
                have hbidding := (callRefusal?_eq_none_iff.mp accepted).1
                have unplayed := (sound.bidding seat hbidding).unplayed
                obtain rfl := List.map_eq_nil_iff.mp unplayed
                cases outcome <;> simp
        | dealer seat =>
            cases transition_of_perform hperform with
            | dealt => cases hstage
        | played result =>
            obtain ⟨actor, seat, card, hsender, hcard⟩ := sender_of_perform hperform
            obtain ⟨current, after, hcurrent, -, hplay, rfl⟩ := playCard_eq_ok hcard
            cases hstage
            have orderly := (sound.playing current hcurrent).recorded.orderly
            rw [orderly.declaration_playCard hplay]
            obtain ⟨haccepted, slot, hand, trick, -, -, rfl⟩ := orderly.playCard_eq_ok hplay
            obtain ⟨-, rfl, rfl, -⟩ := CardPlay.refusal?_eq_none_iff.mp haccepted
            simp only [hsender]
            intro entry hentry
            rcases List.mem_append.mp hentry with hentry | hentry
            · exact ih hcurrent entry hentry
            · rw [List.mem_singleton.mp hentry]
              exact orderly.due_actor

theorem Course.tallied {table : Table} {plays : List (Seat × Card)} (h : Course table plays)
    {play : CardPlay} (hstage : table.stage = .playing play) :
    ∃ tricks leaders winners, play.Tallied plays tricks leaders winners := by
  refine h.induction (motive := fun table plays => ∀ play, table.stage = .playing play →
    ∃ tricks leaders winners, play.Tallied plays tricks leaders winners) ?_ ?_ play hstage
  · intro table opening play hstage
    obtain ⟨config, generator, deal, rfl⟩ := opening.eq_start
    cases hstage
  · intro table plays answer next before ih hstep play hstage
    cases hstep with
    | @called seat value _ _ accepted entered =>
        have hbidding := (callRefusal?_eq_none_iff.mp accepted).1
        obtain rfl := (before.sound.bidding seat hbidding).unplayed
        cases entered with
        | ongoing | passedOut => cases hstage
        | settled =>
            cases hstage
            exact ⟨[], [], [], CardPlay.tallied_start _ _⟩
    | @played current after actor seat card result hcurrent _ accepted =>
        cases hstage
        have recorded := (before.sound.playing current hcurrent).recorded
        obtain ⟨tricks, leaders, winners, tallied⟩ := ih current hcurrent
        obtain ⟨-, hseat, hcard, -⟩ := recorded.playCard before.sound.valid accepted
        rw [playsAfter, hseat, hcard]
        exact tallied.playCard recorded.orderly accepted
    | dealt => cases hstage

theorem Course.finished_iff {table : Table} {plays : List (Seat × Card)} (h : Course table plays)
    {play : CardPlay} (hstage : table.stage = .playing play) :
    (table.phase = .finished ↔ play.tricksPlayed = handSize) ∧
      (table.phase = .finished ↔ plays.length = 52) := by
  have recorded := (h.sound.playing play hstage).recorded
  obtain ⟨finished, hplays, hfinished⟩ := recorded.tricks
  have hlength : plays.length = 4 * play.tricksPlayed + play.trick.plays.length := by
    rw [hplays, List.length_append, hfinished]
  have short := recorded.orderly.short
  have exhausted_iff : play.isExhausted = true ↔ play.tricksPlayed = handSize := by
    rw [CardPlay.isExhausted, beq_iff_eq]
  rw [phase_eq_finished_iff hstage]
  refine ⟨exhausted_iff, ?_⟩
  constructor
  · intro hexhausted
    have idle := recorded.orderly.idle hexhausted
    rw [hlength, idle, exhausted_iff.mp hexhausted]
    rfl
  · intro hall
    rw [exhausted_iff, handSize]
    omega

/-- The cards of a board fall into tricks, each led by the winner of the one before, which the
state of play counts by their winners; dummy's cards are sent by declarer. -/
theorem tricks_follow {table : Table} {sent : List SentCard} (h : Logged table sent)
    (hphase : table.phase ≠ .bidding) :
    ∃ play tricks winners, table.play? = some play ∧
      Trick.split (sent.map SentCard.play) =
        tricks ++ (if play.trick.plays = [] then [] else [play.trick.plays]) ∧
      (∀ trick ∈ tricks, trick.length = 4 ∧ (trick.map Prod.fst).Perm Seat.all) ∧
      List.Forall₂ Trick.Clockwise (play.declaration.lead :: winners)
        (tricks ++ [play.trick.plays]) ∧
      (∀ suit, play.declaration.contract.bid.strain = .suit suit →
        List.Forall₂ (Trick.WonBy (some suit)) tricks winners) ∧
      (play.declaration.contract.bid.strain = .notrump →
        List.Forall₂ (Trick.WonBy none) tricks winners) ∧
      play.tricksPlayed = tricks.length ∧
      (∀ seat, play.tricksOf seat = winners.countP fun winner => winner.side = seat.side) ∧
      (∀ seat, play.tricksOf seat + play.tricksOf seat.next = play.tricksPlayed) ∧
      play.trick.plays.length < 4 ∧
      (play.declaration.lead :: winners).getLast? = some play.trick.leader ∧
      play.trick.played = .ofSeats (play.trick.plays.map Prod.fst) ∧
      (∀ entry ∈ sent,
        (entry.seat = play.declaration.dummy → entry.sender = play.declaration.declarer) ∧
        (entry.seat ≠ play.declaration.dummy → entry.sender = entry.seat) ∧
        entry.sender ≠ play.declaration.dummy) ∧
      (table.phase = .finished ↔ tricks.length = handSize) ∧
      (table.phase = .finished ↔ sent.length = 52) := by
  obtain ⟨play, hstage⟩ := phase_ne_bidding_iff.mp hphase
  obtain ⟨tricks, leaders, winners, tallied⟩ := h.course.tallied hstage
  obtain ⟨finished_iff, finished_iff'⟩ := h.course.finished_iff hstage
  have orderly := (h.course.sound.playing play hstage).recorded.orderly
  have prescribes := h.course.prescribes hstage
  have won := tallied.won
  rw [Declaration.strain] at won
  have sum : ∀ seat : Seat, play.tricksOf seat + play.tricksOf seat.next = play.tricksPlayed := by
    intro seat
    rw [← orderly.sum]
    cases seat <;> simp [CardPlay.tricksOf, BySide.get, Seat.side, Seat.next, Nat.add_comm]
  refine ⟨play, tricks, winners, by rw [play?, hstage], ?_, ?_, ?_, ?_, ?_,
    tallied.count.symm, fun seat => tallied.tricksWon seat.side, sum, orderly.short, ?_,
    orderly.inTurn.played, ?_, ?_, ?_⟩
  · rw [tallied.played]
    exact Trick.split_flatten_append tallied.full orderly.short
  · intro trick htrick
    obtain ⟨leader, hled⟩ := Trick.exists_leader tallied.led htrick
    exact ⟨tallied.full trick htrick, hled.perm_all (tallied.full trick htrick)⟩
  · rw [tallied.chain]
    exact List.rel_append tallied.led (.cons orderly.inTurn.seats .nil)
  · intro suit hsuit
    rwa [hsuit, Strain.trump?_suit] at won
  · intro hnotrump
    rwa [hnotrump, Strain.trump?_notrump] at won
  · rw [tallied.chain, List.getLast?_concat]
  · intro entry hentry
    have hsender := h.senders hstage entry hentry
    have hne : play.declaration.declarer ≠ play.declaration.dummy := by
      rw [prescribes.dummy]
      exact Ne.symm (Seat.partner_ne _)
    rw [Declaration.controller] at hsender
    split at hsender
    case isTrue hdummy => simp [hsender, hdummy, hne]
    case isFalse hdummy => simp [hsender, hdummy]
  · rw [finished_iff, tallied.count]
  · simpa using finished_iff'

/-- East's lead is ruffed by North, who also plays from South's hand and leads to the next trick. -/
def ruffed : List Command :=
  oneClubLed ++ [.play .north .south 27, .autoPlay, .play .north .north 1, .autoPlay]

theorem tricks_follow_ruffed :
    let ruff : List (Seat × Card) := [(.east, ⟨14, by decide, by decide⟩),
      (.south, ⟨27, by decide, by decide⟩), (.west, ⟨40, by decide, by decide⟩),
      (.north, ⟨1, by decide, by decide⟩)]
    ∃ play winners, ((unshuffled .north).run ruffed).2.play? = some play ∧
      play.declaration.contract.bid.strain = .suit .clubs ∧
      Trick.split (((unshuffled .north).sentDuring [] ruffed).map SentCard.play) =
        [ruff] ++ [play.trick.plays] ∧
      List.Forall₂ Trick.Clockwise (play.declaration.lead :: winners)
        ([ruff] ++ [play.trick.plays]) ∧
      List.Forall₂ (Trick.WonBy (some .clubs)) [ruff] winners ∧
      winners = [.north] ∧ play.tricksOf .north = 1 := by
  intro ruff
  have hlogged := (Logged.opened (opened_unshuffled .north)).run ruffed
  obtain ⟨play, tricks, winners, hplay, hsplit, -, hled, hsuit, -, hcount, hwon, -, -, hleads, -⟩ :=
    tricks_follow hlogged (by decide +kernel)
  have hafter : ((unshuffled .north).run ruffed).2.play?.map (fun play =>
      (play.declaration.contract.bid.strain, play.trick.leader, play.trick.plays.length)) =
      some (.suit .clubs, .north, 1) := by decide +kernel
  rw [hplay, Option.map_some, Option.some.injEq, Prod.mk.injEq, Prod.mk.injEq] at hafter
  obtain ⟨hstrain, hleader, hbegun⟩ := hafter
  have hplays : Trick.split (((unshuffled .north).sentDuring [] ruffed).map SentCard.play) =
      [ruff] ++ [[(.north, ⟨2, by decide, by decide⟩)]] := by decide +kernel
  rw [if_neg (List.ne_nil_of_length_pos (by omega))] at hsplit
  obtain ⟨rfl, -⟩ := List.append_inj' (hsplit.symm.trans hplays) rfl
  have hruff := hsuit .clubs hstrain
  obtain ⟨winner, rfl⟩ := List.length_eq_one_iff.mp hruff.length_eq.symm
  obtain rfl : winner = .north := by
    simpa [hleader] using hleads
  exact ⟨play, _, hplay, hstrain, hsplit, hled, hruff, rfl, by simp [hwon, Seat.side]⟩

end Table

end ContractBridge
