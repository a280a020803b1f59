import ContractBridge.Proofs.Table.Course
import ContractBridge.Session.Basic

/-!
# What a session opens with

A session can be started on any table, not only on a new one.  Its first events are the deal and,
while the board is bid, the seat due.  On a board in play they stop short of the seat due to play.
-/

namespace ContractBridge

/-- The events end in the announcement of whoever is due at the table. -/
structure Table.AnnouncesDue (table : Table) (events : List Event) : Prop where
  bid : table.phase = .bidding → ∃ seat forbidden,
    table.nextBidder? = some seat ∧ table.forbidden? = some forbidden ∧
    events.getLast? = some (.bidTurn seat forbidden table.config.decisionTime)
  play : table.phase = .playing → ∃ turn legal,
    table.turn? = some (turn, legal) ∧
    events.getLast? = some (.playTurn turn legal table.config.decisionTime)

namespace Session

section Start

variable {table : Table}

theorem start_of_bidding {next : Seat} (hstage : table.stage = .bidding next) :
    (start table).2 =
      [.dealt table.dealer table.dealt,
        .bidTurn next (table.auction.forbidden next) table.config.decisionTime] := by
  simp [start, Table.announceDeal, Table.announceBidTurn, Table.nextBidder?, hstage]

theorem start_of_playing {play : CardPlay} (hstage : table.stage = .playing play) :
    (start table).2 = [.dealt table.dealer table.dealt] := by
  simp [start, Table.announceDeal, Table.nextBidder?, hstage]

theorem not_announcesDue_of_playing (hphase : table.phase = .playing) :
    ¬ table.AnnouncesDue (start table).2 := by
  intro announces
  obtain ⟨play, hstage, -⟩ := Table.phase_eq_playing_iff.mp hphase
  obtain ⟨turn, legal, -, hlast⟩ := announces.play hphase
  rw [start_of_playing hstage] at hlast
  cases hlast

end Start

/-- A session opens with an announcement of who is due, except on a board in play. -/
theorem announcesDue_iff (table : Table) :
    table.AnnouncesDue (start table).2 ↔ table.phase ≠ .playing := by
  constructor
  · intro announces hphase
    exact not_announcesDue_of_playing hphase announces
  · intro hidle
    constructor
    case bid =>
      intro hphase
      obtain ⟨next, hstage⟩ := Table.phase_eq_bidding_iff.mp hphase
      refine ⟨next, table.auction.forbidden next, ?_, ?_, ?_⟩
      · rw [Table.nextBidder?, hstage]
      · rw [Table.forbidden?, Table.nextBidder?, hstage, Option.map_some]
      · rw [start_of_bidding hstage]
        rfl
    case play => exact fun hphase => absurd hphase hidle

/-- East is to lead against one club, but a session started there does not say so. -/
theorem lead_not_announced :
    Table.Reachable ((Table.unshuffled .north).run Table.oneClub).2 ∧
      ((Table.unshuffled .north).run Table.oneClub).2.phase = .playing ∧
      (((Table.unshuffled .north).run Table.oneClub).2.turn?.map Prod.fst) =
        some ⟨.east, .east⟩ ∧
      ¬ ((Table.unshuffled .north).run Table.oneClub).2.AnnouncesDue
        (start ((Table.unshuffled .north).run Table.oneClub).2).2 := by
  have hreachable := (Table.Reachable.opened (Table.opened_unshuffled .north)).run Table.oneClub
  have hphase : ((Table.unshuffled .north).run Table.oneClub).2.phase = .playing := by
    decide +kernel
  exact ⟨hreachable, hphase, by decide +kernel, not_announcesDue_of_playing hphase⟩

end Session

end ContractBridge
