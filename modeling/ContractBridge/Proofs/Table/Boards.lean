import ContractBridge.Proofs.Deal.Shuffled
import ContractBridge.Proofs.Table.Declaration
import ContractBridge.Proofs.Table.InPlace

/-!
# One board after another

The generator is drawn from where a board is dealt anew and nowhere else.  The boards of a run are
therefore the successive shuffles of what the table was opened with: those of a seeded table depend
on the seed alone, and every board is a full pack.
-/

namespace ContractBridge

/-- The deal that is shuffled after a number of others, with what it leaves of the generator. -/
def Deal.successive (generator : Generator) : Nat → Except Fault (Deal × Generator)
  | 0 => shuffle generator
  | earlier + 1 =>
      match successive generator earlier with
      | .error fault => .error fault
      | .ok (_, rest) => shuffle rest

theorem Deal.successive_succ_of_shuffle {generator rest : Generator} {deal : Deal}
    (h : shuffle generator = .ok (deal, rest)) (earlier : Nat) :
    successive generator (earlier + 1) = successive rest earlier := by
  induction earlier with
  | zero => simp only [successive, h]
  | succ earlier ih => rw [successive, ih, successive]

theorem Deal.exists_shuffle_of_successive {generator rest : Generator} {earlier : Nat}
    {deal : Deal} (h : successive generator earlier = .ok (deal, rest)) :
    ∃ before, shuffle before = .ok (deal, rest) := by
  cases earlier with
  | zero => exact ⟨generator, h⟩
  | succ earlier =>
      unfold successive at h
      split at h
      case h_1 => cases h
      case h_2 skipped before _ => exact ⟨before, h⟩

namespace Table

def isNextDeal : Reply → Bool
  | .ok (.dealer _) => true
  | _ => false

/-- The board of a table once it has been dealt anew a number of times. -/
def boardAfter (table : Table) : Nat → Except Fault (Deal × Generator)
  | 0 => .ok (table.dealt, table.generator)
  | redeals + 1 => Deal.successive table.generator redeals

theorem boardAfter_succ_of_shuffle {table next : Table}
    (h : Deal.shuffle table.generator = .ok (next.dealt, next.generator)) (redeals : Nat) :
    table.boardAfter (redeals + 1) = next.boardAfter redeals := by
  cases redeals with
  | zero => exact h
  | succ redeals => exact Deal.successive_succ_of_shuffle h redeals

section Step

variable {table next : Table} {answer : Answer}

theorem Transition.board_cases (h : Transition table answer next) :
    isRedeal (.ok answer) = true ∧
        Deal.shuffle table.generator = .ok (next.dealt, next.generator) ∨
      isRedeal (.ok answer) = false ∧ next.dealt = table.dealt ∧
        next.generator = table.generator := by
  cases h with
  | called accepted entered =>
      cases entered with
      | ongoing => exact .inr ⟨rfl, rfl, rfl⟩
      | settled => exact .inr ⟨rfl, rfl, rfl⟩
      | passedOut status shuffled => exact .inl ⟨rfl, shuffled⟩
  | played => exact .inr ⟨rfl, rfl, rfl⟩
  | dealt finished shuffled => exact .inl ⟨rfl, shuffled⟩

theorem Transition.dealer_cases (h : Transition table answer next) :
    isNextDeal (.ok answer) = true ∧ next.dealer = table.dealer.next ∨
      isNextDeal (.ok answer) = false ∧ next.dealer = table.dealer := by
  cases h with
  | called accepted entered =>
      cases entered with
      | ongoing => exact .inr ⟨rfl, rfl⟩
      | settled => exact .inr ⟨rfl, rfl⟩
      | passedOut => exact .inr ⟨rfl, rfl⟩
  | played => exact .inr ⟨rfl, rfl⟩
  | dealt => exact .inl ⟨rfl, rfl⟩

theorem boardAfter_step (table : Table) (command : Command) (redeals : Nat) :
    table.boardAfter (redeals + [(table.step command).1].countP isRedeal) =
      (table.step command).2.boardAfter redeals := by
  rcases step_cases table command with ⟨failure, hstep⟩ | ⟨answer, next, hperform, hstep⟩
  · rw [hstep]
    rfl
  · rw [hstep, List.countP_singleton]
    rcases (transition_of_perform hperform).board_cases with
      ⟨hredeal, hshuffle⟩ | ⟨hkept, hdealt, hgenerator⟩
    · rw [if_pos hredeal]
      exact boardAfter_succ_of_shuffle hshuffle redeals
    · rw [if_neg (Bool.not_eq_true _ ▸ hkept)]
      cases redeals <;> simp only [boardAfter, hdealt, hgenerator]

theorem dealer_step (table : Table) (command : Command) :
    (table.step command).2.dealer =
      table.dealer.rotate ([(table.step command).1].countP isNextDeal) := by
  rcases step_cases table command with ⟨failure, hstep⟩ | ⟨answer, next, hperform, hstep⟩
  · rw [hstep]
    exact table.dealer.rotate_zero.symm
  · rw [hstep, List.countP_singleton]
    rcases (transition_of_perform hperform).dealer_cases with ⟨hnext, hdealer⟩ | ⟨hkept, hdealer⟩
    · rw [if_pos hnext, hdealer, Seat.next_eq_rotate]
    · rw [if_neg (Bool.not_eq_true _ ▸ hkept), hdealer, Seat.rotate_zero]

end Step

theorem boardAfter_run (table : Table) (commands : List Command) :
    table.boardAfter ((table.run commands).1.countP isRedeal) =
      .ok ((table.run commands).2.dealt, (table.run commands).2.generator) := by
  induction commands generalizing table with
  | nil => rfl
  | cons command commands ih =>
      rw [run_cons, ← List.singleton_append, List.countP_append, Nat.add_comm, boardAfter_step]
      exact ih (table.step command).2

theorem dealer_run (table : Table) (commands : List Command) :
    (table.run commands).2.dealer =
      table.dealer.rotate ((table.run commands).1.countP isNextDeal) := by
  induction commands generalizing table with
  | nil => exact table.dealer.rotate_zero.symm
  | cons command commands ih =>
      rw [run_cons, ← List.singleton_append, List.countP_append, ← Seat.rotate_rotate,
        ← dealer_step]
      exact ih (table.step command).2

/-- What is carried out in place, be it refused or accepted, leaves the board that it does not deal
anew, and the generator with it. -/
theorem board_of_attempts {table : Table} {commands : List Command}
    (hanswered : ∀ fault, .error (.fault fault) ∉ (table.run commands).1)
    (hkept : ∀ reply ∈ (table.run commands).1, isRedeal reply = false) :
    (table.attempts commands).2.dealt = table.dealt ∧
      (table.attempts commands).2.generator = table.generator := by
  have hnone : (table.run commands).1.countP isRedeal = 0 := by
    rw [List.countP_eq_zero]
    intro reply hreply
    rw [hkept reply hreply]
    exact Bool.false_ne_true
  have hboard := table.boardAfter_run commands
  rw [hnone, boardAfter, Except.ok.injEq, Prod.mk.injEq] at hboard
  rw [attempts_eq_run hanswered]
  exact ⟨hboard.1.symm, hboard.2.symm⟩

theorem Sound.nextBidder?_eq {table : Table} {plays : List (Seat × Card)} (h : table.Sound plays)
    (hphase : table.phase = .bidding) :
    table.nextBidder? = some (table.dealer.rotate table.auction.calls.length) := by
  obtain ⟨next, hstage⟩ := phase_eq_bidding_iff.mp hphase
  rw [nextBidder?, hstage, (h.bidding next hstage).due]

/-! ## Seeds -/

theorem Opened.dealer_eq {table : Table} (h : Opened table) :
    table.dealer = table.config.dealer := by
  obtain ⟨config, generator, deal, rfl⟩ := h.eq_start
  rfl

/-- The boards of a table with a seed are shuffled from the seed one after another, the first one
too unless it was arranged before.  Nothing else touches the board or the generator, also where a
command writes before it is refused.  Only the call for the next deal moves the dealer on, and the
calls of an auction go round from the dealer. -/
theorem boards_of_seed {config : TableConfig} {seed : UInt64} (hseed : config.seed = some seed)
    (entropy : Generator) (commands : List Command) :
    (∀ table replies last, new config entropy = .ok table →
      table.run commands = (replies, last) →
      Deal.successive (.seeded seed) (replies.countP isRedeal) =
        .ok (last.dealt, last.generator)) ∧
    (∀ deal table replies last, withDeal config entropy deal = .ok table →
      table.run commands = (replies, last) →
      (replies.countP isRedeal = 0 → last.dealt = deal ∧ last.generator = .seeded seed) ∧
      ∀ earlier, replies.countP isRedeal = earlier + 1 →
        Deal.successive (.seeded seed) earlier = .ok (last.dealt, last.generator)) ∧
    ∀ table replies last, Opened table → table.config = config →
      table.run commands = (replies, last) →
      last.dealer = config.dealer.rotate (replies.countP isNextDeal) ∧
      (last.phase = .bidding →
        last.nextBidder? = some (last.dealer.rotate last.auction.calls.length)) ∧
      ∀ more, (∀ fault, .error (.fault fault) ∉ (last.run more).1) →
        (∀ reply ∈ (last.run more).1, isRedeal reply = false) →
        (last.attempts more).2.dealt = last.dealt ∧
          (last.attempts more).2.generator = last.generator := by
  have hgenerator : config.generator entropy = .seeded seed := by
    rw [TableConfig.generator, hseed]
  refine ⟨?_, ?_, ?_⟩
  · intro table replies last hnew hrun
    have hboard := table.boardAfter_run commands
    obtain ⟨deal, generator, hshuffle, rfl⟩ := new_eq_ok_iff.mp hnew
    rw [hgenerator] at hshuffle
    rw [hrun] at hboard
    rw [← hboard]
    cases replies.countP isRedeal with
    | zero => exact hshuffle
    | succ redeals => exact Deal.successive_succ_of_shuffle hshuffle redeals
  · intro deal table replies last hopened hrun
    have hboard := table.boardAfter_run commands
    obtain ⟨-, rfl⟩ := withDeal_eq_ok_iff.mp hopened
    rw [hrun] at hboard
    constructor
    · intro hnone
      rw [hnone, boardAfter, Except.ok.injEq, Prod.mk.injEq] at hboard
      exact ⟨hboard.1.symm, hboard.2.symm.trans hgenerator⟩
    · intro earlier hsome
      rw [hsome] at hboard
      rw [← hgenerator]
      exact hboard
  · rintro table replies last hopened rfl hrun
    have hdealer := table.dealer_run commands
    have hsound := ((Course.opened hopened).run commands).sound
    rw [hrun] at hdealer hsound
    rw [hopened.dealer_eq] at hdealer
    exact ⟨hdealer, hsound.nextBidder?_eq, fun more => board_of_attempts⟩

def eastDealsSeven : TableConfig :=
  { dealer := .east, seed := some 7 }

/-- East plays one club to the end, South deals the next board, a second call for it is refused, and
South's board is passed out. -/
def twoBoards : List Command :=
  [.bid .east 66, .bid .south 129, .bid .west 193, .bid .north 1] ++
    List.replicate 52 .autoPlay ++
    [.nextDeal, .nextDeal, .bid .south 129, .bid .west 193, .bid .north 1, .bid .east 65]

theorem boards_of_seed_twoBoards :
    ∃ table, withDeal eastDealsSeven (.ofWords fun _ => 0) (.unsorted Card.pack) = .ok table ∧
      Deal.successive (.seeded 7) 1 =
        .ok ((table.run twoBoards).2.dealt, (table.run twoBoards).2.generator) ∧
      (table.run twoBoards).2.dealer = .south := by
  obtain ⟨-, harranged, hdealer⟩ :=
    @boards_of_seed eastDealsSeven 7 rfl (.ofWords fun _ => 0) twoBoards
  have hreplies :
      (withDeal eastDealsSeven (.ofWords fun _ => 0) (.unsorted Card.pack)).toOption.map
        (fun table => ((table.run twoBoards).1.countP isRedeal,
          (table.run twoBoards).1.countP isNextDeal)) = some (2, 1) := by decide +kernel
  cases hopen : withDeal eastDealsSeven (.ofWords fun _ => 0) (.unsorted Card.pack) with
  | error invalid =>
      rw [hopen] at hreplies
      cases hreplies
  | ok table =>
      rw [hopen, Except.toOption, Option.map_some, Option.some.injEq, Prod.mk.injEq] at hreplies
      have hrun := (Prod.eta (table.run twoBoards)).symm
      have hboard := (harranged _ table _ _ hopen hrun).2 1 hreplies.1
      obtain ⟨-, rfl⟩ := withDeal_eq_ok_iff.mp hopen
      obtain ⟨hsouth, -⟩ := hdealer _ _ _ (.prearranged hopen) rfl hrun
      rw [hreplies.2] at hsouth
      exact ⟨_, rfl, hboard, hsouth⟩

/-! ## Full packs -/

theorem shuffled_of_boardAfter {table : Table} {redeals : Nat} {deal : Deal} {rest : Generator}
    (h : table.boardAfter redeals = .ok (deal, rest))
    (hdealt : redeals = 0 → ∃ earlier, Deal.shuffle earlier = .ok (table.dealt, table.generator)) :
    ∃ earlier, Deal.shuffle earlier = .ok (deal, rest) := by
  cases redeals with
  | zero =>
      rw [boardAfter, Except.ok.injEq, Prod.mk.injEq] at h
      rw [← h.1, ← h.2]
      exact hdealt rfl
  | succ redeals => exact Deal.exists_shuffle_of_successive h

/-- Every board in play is a valid deal and shares out the codes of the pack.  The boards that the
table has shuffled itself come of exchanges within the pack, and their hands are in order. -/
theorem boards_full {table : Table} (h : Opened table) {commands : List Command}
    {replies : List Reply} {last : Table} (hrun : table.run commands = (replies, last)) :
    last.dealt.validate = .ok () ∧ last.dealt.Partitions ∧
      ((∃ config entropy, new config entropy = .ok table) ∨
          (∃ reply ∈ replies, isRedeal reply = true) →
        (∀ seat, (last.dealt.get seat).Arranged) ∧
          ∃ indices, indices.length = 51 ∧ InReach indices ∧
            last.dealt = .ofIndices indices) := by
  have hsound := ((Course.opened h).run commands).sound
  have hboard := table.boardAfter_run commands
  rw [hrun] at hsound hboard
  refine ⟨Deal.validate_eq_ok_iff.mpr hsound.valid, hsound.valid.partitions, ?_⟩
  intro hshuffled
  have hdealt : replies.countP isRedeal = 0 →
      ∃ earlier, Deal.shuffle earlier = .ok (table.dealt, table.generator) := by
    intro hnone
    rcases hshuffled with ⟨config, entropy, hnew⟩ | ⟨reply, hreply, hredeal⟩
    · obtain ⟨deal, generator, hshuffle, rfl⟩ := new_eq_ok_iff.mp hnew
      exact ⟨_, hshuffle⟩
    · exact absurd hredeal (List.countP_eq_zero.mp hnone reply hreply)
  obtain ⟨earlier, hshuffle⟩ := shuffled_of_boardAfter hboard hdealt
  obtain ⟨indices, hlength, hreach, hindices⟩ := Deal.shuffle_eq_ok hshuffle
  refine ⟨?_, indices, hlength, hreach, hindices⟩
  intro seat
  rw [hindices]
  exact Deal.arranged_ofIndices indices seat

def passedOut : List Command :=
  [.bid .north 1, .bid .east 65, .bid .south 129, .bid .west 193]

theorem boards_full_passedOut :
    ((unshuffled .north).run passedOut).2.dealt.Partitions ∧
      ((unshuffled .north).run passedOut).2.dealt =
        .ofIndices (List.replicate 51 0) ∧
      ∀ seat, (((unshuffled .north).run passedOut).2.dealt.get seat).Arranged := by
  have hrun := (Prod.eta ((unshuffled .north).run passedOut)).symm
  obtain ⟨-, partitions, hshuffled⟩ := boards_full (opened_unshuffled .north) hrun
  have hredeal : ∃ reply ∈ ((unshuffled .north).run passedOut).1, isRedeal reply = true := by
    decide +kernel
  have hzero : ((unshuffled .north).run passedOut).2.dealt =
      .ofIndices (List.replicate 51 0) := rfl
  exact ⟨partitions, hzero, (hshuffled (.inr hredeal)).1⟩

end Table

end ContractBridge
