import ContractBridge.CardPlay.Law
import ContractBridge.Proofs.CardPlay.Winner
import Mathlib.Data.List.Nodup

/-!
# The rule of trumps

Not all cards of a trick can be compared: of two discards in different suits neither beats the
other.  But a card that is a trump or of the suit led compares with every card, by its strength, and
the strongest card of a trick is one of these.  So there is one card that competes and that no other
beats, whatever the order of the cards after the lead.
-/

namespace ContractBridge

namespace Trick

def Competes (trump : Option Suit) (led : Suit) (card : Card) : Prop :=
  some card.suit = trump ∨ card.suit = led

/-- The card of the play competes, and no card of the trick beats it. -/
structure Tops (trump : Option Suit) (led : Suit) (plays : List (Seat × Card))
    (top : Seat × Card) : Prop where
  mem : top ∈ plays
  competes : Competes trump led top.2
  unbeaten : ∀ other ∈ plays, ¬ Beats trump other.2 top.2

section Strength

variable {trump : Option Suit} {led : Suit} {card other : Card}

theorem competes_iff_strength : Competes trump led card ↔ 52 < strength trump led card := by
  have pos := card.pos
  have le_max := card.le_max
  by_cases htrump : some card.suit = trump
  · rw [strength_of_trump htrump]
    exact ⟨fun _ => by omega, fun _ => .inl htrump⟩
  · by_cases hled : card.suit = led
    · rw [strength_of_led htrump hled]
      exact ⟨fun _ => by omega, fun _ => .inr hled⟩
    · rw [strength_of_discard htrump hled]
      refine ⟨?_, fun _ => by omega⟩
      rintro (h | h)
      · exact absurd h htrump
      · exact absurd h hled

theorem strength_lt_iff_beats (hcompetes : Competes trump led card) :
    strength trump led card < strength trump led other ↔ Beats trump other card := by
  have pos := card.pos
  have pos' := other.pos
  have le_max' := other.le_max
  by_cases htrump : some card.suit = trump
  · rw [strength_of_trump htrump]
    by_cases hother : some other.suit = trump
    · have same : other.suit = card.suit := Option.some.inj (hother.trans htrump.symm)
      rw [strength_of_trump hother]
      simp [Beats, same, htrump]
    · have hweak := @strength_le_of_ne_trump trump led other hother
      have differ : other.suit ≠ card.suit := fun h => hother (h ▸ htrump)
      simp only [Beats, differ, hother, false_and, or_self, iff_false]
      omega
  · have hled : card.suit = led := hcompetes.resolve_left htrump
    rw [strength_of_led htrump hled]
    by_cases hother : some other.suit = trump
    · have le_max := card.le_max
      rw [strength_of_trump hother]
      simp only [Beats, hother, htrump, ne_eq, not_false_eq_true, and_self, or_true, iff_true]
      omega
    · by_cases hotherLed : other.suit = led
      · rw [strength_of_led hother hotherLed]
        simp [Beats, hotherLed, hled]
      · have differ : other.suit ≠ card.suit := fun h => hotherLed (h.trans hled)
        rw [strength_of_discard hother hotherLed]
        simp only [Beats, differ, hother, false_and, or_self, iff_false]
        omega

theorem eq_of_strength_eq (hcompetes : Competes trump led card)
    (heq : strength trump led card = strength trump led other) : card = other := by
  have hother : Competes trump led other := by
    rw [competes_iff_strength, ← heq]
    exact competes_iff_strength.mp hcompetes
  have pos := card.pos
  have pos' := other.pos
  apply Card.ext_code
  by_cases htrump : some card.suit = trump
  · by_cases hotherTrump : some other.suit = trump
    · rw [strength_of_trump htrump, strength_of_trump hotherTrump] at heq
      omega
    · have hweak := @strength_le_of_ne_trump trump led other hotherTrump
      rw [strength_of_trump htrump] at heq
      omega
  · by_cases hotherTrump : some other.suit = trump
    · have hweak := @strength_le_of_ne_trump trump led card htrump
      rw [strength_of_trump hotherTrump] at heq
      omega
    · rw [strength_of_led htrump (hcompetes.resolve_left htrump),
        strength_of_led hotherTrump (hother.resolve_left hotherTrump)] at heq
      omega

end Strength

section Top

variable {trick : Trick} {trump : Option Suit} {led : Card} {top : Seat × Card}

theorem exists_best (hled : trick.led? = some led) (trump : Option Suit) :
    ∃ rest lead, trick.plays = lead :: rest ∧ lead.2 = led ∧
      trick.best? trump = some (rest.foldl (stronger trump led.suit) lead) := by
  obtain ⟨lead, hhead, rfl⟩ := Option.map_eq_some_iff.mp hled
  obtain ⟨rest, hplays⟩ := List.head?_eq_some_iff.mp hhead
  refine ⟨rest, lead, hplays, rfl, ?_⟩
  rw [best?, hplays]

theorem tops_of_best? (hled : trick.led? = some led) (h : trick.best? trump = some top) :
    Tops trump led.suit trick.plays top := by
  obtain ⟨rest, lead, hplays, rfl, hbest⟩ := exists_best hled trump
  rw [hbest] at h
  cases h
  obtain ⟨hmem, hstrongest⟩ := foldl_stronger trump lead.2.suit lead rest
  have hlead : 52 < strength trump lead.2.suit lead.2 := competes_iff_strength.mp (.inr rfl)
  have hcompetes : Competes trump lead.2.suit (rest.foldl (stronger trump lead.2.suit) lead).2 :=
    competes_iff_strength.mpr (Nat.lt_of_lt_of_le hlead (hstrongest lead (List.mem_cons_self ..)))
  rw [hplays]
  constructor
  case mem => exact hmem
  case competes => exact hcompetes
  case unbeaten =>
    intro other hother hbeats
    have hless := (strength_lt_iff_beats hcompetes).mpr hbeats
    exact absurd (hstrongest other hother) (Nat.not_le.mpr hless)

theorem Tops.unique {plays : List (Seat × Card)} (hcards : (plays.map Prod.snd).Nodup) {led : Suit}
    {other : Seat × Card} (h : Tops trump led plays top) (hother : Tops trump led plays other) :
    other = top := by
  have hbelow := mt (strength_lt_iff_beats h.competes).mp (h.unbeaten other hother.mem)
  have habove := mt (strength_lt_iff_beats hother.competes).mp (hother.unbeaten top h.mem)
  have heq := Nat.le_antisymm (Nat.not_lt.mp hbelow) (Nat.not_lt.mp habove)
  exact List.inj_on_of_nodup_map hcards hother.mem h.mem (eq_of_strength_eq hother.competes heq)

theorem Tops.of_perm {plays others : List (Seat × Card)} {led : Suit}
    (h : Tops trump led plays top) (hperm : others.Perm plays) : Tops trump led others top where
  mem := hperm.mem_iff.mpr h.mem
  competes := h.competes
  unbeaten other hother := h.unbeaten other (hperm.mem_iff.mp hother)

theorem best?_eq_some_iff (hled : trick.led? = some led)
    (hcards : (trick.plays.map Prod.snd).Nodup) :
    trick.best? trump = some top ↔ Tops trump led.suit trick.plays top := by
  refine ⟨tops_of_best? hled, ?_⟩
  intro htop
  obtain ⟨rest, lead, -, -, hbest⟩ := exists_best hled trump
  rw [hbest, Option.some.injEq]
  exact htop.unique hcards (tops_of_best? hled hbest)

theorem best?_add (hled : trick.led? = some led) (h : trick.best? trump = some top) (seat : Seat)
    {card : Card} (hcard : card ∉ trick.plays.map Prod.snd) :
    (Beats trump card top.2 → (trick.add seat card).best? trump = some (seat, card)) ∧
      (¬ Beats trump card top.2 → (trick.add seat card).best? trump = some top) := by
  have htop := tops_of_best? hled h
  obtain ⟨rest, lead, hplays, rfl, hbest⟩ := exists_best hled trump
  rw [hbest, Option.some.injEq] at h
  have hadd : (trick.add seat card).best? trump =
      some (stronger trump lead.2.suit top (seat, card)) := by
    simp only [best?, add, hplays, List.cons_append, List.foldl_append, List.foldl_cons,
      List.foldl_nil, h]
  have hdiffer : strength trump lead.2.suit top.2 ≠ strength trump lead.2.suit card := by
    intro heq
    rw [← eq_of_strength_eq htop.competes heq] at hcard
    exact hcard (List.mem_map_of_mem htop.mem)
  rw [hadd, stronger, ← strength_lt_iff_beats htop.competes]
  constructor
  · intro hless
    rw [if_pos (Nat.le_of_lt hless)]
  · intro hnot
    rw [if_neg]
    exact fun hle => hnot (Nat.lt_of_le_of_ne hle hdiffer)

end Top

/-- The winner of a trick of different cards by different seats, complete or not, is the seat of
the one card that is a trump or of the suit led and that no card beats.  A further card takes the
trick over exactly by beating that card, and the order after the lead does not matter. -/
theorem winner_tops {trick : Trick} {led : Card} (hled : trick.led? = some led)
    (hseats : (trick.plays.map Prod.fst).Nodup) (hcards : (trick.plays.map Prod.snd).Nodup)
    (trump : Option Suit) :
    ∃ top, trick.winner? trump = some top.1 ∧
      (∀ play, Tops trump led.suit trick.plays play ↔ play = top) ∧
      (∀ play ∈ trick.plays, play.2.suit ≠ led.suit → some play.2.suit ≠ trump →
        trick.winner? trump ≠ some play.1) ∧
      (∀ seat card, seat ∉ trick.plays.map Prod.fst → card ∉ trick.plays.map Prod.snd →
        ((trick.add seat card).winner? trump = some seat ↔ Beats trump card top.2) ∧
        (¬ Beats trump card top.2 →
          (trick.add seat card).winner? trump = trick.winner? trump)) ∧
      ∀ other : Trick, other.led? = some led → other.plays.Perm trick.plays →
        other.winner? trump = trick.winner? trump := by
  obtain ⟨rest, lead, -, -, hbest⟩ := exists_best hled trump
  generalize rest.foldl (stronger trump led.suit) lead = top at hbest
  have htop := tops_of_best? hled hbest
  have hwinner : trick.winner? trump = some top.1 := by rw [winner?, hbest, Option.map_some]
  refine ⟨top, hwinner, ?_, ?_, ?_, ?_⟩
  · intro play
    refine ⟨htop.unique hcards, ?_⟩
    rintro rfl
    exact htop
  · intro play hplay hnotLed hnotTrump hwins
    rw [hwinner, Option.some.injEq] at hwins
    obtain rfl := List.inj_on_of_nodup_map hseats htop.mem hplay hwins
    exact htop.competes.elim hnotTrump hnotLed
  · intro seat card hseat hcard
    obtain ⟨takes, keeps⟩ := best?_add hled hbest seat hcard
    refine ⟨⟨?_, ?_⟩, ?_⟩
    · intro hwins
      by_contra hnot
      rw [winner?, keeps hnot, Option.map_some, Option.some.injEq] at hwins
      rw [← hwins] at hseat
      exact hseat (List.mem_map_of_mem htop.mem)
    · intro hbeats
      rw [winner?, takes hbeats, Option.map_some]
    · intro hnot
      rw [hwinner, winner?, keeps hnot, Option.map_some]
  · intro other hotherLed hperm
    have hotherCards : (other.plays.map Prod.snd).Nodup := (hperm.map _).nodup_iff.mpr hcards
    rw [hwinner, winner?, (best?_eq_some_iff hotherLed hotherCards).mpr (htop.of_perm hperm),
      Option.map_some]

/-- A club lead, a diamond ruff and the ace of spades: the ruff has the trick, until West puts a
higher diamond on it. -/
theorem winner_tops_overruffed :
    let trick := ((((ledBy .north).add .north ⟨13, by decide, by decide⟩).add .east
      ⟨14, by decide, by decide⟩).add .south ⟨52, by decide, by decide⟩)
    let higher : Card := ⟨17, by decide, by decide⟩
    trick.winner? (some .diamonds) = some .east ∧
      (∃ top : Seat × Card, trick.winner? (some .diamonds) = some top.1 ∧
        ((trick.add .west higher).winner? (some .diamonds) = some .west ↔
          Beats (some .diamonds) higher top.2)) ∧
      (trick.add .west higher).winner? (some .diamonds) = some .west := by
  intro trick higher
  have hled : trick.led? = some ⟨13, by decide, by decide⟩ := rfl
  obtain ⟨top, hwinner, -, -, hadd, -⟩ := winner_tops hled (by decide) (by decide) (some .diamonds)
  exact ⟨by decide, ⟨top, hwinner, (hadd .west higher (by decide) (by decide)).1⟩, by decide⟩

end Trick

end ContractBridge
