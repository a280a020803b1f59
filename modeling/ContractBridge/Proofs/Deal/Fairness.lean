import ContractBridge.Proofs.Deal.Orders
import Mathlib.Probability.Distributions.Uniform

/-!
# A fair shuffle

Every order of the pack comes of one index sequence, and a deal forgets the order in which each of
its four hands was handed out.  That makes (13!)⁴ index sequences for every deal, whichever it is,
so that independent uniform indices make every deal equally likely.
-/

namespace ContractBridge

open scoped Nat ENNReal

section Arrangements

variable {α : Type}

/-- Whatever comes of laying the hands one after the other, each in an order of its own. -/
def arrangements : List (List α) → Set (List α)
  | [] => {[]}
  | hand :: rest =>
      (fun parts : List α × List α => parts.1 ++ parts.2) '' (orders hand ×ˢ arrangements rest)

theorem ncard_arrangements [DecidableEq α] {hands : List (List α)}
    (h : ∀ hand ∈ hands, hand.Nodup) :
    (arrangements hands).ncard = (hands.map fun hand => hand.length !).prod := by
  induction hands with
  | nil => simp [arrangements]
  | cons hand rest ih =>
      have injective : Set.InjOn (fun parts : List α × List α => parts.1 ++ parts.2)
          (orders hand ×ˢ arrangements rest) := by
        rintro ⟨part, others⟩ ⟨hpart, -⟩ ⟨part', others'⟩ ⟨hpart', -⟩ heq
        have same : part.length = part'.length := hpart.length_eq.trans hpart'.length_eq.symm
        have split := List.append_inj heq same
        exact Prod.ext split.1 split.2
      rw [arrangements, injective.ncard_image, Set.ncard_prod, ncard_orders (h hand (by simp)),
        ih fun other hother => h other (List.mem_cons_of_mem _ hother)]
      simp

theorem perm_of_mem_arrangements {hands : List (List α)} {order : List α}
    (h : order ∈ arrangements hands) : order.Perm hands.flatten := by
  induction hands generalizing order with
  | nil =>
      cases h
      exact .refl _
  | cons hand rest ih =>
      obtain ⟨⟨part, others⟩, ⟨hpart, hothers⟩, rfl⟩ := h
      exact hpart.append (ih hothers)

theorem flatMap_mem_arrangements {β : Type} {part hand : β → List α}
    (h : ∀ b, (part b).Perm (hand b)) (list : List β) :
    list.flatMap part ∈ arrangements (list.map hand) := by
  induction list with
  | nil => simp [arrangements]
  | cons b list ih => exact ⟨(part b, list.flatMap part), ⟨h b, ih⟩, rfl⟩

end Arrangements

namespace Deal

/-! ## Fresh deals -/

/-- Four full hands in ascending order that share the pack among themselves. -/
structure Fresh (deal : Deal) : Prop where
  arranged : ∀ seat, (deal.get seat).Arranged
  partitions : deal.Partitions

section Fresh

variable {deal : Deal}

theorem Fresh.valid (h : deal.Fresh) : deal.Valid := by
  constructor
  case full =>
    intro seat
    have length_eq := congrArg List.length (h.arranged seat).filled
    rw [Hand.length_slots, List.length_map] at length_eq
    exact length_eq.symm
  case distinct =>
    rw [cards_eq, List.nodup_flatMap]
    constructor
    · intro seat _
      apply (h.arranged seat).ascending.imp
      rintro card later hless rfl
      omega
    · have different : Seat.all.Pairwise (· ≠ ·) := by decide
      apply different.imp
      intro seat other hne card hseat hother
      exact Finset.disjoint_left.mp (h.partitions.disjoint seat other hne)
        (mem_codes.mpr ⟨card, hseat, rfl⟩) (mem_codes.mpr ⟨card, hother, rfl⟩)

theorem fresh_handOut {order : List Card} (h : order.Perm Card.pack) : (handOut order).Fresh :=
  ⟨arranged_handOut h, (valid_handOut h).partitions⟩

theorem Fresh.handOut_eq_iff (h : deal.Fresh) {order : List Card} :
    handOut order = deal ↔ ∀ seat, (share order seat).Perm (deal.get seat).cards := by
  constructor
  · rintro rfl seat
    rw [cards_handOut]
    exact (Card.perm_sortAscending _).symm
  · intro hshare
    apply BySeat.ext_get
    intro seat
    have cards_eq : ((handOut order).get seat).cards = (deal.get seat).cards := by
      rw [cards_handOut]
      apply Card.sortAscending_eq_of_perm (hshare seat)
      exact (h.arranged seat).ascending.imp Nat.le_of_lt
    have full : ((handOut order).get seat).size = handSize := by
      rw [Hand.size, cards_eq]
      exact h.valid.full seat
    apply Hand.ext_slots
    rw [Hand.slots_of_full full, cards_eq, ← (h.arranged seat).filled]

theorem Fresh.mem_arrangements_iff (h : deal.Fresh) {order : List Card} :
    order ∈ arrangements (Seat.all.map fun seat => (deal.get seat).cards) ↔
      order ∈ orders Card.pack ∧ handOut order = deal := by
  constructor
  · intro horder
    refine ⟨(perm_of_mem_arrangements horder).trans h.valid.perm_pack, ?_⟩
    rw [h.handOut_eq_iff]
    obtain ⟨⟨north, _⟩, ⟨hnorth, ⟨east, _⟩, ⟨heast, ⟨south, _⟩, ⟨hsouth, ⟨west, _⟩, ⟨hwest, rfl⟩,
      rfl⟩, rfl⟩, rfl⟩, rfl⟩ := horder
    have north_length : north.length = 13 := hnorth.length_eq.trans (h.valid.full .north)
    have east_length : east.length = 13 := heast.length_eq.trans (h.valid.full .east)
    have south_length : south.length = 13 := hsouth.length_eq.trans (h.valid.full .south)
    have west_length : west.length = 13 := hwest.length_eq.trans (h.valid.full .west)
    have shares : ∀ seat, share (north ++ (east ++ (south ++ (west ++ [])))) seat =
        (BySeat.mk north east south west).get seat := by
      intro seat
      cases seat <;>
        simp [share, Seat.index, handSize, BySeat.get, List.drop_append, List.drop_of_length_le,
          List.take_of_length_le, *]
    intro seat
    rw [shares]
    cases seat
    · exact hnorth
    · exact heast
    · exact hsouth
    · exact hwest
  · rintro ⟨horder, hdeal⟩
    have parts := flatMap_mem_arrangements (h.handOut_eq_iff.mp hdeal) Seat.all
    rwa [flatMap_share (horder.length_eq.trans Card.length_pack)] at parts

theorem Fresh.ncard_orders (h : deal.Fresh) :
    {order ∈ orders Card.pack | handOut order = deal}.ncard = 13 ! ^ 4 := by
  have same : {order ∈ orders Card.pack | handOut order = deal} =
      arrangements (Seat.all.map fun seat => (deal.get seat).cards) := by
    ext order
    exact h.mem_arrangements_iff.symm
  have distinct : ∀ hand ∈ Seat.all.map fun seat => (deal.get seat).cards, hand.Nodup := by
    intro hand hmem
    obtain ⟨seat, -, rfl⟩ := List.mem_map.mp hmem
    exact h.valid.nodup_hand seat
  have factorials : (fun hand => hand.length !) ∘ (fun seat => (deal.get seat).cards) =
      fun _ => 13 ! := by
    funext seat
    exact congrArg _ (h.valid.full seat)
  rw [same, ncard_arrangements distinct, List.map_map, factorials]
  rfl

end Fresh

def sources (deal : Deal) : Set (List Nat) :=
  {indices ∈ Sequences 51 | ofIndices indices = deal}

theorem bijOn_sources (deal : Deal) :
    Set.BijOn (exchangeDown · Card.pack) deal.sources
      {order ∈ orders Card.pack | handOut order = deal} := by
  have whole := bijOn_exchangeDown Card.nodup_pack Card.length_pack
  have restricted := whole.subset_right (Set.sep_subset _ fun order => handOut order = deal)
  have same : Sequences 51 ∩ Set.preimage (exchangeDown · Card.pack)
      {order ∈ orders Card.pack | handOut order = deal} = deal.sources := by
    ext indices
    constructor
    · rintro ⟨hindices, -, hdeal⟩
      exact ⟨hindices, hdeal⟩
    · rintro ⟨hindices, hdeal⟩
      exact ⟨hindices, whole.mapsTo hindices, hdeal⟩
  rwa [same] at restricted

theorem Fresh.ncard_sources {deal : Deal} (h : deal.Fresh) : deal.sources.ncard = 13 ! ^ 4 := by
  rw [deal.bijOn_sources.ncard_eq, h.ncard_orders]

theorem Fresh.ncard_sources_ne_zero {deal : Deal} (h : deal.Fresh) : deal.sources.ncard ≠ 0 := by
  rw [h.ncard_sources]
  exact pow_ne_zero 4 (Nat.factorial_ne_zero 13)

theorem nonempty_sources_iff {deal : Deal} : deal.sources.Nonempty ↔ deal.Fresh := by
  constructor
  · rintro ⟨indices, -, rfl⟩
    exact fresh_handOut (perm_exchangeDown indices Card.pack)
  · intro h
    exact Set.nonempty_of_ncard_ne_zero h.ncard_sources_ne_zero

end Deal

/-! ## Independent uniform indices -/

/-- Each index is drawn uniformly from those in its reach, whatever the others are. -/
noncomputable def uniformIndices : Nat → PMF (List Nat)
  | 0 => PMF.pure []
  | count + 1 =>
      (PMF.uniformOfFintype (Fin (count + 2))).bind fun index =>
        (uniformIndices count).map (index.val :: ·)

theorem map_cons_apply (law : PMF (List Nat)) (first index : Nat) (later : List Nat) :
    law.map (first :: ·) (index :: later) = if first = index then law later else 0 := by
  rw [PMF.map_apply]
  split
  case isTrue hfirst =>
    subst hfirst
    rw [tsum_eq_single later]
    · simp
    · intro other hne
      simp [hne.symm]
  case isFalse hfirst =>
    simp [Ne.symm hfirst]

theorem uniformIndices_apply {count : Nat} {indices : List Nat} (h : indices ∈ Sequences count) :
    uniformIndices count indices = ((count + 1) ! : ℝ≥0∞)⁻¹ := by
  induction count generalizing indices with
  | zero =>
      rw [sequences_zero] at h
      cases h
      simp [uniformIndices]
  | succ count ih =>
      rw [sequences_succ] at h
      obtain ⟨⟨index, later⟩, ⟨hindex, hlater⟩, rfl⟩ := h
      have hlt : index < count + 2 := by simpa using hindex
      have one_draw : ∀ first : Fin (count + 2), first ≠ ⟨index, hlt⟩ → first.val ≠ index :=
        fun first hne heq => hne (Fin.ext heq)
      rw [uniformIndices, PMF.bind_apply, tsum_fintype, Finset.sum_eq_single ⟨index, hlt⟩]
      · rw [map_cons_apply, if_pos rfl, ih hlater, PMF.uniformOfFintype_apply, Fintype.card_fin,
          ← ENNReal.mul_inv (by simp) (by simp)]
        norm_cast
      · intro first _ hne
        rw [map_cons_apply, if_neg (one_draw first hne), mul_zero]
      · simp

theorem support_uniformIndices (count : Nat) :
    (uniformIndices count).support ⊆ Sequences count := by
  induction count with
  | zero => simp [uniformIndices, sequences_zero]
  | succ count ih =>
      intro indices h
      rw [uniformIndices, PMF.mem_support_bind_iff] at h
      obtain ⟨index, -, hmap⟩ := h
      rw [PMF.support_map] at hmap
      obtain ⟨later, hlater, rfl⟩ := hmap
      rw [sequences_succ]
      exact ⟨(index.val, later), ⟨by simp [index.isLt], ih hlater⟩, rfl⟩

/-- What comes of a law that is even on its support has the weight of all that it comes of. -/
theorem map_apply_of_even {α β : Type} {law : PMF α} {sure : Set α} {weight : ℝ≥0∞}
    (even : ∀ a ∈ sure, law a = weight) (within : law.support ⊆ sure) (f : α → β) (b : β) :
    law.map f b = {a ∈ sure | f a = b}.encard * weight := by
  rw [← PMF.toOuterMeasure_apply_singleton, PMF.toOuterMeasure_map_apply, PMF.toOuterMeasure_apply]
  calc
    _ = tsum ({a ∈ sure | f a = b}.indicator fun _ => weight) := by
      apply tsum_congr
      intro a
      by_cases hsource : a ∈ sure ∧ f a = b
      · rw [Set.indicator_of_mem (show a ∈ Set.preimage f {b} from hsource.2), even a hsource.1,
          Set.indicator_of_mem (show a ∈ {a ∈ sure | f a = b} from hsource)]
      · rw [Set.indicator_of_notMem (show a ∉ {a ∈ sure | f a = b} from hsource),
          Set.indicator_apply_eq_zero]
        intro hb
        exact (PMF.apply_eq_zero_iff law a).mpr fun hmem => hsource ⟨within hmem, hb⟩
    _ = {a ∈ sure | f a = b}.encard * weight := by
      rw [← tsum_subtype, ENNReal.tsum_set_const]

namespace Deal

theorem Fresh.map_uniformIndices_apply {deal : Deal} (h : deal.Fresh) :
    (uniformIndices 51).map ofIndices deal = (13 ! ^ 4 : ℕ) / (52 ! : ℕ) := by
  have finite : deal.sources.Finite := Set.finite_of_ncard_ne_zero h.ncard_sources_ne_zero
  have share : (uniformIndices 51).map ofIndices deal = deal.sources.encard * (52 ! : ℝ≥0∞)⁻¹ :=
    map_apply_of_even (fun _ => uniformIndices_apply) (support_uniformIndices 51) ofIndices deal
  rw [share, ← finite.cast_ncard_eq, h.ncard_sources, ENat.toENNReal_coe, div_eq_mul_inv]

/-- The shuffle favours no deal.  It deals by an index sequence, of which there are 52!; the deals
it comes to are those in which the four hands are full, in ascending order and the whole pack
between them; each of these comes of (13!)⁴ sequences, and of independent uniform indices with the
probability that this gives it. -/
theorem shuffle_fair :
    (∀ generator rest deal, shuffle generator = .ok (deal, rest) ↔
      ∃ indices ∈ Sequences 51, generator.drawDescending? 51 = some (indices, rest) ∧
        deal = ofIndices indices) ∧
    (Sequences 51).ncard = 52 ! ∧
    (∀ deal, (∃ indices ∈ Sequences 51, ofIndices indices = deal) ↔ deal.Fresh) ∧
    ∀ deal : Deal, deal.Fresh →
      {indices ∈ Sequences 51 | ofIndices indices = deal}.ncard = 13 ! ^ 4 ∧
      (uniformIndices 51).map ofIndices deal = (13 ! ^ 4 : ℕ) / (52 ! : ℕ) := by
  refine ⟨?_, ncard_sequences 51, fun deal => nonempty_sources_iff, ?_⟩
  · intro generator rest deal
    rw [shuffle_eq_ok_iff]
    constructor
    · rintro ⟨indices, hdraw, hdeal⟩
      exact ⟨indices, inReach_of_drawDescending? hdraw, hdraw, hdeal⟩
    · rintro ⟨indices, -, hdraw, hdeal⟩
      exact ⟨indices, hdraw, hdeal⟩
  · intro deal h
    exact ⟨h.ncard_sources, h.map_uniformIndices_apply⟩

/-- The deal that always exchanges with the first place is dealt where every word is zero, and comes
up no more often than any other. -/
theorem shuffle_fair_zeros :
    List.replicate 51 0 ∈ Sequences 51 ∧
    (∃ rest, shuffle (.ofWords fun _ => 0) = .ok (ofIndices (List.replicate 51 0), rest)) ∧
    {indices ∈ Sequences 51 | ofIndices indices = ofIndices (List.replicate 51 0)}.ncard =
      13 ! ^ 4 ∧
    (uniformIndices 51).map ofIndices (ofIndices (List.replicate 51 0)) =
      (13 ! ^ 4 : ℕ) / (52 ! : ℕ) := by
  have zeros : List.replicate 51 0 ∈ Sequences 51 := by
    simp [Sequences, InReach, List.replicate]
  obtain ⟨rest, hdraw⟩ : ∃ rest, (Generator.ofWords fun _ => 0).drawDescending? 51 =
      some (List.replicate 51 0, rest) := ⟨_, rfl⟩
  obtain ⟨deals, -, fresh_iff, even⟩ := shuffle_fair
  exact ⟨zeros, ⟨rest, (deals _ _ _).mpr ⟨_, zeros, hdraw, rfl⟩⟩,
    even _ ((fresh_iff _).mp ⟨_, zeros, rfl⟩)⟩

end Deal

end ContractBridge
