import ContractBridge.Proofs.Deal.Shuffled
import Mathlib.Data.List.Permutation
import Mathlib.Data.Set.Card
import Mathlib.Logic.Equiv.Basic

/-!
# Index sequences and orders

The last place that an exchange may touch is settled by the first index, and the indices after it
are left with the places below.  No two index sequences therefore bring a list without repetitions
into the same order, and since there are as many sequences as orders, every order comes of exactly
one of them.
-/

namespace ContractBridge

open scoped Nat

/-- The index sequences of a shuffle that settles `count` places. -/
def Sequences (count : Nat) : Set (List Nat) :=
  {indices | indices.length = count ∧ InReach indices}

theorem sequences_zero : Sequences 0 = {[]} := by
  ext indices
  cases indices <;> simp [Sequences, InReach]

theorem sequences_succ (count : Nat) :
    Sequences (count + 1) =
      (fun draw : Nat × List Nat => draw.1 :: draw.2) ''
        ((Finset.range (count + 2) : Set Nat) ×ˢ Sequences count) := by
  ext indices
  constructor
  · rintro ⟨hlength, hreach⟩
    cases indices with
    | nil => cases hlength
    | cons index later =>
        obtain ⟨hindex, hlater⟩ := hreach
        have hcount : later.length = count := Nat.succ.inj hlength
        rw [hcount] at hindex
        refine ⟨(index, later), ⟨?_, hcount, hlater⟩, rfl⟩
        simpa [Nat.lt_succ_iff] using hindex
  · rintro ⟨⟨index, later⟩, ⟨hindex, hcount, hlater⟩, rfl⟩
    simp only [Finset.coe_range, Set.mem_Iio] at hindex hcount
    rw [← hcount] at hindex
    exact ⟨congrArg Nat.succ hcount, Nat.lt_succ_iff.mp hindex, hlater⟩

theorem cons_injective {α : Type} :
    Function.Injective fun draw : α × List α => draw.1 :: draw.2 := by
  rintro ⟨first, rest⟩ ⟨other, others⟩ h
  cases h
  rfl

theorem ncard_sequences (count : Nat) : (Sequences count).ncard = (count + 1) ! := by
  induction count with
  | zero => simp [sequences_zero]
  | succ count ih =>
      rw [sequences_succ, Set.ncard_image_of_injective _ cons_injective, Set.ncard_prod,
        Set.ncard_coe_finset, Finset.card_range, ih]
      rfl

section Exchange

variable {α : Type} {list : List α}

theorem length_exchange (list : List α) (i j : Nat) : (exchange list i j).length = list.length :=
  (Deal.perm_exchange list i j).length_eq

theorem getElem?_exchange {i j : Nat} (hi : i < list.length) (hj : j < list.length) (place : Nat) :
    (exchange list i j)[place]? = list[Equiv.swap i j place]? := by
  rw [exchange, List.getElem?_eq_getElem hi, List.getElem?_eq_getElem hj]
  simp only [List.getElem?_set, List.length_set, Equiv.swap_apply_def]
  grind

theorem getElem?_exchangeDown_of_lt {indices : List Nat} (hreach : InReach indices)
    (hlength : indices.length < list.length) {place : Nat} (hplace : indices.length < place) :
    (exchangeDown indices list)[place]? = list[place]? := by
  induction indices generalizing list with
  | nil => rfl
  | cons index indices ih =>
      obtain ⟨hindex, hlater⟩ := hreach
      simp only [List.length_cons] at hlength hplace
      have shorter : indices.length < (exchange list (indices.length + 1) index).length := by
        rw [length_exchange]
        omega
      rw [exchangeDown, ih hlater shorter (by omega), getElem?_exchange hlength (by omega),
        Equiv.swap_apply_of_ne_of_ne (by omega) (by omega)]

/-- The entry that ends up in the first place settled is the one that the first index names. -/
theorem getElem?_exchangeDown_cons {index : Nat} {indices : List Nat}
    (hreach : InReach (index :: indices)) (hlength : indices.length + 1 < list.length) :
    (exchangeDown (index :: indices) list)[indices.length + 1]? = list[index]? := by
  obtain ⟨hindex, hlater⟩ := hreach
  have shorter : indices.length < (exchange list (indices.length + 1) index).length := by
    rw [length_exchange]
    omega
  rw [exchangeDown, getElem?_exchangeDown_of_lt hlater shorter (by omega),
    getElem?_exchange hlength (by omega), Equiv.swap_apply_left]

theorem exchangeDown_injective (hnodup : list.Nodup) {indices others : List Nat}
    (hreach : InReach indices) (hothers : InReach others) (hsame : indices.length = others.length)
    (hlength : indices.length < list.length)
    (heq : exchangeDown indices list = exchangeDown others list) : indices = others := by
  induction indices generalizing list others with
  | nil => exact (List.eq_nil_of_length_eq_zero hsame.symm).symm
  | cons index indices ih =>
      cases others with
      | nil => cases hsame
      | cons other others =>
          have same : indices.length = others.length := Nat.succ.inj hsame
          simp only [List.length_cons] at hlength
          have settled : list[index]? = list[other]? := by
            rw [← getElem?_exchangeDown_cons hreach hlength, heq, same,
              getElem?_exchangeDown_cons hothers (same ▸ hlength)]
          have index_lt : index < list.length := Nat.lt_of_le_of_lt hreach.1 hlength
          have index_eq : index = other := (List.getElem?_inj index_lt hnodup).mp settled
          subst index_eq
          have exchanged : (exchange list (indices.length + 1) index).Nodup :=
            (Deal.perm_exchange ..).nodup_iff.mpr hnodup
          have shorter : indices.length < (exchange list (indices.length + 1) index).length := by
            rw [length_exchange]
            omega
          rw [exchangeDown, exchangeDown, ← same] at heq
          rw [ih exchanged hreach.2 hothers.2 same shorter heq]

end Exchange

section Orders

variable {α : Type}

def orders (list : List α) : Set (List α) :=
  {order | order.Perm list}

variable [DecidableEq α]

theorem orders_eq (list : List α) : orders list = (list.permutations.toFinset : Set (List α)) := by
  ext order
  simp [orders]

theorem finite_orders (list : List α) : (orders list).Finite := by
  rw [orders_eq]
  exact Finset.finite_toSet _

theorem ncard_orders {list : List α} (h : list.Nodup) : (orders list).ncard = list.length ! := by
  rw [orders_eq, Set.ncard_coe_finset, List.toFinset_card_of_nodup (List.nodup_permutations list h),
    List.length_permutations]

/-- Each order of a list comes of exactly one index sequence. -/
theorem bijOn_exchangeDown {list : List α} (hnodup : list.Nodup) {count : Nat}
    (hlength : list.length = count + 1) :
    Set.BijOn (exchangeDown · list) (Sequences count) (orders list) := by
  have maps : Set.MapsTo (exchangeDown · list) (Sequences count) (orders list) :=
    fun indices _ => Deal.perm_exchangeDown indices list
  have injective : Set.InjOn (exchangeDown · list) (Sequences count) := by
    rintro indices ⟨hindices, hreach⟩ others ⟨hothers, hreach'⟩ heq
    exact exchangeDown_injective hnodup hreach hreach' (hindices.trans hothers.symm) (by omega) heq
  refine ⟨maps, injective, ?_⟩
  have reached : (exchangeDown · list) '' Sequences count = orders list := by
    apply Set.eq_of_subset_of_ncard_le (Set.mapsTo_iff_image_subset.mp maps) _ (finite_orders list)
    rw [injective.ncard_image, ncard_sequences, ncard_orders hnodup, hlength]
  exact reached.ge

end Orders

end ContractBridge
