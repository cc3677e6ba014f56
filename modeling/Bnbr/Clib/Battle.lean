import Mathlib.Algebra.BigOperators.Group.Finset.Sigma
import Mathlib.Algebra.Order.BigOperators.Group.Finset
import Mathlib.Combinatorics.Enumerative.DoubleCounting
import Mathlib.Data.Set.Card
import Mathlib.Data.Set.Subsingleton

namespace Battle

variable {ι P : Type} {F : ι → Set P} {shot : ℕ → ι → P → Prop} {K m : ℕ} {i : ι} {p : P}

-- each player has a fleet and may fire once a round
def hit (shot : ℕ → ι → P → Prop) (m : ℕ) : Set P := {p | ∃ k < m, ∃ i, shot k i p}

def afloat (F : ι → Set P) (shot : ℕ → ι → P → Prop) (m : ℕ) : Set ι := {i | ¬ F i ⊆ hit shot m}

structure Legal (F : ι → Set P) (shot : ℕ → ι → P → Prop) (K : ℕ) : Prop where
  single : ∀ k i p p', shot k i p → shot k i p' → p = p'
  alive : ∀ k i p, k < K → shot k i p → i ∈ afloat F shot k

theorem card_le [Finite ι] (hl : Legal F shot K) {T : Finset P} (hT : ∀ p ∈ T, p ∈ hit shot K) :
    T.card ≤ ∑ m ∈ Finset.range K, (afloat F shot m).ncard := by
  classical
  let A (m : ℕ) : Finset ι := (Set.toFinite (afloat F shot m)).toFinset
  have hA (m : ℕ) : (A m).card = (afloat F shot m).ncard := (Set.ncard_eq_toFinset_card _ _).symm
  have hcard : T.card ≤ ((Finset.range K).sigma A).card := by
    refine Finset.card_le_card_of_forall_subsingleton (fun p e => shot e.1 e.2 p) (fun p hp => ?_) ?_
    · obtain ⟨k, hk, i, hs⟩ := hT p hp
      refine ⟨⟨k, i⟩, Finset.mem_sigma.mpr ⟨Finset.mem_range.mpr hk, ?_⟩, hs⟩
      exact (Set.Finite.mem_toFinset _).mpr (hl.alive k i p hk hs)
    · rintro ⟨k, i⟩ - p ⟨-, hp⟩ p' ⟨-, hp'⟩
      exact hl.single k i p p' hp hp'
  rw [Finset.card_sigma] at hcard
  simp only [hA] at hcard
  exact hcard

theorem duration [Finite ι] [Nonempty ι] (hl : Legal F shot K) (hK : (afloat F shot K).Subsingleton) :
    ∃ v, ∀ T : Finset P, (∀ p ∈ T, ∃ j, j ≠ v ∧ p ∈ F j) → T.card ≤ ∑ m ∈ Finset.range K, (afloat F shot m).ncard := by
  obtain ⟨v, hv⟩ : ∃ v, ∀ j, j ≠ v → j ∉ afloat F shot K := by
    rcases hK.eq_empty_or_singleton with he | ⟨v, he⟩
    · exact ⟨Classical.arbitrary ι, fun j _ => by rw [he]; exact Set.notMem_empty j⟩
    · exact ⟨v, fun j hj => by rw [he]; exact hj⟩
  refine ⟨v, fun T hT => card_le hl fun p hp => ?_⟩
  obtain ⟨j, hj, hpj⟩ := hT p hp
  exact not_not.mp (hv j hj) hpj

end Battle
