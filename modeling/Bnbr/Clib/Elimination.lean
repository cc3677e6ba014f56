import Mathlib.Data.Set.Subsingleton

namespace Elimination

open Classical

variable {ι : Type} {A B : Set ι} {i j : ι}

inductive Verdict
  | playOn
  | out
  | lost
  | won
deriving DecidableEq, Repr

noncomputable def verdict (A : Set ι) (i : ι) : Verdict :=
  if A.Subsingleton then (if i ∈ A then .won else .lost)
  else (if i ∈ A then .playOn else .out)

theorem verdict_won : verdict A i = .won ↔ A.Subsingleton ∧ i ∈ A := by
  unfold verdict
  split_ifs <;> simp_all

theorem verdict_lost : verdict A i = .lost ↔ A.Subsingleton ∧ i ∉ A := by
  unfold verdict
  split_ifs <;> simp_all

theorem verdict_playOn : verdict A i = .playOn ↔ ¬ A.Subsingleton ∧ i ∈ A := by
  unfold verdict
  split_ifs <;> simp_all

theorem verdict_out : verdict A i = .out ↔ ¬ A.Subsingleton ∧ i ∉ A := by
  unfold verdict
  split_ifs <;> simp_all

theorem won_unique (h : B ⊆ A) (hi : verdict A i = .won) (hj : verdict B j = .won) : i = j := by
  obtain ⟨hA, hi⟩ := verdict_won.mp hi
  obtain ⟨-, hj⟩ := verdict_won.mp hj
  exact hA hi (h hj)

theorem notMem_of_out (h : verdict A i = .out ∨ verdict A i = .lost) : i ∉ A := by
  rcases h with h | h
  · exact (verdict_out.mp h).2
  · exact (verdict_lost.mp h).2

theorem no_return (h : B ⊆ A) (hi : verdict A i = .out ∨ verdict A i = .lost) :
    verdict B i ≠ .playOn ∧ verdict B i ≠ .won := by
  have hB : i ∉ B := fun hm => notMem_of_out hi (h hm)
  exact ⟨fun hv => hB (verdict_playOn.mp hv).2, fun hv => hB (verdict_won.mp hv).2⟩

theorem finished_iff : verdict A i = .lost ∨ verdict A i = .won ↔ A.Subsingleton := by
  rw [verdict_lost, verdict_won]
  by_cases hi : i ∈ A <;> simp [hi]

theorem finished_together (hi : verdict A i = .lost ∨ verdict A i = .won) (j : ι) :
    verdict A j = .lost ∨ verdict A j = .won := finished_iff.mpr (finished_iff.mp hi)

end Elimination
