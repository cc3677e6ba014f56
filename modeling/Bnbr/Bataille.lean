import Mathlib.Data.Set.Insert
import Bnbr.Donnees

namespace Bnbr.Bataille

open Classical

variable {ι P : Type}

noncomputable def statut (B S : Set P) (p : P) : Status :=
  if p ∈ B then (if p ∈ S then .hitShot else .boat)
  else (if p ∈ S then .missedShot else .empty)

theorem statut_hitShot {B S : Set P} {p : P} : statut B S p = .hitShot ↔ p ∈ B ∧ p ∈ S := by
  unfold statut
  split_ifs <;> simp_all

theorem statut_missedShot {B S : Set P} {p : P} : statut B S p = .missedShot ↔ p ∈ S ∧ p ∉ B := by
  unfold statut
  split_ifs <;> simp_all

theorem statut_boat {B S : Set P} {p : P} : statut B S p = .boat ↔ p ∈ B ∧ p ∉ S := by
  unfold statut
  split_ifs <;> simp_all

theorem statut_empty {B S : Set P} {p : P} : statut B S p = .empty ↔ p ∉ B ∧ p ∉ S := by
  unfold statut
  split_ifs <;> simp_all

theorem statut_insert_self {B S : Set P} {p : P} :
    statut B (insert p S) p = if p ∈ B then .hitShot else .missedShot := by
  simp [statut]

theorem statut_insert_ne {B S : Set P} {p q : P} (h : q ≠ p) :
    statut B (insert p S) q = statut B S q := by
  simp [statut, h]

def coule (F : ι → Set P) (S : Set P) (i : ι) : Prop := F i ⊆ S

def survivants (F : ι → Set P) (S : Set P) : Set ι := {i | ¬ coule F S i}

theorem survivants_iff {F : ι → Set P} {S : Set P} {i : ι} : i ∈ survivants F S ↔ ¬ F i ⊆ S := Iff.rfl

end Bnbr.Bataille
