import Mathlib.Order.OrderIsoNat
import Bnbr.Clib.Runs

namespace Runs

variable {σ α : Type} {step : σ → α → σ → Prop} {s t : σ} {es : List α} {r : Nat → σ} {f : Nat → Nat} {B N k : Nat}

-- a run without end, in which nothing may happen for a while
def Behaviour (step : σ → α → σ → Prop) (r : Nat → σ) : Prop := ∀ k, r (k + 1) = r k ∨ ∃ e, step (r k) e (r (k + 1))

-- what stays enabled ends up happening
def WeakFair (enabled occurs : Nat → Prop) : Prop := ∀ k, (∀ l, k ≤ l → enabled l) → ∃ l, k ≤ l ∧ occurs l

theorem Behaviour.always {P : σ → Prop} (h : Behaviour step r) (hN : P (r N))
    (hstep : ∀ k e, N ≤ k → step (r k) e (r (k + 1)) → P (r k) → P (r (k + 1))) (hk : N ≤ k) : P (r k) := by
  induction k, hk using Nat.le_induction with
  | base => exact hN
  | succ k hk ih =>
    rcases h k with he | ⟨e, hs⟩
    · exact he ▸ ih
    · exact hstep k e hk hs ih

theorem Behaviour.invariant {P : σ → Prop} (h : Behaviour step r) (h0 : P (r 0))
    (hstep : ∀ s e t, step s e t → P s → P t) (k : Nat) : P (r k) :=
  h.always h0 (fun k e _ hs hk => hstep (r k) e (r (k + 1)) hs hk) (Nat.zero_le k)

theorem WeakFair.steady {enabled : Nat → Prop} {f : Nat → α} (h : WeakFair enabled fun k => f (k + 1) ≠ f k)
    (hf : ∀ k, N ≤ k → f k = f N) (hk : N ≤ k) : ¬ ∀ l, k ≤ l → enabled l := by
  intro hall
  obtain ⟨l, hl, hne⟩ := h k hall
  have hl' : N ≤ l := hk.trans hl
  exact hne ((hf (l + 1) (Nat.le_succ_of_le hl')).trans (hf l hl').symm)

theorem settles (hmono : ∀ k, f k ≤ f (k + 1)) (hB : ∀ k, f k ≤ B) : ∃ N, ∀ k, N ≤ k → f k = f N := by
  have hanti : Antitone fun k => B - f k := antitone_nat_of_succ_le fun k => Nat.sub_le_sub_left (hmono k) B
  obtain ⟨N, hN⟩ := WellFoundedLT.antitone_chain_condition hanti
  refine ⟨N, fun k hk => ?_⟩
  have h1 := hN k hk
  have h2 := hB k
  have h3 := hB N
  omega

theorem no_descent (hanti : ∀ k, N ≤ k → f (k + 1) ≤ f k) (hlt : ∀ k, N ≤ k → ∃ l, k ≤ l ∧ f (l + 1) < f l) :
    False := by
  have hanti' : Antitone fun k => f (N + k) := antitone_nat_of_succ_le fun k => hanti (N + k) (Nat.le_add_right N k)
  obtain ⟨M, hM⟩ := WellFoundedLT.antitone_chain_condition hanti'
  obtain ⟨l, hl, hlt⟩ := hlt (N + M) (Nat.le_add_right N M)
  obtain ⟨d, rfl⟩ := Nat.exists_eq_add_of_le hl
  have h1 : f (N + M) = f (N + (M + d)) := hM (M + d) (Nat.le_add_right M d)
  have h2 : f (N + M) = f (N + (M + d + 1)) := hM (M + d + 1) (by omega)
  rw [← Nat.add_assoc] at h1
  rw [← Nat.add_assoc, ← Nat.add_assoc] at h2
  omega

theorem Trace.behaviour (h : Trace step s es t) :
    ∃ r, Behaviour step r ∧ r 0 = s ∧ ∃ N, ∀ k, N ≤ k → r k = t := by
  induction h with
  | nil => exact ⟨fun _ => s, fun _ => .inl rfl, rfl, 0, fun _ _ => rfl⟩
  | @snoc es t u e _ hs ih =>
    obtain ⟨r, hr, h0, N, hN⟩ := ih
    refine ⟨fun k => if k ≤ N then r k else u, fun k => ?_, (if_pos (Nat.zero_le N)).trans h0, N + 1,
      fun k hk => if_neg (by omega)⟩
    rcases Nat.lt_trichotomy k N with hlt | rfl | hgt
    · simp only [if_pos hlt.le, if_pos (Nat.succ_le_of_lt hlt)]
      exact hr k
    · refine .inr ⟨e, ?_⟩
      simp only [if_pos (Nat.le_refl k), if_neg (Nat.not_succ_le_self k), hN k (Nat.le_refl k)]
      exact hs
    · exact .inl (by simp only [if_neg (Nat.not_le_of_lt hgt), if_neg (show ¬ k + 1 ≤ N by omega)])

end Runs
