namespace Loop

variable {σ τ : Type}

def run (n : Nat) (f : Nat → σ → Option σ) (s : σ) : Option σ :=
  (List.range n).foldlM (fun s i => f i s) s

@[simp] theorem run_zero (f : Nat → σ → Option σ) (s : σ) : run 0 f s = some s := rfl

theorem run_succ (n : Nat) (f : Nat → σ → Option σ) (s : σ) :
    run (n + 1) f s = (run n f s).bind (f n) := by
  simp only [run, List.range_succ, List.foldlM_append, List.foldlM_cons, List.foldlM_nil]
  cases (List.range n).foldlM (fun s i => f i s) s with
  | none => rfl
  | some t => cases h : f n t <;> simp [h]

theorem run_congr {n : Nat} {f g : Nat → σ → Option σ} (h : ∀ i, i < n → f i = g i) (s : σ) :
    run n f s = run n g s := by
  induction n with
  | zero => rfl
  | succ n ih => rw [run_succ, run_succ, ih fun i hi => h i (by omega), h n (by omega)]

theorem run_add (a b : Nat) (f : Nat → σ → Option σ) (s : σ) :
    run (a + b) f s = (run a f s).bind (run b fun i => f (a + i)) := by
  induction b with
  | zero => cases run a f s <;> rfl
  | succ b ih =>
    rw [← Nat.add_assoc, run_succ, ih]
    cases run a f s with
    | none => rfl
    | some t => exact (run_succ b (fun i => f (a + i)) t).symm

theorem run_nested (m n : Nat) (f : Nat → Nat → σ → Option σ) (s : σ) :
    run m (fun i => run n (f i)) s = run (m * n) (fun k => f (k / n) (k % n)) s := by
  induction m with
  | zero => rw [Nat.zero_mul]; rfl
  | succ m ih =>
    rw [run_succ, ih, Nat.succ_mul, run_add]
    congr 1
    funext t
    refine run_congr (fun i hi => ?_) t
    have hd : (m * n + i) / n = m := by
      rw [Nat.mul_comm, Nat.mul_add_div (by omega), Nat.div_eq_of_lt hi, Nat.add_zero]
    have hm : (m * n + i) % n = i := by rw [Nat.mul_comm, Nat.mul_add_mod, Nat.mod_eq_of_lt hi]
    rw [hd, hm]

theorem run_states {n : Nat} {f : Nat → σ → Option σ} (g : Nat → σ)
    (h : ∀ i, i < n → f i (g i) = some (g (i + 1))) : run n f (g 0) = some (g n) := by
  induction n with
  | zero => rfl
  | succ n ih =>
    rw [run_succ, ih (fun i hi => h i (by omega))]
    exact h n (by omega)

theorem run_total {n : Nat} {f : Nat → σ → Option σ} (I : Nat → σ → Prop) {s : σ} (h0 : I 0 s)
    (h : ∀ i t, i < n → I i t → ∃ u, f i t = some u ∧ I (i + 1) u) :
    ∃ u, run n f s = some u ∧ I n u := by
  induction n with
  | zero => exact ⟨s, rfl, h0⟩
  | succ n ih =>
    obtain ⟨t, ht, hI⟩ := ih (fun i t hi => h i t (by omega))
    obtain ⟨u, hu, hI'⟩ := h n t (by omega) hI
    exact ⟨u, by rw [run_succ, ht]; exact hu, hI'⟩

theorem run_invariant {n : Nat} {f : Nat → σ → Option σ} (I : Nat → σ → Prop) {s u : σ} (h0 : I 0 s)
    (h : ∀ i t v, i < n → I i t → f i t = some v → I (i + 1) v) (hr : run n f s = some u) : I n u := by
  induction n generalizing u with
  | zero =>
    simp only [run_zero, Option.some.injEq] at hr
    exact hr ▸ h0
  | succ n ih =>
    rw [run_succ, Option.bind_eq_some_iff] at hr
    obtain ⟨t, ht, hf⟩ := hr
    exact h n t u (by omega) (ih (fun i t v hi => h i t v (by omega)) ht) hf

theorem foldlM_invariant {f : σ → τ → Option σ} (I : σ → Prop) (h : ∀ s a t, I s → f s a = some t → I t) {l : List τ}
    {s u : σ} (hs : I s) (hr : l.foldlM f s = some u) : I u := by
  induction l generalizing s with
  | nil => exact Option.some.inj hr ▸ hs
  | cons a l ih =>
    rw [List.foldlM_cons, Option.bind_eq_bind, Option.bind_eq_some_iff] at hr
    obtain ⟨t, ht, hr⟩ := hr
    exact ih (h s a t hs ht) hr

theorem run_simulation {n : Nat} {f : Nat → σ → Option σ} {g : Nat → τ → Option τ} (R : σ → τ → Prop) {s u : σ}
    {t : τ} (h : ∀ i a b a', i < n → R a b → f i a = some a' → ∃ b', g i b = some b' ∧ R a' b') (hR : R s t)
    (hr : run n f s = some u) : ∃ v, run n g t = some v ∧ R u v := by
  induction n generalizing u with
  | zero =>
    simp only [run_zero, Option.some.injEq] at hr
    exact ⟨t, rfl, hr ▸ hR⟩
  | succ n ih =>
    rw [run_succ, Option.bind_eq_some_iff] at hr
    obtain ⟨a, ha, hf⟩ := hr
    obtain ⟨b, hb, hab⟩ := ih (fun i a b a' hi => h i a b a' (by omega)) ha
    obtain ⟨v, hv, huv⟩ := h n a b u (by omega) hab hf
    exact ⟨v, by rw [run_succ, hb]; exact hv, huv⟩

def collect (n : Nat) (f : Nat → Option τ) : Option (List τ) := run n (fun i l => (f i).map fun a => l ++ [a]) []

theorem collect_eq_some {n : Nat} {f : Nat → Option τ} {g : Nat → τ} (h : ∀ i, i < n → f i = some (g i)) :
    collect n f = some ((List.range n).map g) :=
  run_states (fun k => (List.range k).map g) fun i hi => by
    rw [h i hi, List.range_succ, List.map_append]
    rfl

end Loop
