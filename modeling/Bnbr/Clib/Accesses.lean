import Bnbr.Clib.Loops

-- a partial computation with the list of the indices it uses, kept up to the point where it stops
structure Logged (ι α : Type) where
  value : Option α
  log : List ι

namespace Logged

variable {ι α β σ : Type}

def lift (o : Option α) : Logged ι α := ⟨o, []⟩

def use (i : ι) (o : Option α) : Logged ι α := ⟨o, [i]⟩

instance : Monad (Logged ι) where
  pure a := ⟨some a, []⟩
  bind m f := ⟨m.value.bind fun a => (f a).value, m.log ++ m.value.elim [] fun a => (f a).log⟩

def loop : Nat → (Nat → σ → Logged ι σ) → σ → Logged ι σ
  | 0, _, s => pure s
  | n + 1, f, s => loop n f s >>= f n

@[simp] theorem value_pure (a : α) : (pure a : Logged ι α).value = some a := rfl

@[simp] theorem value_bind (m : Logged ι α) (f : α → Logged ι β) :
    (m >>= f).value = m.value.bind fun a => (f a).value := rfl

@[simp] theorem value_lift (o : Option α) : (lift o : Logged ι α).value = o := rfl

@[simp] theorem value_use (i : ι) (o : Option α) : (use i o).value = o := rfl

@[simp] theorem value_ite (c : Prop) [Decidable c] (m m' : Logged ι α) :
    (if c then m else m').value = if c then m.value else m'.value := apply_ite value c m m'

@[simp] theorem value_loop (n : Nat) (f : Nat → σ → Logged ι σ) (s : σ) :
    (loop n f s).value = Loop.run n (fun i s => (f i s).value) s := by
  induction n with
  | zero => rfl
  | succ n ih => rw [loop, value_bind, ih, Loop.run_succ]

def collect (n : Nat) (f : Nat → Logged ι α) : Logged ι (List α) :=
  loop n (fun i l => do
    let a ← f i
    pure (l ++ [a])) []

@[simp] theorem value_collect (n : Nat) (f : Nat → Logged ι α) :
    (collect n f).value = Loop.collect n fun i => (f i).value := by
  rw [collect, value_loop, Loop.collect]
  congr 1
  funext i l
  cases h : (f i).value <;> simp [h]

theorem log_loop_succ {n : Nat} {f : Nat → σ → Logged ι σ} {s t : σ} (h : (loop n f s).value = some t) :
    (loop (n + 1) f s).log = (loop n f s).log ++ (f n t).log := by
  show (loop n f s).log ++ (loop n f s).value.elim [] (fun t => (f n t).log) = _
  rw [h]
  rfl

theorem collect_defined {n : Nat} {f : Nat → Logged ι α} (h : ∀ i, i < n → (f i).value ≠ none) :
    ∃ l, (collect n f).value = some l := by
  have hstep (i : Nat) (l : List α) (hi : i < n) : ∃ l', (f i).value.map (fun a => l ++ [a]) = some l' ∧ True := by
    obtain ⟨a, ha⟩ := Option.ne_none_iff_exists'.mp (h i hi)
    exact ⟨l ++ [a], by rw [ha]; rfl, trivial⟩
  obtain ⟨l, hl, -⟩ := Loop.run_total (fun _ _ => True) (s := []) trivial fun i l hi _ => hstep i l hi
  exact ⟨l, (value_collect n f).trans hl⟩

-- only the last index may be one the computation stops at
theorem log_collect {n : Nat} {f : Nat → Logged ι α} {g : Nat → ι} (hv : ∀ i, i + 1 < n → (f i).value ≠ none)
    (hl : ∀ i, i < n → (f i).log = [g i]) : (collect n f).log = (List.range n).map g := by
  induction n with
  | zero => rfl
  | succ n ih =>
    obtain ⟨l, hdef⟩ := collect_defined fun i (hi : i < n) => hv i (by omega)
    rw [collect, log_loop_succ hdef, List.range_succ, List.map_append, ← ih (fun i hi => hv i (by omega))
      (fun i hi => hl i (by omega)), collect]
    congr 1
    show (f n).log ++ (f n).value.elim [] (fun _ => []) = [g n]
    rw [hl n (by omega)]
    cases (f n).value <;> rfl

def Within (p : ι → Prop) (m : Logged ι α) : Prop := ∀ i ∈ m.log, p i

variable {p : ι → Prop}

theorem Within.pure (a : α) : Within p (pure a) := fun _ h => absurd h List.not_mem_nil

theorem Within.lift (o : Option α) : Within p (lift o) := fun _ h => absurd h List.not_mem_nil

theorem Within.use {i : ι} (h : p i) (o : Option α) : Within p (use i o) := by
  intro j hj
  rw [List.mem_singleton.mp hj]
  exact h

theorem Within.bind {m : Logged ι α} {f : α → Logged ι β} (h : Within p m)
    (hf : ∀ a, m.value = some a → Within p (f a)) : Within p (m >>= f) := by
  intro i hi
  rcases List.mem_append.mp hi with hi | hi
  · exact h i hi
  · cases hv : m.value with
    | none => simp [hv] at hi
    | some a =>
      rw [hv] at hi
      exact hf a hv i hi

theorem Within.loop {n : Nat} {f : Nat → σ → Logged ι σ} {s : σ} (I : Nat → σ → Prop) (h0 : I 0 s)
    (h : ∀ i t, i < n → I i t → Within p (f i t) ∧ ∀ u, (f i t).value = some u → I (i + 1) u) :
    Within p (loop n f s) := by
  induction n with
  | zero => exact Within.pure s
  | succ n ih =>
    have hlt : ∀ i t, i < n → I i t → Within p (f i t) ∧ ∀ u, (f i t).value = some u → I (i + 1) u :=
      fun i t hi => h i t (by omega)
    refine (ih hlt).bind fun t ht => (h n t (by omega) ?_).1
    rw [value_loop] at ht
    exact Loop.run_invariant I h0 (fun i a v hi ha hv => (hlt i a hi ha).2 v hv) ht

theorem Within.collect {n : Nat} {f : Nat → Logged ι α} (h : ∀ i, i < n → Within p (f i)) :
    Within p (collect n f) :=
  Within.loop (fun _ _ => True) trivial fun i _ hi _ =>
    ⟨(h i hi).bind fun _ _ => Within.pure _, fun _ _ => trivial⟩

end Logged
