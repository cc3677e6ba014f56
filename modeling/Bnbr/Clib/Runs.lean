import Mathlib.Data.List.Forall2

namespace Runs

variable {σ τ α : Type} {step step' : σ → α → σ → Prop} {s t u : σ} {es fs : List α}

inductive Trace (step : σ → α → σ → Prop) (s : σ) : List α → σ → Prop
  | nil : Trace step s [] s
  | snoc {es : List α} {t u : σ} {e : α} (h : Trace step s es t) (hs : step t e u) : Trace step s (es ++ [e]) u

def Under (P : σ → α → Prop) (step : σ → α → σ → Prop) (s : σ) (e : α) (t : σ) : Prop := P s e ∧ step s e t

theorem Trace.invariant (I : List α → σ → Prop) (h0 : I [] s)
    (hstep : ∀ es t e u, Trace step s es t → I es t → step t e u → I (es ++ [e]) u)
    (h : Trace step s es t) : I es t := by
  induction h with
  | nil => exact h0
  | snoc h hs ih => exact hstep _ _ _ _ h ih hs

theorem Trace.mono (hsub : ∀ s e t, step s e t → step' s e t) (h : Trace step s es t) : Trace step' s es t := by
  induction h with
  | nil => exact .nil
  | snoc _ hs ih => exact ih.snoc (hsub _ _ _ hs)

theorem Trace.forget {P : σ → α → Prop} (h : Trace (Under P step) s es t) : Trace step s es t :=
  h.mono fun _ _ _ hs => hs.2

theorem Trace.under_events {p : α → Prop} (h : Trace step s es t) :
    Trace (Under (fun _ => p) step) s es t ↔ ∀ e ∈ es, p e := by
  constructor
  · intro hu
    refine hu.invariant (fun es _ => ∀ e ∈ es, p e) (by simp) fun es t e u _ ih hs a ha => ?_
    rcases List.mem_append.mp ha with ha | ha
    · exact ih a ha
    · exact List.mem_singleton.mp ha ▸ hs.1
  · intro hp
    induction h with
    | nil => exact .nil
    | @snoc es u v e _ hs ih =>
      exact (ih fun a ha => hp a (List.mem_append_left _ ha)).snoc ⟨hp e (by simp), hs⟩

theorem Trace.logged_iff {β : Type} {log : σ → List β} {new : σ → α → List β} {P : β → Prop} {C : σ → α → Prop}
    (I : σ → Prop) (hI : ∀ s e t, step s e t → I s → I t) (hlog : ∀ s e t, step s e t → log t = log s ++ new s e)
    (hC : ∀ s e, I s → ((∀ b ∈ new s e, P b) ↔ C s e)) (hs : I s) (h0 : log s = []) (h : Trace step s es t) :
    (∀ b ∈ log t, P b) ↔ Trace (Under C step) s es t := by
  have hinv {fs : List α} {u : σ} (hu : Trace step s fs u) : I u :=
    hu.invariant (fun _ u => I u) hs fun _ _ _ _ _ hI' hstep => hI _ _ _ hstep hI'
  constructor
  · intro hP
    induction h with
    | nil => exact .nil
    | snoc h hstep ih =>
      rw [hlog _ _ _ hstep] at hP
      exact (ih fun b hb => hP b (List.mem_append_left _ hb)).snoc
        ⟨(hC _ _ (hinv h)).mp fun b hb => hP b (List.mem_append_right _ hb), hstep⟩
  · intro hu
    refine hu.invariant (fun _ u => ∀ b ∈ log u, P b) (by simp [h0]) fun fs u e v hfs hP hstep b hb => ?_
    rw [hlog _ _ _ hstep.2] at hb
    rcases List.mem_append.mp hb with hb | hb
    · exact hP b hb
    · exact (hC _ _ (hinv hfs.forget)).mpr hstep.1 b hb

theorem Trace.append (h : Trace step s es t) (h' : Trace step t fs u) : Trace step s (es ++ fs) u := by
  induction h' with
  | nil => rwa [List.append_nil]
  | snoc _ hs ih => exact List.append_assoc _ _ _ ▸ ih.snoc hs

theorem Trace.map {β : Type} {other : τ → β → τ → Prop} (g : σ → τ) (f : α → β)
    (hstep : ∀ s e t, step s e t → other (g s) (f e) (g t)) (h : Trace step s es t) :
    Trace other (g s) (es.map f) (g t) := by
  induction h with
  | nil => exact .nil
  | snoc _ hs ih =>
    rw [List.map_append]
    exact ih.snoc (hstep _ _ _ hs)

theorem Trace.single {e : α} (h : step s e t) : Trace step s [e] t := Trace.nil.snoc h

theorem Trace.reach {I G : σ → Prop} (rank : σ → Nat)
    (h : ∀ s, I s → ¬ G s → ∃ es t, Trace step s es t ∧ I t ∧ rank t < rank s) (hs : I s) :
    ∃ es t, Trace step s es t ∧ I t ∧ G t := by
  induction hr : rank s using Nat.strongRecOn generalizing s with
  | ind n ih =>
    by_cases hg : G s
    · exact ⟨[], s, .nil, hs, hg⟩
    · obtain ⟨es, t, ht, hi, hlt⟩ := h s hs hg
      obtain ⟨fs, u, hu, hui, hug⟩ := ih (rank t) (hr ▸ hlt) hi rfl
      exact ⟨es ++ fs, u, ht.append hu, hui, hug⟩

theorem Trace.unique (hdet : ∀ s e t t', step s e t → step s e t' → t = t') (h : Trace step s es t) {t' : σ}
    (h' : Trace step s es t') : t = t' := by
  induction h generalizing t' with
  | nil =>
    generalize hes : ([] : List α) = es at h'
    cases h' with
    | nil => rfl
    | snoc => simp at hes
  | @snoc es u v e h hs ih =>
    generalize hfs : es ++ [e] = fs at h'
    cases h' with
    | nil => simp at hfs
    | snoc h' hs' =>
      obtain ⟨rfl, he⟩ := List.append_inj' hfs rfl
      obtain rfl := List.singleton_inj.mp he
      obtain rfl := ih h'
      exact hdet _ _ _ _ hs hs'

end Runs
