import Bnbr.Clib.Runs

namespace Determinacy

open Runs

variable {σ ι M : Type}

inductive Act (ι M : Type)
  | quiet
  | send (i : ι) (m : M)
  | recv (i : ι) (m : M)

variable {step : σ → Act ι M → σ → Prop} {s t u v : σ} {es fs gs : List (Act ι M)} {e g : Act ι M}

def Act.visible : Act ι M → Bool
  | .quiet => false
  | _ => true

def visible (es : List (Act ι M)) : List (Act ι M) := es.filter Act.visible

def Act.input [DecidableEq ι] (i : ι) : Act ι M → Option M
  | .recv k m => if k = i then some m else none
  | _ => none

def inputs [DecidableEq ι] (i : ι) (es : List (Act ι M)) : List M := es.filterMap (Act.input i)

def Comparable {α : Type} (xs ys : List α) : Prop := xs <+: ys ∨ ys <+: xs

-- the program counter decides the next action: only what is received, and idle turns, are left open
structure Deterministic (step : σ → Act ι M → σ → Prop) : Prop where
  quiet : ∀ {s e t u}, step s .quiet t → step s e u → t = s ∨ e = .quiet ∧ (u = t ∨ u = s)
  send : ∀ {s i m e t u}, step s (.send i m) t → step s e u → e = .send i m ∧ u = t ∨ e = .quiet ∧ u = s
  recv : ∀ {s i m e t u}, step s (.recv i m) t → step s e u →
    (∃ m', e = .recv i m' ∧ (m' = m → u = t)) ∨ e = .quiet ∧ u = s

theorem Comparable.left {α : Type} {xs ys zs : List α} (h : Comparable (xs ++ ys) zs) : Comparable xs zs := by
  rcases h with h | h
  · exact .inl ((List.prefix_append xs ys).trans h)
  · exact List.prefix_or_prefix_of_prefix (List.prefix_append xs ys) h

theorem Comparable.head {α : Type} {xs zs : List α} {m m' : α} (h : Comparable (xs ++ [m]) (xs ++ zs))
    (hm : zs.head? = some m') : m' = m := by
  obtain ⟨ys, rfl⟩ : ∃ ys, zs = m' :: ys := by
    cases zs with
    | nil => cases hm
    | cons a ys => exact ⟨ys, by rw [List.head?_cons, Option.some.injEq] at hm; rw [hm]⟩
  rcases h with h | h
  · exact ((List.cons_prefix_cons.mp ((List.prefix_append_right_inj xs).mp h)).1).symm
  · exact (List.cons_prefix_cons.mp ((List.prefix_append_right_inj xs).mp h)).1

theorem visible_append (es fs : List (Act ι M)) : visible (es ++ fs) = visible es ++ visible fs :=
  List.filter_append es fs

theorem inputs_visible [DecidableEq ι] (i : ι) (es : List (Act ι M)) : inputs i (visible es) = inputs i es := by
  induction es with
  | nil => rfl
  | cons e es ih =>
    cases e with
    | quiet => exact ih
    | send k m => exact ih
    | recv k m =>
      simp only [inputs, visible] at ih ⊢
      rw [List.filter_cons_of_pos rfl, List.filterMap_cons, List.filterMap_cons, ih]

theorem trace_cases (h : Trace step s es u) :
    es = [] ∧ u = s ∨ ∃ e fs t, es = e :: fs ∧ step s e t ∧ Trace step t fs u := by
  induction h with
  | nil => exact .inl ⟨rfl, rfl⟩
  | @snoc es t u e _ hs ih =>
    rcases ih with ⟨rfl, rfl⟩ | ⟨f, fs, v, rfl, hf, hfs⟩
    · exact .inr ⟨e, [], u, rfl, hs, .nil⟩
    · exact .inr ⟨f, fs ++ [e], v, rfl, hf, hfs.snoc hs⟩

-- another run from the same state either goes through the step or is still before it
theorem follow [DecidableEq ι] (hd : Deterministic step) (hs : step s e t) (h : Trace step s gs u)
    (hc : ∀ i m m', e = .recv i m → (inputs i gs).head? = some m' → m' = m) :
    (∃ hs, Trace step t hs u ∧ visible gs = visible [e] ++ visible hs) ∨ visible gs = [] ∧ step u e t := by
  induction gs with
  | nil =>
    rcases trace_cases h with ⟨-, rfl⟩ | ⟨_, _, _, hf, -⟩
    · exact .inr ⟨rfl, hs⟩
    · cases hf
  | cons g gs ih =>
    rcases trace_cases h with ⟨hf, -⟩ | ⟨_, _, v, hf, hg, hgs⟩
    · cases hf
    obtain ⟨rfl, rfl⟩ := List.cons.inj hf
    have hcase : g = e ∧ v = t ∨ g = .quiet ∧ v = s ∨ e = .quiet ∧ t = s := by
      cases e with
      | quiet =>
        rcases hd.quiet hs hg with ht | ⟨hq, hv | hv⟩
        · exact .inr (.inr ⟨rfl, ht⟩)
        · exact .inl ⟨hq, hv⟩
        · exact .inr (.inl ⟨hq, hv⟩)
      | send i m =>
        rcases hd.send hs hg with h | h
        · exact .inl h
        · exact .inr (.inl h)
      | recv i m =>
        rcases hd.recv hs hg with ⟨m', rfl, hm⟩ | h
        · have he : m' = m := hc i m m' rfl (by simp [inputs, Act.input])
          exact .inl ⟨by rw [he], hm he⟩
        · exact .inr (.inl h)
    rcases hcase with ⟨rfl, rfl⟩ | ⟨rfl, rfl⟩ | ⟨rfl, rfl⟩
    · exact .inl ⟨gs, hgs, visible_append [g] gs⟩
    · exact ih hgs hc
    · exact .inl ⟨g :: gs, h, rfl⟩

theorem determinate [DecidableEq ι] (hd : Deterministic step) (h : Trace step s es t) (h' : Trace step s fs u)
    (hc : ∀ i, Comparable (inputs i es) (inputs i fs)) :
    (∃ gs, Trace step t gs u ∧ visible fs = visible es ++ visible gs) ∨
      ∃ gs, Trace step u gs t ∧ visible es = visible fs ++ visible gs := by
  induction h with
  | nil => exact .inl ⟨fs, h', rfl⟩
  | @snoc es v t e h hs ih =>
    have hi (i : ι) : inputs i (es ++ [e]) = inputs i es ++ inputs i [e] := List.filterMap_append
    rcases ih fun i => Comparable.left (by rw [← hi]; exact hc i) with ⟨gs, hgs, hv⟩ | ⟨gs, hgs, hv⟩
    · have hhead : ∀ i m m', e = .recv i m → (inputs i gs).head? = some m' → m' = m := by
        rintro i m m' rfl hm
        have hfs : inputs i fs = inputs i es ++ inputs i gs := by
          rw [← inputs_visible, hv, ← visible_append, inputs_visible, inputs, List.filterMap_append]
          rfl
        have hci := hc i
        rw [hi, hfs] at hci
        have he : inputs i [Act.recv i m] = [m] := by simp [inputs, Act.input]
        rw [he] at hci
        exact hci.head hm
      rcases follow hd hs hgs hhead with ⟨hs', htrace, hvis⟩ | ⟨hvis, hstep⟩
      · exact .inl ⟨hs', htrace, by rw [hv, hvis, visible_append, List.append_assoc]⟩
      · exact .inr ⟨[e], .single hstep, by rw [visible_append, hv, hvis, List.append_nil]⟩
    · exact .inr ⟨gs ++ [e], hgs.snoc hs, by rw [visible_append, hv, visible_append, List.append_assoc]⟩

end Determinacy
