import Bnbr.Clib.Decimal

namespace Scanf

open Decimal

variable {σ τ : Type}

inductive Directive (σ : Type)
  | int (set : Int → σ → σ)
  | scanset (width : Nat) (stop : Char) (set : (s : List Char) → s.length ≤ width → σ → σ)
  | word (width : Nat) (set : (s : List Char) → s.length ≤ width → σ → σ)
  | char (set : Char → σ → σ)
  | lit (c : Char)

def upto (width : Nat) (stop : Char) (s : List Char) : List Char := (s.take width).takeWhile (· ≠ stop)

def nonspace (width : Nat) (s : List Char) : List Char := (s.take width).takeWhile (fun c => !isspace c)

theorem upto_length (width : Nat) (stop : Char) (s : List Char) : (upto width stop s).length ≤ width :=
  (List.takeWhile_prefix _).length_le.trans (List.length_take_le _ _)

theorem nonspace_length (width : Nat) (s : List Char) : (nonspace width s).length ≤ width :=
  (List.takeWhile_prefix _).length_le.trans (List.length_take_le _ _)

def sscanf : List (Directive σ) → List Char → σ → σ
  | [], _, st => st
  | .int set :: ds, s, st =>
    match scan s with
    | some (v, rest) => sscanf ds rest (set v st)
    | none => st
  | .scanset w stop set :: ds, s, st =>
    if upto w stop s = [] then st
    else sscanf ds (s.drop (upto w stop s).length) (set (upto w stop s) (upto_length w stop s) st)
  | .word w set :: ds, s, st =>
    let u := s.dropWhile isspace
    if nonspace w u = [] then st
    else sscanf ds (u.drop (nonspace w u).length) (set (nonspace w u) (nonspace_length w u) st)
  | .char set :: ds, s, st =>
    match s with
    | c :: rest => sscanf ds rest (set c st)
    | [] => st
  | .lit c :: ds, s, st =>
    match s with
    | a :: rest => if a = c then sscanf ds rest st else st
    | [] => st

inductive Directive.Rel (p : Char → Prop) (R : σ → τ → Prop) : Directive σ → Directive τ → Prop
  | int {f : Int → σ → σ} {g : Int → τ → τ} (h : ∀ v s t, R s t → R (f v s) (g v t)) :
      Rel p R (.int f) (.int g)
  | scanset {w : Nat} {c : Char} {f : (l : List Char) → l.length ≤ w → σ → σ}
      {g : (l : List Char) → l.length ≤ w → τ → τ}
      (h : ∀ l hl s t, (∀ a ∈ l, p a) → R s t → R (f l hl s) (g l hl t)) :
      Rel p R (.scanset w c f) (.scanset w c g)
  | word {w : Nat} {f : (l : List Char) → l.length ≤ w → σ → σ}
      {g : (l : List Char) → l.length ≤ w → τ → τ}
      (h : ∀ l hl s t, (∀ a ∈ l, p a) → R s t → R (f l hl s) (g l hl t)) :
      Rel p R (.word w f) (.word w g)
  | char {f : Char → σ → σ} {g : Char → τ → τ} (h : ∀ c s t, p c → R s t → R (f c s) (g c t)) :
      Rel p R (.char f) (.char g)
  | lit (c : Char) : Rel p R (.lit c) (.lit c)

theorem upto_mem {w : Nat} {stop c : Char} {s : List Char} (h : c ∈ upto w stop s) : c ∈ s :=
  List.mem_of_mem_take ((List.takeWhile_sublist _).subset h)

theorem nonspace_mem {w : Nat} {c : Char} {s : List Char} (h : c ∈ nonspace w s) : c ∈ s :=
  List.mem_of_mem_take ((List.takeWhile_sublist _).subset h)

theorem sign_mem {c : Char} {s : List Char} (h : c ∈ (sign s).2) : c ∈ s := by
  unfold sign at h
  split at h
  · exact List.mem_cons_of_mem _ h
  · exact List.mem_cons_of_mem _ h
  · exact h

theorem scan_mem {s rest : List Char} {v : Int} (h : scan s = some (v, rest)) {c : Char} (hc : c ∈ rest) :
    c ∈ s := by
  simp only [scan] at h
  split at h
  · cases h
  · simp only [Option.some.injEq, Prod.mk.injEq] at h
    obtain ⟨-, rfl⟩ := h
    exact (List.dropWhile_sublist _).subset (sign_mem ((List.dropWhile_sublist _).subset hc))

theorem sscanf_rel {p : Char → Prop} {R : σ → τ → Prop} {ds : List (Directive σ)} {es : List (Directive τ)}
    (h : List.Forall₂ (Directive.Rel p R) ds es) {input : List Char} (hp : ∀ a ∈ input, p a) {s : σ} {t : τ}
    (hst : R s t) : R (sscanf ds input s) (sscanf es input t) := by
  induction h generalizing input s t with
  | nil => exact hst
  | cons hd _ ih =>
    cases hd with
    | int hf =>
      simp only [sscanf]
      cases hs : scan input with
      | none => exact hst
      | some q => exact ih (fun a ha => hp a (scan_mem hs ha)) (hf _ _ _ hst)
    | scanset hf =>
      simp only [sscanf]
      split
      · exact hst
      · exact ih (fun a ha => hp a (List.mem_of_mem_drop ha))
          (hf _ _ _ _ (fun a ha => hp a (upto_mem ha)) hst)
    | word hf =>
      have hd : ∀ a ∈ input.dropWhile isspace, p a := fun a ha => hp a ((List.dropWhile_sublist _).subset ha)
      simp only [sscanf]
      split
      · exact hst
      · exact ih (fun a ha => hd a (List.mem_of_mem_drop ha))
          (hf _ _ _ _ (fun a ha => hd a (nonspace_mem ha)) hst)
    | char hf =>
      cases input with
      | nil => exact hst
      | cons c rest => exact ih (fun a ha => hp a (List.mem_cons_of_mem _ ha)) (hf _ _ _ (hp c (by simp)) hst)
    | lit c =>
      cases input with
      | nil => exact hst
      | cons a rest =>
        simp only [sscanf]
        split
        · exact ih (fun a ha => hp a (List.mem_cons_of_mem _ ha)) hst
        · exact hst

theorem sscanf_int_inv {α : Type} {f : σ → Option α} {a : α} {set : Int → σ → σ} {ds : List (Directive σ)}
    {s : List Char} {st : σ} (h : f (sscanf (.int set :: ds) s st) = some a) (h0 : f st = none) :
    ∃ v rest, scan s = some (v, rest) ∧ sscanf (.int set :: ds) s st = sscanf ds rest (set v st) := by
  cases hs : scan s with
  | none =>
    rw [sscanf, hs, h0] at h
    cases h
  | some p => exact ⟨p.1, p.2, rfl, by rw [sscanf, hs]⟩

theorem sscanf_scanset_inv {α : Type} {f : σ → Option α} {a : α} {w : Nat} {stop : Char}
    {set : (s : List Char) → s.length ≤ w → σ → σ} {ds : List (Directive σ)} {s : List Char} {st : σ}
    (h : f (sscanf (.scanset w stop set :: ds) s st) = some a) (h0 : f st = none) :
    upto w stop s ≠ [] ∧ sscanf (.scanset w stop set :: ds) s st =
      sscanf ds (s.drop (upto w stop s).length) (set (upto w stop s) (upto_length w stop s) st) := by
  by_cases hu : upto w stop s = []
  · rw [sscanf, if_pos hu, h0] at h
    cases h
  · exact ⟨hu, by rw [sscanf, if_neg hu]⟩

theorem sscanf_word_inv {α : Type} {f : σ → Option α} {a : α} {w : Nat}
    {set : (s : List Char) → s.length ≤ w → σ → σ} {ds : List (Directive σ)} {s : List Char} {st : σ}
    (h : f (sscanf (.word w set :: ds) s st) = some a) (h0 : f st = none) :
    nonspace w (s.dropWhile isspace) ≠ [] ∧ sscanf (.word w set :: ds) s st =
      sscanf ds ((s.dropWhile isspace).drop (nonspace w (s.dropWhile isspace)).length)
        (set (nonspace w (s.dropWhile isspace)) (nonspace_length w _) st) := by
  by_cases hu : nonspace w (s.dropWhile isspace) = []
  · simp only [sscanf, hu, if_true, h0] at h
    cases h
  · exact ⟨hu, by simp only [sscanf, hu, if_false]⟩

theorem sscanf_lit_inv {α : Type} {f : σ → Option α} {a : α} {c : Char} {ds : List (Directive σ)} {s : List Char}
    {st : σ} (h : f (sscanf (.lit c :: ds) s st) = some a) (h0 : f st = none) :
    ∃ rest, s = c :: rest ∧ sscanf (.lit c :: ds) s st = sscanf ds rest st := by
  cases s with
  | nil =>
    rw [sscanf, h0] at h
    cases h
  | cons b rest =>
    by_cases hb : b = c
    · exact ⟨rest, by rw [hb], by rw [sscanf, if_pos hb]⟩
    · rw [sscanf, if_neg hb, h0] at h
      cases h

theorem sscanf_int_print (set : Int → σ → σ) (ds : List (Directive σ)) (v : Int) {rest : List Char}
    (hr : ∀ c, rest.head? = some c → c.isDigit = false) (st : σ) :
    sscanf (.int set :: ds) (print v ++ rest) st = sscanf ds rest (set v st) := by
  simp [sscanf, scan_print v hr]

theorem sscanf_lit (c : Char) (ds : List (Directive σ)) (rest : List Char) (st : σ) :
    sscanf (.lit c :: ds) (c :: rest) st = sscanf ds rest st := by
  simp [sscanf]

theorem sscanf_char (set : Char → σ → σ) (ds : List (Directive σ)) (c : Char) (rest : List Char) (st : σ) :
    sscanf (.char set :: ds) (c :: rest) st = sscanf ds rest (set c st) := rfl

theorem upto_append {w : Nat} {stop : Char} {s : List Char} (rest : List Char) (hs : stop ∉ s)
    (hw : s.length ≤ w) : upto w stop (s ++ stop :: rest) = s := by
  have hp : ∀ c ∈ s, decide (c ≠ stop) = true := fun c hc => decide_eq_true fun h => hs (h ▸ hc)
  have ht : ((stop :: rest).take (w - s.length)).takeWhile (fun c => decide (c ≠ stop)) = [] := by
    cases w - s.length with
    | zero => rfl
    | succ k => simp
  rw [upto, List.take_append, List.take_of_length_le hw, List.takeWhile_append_of_pos hp, ht,
    List.append_nil]

theorem sscanf_scanset {w : Nat} {stop : Char} (set : (s : List Char) → s.length ≤ w → σ → σ)
    (ds : List (Directive σ)) {s : List Char} (rest : List Char) (hs : stop ∉ s) (hne : s ≠ [])
    (hw : s.length ≤ w) (st : σ) :
    sscanf (.scanset w stop set :: ds) (s ++ stop :: rest) st =
      sscanf ds (stop :: rest) (set s hw st) := by
  have hu := upto_append (w := w) rest hs hw
  simp only [sscanf, hu, hne, if_false, List.drop_left]

theorem dropWhile_space {s : List Char} (h : ∀ c, s.head? = some c → isspace c = false) :
    s.dropWhile isspace = s := by
  cases s with
  | nil => rfl
  | cons c t => exact List.dropWhile_cons_of_neg (by simp [h c rfl])

theorem nonspace_of_all {w : Nat} {s : List Char} (h : ∀ c ∈ s, isspace c = false) :
    nonspace w s = s.take w := by
  rw [nonspace, List.takeWhile_eq_self_iff]
  intro c hc
  simp [h c (List.mem_of_mem_take hc)]

end Scanf
