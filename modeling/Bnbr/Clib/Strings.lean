import Mathlib.Data.List.Basic
import Mathlib.Data.List.TakeWhile

namespace CString

variable {n : Nat}

def nul : Char := Char.ofNat 0

abbrev Buf (n : Nat) := {l : List Char // l.length = n}

def text (l : List Char) : Option (List Char) :=
  if nul ∈ l then some (l.takeWhile (· ≠ nul)) else none

def Buf.str (b : Buf n) : Option (List Char) := text b.val

def Buf.write (b : Buf n) (s : List Char) (h : s.length ≤ n) : Buf n :=
  ⟨s ++ b.val.drop s.length, by simp only [List.length_append, List.length_drop, b.property]; omega⟩

def Buf.strncpy (b : Buf n) (s : List Char) (k : Nat) (h : k ≤ n) : Buf n :=
  b.write (s.take k ++ List.replicate (k - s.length) nul) (by
    simp only [List.length_append, List.length_take, List.length_replicate]; omega)

theorem text_append {s : List Char} (t : List Char) (hs : nul ∉ s) :
    text (s ++ nul :: t) = some s := by
  have hp : ∀ c ∈ s, decide (c ≠ nul) = true := by
    intro c hc
    exact decide_eq_true fun h => hs (h.symm ▸ hc)
  have hw : (s ++ nul :: t).takeWhile (fun c => decide (c ≠ nul)) = s := by
    rw [List.takeWhile_append_of_pos hp]
    simp
  rw [text, if_pos (by simp), hw]

theorem text_eq_some {l s : List Char} :
    text l = some s ↔ nul ∉ s ∧ ∃ t, l = s ++ nul :: t := by
  constructor
  · intro h
    simp only [text] at h
    split at h
    · rename_i hm
      simp only [Option.some.injEq] at h
      subst h
      refine ⟨fun hn => by simpa using List.mem_takeWhile_imp hn, ?_⟩
      have hd : l.dropWhile (· ≠ nul) ≠ [] := by
        intro he
        have := List.dropWhile_eq_nil_iff.mp he nul hm
        simp at this
      obtain ⟨c, t, hc⟩ := List.exists_cons_of_ne_nil hd
      have hcn : c = nul := by
        have := List.head_dropWhile_not (p := fun c => decide (c ≠ nul)) (l := l) (by simpa using hd)
        simp only [hc, List.head_cons] at this
        simpa using this
      refine ⟨t, ?_⟩
      conv_lhs => rw [← List.takeWhile_append_dropWhile (p := fun c => decide (c ≠ nul)) (l := l)]
      rw [hc, hcn]
    · cases h
  · rintro ⟨hs, t, rfl⟩
    exact text_append t hs

theorem text_append_right {l s : List Char} (h : text l = some s) (t : List Char) : text (l ++ t) = some s := by
  obtain ⟨hs, u, rfl⟩ := text_eq_some.mp h
  rw [List.append_assoc, List.cons_append]
  exact text_append _ hs

theorem text_takeWhile {l s : List Char} (h : text l = some s) : l.takeWhile (· ≠ nul) = s := by
  simp only [text] at h
  split at h
  · exact Option.some.inj h
  · cases h

theorem text_nul_notMem {l s : List Char} (h : text l = some s) : nul ∉ s :=
  (text_eq_some.mp h).1

theorem text_eq_none {l : List Char} : text l = none ↔ nul ∉ l := by
  simp [text]

theorem Buf.str_write (b : Buf n) {s : List Char} (hs : nul ∉ s) (h : (s ++ [nul]).length ≤ n) :
    (b.write (s ++ [nul]) h).str = some s := by
  simp only [str, write, List.append_assoc, List.singleton_append]
  exact text_append _ hs

theorem Buf.str_strncpy (b : Buf n) {s : List Char} {k : Nat} (h : k ≤ n) (hs : nul ∉ s)
    (hk : s.length < k) : (b.strncpy s k h).str = some s := by
  have hr : List.replicate (k - s.length) nul = nul :: List.replicate (k - s.length - 1) nul := by
    rw [← List.replicate_succ]
    congr 1
    omega
  simp only [str, strncpy, write, List.take_of_length_le (Nat.le_of_lt hk), hr, List.append_assoc,
    List.cons_append]
  exact text_append _ hs

theorem Buf.strncpy_val_of_le (b : Buf n) {s : List Char} {k : Nat} (h : k ≤ n) (hk : k ≤ s.length) :
    (b.strncpy s k h).val = s.take k ++ b.val.drop k := by
  simp [strncpy, write, Nat.sub_eq_zero_of_le hk, Nat.min_eq_left hk]

def Buf.strcpy (b : Buf n) (s : List Char) : Option (Buf n) :=
  if h : (s ++ [nul]).length ≤ n then some (b.write (s ++ [nul]) h) else none

theorem Buf.strcpy_of_le (b : Buf n) {s : List Char} (h : s.length + 1 ≤ n) :
    ∃ b' : Buf n, b.strcpy s = some b' ∧ (nul ∉ s → b'.str = some s) := by
  have hl : (s ++ [nul]).length ≤ n := by simpa using h
  exact ⟨_, dif_pos hl, fun hs => b.str_write hs hl⟩

theorem Buf.strcpy_length {b b' : Buf n} {s : List Char} (h : b.strcpy s = some b') : s.length + 1 ≤ n := by
  simp only [Buf.strcpy] at h
  split at h
  · rename_i hl
    simpa using hl
  · cases h

def Buf.fill (n : Nat) (c : Char) : Buf n := ⟨List.replicate n c, List.length_replicate⟩

theorem Buf.str_fill {c : Char} (h : c ≠ nul) : (Buf.fill n c).str = none :=
  text_eq_none.mpr fun hm => h (List.eq_of_mem_replicate hm).symm

end CString
