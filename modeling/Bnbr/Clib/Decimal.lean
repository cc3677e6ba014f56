import Mathlib.Data.List.TakeWhile
import Mathlib.Tactic.Ring

namespace Decimal

def isspace (c : Char) : Bool := c.toNat == 32 || (9 ≤ c.toNat && c.toNat ≤ 13)

def print (v : Int) : List Char :=
  if v < 0 then '-' :: Nat.toDigits 10 v.natAbs else Nat.toDigits 10 v.natAbs

def sign : List Char → Bool × List Char
  | '-' :: s => (true, s)
  | '+' :: s => (false, s)
  | s => (false, s)

def value (neg : Bool) (digits : List Char) : Int :=
  if neg then -(Nat.ofDigitChars 10 digits 0 : Int) else Nat.ofDigitChars 10 digits 0

def scan (s : List Char) : Option (Int × List Char) :=
  let t := sign (s.dropWhile isspace)
  let digits := t.2.takeWhile Char.isDigit
  if digits = [] then none else some (value t.1 digits, t.2.dropWhile Char.isDigit)

def saturate (v : Int) : Int := max (-(2 ^ 63)) (min v (2 ^ 63 - 1))

def toInt (v : Int) : Int := (saturate v).bmod (2 ^ 32)

def InInt (v : Int) : Prop := -(2 ^ 31) ≤ v ∧ v < 2 ^ 31

instance (v : Int) : Decidable (InInt v) := inferInstanceAs (Decidable (_ ∧ _))

theorem toInt_of_inInt {v : Int} (h : InInt v) : toInt v = v := by
  obtain ⟨h0, h1⟩ := h
  have hs : saturate v = v := by simp only [saturate]; omega
  rw [toInt, hs]
  apply Int.bmod_eq_of_le <;> omega

theorem isDigit_isspace {c : Char} (h : c.isDigit = true) : isspace c = false := by
  have hb : 48 ≤ c.toNat ∧ c.toNat ≤ 57 := by
    simpa [Char.isDigit, UInt32.le_iff_toNat_le] using h
  simp only [isspace]
  simp
  omega

theorem sign_digit {s : List Char} {c : Char} (h : c.isDigit = true) : sign (c :: s) = (false, c :: s) := by
  unfold sign
  split
  · rename_i t he
    simp only [List.cons.injEq] at he
    rw [he.1] at h
    exact absurd h (by decide)
  · rename_i t he
    simp only [List.cons.injEq] at he
    rw [he.1] at h
    exact absurd h (by decide)
  · rfl

theorem takeWhile_digits {d rest : List Char} (hd : ∀ c ∈ d, c.isDigit = true)
    (hr : ∀ c, rest.head? = some c → c.isDigit = false) :
    (d ++ rest).takeWhile Char.isDigit = d ∧ (d ++ rest).dropWhile Char.isDigit = rest := by
  have h1 : rest.takeWhile Char.isDigit = [] ∧ rest.dropWhile Char.isDigit = rest := by
    cases rest with
    | nil => exact ⟨rfl, rfl⟩
    | cons a r =>
      have := hr a rfl
      simp [this]
  rw [List.takeWhile_append_of_pos hd, List.dropWhile_append_of_pos hd, h1.1, h1.2]
  simp

theorem scan_print (v : Int) {rest : List Char} (hr : ∀ c, rest.head? = some c → c.isDigit = false) :
    scan (print v ++ rest) = some (v, rest) := by
  have hdig : ∀ c ∈ Nat.toDigits 10 v.natAbs, c.isDigit = true := fun c hc =>
    Nat.isDigit_of_mem_toDigits (by omega) (by omega) hc
  have htd := takeWhile_digits hdig hr
  by_cases hv : v < 0
  · have hsp : (print v ++ rest).dropWhile isspace = '-' :: (Nat.toDigits 10 v.natAbs ++ rest) := by
      simp only [print, hv, if_true, List.cons_append]
      exact List.dropWhile_cons_of_neg (by decide)
    simp only [scan, hsp, sign, htd, Nat.toDigits_ne_nil, if_false, value, if_true,
      Nat.ofDigitChars_ten_toDigits, Option.some.injEq, Prod.mk.injEq, and_true]
    omega
  · obtain ⟨c, t, hct⟩ := List.exists_cons_of_ne_nil (Nat.toDigits_ne_nil (n := v.natAbs) (b := 10))
    have hc : c.isDigit = true := hdig c (by rw [hct]; simp)
    have hsp : (print v ++ rest).dropWhile isspace = Nat.toDigits 10 v.natAbs ++ rest := by
      simp only [print, hv, if_false, hct, List.cons_append]
      exact List.dropWhile_cons_of_neg (by simp [isDigit_isspace hc])
    have hsg : sign (Nat.toDigits 10 v.natAbs ++ rest) = (false, Nat.toDigits 10 v.natAbs ++ rest) := by
      rw [hct, List.cons_append]
      exact sign_digit hc
    simp only [scan, hsp, hsg, htd, Nat.toDigits_ne_nil, if_false, value, Bool.false_eq_true,
      Nat.ofDigitChars_ten_toDigits, Option.some.injEq, Prod.mk.injEq, and_true]
    omega

theorem mem_print {v : Int} {c : Char} (h : c ∈ print v) : c = '-' ∨ c.isDigit = true := by
  have hd (hc : c ∈ Nat.toDigits 10 v.natAbs) : c.isDigit = true :=
    Nat.isDigit_of_mem_toDigits (by omega) (by omega) hc
  simp only [print] at h
  split at h
  · rcases List.mem_cons.mp h with h | h
    · exact .inl h
    · exact .inr (hd h)
  · exact .inr (hd h)

theorem mem_print_not_space {v : Int} {c : Char} (h : c ∈ print v) : isspace c = false := by
  rcases mem_print h with rfl | h
  · decide
  · exact isDigit_isspace h

theorem print_length {v : Int} {k : Nat} (hk : 0 < k) (h : v.natAbs < 10 ^ k) :
    (print v).length ≤ k + 1 := by
  have := (Nat.length_toDigits_le_iff (b := 10) (by omega) hk).mpr h
  simp only [print]
  split
  · simp only [List.length_cons]; omega
  · omega

theorem InInt.print_length {v : Int} (h : InInt v) : (print v).length ≤ 11 := by
  apply Decimal.print_length (by omega)
  obtain ⟨h0, h1⟩ := h
  omega

theorem ofDigitChars_lt {d : List Char} (hd : ∀ c ∈ d, c.isDigit = true) : Nat.ofDigitChars 10 d 0 < 10 ^ d.length := by
  induction d with
  | nil => simp
  | cons c d ih =>
    have hc : c.toNat - '0'.toNat < 10 := by
      have hb : 48 ≤ c.toNat ∧ c.toNat ≤ 57 := by
        simpa [Char.isDigit, UInt32.le_iff_toNat_le] using hd c (by simp)
      have h0 : '0'.toNat = 48 := rfl
      omega
    have hlt := ih fun a ha => hd a (List.mem_cons_of_mem _ ha)
    rw [Nat.ofDigitChars_cons, Nat.ofDigitChars_eq_ofDigitChars_zero, Nat.mul_zero, Nat.zero_add, List.length_cons,
      Nat.pow_succ]
    calc 10 ^ d.length * (c.toNat - '0'.toNat) + Nat.ofDigitChars 10 d 0
        < 10 ^ d.length * (c.toNat - '0'.toNat) + 10 ^ d.length := by omega
      _ = 10 ^ d.length * (c.toNat - '0'.toNat + 1) := (Nat.mul_succ _ _).symm
      _ ≤ 10 ^ d.length * 10 := Nat.mul_le_mul_left _ (by omega)

theorem toDigits_length_le {d : List Char} (hd : ∀ c ∈ d, c.isDigit = true) (hne : d ≠ []) :
    (Nat.toDigits 10 (Nat.ofDigitChars 10 d 0)).length ≤ d.length :=
  (Nat.length_toDigits_le_iff (by omega) (List.length_pos_iff.mpr hne)).mpr (ofDigitChars_lt hd)

theorem sign_length (s : List Char) : (sign s).2.length + (if (sign s).1 = true then 1 else 0) ≤ s.length := by
  unfold sign
  split <;> simp

theorem scan_length {s rest : List Char} {v : Int} (h : scan s = some (v, rest)) :
    (print v).length + rest.length ≤ s.length := by
  simp only [scan] at h
  split at h
  · cases h
  · rename_i hne
    simp only [Option.some.injEq, Prod.mk.injEq] at h
    obtain ⟨hv, rfl⟩ := h
    have hspace := (List.dropWhile_sublist (l := s) isspace).length_le
    have hsign := sign_length (s.dropWhile isspace)
    have hsplit := congrArg List.length
      (List.takeWhile_append_dropWhile (p := Char.isDigit) (l := (sign (s.dropWhile isspace)).2))
    rw [List.length_append] at hsplit
    have hdig := toDigits_length_le (fun c hc => List.mem_takeWhile_imp hc) hne
    subst hv
    simp only [print, value]
    cases hs : (sign (s.dropWhile isspace)).1 with
    | false =>
      have hpos (n : Nat) : ¬ (n : Int) < 0 := Int.not_lt.mpr (Int.natCast_nonneg n)
      simp only [Bool.false_eq_true, if_false, Int.natAbs_natCast, hpos]
      omega
    | true =>
      simp only [hs, if_true] at hsign
      simp only [if_true, Int.natAbs_neg, Int.natAbs_natCast]
      split
      · simp only [List.length_cons]
        omega
      · omega

end Decimal
