import Mathlib.Data.Int.Basic
import Mathlib.Tactic.Ring

-- an integer in memory: a fixed number of bytes, in the order of the machine
namespace Layout

inductive Order
  | little
  | big
deriving DecidableEq, Repr

def Order.arrange : Order → List Char → List Char
  | .little, s => s
  | .big, s => s.reverse

def value : List Char → Nat
  | [] => 0
  | c :: s => c.toNat % 256 + 256 * value s

def digits : Nat → Nat → List Char
  | 0, _ => []
  | k + 1, n => Char.ofNat (n % 256) :: digits k (n / 256)

def readInt (o : Order) (s : List Char) : Int := (value (o.arrange s) : Int).bmod (256 ^ s.length)

def writeInt (o : Order) (k : Nat) (v : Int) : List Char := o.arrange (digits k (v % (256 ^ k : Nat)).toNat)

theorem Order.arrange_arrange (o : Order) (s : List Char) : o.arrange (o.arrange s) = s := by
  cases o with
  | little => rfl
  | big => exact List.reverse_reverse s

@[simp] theorem Order.arrange_length (o : Order) (s : List Char) : (o.arrange s).length = s.length := by
  cases o with
  | little => rfl
  | big => exact List.length_reverse

@[simp] theorem digits_length (k n : Nat) : (digits k n).length = k := by
  induction k generalizing n with
  | zero => rfl
  | succ k ih => rw [digits, List.length_cons, ih]

@[simp] theorem writeInt_length (o : Order) (k : Nat) (v : Int) : (writeInt o k v).length = k := by
  rw [writeInt, Order.arrange_length, digits_length]

theorem toNat_ofNat_byte (n : Nat) : (Char.ofNat (n % 256)).toNat = n % 256 := by
  have h : n % 256 < 256 := Nat.mod_lt n (by decide)
  have hv : (n % 256).isValidChar := Or.inl (by omega)
  rw [Char.ofNat, dif_pos hv]
  rfl

theorem value_digits {k n : Nat} (h : n < 256 ^ k) : value (digits k n) = n := by
  induction k generalizing n with
  | zero =>
    rw [Nat.pow_zero] at h
    rw [digits, value]
    omega
  | succ k ih =>
    rw [Nat.pow_succ] at h
    rw [digits, value, toNat_ofNat_byte, ih (by omega), Nat.mod_mod]
    exact Nat.mod_add_div n 256

theorem readInt_writeInt (o : Order) {k : Nat} {v : Int} (h0 : -(256 ^ k : Nat) ≤ 2 * v)
    (h1 : 2 * v < (256 ^ k : Nat)) : readInt o (writeInt o k v) = v := by
  have hpos : 0 < (256 ^ k : Nat) := Nat.pow_pos (by decide)
  have hlt := Int.emod_lt_of_pos v (Int.natCast_pos.mpr hpos)
  have hge := Int.emod_nonneg v (Int.natCast_pos.mpr hpos).ne'
  rw [readInt, writeInt_length, writeInt, Order.arrange_arrange, value_digits (by omega), Int.toNat_of_nonneg hge]
  rw [Int.emod_bmod]
  exact Int.bmod_eq_of_le_mul_two (by omega) (by omega)

end Layout
