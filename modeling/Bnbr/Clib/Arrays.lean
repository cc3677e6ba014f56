import Mathlib.Logic.Function.Basic

namespace CArray

variable {α : Type} {n : Nat}

abbrev Arr (n : Nat) (α : Type) := Fin n → α

def index (n : Nat) (i : Int) : Option (Fin n) :=
  if h : 0 ≤ i ∧ i < n then some ⟨i.toNat, by omega⟩ else none

def get (a : Arr n α) (i : Int) : Option α := (index n i).map a

def set (a : Arr n α) (i : Int) (v : α) : Option (Arr n α) :=
  (index n i).map (fun k => Function.update a k v)

@[simp] theorem index_fin (k : Fin n) : index n (k.val : Int) = some k := by
  simp [index]

theorem index_eq_some {i : Int} {k : Fin n} : index n i = some k ↔ i = (k.val : Int) := by
  constructor
  · intro h
    simp only [index] at h
    split at h
    · simp only [Option.some.injEq] at h
      subst h
      simp only
      omega
    · cases h
  · rintro rfl
    exact index_fin k

@[simp] theorem get_fin (a : Arr n α) (k : Fin n) : get a (k.val : Int) = some (a k) := by
  simp [get]

@[simp] theorem set_fin (a : Arr n α) (k : Fin n) (v : α) :
    set a (k.val : Int) v = some (Function.update a k v) := by
  simp [set]

theorem get_eq_some {a : Arr n α} {i : Int} {v : α} :
    get a i = some v ↔ ∃ k : Fin n, i = (k.val : Int) ∧ a k = v := by
  simp only [get, Option.map_eq_some_iff, index_eq_some]

theorem set_eq_some {a b : Arr n α} {i : Int} {v : α} :
    set a i v = some b ↔ ∃ k : Fin n, i = (k.val : Int) ∧ Function.update a k v = b := by
  simp only [set, Option.map_eq_some_iff, index_eq_some]

theorem exists_fin {i : Int} (h0 : 0 ≤ i) (h1 : i < n) : ∃ k : Fin n, i = (k.val : Int) :=
  ⟨⟨i.toNat, by omega⟩, by simp only; omega⟩

end CArray
