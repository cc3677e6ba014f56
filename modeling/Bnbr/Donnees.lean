import Bnbr.Clib.Arrays
import Bnbr.Clib.Strings

namespace Bnbr

open CArray

inductive Status
  | empty
  | missedShot
  | hitShot
  | boat
deriving DecidableEq, Repr

inductive EtatPartie
  | enJeu
  | dead
  | finWin
  | finLose
deriving DecidableEq, Repr

inductive Touche
  | haut
  | bas
  | gauche
  | droite
  | entree
  | q
  | autre
deriving DecidableEq, Repr

structure CellBateauT where
  x : Int
  y : Int
  status : Status
deriving DecidableEq, Repr

structure ReqT where
  id : Int
  nom : CString.Buf 100
  infos : CString.Buf 1000
deriving DecidableEq

structure SocketT where
  fd : Int
  mode : Int
deriving DecidableEq, Repr

abbrev Cells := Arr 50 (Arr 50 Status)

def Cells.get (p : Cells) (y x : Int) : Option Status := do
  let row ← CArray.get p y
  CArray.get row x

def Cells.set (p : Cells) (y x : Int) (s : Status) : Option Cells := do
  let row ← CArray.get p y
  let row' ← CArray.set row x s
  CArray.set p y row'

def Cells.update (p : Cells) (y x : Fin 50) (s : Status) : Cells :=
  fun i j => if i = y ∧ j = x then s else p i j

@[simp] theorem Cells.get_fin (p : Cells) (y x : Fin 50) :
    p.get (y.val : Int) (x.val : Int) = some (p y x) := by
  simp [Cells.get]

@[simp] theorem Cells.set_fin (p : Cells) (y x : Fin 50) (s : Status) :
    p.set (y.val : Int) (x.val : Int) s = some (p.update y x s) := by
  have h : Function.update p y (Function.update (p y) x s) = p.update y x s := by
    funext i j
    by_cases hi : i = y
    · subst hi
      by_cases hj : j = x <;> simp [Cells.update, hj]
    · simp [Cells.update, hi]
  simp [Cells.set, h]

theorem Cells.set_eq_some {p q : Cells} {y x : Int} {s : Status} :
    p.set y x s = some q ↔
      ∃ i j : Fin 50, y = (i.val : Int) ∧ x = (j.val : Int) ∧ q = p.update i j s := by
  constructor
  · intro h
    simp only [Cells.set, Option.bind_eq_bind, Option.bind_eq_some_iff] at h
    obtain ⟨row, hrow, row', hrow', hq⟩ := h
    obtain ⟨i, rfl, rfl⟩ := CArray.get_eq_some.mp hrow
    obtain ⟨j, rfl, rfl⟩ := CArray.set_eq_some.mp hrow'
    refine ⟨i, j, rfl, rfl, ?_⟩
    have := Cells.set_fin p i j s
    simp only [Cells.set, Option.bind_eq_bind, hrow, Option.bind_some, hrow'] at this
    rw [this] at hq
    exact (Option.some.inj hq).symm
  · rintro ⟨i, j, rfl, rfl, rfl⟩
    exact Cells.set_fin p i j s

def Cells.lire (p : Cells) (y x : Nat) : Status :=
  if h : y < 50 ∧ x < 50 then p ⟨y, h.1⟩ ⟨x, h.2⟩ else .empty

theorem Cells.get_lire (p : Cells) {y x : Nat} (hy : y < 50) (hx : x < 50) :
    p.get (y : Int) (x : Int) = some (Cells.lire p y x) := by
  simpa [Cells.lire, hy, hx] using Cells.get_fin p ⟨y, hy⟩ ⟨x, hx⟩

@[simp] theorem Cells.lire_fin (p : Cells) (y x : Fin 50) : Cells.lire p y.val x.val = p y x := by
  simp [Cells.lire]

namespace Serveur

structure BateauT where
  cell : Arr 10 CellBateauT
  taille : Int

structure BoardT where
  cell : Cells
  bateaux : Arr 100 BateauT
  nbBateau : Int

structure ClientT where
  id : Int
  pseudo : CString.Buf 100
  socket : SocketT

structure GameT where
  players : Arr 100 ClientT
  nbJoueur : Int
  maxJoueur : Int
  plateau : BoardT
  taillePlateau : Int
  tailleBateau : Int
  timeout : Int
  affchageBateau : Bool
  etat : Int

end Serveur

namespace Client

structure BateauT where
  cell : Arr 10 CellBateauT

structure GameT where
  nbJoueur : Int
  plateau : Cells
  taillePlateau : Int
  bateau : BateauT
  tailleBateau : Int
  timeout : Int
  etat : EtatPartie

end Client

end Bnbr
