import Bnbr.Clib.Accesses
import Bnbr.Ecran

namespace Bnbr.Client

open CArray Serveur Logged

structure CaseEcran where
  texte : List Char
  couleur : Option Nat
  inverse : Bool
deriving DecidableEq, Repr

def txtRate : List Char := ['[', 'o', ']']

def txtTouche : List Char := ['[', 'x', ']']

def txtVide : List Char := ['[', ' ', ']']

def txtNavire : List Char := ['[', 'B', ']']

def afficherCase (curseur : Bool) : Status → CaseEcran
  | .missedShot => ⟨txtRate, some 4, curseur⟩
  | .hitShot => ⟨txtTouche, some 6, curseur⟩
  | .empty => ⟨txtVide, some 5, curseur⟩
  | .boat => ⟨txtNavire, some 2, curseur⟩

def afficherPlateau (g : GameT) (cursorX cursorY : Int) : Option (List (List CaseEcran)) :=
  Loop.collect g.taillePlateau.toNat fun i => Loop.collect g.taillePlateau.toNat fun j =>
    (g.plateau.get i j).map (afficherCase (cursorX = j ∧ cursorY = i))

-- afficher_plateau_placer_bateau, each index (line, column) of the board it uses being noted
def viderNote (n : Nat) (plateau : Cells) : Logged (Int × Int) Cells :=
  loop n (fun i => loop n (fun j plateau => use ((i : Int), (j : Int)) (plateau.set i j .empty))) plateau

def dessinerNote (taille : Int) (x y : Nat → Int) (a : Apercu) : Logged (Int × Int) Apercu :=
  loop taille.toNat (fun i a => do
    let plateau ← use (y i, x i) (a.plateau.set (y i) (x i) .boat)
    pure { a with plateau := plateau, dessin := a.dessin ++ [(x i, y i)] }) a

def apercuNote (g : GameT) (plateau : Cells) (x y : Int) (direction : Char) : Logged (Int × Int) Apercu :=
  if direction = 'h' then
    if y ≥ g.tailleBateau - 1 then dessinerNote g.tailleBateau (fun _ => x) (fun i => y - i) ⟨'h', plateau, []⟩
    else dessinerNote g.tailleBateau (fun _ => x) (fun i => y + i) ⟨'b', plateau, []⟩
  else if direction = 'b' then
    if y ≤ g.taillePlateau - g.tailleBateau then
      dessinerNote g.tailleBateau (fun _ => x) (fun i => y + i) ⟨'b', plateau, []⟩
    else dessinerNote g.tailleBateau (fun _ => x) (fun i => y - i) ⟨'h', plateau, []⟩
  else if direction = 'g' then
    if x ≥ g.tailleBateau - 1 then dessinerNote g.tailleBateau (fun i => x - i) (fun _ => y) ⟨'g', plateau, []⟩
    else dessinerNote g.tailleBateau (fun i => x + i) (fun _ => y) ⟨'d', plateau, []⟩
  else if direction = 'd' then
    if x ≤ g.taillePlateau - g.tailleBateau then
      dessinerNote g.tailleBateau (fun i => x + i) (fun _ => y) ⟨'d', plateau, []⟩
    else dessinerNote g.tailleBateau (fun i => x - i) (fun _ => y) ⟨'g', plateau, []⟩
  else pure ⟨direction, plateau, []⟩

def afficherCasePlacement : Status → CaseEcran
  | .boat => ⟨txtNavire, none, true⟩
  | _ => ⟨txtVide, some 5, false⟩

def afficherCasesNote (n : Nat) (plateau : Cells) : Logged (Int × Int) (List (List CaseEcran)) :=
  collect n fun i => collect n fun j => do
    let s ← use ((i : Int), (j : Int)) (plateau.get i j)
    pure (afficherCasePlacement s)

def afficherPlateauPlacerBateauNote (g : GameT) (plateau : Cells) (x y : Int) (direction : Char) :
    Logged (Int × Int) (Apercu × List (List CaseEcran)) := do
  let plateau ← viderNote g.taillePlateau.toNat plateau
  let a ← apercuNote g plateau x y direction
  let lignes ← afficherCasesNote g.taillePlateau.toNat a.plateau
  pure (a, lignes)

theorem viderNote_value (n : Nat) (plateau : Cells) : (viderNote n plateau).value = vider n plateau := by
  simp only [viderNote, vider, value_loop, value_use]

theorem dessinerNote_value (taille : Int) (x y : Nat → Int) (a : Apercu) :
    (dessinerNote taille x y a).value = dessiner taille x y a := by
  simp only [dessinerNote, dessiner, value_loop, value_bind, value_use, value_pure, Option.bind_eq_bind]

theorem apercuNote_value (g : GameT) (plateau : Cells) (x y : Int) (direction : Char) :
    (viderNote g.taillePlateau.toNat plateau >>= fun plateau => apercuNote g plateau x y direction).value =
      afficherPlateauPlacerBateau g plateau x y direction := by
  simp only [value_bind, viderNote_value, apercuNote, value_ite, dessinerNote_value, value_pure,
    afficherPlateauPlacerBateau, Option.bind_eq_bind]

theorem afficherCasesNote_value {n : Nat} (hn : n ≤ 50) (plateau : Cells) :
    (afficherCasesNote n plateau).value = some ((List.range n).map fun i => (List.range n).map fun j =>
      afficherCasePlacement (Cells.lire plateau i j)) := by
  simp only [afficherCasesNote, value_collect, value_bind, value_use, value_pure]
  refine Loop.collect_eq_some fun i hi => Loop.collect_eq_some fun j hj => ?_
  rw [Cells.get_lire plateau (by omega) (by omega), Option.bind_some]

theorem afficherPlateauPlacerBateauNote_value (g : GameT) (plateau : Cells) (x y : Int) (direction : Char) :
    (afficherPlateauPlacerBateauNote g plateau x y direction).value =
      (afficherPlateauPlacerBateau g plateau x y direction).bind fun a =>
        (afficherCasesNote g.taillePlateau.toNat a.plateau).value.map fun lignes => (a, lignes) := by
  rw [← apercuNote_value]
  simp only [afficherPlateauPlacerBateauNote, value_bind, value_pure, Option.bind_assoc, Option.map_eq_bind,
    Function.comp_def]

theorem afficherPlateau_spec {g : GameT} (hn : g.taillePlateau ≤ 50) (cursorX cursorY : Int) :
    afficherPlateau g cursorX cursorY = some ((List.range g.taillePlateau.toNat).map fun i : Nat =>
      (List.range g.taillePlateau.toNat).map fun j : Nat =>
        afficherCase (cursorX = j ∧ cursorY = i) (Cells.lire g.plateau i j)) := by
  refine Loop.collect_eq_some fun i hi => Loop.collect_eq_some fun j hj => ?_
  rw [Cells.get_lire g.plateau (by omega) (by omega), Option.map_some]

end Bnbr.Client
