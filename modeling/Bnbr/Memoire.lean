import Bnbr.Plateau

namespace Bnbr.Serveur

open CArray CString

-- a game_t as its bytes give it: an indeterminate status is any integer
structure CellBateauBrut where
  x : Int
  y : Int
  status : Int

structure BateauBrut where
  cell : Arr 10 CellBateauBrut
  taille : Int

structure PlateauBrut where
  cell : Arr 50 (Arr 50 Int)
  bateaux : Arr 100 BateauBrut
  nbBateau : Int

structure MemoireT where
  players : Arr 100 ClientT
  nbJoueur : Int
  maxJoueur : Int
  plateau : PlateauBrut
  taillePlateau : Int
  tailleBateau : Int
  timeout : Int
  affchageBateau : Bool
  etat : Int

def statutDe (horsEnum : Int → Status) (v : Int) : Status :=
  if v = 0 then .empty
  else if v = 1 then .missedShot
  else if v = 2 then .hitShot
  else if v = 3 then .boat
  else horsEnum v

def PlateauBrut.lire (horsEnum : Int → Status) (p : PlateauBrut) : BoardT where
  cell := fun y x => statutDe horsEnum (p.cell y x)
  bateaux := fun i => ⟨fun j => ⟨((p.bateaux i).cell j).x, ((p.bateaux i).cell j).y,
    statutDe horsEnum ((p.bateaux i).cell j).status⟩, (p.bateaux i).taille⟩
  nbBateau := p.nbBateau

def MemoireT.game (horsEnum : Int → Status) (m : MemoireT) : GameT where
  players := m.players
  nbJoueur := m.nbJoueur
  maxJoueur := m.maxJoueur
  plateau := m.plateau.lire horsEnum
  taillePlateau := m.taillePlateau
  tailleBateau := m.tailleBateau
  timeout := m.timeout
  affchageBateau := m.affchageBateau
  etat := m.etat

def initGame (memoire : MemoireT) : MemoireT :=
  { memoire with
    maxJoueur := 2
    taillePlateau := 11
    tailleBateau := 5
    timeout := 15
    nbJoueur := 0
    etat := 0
    affchageBateau := true }

structure Parametrage where
  parametre : Int
  game : MemoireT

def MemoireT.reduireBateau (g : MemoireT) : MemoireT :=
  if g.taillePlateau < 2 * g.tailleBateau then { g with tailleBateau := g.taillePlateau / 2 } else g

def MemoireT.agrandirPlateau (g : MemoireT) : MemoireT :=
  if g.taillePlateau < 2 * g.tailleBateau then { g with taillePlateau := g.tailleBateau * 2 } else g

def MemoireT.baisser (g : MemoireT) (parametre : Int) : MemoireT :=
  if parametre = 0 then (if g.maxJoueur > 2 then { g with maxJoueur := g.maxJoueur - 1 } else g)
  else if parametre = 1 then
    (if g.taillePlateau > 4 then { g with taillePlateau := g.taillePlateau - 1 } else g).reduireBateau
  else if parametre = 2 then (if g.tailleBateau > 2 then { g with tailleBateau := g.tailleBateau - 1 } else g)
  else if parametre = 3 then (if g.timeout > 5 then { g with timeout := g.timeout - 1 } else g)
  else if parametre = 4 then { g with affchageBateau := !g.affchageBateau }
  else g

def MemoireT.monter (g : MemoireT) (parametre : Int) : MemoireT :=
  if parametre = 0 then (if g.maxJoueur < 100 then { g with maxJoueur := g.maxJoueur + 1 } else g)
  else if parametre = 1 then
    (if g.taillePlateau < 50 then { g with taillePlateau := g.taillePlateau + 1 } else g).reduireBateau
  else if parametre = 2 then
    (if g.tailleBateau < 10 then { g with tailleBateau := g.tailleBateau + 1 } else g).agrandirPlateau
  else if parametre = 3 then { g with timeout := g.timeout + 1 }
  else if parametre = 4 then { g with affchageBateau := !g.affchageBateau }
  else g

-- Enter plays a game on a copy: attente_joueur takes the structure by value
def Parametrage.touche (p : Parametrage) : Touche → Option Parametrage
  | .haut => some (if p.parametre > 0 then { p with parametre := p.parametre - 1 } else p)
  | .bas => some (if p.parametre < 4 then { p with parametre := p.parametre + 1 } else p)
  | .gauche => some { p with game := p.game.baisser p.parametre }
  | .droite => some { p with game := p.game.monter p.parametre }
  | .entree => some p
  | .q => none
  | .autre => some p

def menuParametrageGame (memoire : MemoireT) (touches : List Touche) : Option Parametrage :=
  touches.foldlM Parametrage.touche ⟨0, initGame memoire⟩

structure MemoireT.Parametree (m : MemoireT) : Prop where
  joueurs : 2 ≤ m.maxJoueur
  joueurs_le : m.maxJoueur ≤ 100
  plateau : 4 ≤ m.taillePlateau
  plateau_le : m.taillePlateau ≤ 50
  bateau : 2 ≤ m.tailleBateau
  bateau_le : m.tailleBateau ≤ 10
  place : 2 * m.tailleBateau ≤ m.taillePlateau

theorem initGame_parametree (m : MemoireT) : (initGame m).Parametree := by
  constructor <;> simp [initGame]

theorem MemoireT.Parametree.baisser {m : MemoireT} (h : m.Parametree) (parametre : Int) :
    (m.baisser parametre).Parametree := by
  obtain ⟨h1, h2, h3, h4, h5, h6, h7⟩ := h
  unfold MemoireT.baisser MemoireT.reduireBateau
  split_ifs <;> constructor <;> (try dsimp only at *) <;> omega

theorem MemoireT.Parametree.monter {m : MemoireT} (h : m.Parametree) (parametre : Int) :
    (m.monter parametre).Parametree := by
  obtain ⟨h1, h2, h3, h4, h5, h6, h7⟩ := h
  unfold MemoireT.monter MemoireT.reduireBateau MemoireT.agrandirPlateau
  split_ifs <;> constructor <;> (try dsimp only at *) <;> omega

theorem Parametrage.touche_parametree {p p' : Parametrage} {t : Touche} (hp : p.game.Parametree)
    (h : p.touche t = some p') : p'.game.Parametree := by
  cases t with
  | haut =>
    obtain rfl := Option.some.inj h
    split <;> exact hp
  | bas =>
    obtain rfl := Option.some.inj h
    split <;> exact hp
  | gauche => exact Option.some.inj h ▸ hp.baisser p.parametre
  | droite => exact Option.some.inj h ▸ hp.monter p.parametre
  | entree => exact Option.some.inj h ▸ hp
  | q => cases h
  | autre => exact Option.some.inj h ▸ hp

theorem touches_parametree {p p' : Parametrage} {touches : List Touche} (hp : p.game.Parametree)
    (h : touches.foldlM Parametrage.touche p = some p') : p'.game.Parametree :=
  Loop.foldlM_invariant (fun p => p.game.Parametree) (fun _ _ _ hp hu => Parametrage.touche_parametree hp hu) hp h

theorem menuParametrageGame_parametree {m : MemoireT} {touches : List Touche} {p : Parametrage}
    (h : menuParametrageGame m touches = some p) : p.game.Parametree := touches_parametree (initGame_parametree m) h

-- the players and the board pass through the menu as they are, and no setting depends on them
def MemoireT.sur (g m : MemoireT) : MemoireT := { g with players := m.players, plateau := m.plateau }

theorem MemoireT.reduireBateau_sur (g m : MemoireT) : g.reduireBateau.sur m = (g.sur m).reduireBateau := by
  simp only [reduireBateau, apply_ite fun g : MemoireT => g.sur m]
  rfl

theorem MemoireT.agrandirPlateau_sur (g m : MemoireT) : g.agrandirPlateau.sur m = (g.sur m).agrandirPlateau := by
  simp only [agrandirPlateau, apply_ite fun g : MemoireT => g.sur m]
  rfl

theorem MemoireT.baisser_sur (g m : MemoireT) (parametre : Int) :
    (g.baisser parametre).sur m = (g.sur m).baisser parametre := by
  simp only [baisser, apply_ite fun g : MemoireT => g.sur m, reduireBateau_sur]
  rfl

theorem MemoireT.monter_sur (g m : MemoireT) (parametre : Int) :
    (g.monter parametre).sur m = (g.sur m).monter parametre := by
  simp only [monter, apply_ite fun g : MemoireT => g.sur m, reduireBateau_sur, agrandirPlateau_sur]
  rfl

def Parametrage.sur (p : Parametrage) (m : MemoireT) : Parametrage := { p with game := p.game.sur m }

theorem Parametrage.touche_sur (p : Parametrage) (m : MemoireT) (t : Touche) :
    (p.sur m).touche t = (p.touche t).map fun p => p.sur m := by
  cases t with
  | haut =>
    simp only [touche, Option.map_some, apply_ite fun p : Parametrage => p.sur m]
    rfl
  | bas =>
    simp only [touche, Option.map_some, apply_ite fun p : Parametrage => p.sur m]
    rfl
  | gauche => simp only [touche, sur, Option.map_some, MemoireT.baisser_sur]
  | droite => simp only [touche, sur, Option.map_some, MemoireT.monter_sur]
  | entree => rfl
  | q => rfl
  | autre => rfl

theorem touches_sur (p : Parametrage) (m : MemoireT) (touches : List Touche) :
    touches.foldlM Parametrage.touche (p.sur m) = (touches.foldlM Parametrage.touche p).map fun p => p.sur m := by
  induction touches generalizing p with
  | nil => rfl
  | cons t touches ih =>
    simp only [List.foldlM_cons, Parametrage.touche_sur, Option.bind_eq_bind]
    cases p.touche t with
    | none => rfl
    | some u => exact ih u

theorem menuParametrageGame_sur (m m' : MemoireT) (touches : List Touche) :
    menuParametrageGame m' touches = (menuParametrageGame m touches).map fun p => p.sur m' :=
  touches_sur ⟨0, initGame m⟩ m' touches

end Bnbr.Serveur
