import Bnbr.Collecte
import Bnbr.Decodage
import Bnbr.Ecran

namespace Bnbr.Client

open CString Decimal Scanf Serveur

structure Lire (q : Requete) (r : ReqT) : Prop where
  id : r.id = q.id
  -- a request without a terminator in infos (a board of 32x32 or more) arrives with any content
  contenu : ∀ h : q.Valide, ∃ avant, r = Client.livrer q h avant

inductive Point
  | inscription
  | attentePartie
  | accuseInfos (reception : ReqT)
  | attenteBateaux
  | choix
  | menu
  | attenteAccuse
  | plateau
  | accusePlateau (reception : ReqT)
  | go
  | accuseGo
  | viser (x y : Int)
  | mort
  | attenteTir
  | etat
  | accuseEtat (etat : EtatPartie)
  | fini
  | erreur

def Point.rang : Point → Nat
  | .inscription => 0
  | .attentePartie => 1
  | .accuseInfos _ => 2
  | .attenteBateaux => 3
  | .choix => 4
  | .menu => 5
  | .attenteAccuse => 6
  | .plateau => 7
  | .accusePlateau _ => 8
  | .go => 9
  | .accuseGo => 10
  | .viser _ _ => 11
  | .mort => 12
  | .attenteTir => 13
  | .etat => 14
  | .accuseEtat _ => 15
  | .fini => 16
  | .erreur => 17

structure Poste where
  point : Point
  game : GameT
  x : Int
  y : Int
  direction : Char
  apercu : Apercu
  manche : Nat

inductive Action
  | prend (q : Requete)
  | envoie (q : Requete)
  | interne

def lireInfos (infos : List Char) (g : GameT) : GameT :=
  sscanf [.int (fun v g => { g with nbJoueur := toInt v }), .lit ';',
    .int (fun v g => { g with taillePlateau := toInt v }), .lit ';',
    .int (fun v g => { g with tailleBateau := toInt v }), .lit ';',
    .int (fun v g => { g with timeout := toInt v })] infos g

def initPlateau (g : GameT) : Option GameT := do
  let plateau ← vider g.taillePlateau.toNat g.plateau
  some { g with plateau := plateau }

def accuseMort : Requete := ⟨0, ['r', 'e', 'c', 'e', 'p', 't'], txtBlanc⟩

def apresEtat (etat : EtatPartie) (id : Int) : Option EtatPartie :=
  if id = 10 then some .finWin
  else if id = 9 then some .finLose
  else if id = 7 then some etat
  else if id = 8 then some .dead
  else none

def suite (etat : EtatPartie) : Point := if etat = .finWin ∨ etat = .finLose then .fini else .plateau

def Point.recoit : Point → Bool
  | .inscription => true
  | .attentePartie => true
  | .attenteBateaux => true
  | .attenteAccuse => true
  | .plateau => true
  | .go => true
  | .attenteTir => true
  | .etat => true
  | _ => false

def Poste.accepte (p : Poste) (id : Int) : Prop :=
  match p.point with
  | .inscription => id = 0
  | .attentePartie => id = 4
  | .attenteBateaux => id = 3
  | .attenteAccuse => id = 0
  | .plateau => id = 2
  | .go => p.game.etat = .enJeu → id = 5
  | .etat => (apresEtat p.game.etat id).isSome = true
  | _ => True

inductive Pas : Poste → Action → Poste → Prop
  -- main, attente_partie, envoyer_bateau
  | inscription {p : Poste} {q : Requete} {r : ReqT} (hp : p.point = .inscription) (hl : Lire q r) (hid : r.id = 0) :
      Pas p (.prend q) { p with point := .attentePartie }
  | attentePartie {p : Poste} {q : Requete} {r : ReqT} (hp : p.point = .attentePartie) (hl : Lire q r)
      (hid : r.id = 4) : Pas p (.prend q) { p with point := .accuseInfos r }
  | accuseInfos {p : Poste} {r : ReqT} {infos : List Char} {g : GameT} (hp : p.point = .accuseInfos r)
      (hi : r.infos.str = some infos) (hg : initPlateau (lireInfos infos p.game) = some g) :
      Pas p (.envoie accuse) { p with point := .attenteBateaux, game := g }
  | attenteBateaux {p : Poste} {q : Requete} {r : ReqT} (hp : p.point = .attenteBateaux) (hl : Lire q r)
      (hid : r.id = 3) : Pas p (.prend q) { p with point := .choix, x := 0, y := 0 }
  -- choix_bateau and menu_placer_bateau
  | choix {p : Poste} (t : Touche) (hp : p.point = .choix) (ht : t ≠ .entree) :
      Pas p .interne { p with
        x := (deplacer p.game.taillePlateau t p.x p.y).1
        y := (deplacer p.game.taillePlateau t p.x p.y).2 }
  | entrer {p : Poste} {a : Apercu} (pile : Cells) (hp : p.point = .choix)
      (ha : afficherPlateauPlacerBateau p.game pile p.x p.y 'd' = some a) :
      Pas p .interne { p with point := .menu, direction := a.direction, apercu := a }
  | menu {p : Poste} {a : Apercu} (pile : Cells) (t : Touche) (hp : p.point = .menu) (ht : t ≠ .entree ∧ t ≠ .q)
      (ha : afficherPlateauPlacerBateau p.game pile p.x p.y (orienter t p.direction) = some a) :
      Pas p .interne { p with direction := a.direction, apercu := a }
  | quitter {p : Poste} {a : Apercu} (pile : Cells) (hp : p.point = .menu)
      (ha : afficherPlateauPlacerBateau p.game pile p.x p.y p.direction = some a) :
      Pas p .interne { p with point := .choix, direction := a.direction, apercu := a }
  | placer {p : Poste} {g : GameT} (hp : p.point = .menu) (hg : enregistrer p.game p.x p.y p.direction = some g) :
      Pas p (.envoie (requeteBateau p.x p.y p.direction)) { p with point := .attenteAccuse, game := g }
  | attenteAccuse {p : Poste} {q : Requete} {r : ReqT} (hp : p.point = .attenteAccuse) (hl : Lire q r)
      (hid : r.id = 0) : Pas p (.prend q) { p with point := .plateau, game := { p.game with etat := .enJeu } }
  -- jouer_partie: recevoir_plateau, then jouer_coup or the exchange of a sunk player
  | plateau {p : Poste} {q : Requete} {r : ReqT} (hp : p.point = .plateau) (hl : Lire q r) (hid : r.id = 2) :
      Pas p (.prend q) { p with point := .accusePlateau r }
  | accusePlateau {p : Poste} {r : ReqT} (pile cells : Cells) (hp : p.point = .accusePlateau r)
      (hd : ∀ g, decodePlateau p.game pile r.infos = some g → cells = g.plateau) :
      Pas p (.envoie accuse) { p with point := .go, game := { p.game with plateau := cells } }
  | go {p : Poste} {q : Requete} {r : ReqT} (hp : p.point = .go) (he : p.game.etat = .enJeu) (hl : Lire q r)
      (hid : r.id = 5) : Pas p (.prend q) { p with point := .accuseGo }
  | goMort {p : Poste} {q : Requete} (hp : p.point = .go) (he : p.game.etat ≠ .enJeu) :
      Pas p (.prend q) { p with point := .accuseGo }
  | accuseGo {p : Poste} (hp : p.point = .accuseGo) (he : p.game.etat = .enJeu) :
      Pas p (.envoie accuse) { p with point := .viser 0 0 }
  | accuseGoMort {p : Poste} (hp : p.point = .accuseGo) (he : p.game.etat ≠ .enJeu) :
      Pas p (.envoie accuseMort) { p with point := .mort }
  | viser {p : Poste} {x y : Int} (t : Touche) (hp : p.point = .viser x y) :
      Pas p .interne { p with
        point := .viser (deplacer p.game.taillePlateau t x y).1 (deplacer p.game.taillePlateau t x y).2 }
  | tirer {p : Poste} {x y : Int} (hp : p.point = .viser x y) :
      Pas p (.envoie (requeteTir x y)) { p with point := .attenteTir }
  | mort {p : Poste} (hp : p.point = .mort) : Pas p (.envoie requeteMort) { p with point := .attenteTir }
  | attenteTir {p : Poste} {q : Requete} (hp : p.point = .attenteTir) : Pas p (.prend q) { p with point := .etat }
  -- recevoir_etat
  | etat {p : Poste} {q : Requete} {r : ReqT} {e : EtatPartie} (hp : p.point = .etat) (hl : Lire q r)
      (he : apresEtat p.game.etat r.id = some e) : Pas p (.prend q) { p with point := .accuseEtat e }
  | accuseEtat {p : Poste} {e : EtatPartie} (hp : p.point = .accuseEtat e) :
      Pas p (.envoie accuse)
        { p with point := suite e, game := { p.game with etat := e }, manche := p.manche + 1 }
  -- the branches that print "Erreur de reception"
  | erreur {p : Poste} {q : Requete} {r : ReqT} (hr : p.point.recoit = true) (hl : Lire q r)
      (ha : ¬ p.accepte r.id) : Pas p (.prend q) { p with point := .erreur }

end Bnbr.Client
