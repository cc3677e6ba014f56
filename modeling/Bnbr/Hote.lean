import Bnbr.Partie
import Bnbr.Validation

namespace Bnbr.Serveur

open CArray CString Decimal Scanf

def txtInfos : List Char := ['i', 'n', 'f', 'o', 's']

def requeteInfos (g : GameT) : Requete :=
  ⟨4, txtInfos, print g.nbJoueur ++ ';' :: (print g.taillePlateau ++ ';' :: (print g.tailleBateau ++
    ';' :: print g.timeout))⟩

structure GameT.Entiers (g : GameT) : Prop where
  nbJoueur : InInt g.nbJoueur
  taillePlateau : InInt g.taillePlateau
  tailleBateau : InInt g.tailleBateau
  timeout : InInt g.timeout

theorem requeteInfos_length {g : GameT} (h : g.Entiers) : (requeteInfos g).infos.length ≤ 47 := by
  have l1 := h.nbJoueur.print_length
  have l2 := h.taillePlateau.print_length
  have l3 := h.tailleBateau.print_length
  have l4 := h.timeout.print_length
  simp only [requeteInfos, List.length_append, List.length_cons]
  omega

theorem requeteInfos_valide {g : GameT} (h : g.Entiers) : (requeteInfos g).Valide := by
  have hl := requeteInfos_length h
  have hs : nul ≠ ';' := by decide
  apply Requete.valide_court (by decide) (by decide) (by decide) (by decide) (by decide)
  · simp only [List.mem_append, List.mem_cons, not_or]
    exact ⟨nul_notMem_print _, hs, nul_notMem_print _, hs, nul_notMem_print _, hs, nul_notMem_print _⟩
  · simp only [requeteInfos] at hl
    omega

-- the loops of lancement_partie that send each player a request and wait for its answer
inductive Boucle
  | infos
  | plateau (s : List Char)
  | go
  | etat (q : Nat → Option Requete)

def Boucle.requete (g : GameT) (i : Nat) : Boucle → Option Requete
  | .infos => some (requeteInfos g)
  | .plateau s => some (requetePlateau s)
  | .go => some requeteGo
  | .etat q => q i

inductive Point
  | envoi (b : Boucle) (i : Nat)
  | accuse (b : Boucle) (i : Nat)
  | demande (i : Nat)
  | collecte (j nbBateauxRecu : Int) (envois : List (Int × List Char))
  | bateau (j nbBateauxRecu : Int) (envois : List (Int × List Char)) (q : Requete)
  | touche
  | boucle
  | tir (i : Nat)
  | tirRecu (i : Nat) (q : Requete)
  | fini

def Boucle.suite : Boucle → Point
  | .infos => .demande 0
  | .plateau _ => .envoi .go 0
  | .go => .tir 0
  | .etat _ => .boucle

def Boucle.termine : Boucle → Nat
  | .etat _ => 1
  | _ => 0

structure Poste where
  point : Point
  game : GameT
  manche : Nat
  verdicts : List GameT
  finEnvoyee : Bool
  depasse : Bool

inductive Action
  | prend (i : Nat) (q : Requete)
  | envoie (i : Nat) (q : Requete)
  | interne

abbrev Poste.collecte (p : Poste) (j nbBateauxRecu : Int) (envois : List (Int × List Char)) : Collecte :=
  ⟨p.game, j, nbBateauxRecu, envois⟩

abbrev estFin (q : Requete) : Bool := decide (q.id = 9 ∨ q.id = 10)

inductive Pas : Poste → Action → Poste → Prop
  -- envoyer_infos_partie, envoyer_plateau, the go loop and verifier_fin_partie
  | envoi {p : Poste} {b : Boucle} {i : Nat} {q : Requete} (hp : p.point = .envoi b i)
      (hi : (i : Int) < p.game.nbJoueur) (hq : b.requete p.game i = some q) :
      Pas p (.envoie i q) { p with point := .accuse b i, finEnvoyee := p.finEnvoyee || estFin q }
  | accuse {p : Poste} {b : Boucle} {i : Nat} (q : Requete) (hp : p.point = .accuse b i) :
      Pas p (.prend i q) { p with point := .envoi b (i + 1) }
  | suite {p : Poste} {b : Boucle} {i : Nat} (hp : p.point = .envoi b i) (hi : ¬ (i : Int) < p.game.nbJoueur) :
      Pas p .interne { p with point := b.suite, manche := p.manche + b.termine }
  -- recevoir_bateaux
  | demande {p : Poste} {i : Nat} (hp : p.point = .demande i) (hi : (i : Int) < p.game.nbJoueur) :
      Pas p (.envoie i demandeBateaux) { p with point := .demande (i + 1) }
  | collecter {p : Poste} {i : Nat} (hp : p.point = .demande i) (hi : ¬ (i : Int) < p.game.nbJoueur) :
      Pas p .interne { p with point := .collecte 0 0 [] }
  | sonder {p : Poste} {j n : Int} {envois : List (Int × List Char)} {t : Tour} {c : Collecte}
      (hp : p.point = .collecte j n envois) (hf : ¬ (p.collecte j n envois).fini)
      (ht : t.sondage = .rien ∨ t.sondage = .erreur) (hc : etape (p.collecte j n envois) t = some c) :
      Pas p .interne { p with point := .collecte c.j c.nbBateauxRecu c.envois, game := c.game }
  | bateau {p : Poste} {j n : Int} {envois : List (Int × List Char)} {i : Nat} (q : Requete)
      (hp : p.point = .collecte j n envois) (hf : ¬ (p.collecte j n envois).fini) (hi : j = (i : Int)) :
      Pas p (.prend i q) { p with point := .bateau j n envois q }
  | placer {p : Poste} {j n : Int} {envois : List (Int × List Char)} {i : Nat} {q : Requete} {c : Collecte}
      (pile : PileBateau) (hp : p.point = .bateau j n envois q) (hi : j = (i : Int)) (hq : q.Valide)
      (hc : etape (p.collecte j n envois) (Tour.message q hq pile) = some c) :
      Pas p (.envoie i accuseOk) { p with point := .collecte c.j c.nbBateauxRecu c.envois, game := c.game }
  | sortie {p : Poste} {j n : Int} {envois : List (Int × List Char)} (hp : p.point = .collecte j n envois)
      (hf : (p.collecte j n envois).fini) : Pas p .interne { p with point := .touche }
  -- lancement_partie
  | touche {p : Poste} (hp : p.point = .touche) : Pas p .interne { p with point := .boucle }
  | manche {p : Poste} {s : List Char} (hp : p.point = .boucle) (he : p.game.etat ≠ 2)
      (hs : textePlateau p.game = some s) :
      Pas p .interne { p with point := .envoi (.plateau s) 0, depasse := p.depasse || p.finEnvoyee }
  | fin {p : Poste} (hp : p.point = .boucle) (he : p.game.etat = 2) : Pas p .interne { p with point := .fini }
  | tir {p : Poste} {i : Nat} (q : Requete) (hp : p.point = .tir i) (hi : (i : Int) < p.game.nbJoueur) :
      Pas p (.prend i q) { p with point := .tirRecu i q }
  | tirRecu {p : Poste} {i : Nat} {q : Requete} {g : GameT} {ack : List Char} (pile : PileTir)
      (hp : p.point = .tirRecu i q) (hq : q.Valide)
      (hg : recevoirTir p.game pile (Lecture.entiere q hq) = some (g, ack)) :
      Pas p (.envoie i accuseOk) { p with point := .tir (i + 1), game := g }
  | verdict {p : Poste} {i : Nat} {g : GameT} {q : Nat → Option Requete} (hp : p.point = .tir i)
      (hi : ¬ (i : Int) < p.game.nbJoueur) (hq : choisirFin p.game = some (g, q)) :
      Pas p .interne { p with point := .envoi (.etat q) 0, game := g, verdicts := p.verdicts ++ [p.game] }

theorem Pas.deBoucle {p p' : Poste} (h : Pas p .interne p') (hp : p.point = .boucle) :
    (p.game.etat ≠ 2 ∧ ∃ s, p'.point = .envoi (.plateau s) 0 ∧ p'.game = p.game) ∨
    (p.game.etat = 2 ∧ p'.depasse = p.depasse) := by
  cases h with
  | manche _ he hs => exact .inl ⟨he, _, rfl, rfl⟩
  | fin _ he => exact .inr ⟨he, rfl⟩
  | _ => simp_all

theorem Pas.game {p p' : Poste} {a : Action} (h : Pas p a p') :
    p'.game = p.game ∨ (∃ j n envois, p.point = .collecte j n envois) ∨
    (∃ j n envois q, p.point = .bateau j n envois q) ∨
    (∃ i q hq pile ack, p.point = .tirRecu i q ∧
      recevoirTir p.game pile (Lecture.entiere q hq) = some (p'.game, ack)) ∨
    ∃ i q, p.point = .tir i ∧ choisirFin p.game = some (p'.game, q) := by
  cases h with
  | sonder hp => exact .inr (.inl ⟨_, _, _, hp⟩)
  | placer pile hp => exact .inr (.inr (.inl ⟨_, _, _, _, hp⟩))
  | tirRecu pile hp hq hg => exact .inr (.inr (.inr (.inl ⟨_, _, hq, pile, _, hp, hg⟩)))
  | verdict hp hi hq => exact .inr (.inr (.inr (.inr ⟨_, _, hp, hq⟩)))
  | _ => exact .inl rfl

theorem Pas.verdicts {p p' : Poste} {a : Action} (h : Pas p a p') :
    p'.verdicts = p.verdicts ∨ p'.verdicts = p.verdicts ++ [p.game] ∧ ∃ i, p.point = .tir i := by
  cases h with
  | verdict hp => exact .inr ⟨rfl, _, hp⟩
  | _ => exact .inl rfl

end Bnbr.Serveur
