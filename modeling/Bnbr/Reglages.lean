import Bnbr.Memoire
import Bnbr.Pose

namespace Bnbr.Serveur

open CArray CString
open Client (Loge)

-- the games given to attente_joueur, one for each Enter
def Parametrage.lancees : Parametrage → List Touche → List MemoireT
  | _, [] => []
  | p, t :: touches =>
    (if t = .entree then [p.game] else []) ++
      match p.touche t with
      | some p' => p'.lancees touches
      | none => []

structure Parametrage.Regle (p : Parametrage) : Prop where
  bas : 0 ≤ p.parametre
  haut : p.parametre ≤ 4
  game : p.game.Parametree

theorem Parametrage.Regle.touche {p p' : Parametrage} {t : Touche} (hp : p.Regle) (h : p.touche t = some p') :
    p'.Regle := by
  have hb := hp.bas
  have hh := hp.haut
  have hg := Parametrage.touche_parametree hp.game h
  cases t with
  | haut =>
    obtain rfl := Option.some.inj h
    split
    · exact ⟨show 0 ≤ p.parametre - 1 by omega, show p.parametre - 1 ≤ 4 by omega, hp.game⟩
    · exact hp
  | bas =>
    obtain rfl := Option.some.inj h
    split
    · exact ⟨show 0 ≤ p.parametre + 1 by omega, show p.parametre + 1 ≤ 4 by omega, hp.game⟩
    · exact hp
  | gauche =>
    obtain rfl := Option.some.inj h
    exact ⟨hb, hh, hg⟩
  | droite =>
    obtain rfl := Option.some.inj h
    exact ⟨hb, hh, hg⟩
  | entree =>
    obtain rfl := Option.some.inj h
    exact hp
  | q => cases h
  | autre =>
    obtain rfl := Option.some.inj h
    exact hp

theorem Parametrage.Regle.touches {p p' : Parametrage} {touches : List Touche} (hp : p.Regle)
    (h : touches.foldlM Parametrage.touche p = some p') : p'.Regle :=
  Loop.foldlM_invariant Parametrage.Regle (fun _ _ _ hp hu => hp.touche hu) hp h

theorem Parametrage.Regle.lancees {p : Parametrage} (hp : p.Regle) {touches : List Touche} {g : MemoireT}
    (hg : g ∈ p.lancees touches) : g.Parametree := by
  induction touches generalizing p with
  | nil => cases hg
  | cons t touches ih =>
    rcases List.mem_append.mp hg with hg | hg
    · split at hg
      · exact List.mem_singleton.mp hg ▸ hp.game
      · cases hg
    · split at hg
      · rename_i p' hp'
        exact ih (hp.touche hp') hg
      · cases hg

theorem Parametrage.Regle.depart (m : MemoireT) : Parametrage.Regle ⟨0, initGame m⟩ :=
  ⟨le_refl 0, Int.le_of_lt (by decide : (0 : Int) < 4), initGame_parametree m⟩

structure PlacePartout (n taille : Int) : Prop where
  vertical : ∀ x y, Dans n (x, y) → Loge n taille x y 'h' ∨ Loge n taille x y 'b'
  horizontal : ∀ x y, Dans n (x, y) → Loge n taille x y 'g' ∨ Loge n taille x y 'd'

-- half the board is free on one side of the cursor
theorem placePartout {n taille : Int} (h : 2 * taille ≤ n) : PlacePartout n taille where
  vertical := by
    rintro x y ⟨h0, h1, h2, h3⟩
    by_cases hy : y ≥ taille - 1
    · exact .inl ⟨(0, -1), rfl, fun k hk => by simp only [Dans, kieme]; omega⟩
    · exact .inr ⟨(0, 1), rfl, fun k hk => by simp only [Dans, kieme]; omega⟩
  horizontal := by
    rintro x y ⟨h0, h1, h2, h3⟩
    by_cases hx : x ≥ taille - 1
    · exact .inl ⟨(-1, 0), rfl, fun k hk => by simp only [Dans, kieme]; omega⟩
    · exact .inr ⟨(1, 0), rfl, fun k hk => by simp only [Dans, kieme]; omega⟩

theorem reglages_tenus (m : MemoireT) (touches : List Touche) :
    (∀ p, menuParametrageGame m touches = some p → p.Regle) ∧
    ∀ g ∈ Parametrage.lancees ⟨0, initGame m⟩ touches, g.Parametree ∧ PlacePartout g.taillePlateau g.tailleBateau := by
  refine ⟨fun p h => (Parametrage.Regle.depart m).touches h, fun g hg => ?_⟩
  have hp := (Parametrage.Regle.depart m).lancees hg
  exact ⟨hp, placePartout hp.place⟩

def memoireVierge : MemoireT where
  players := fun _ => ⟨0, Buf.fill 100 'x', ⟨0, 0⟩⟩
  nbJoueur := 7
  maxJoueur := -1
  plateau := ⟨fun _ _ => 9, fun _ => ⟨fun _ => ⟨0, 0, 9⟩, 0⟩, 0⟩
  taillePlateau := 0
  tailleBateau := 0
  timeout := 0
  affchageBateau := false
  etat := 5

theorem reglages_tenus_dix : ∃ p, menuParametrageGame memoireVierge [.bas, .gauche, .entree] = some p ∧
    p.game.taillePlateau = 10 ∧ p.Regle ∧ PlacePartout 10 5 := by
  obtain ⟨hr, hl⟩ := reglages_tenus memoireVierge [.bas, .gauche, .entree]
  have hg := hl ((initGame memoireVierge).baisser 1) (by simp [Parametrage.lancees, Parametrage.touche])
  exact ⟨_, rfl, by decide, hr _ rfl, hg.2⟩

end Bnbr.Serveur
