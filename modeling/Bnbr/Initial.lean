import Bnbr.Attente
import Bnbr.Troncature
import Bnbr.Loyal

namespace Bnbr.Serveur

open CArray CString Decimal Runs

structure PlateauNul (m : MemoireT) (n : Int) : Prop where
  nbBateau : m.plateau.nbBateau = 0
  nul : ∀ y x : Fin 50, Dans n (coord y x) → m.plateau.cell y x = 0

theorem statutDe_vide {v : Int} : (∀ horsEnum, statutDe horsEnum v = .empty) ↔ v = 0 := by
  constructor
  · intro h
    by_contra h0
    have hb := h fun _ => .boat
    simp only [statutDe, h0, if_false] at hb
    split_ifs at hb
  · rintro rfl horsEnum
    rfl

theorem propre_iff_nul {m : MemoireT} : (∀ horsEnum, Propre (m.game horsEnum)) ↔ PlateauNul m m.taillePlateau := by
  constructor
  · intro h
    refine ⟨(h fun _ => .empty).nbBateau, fun y x hd => statutDe_vide.mp fun horsEnum => ?_⟩
    exact (h horsEnum).vide y x hd
  · intro h horsEnum
    exact ⟨h.nbBateau, fun y x hd => statutDe_vide.mpr (h.nul y x hd) horsEnum⟩

namespace Salon

variable {s s' : Salon} {e : Fait} {es : List Fait} {game game₁ game₂ : MemoireT}

-- the lobby only writes the players, their number and etat
structure Garde (m m' : MemoireT) : Prop where
  maxJoueur : m'.maxJoueur = m.maxJoueur
  plateau : m'.plateau = m.plateau
  taillePlateau : m'.taillePlateau = m.taillePlateau
  tailleBateau : m'.tailleBateau = m.tailleBateau
  timeout : m'.timeout = m.timeout

theorem Garde.refl (m : MemoireT) : Garde m m := ⟨rfl, rfl, rfl, rfl, rfl⟩

theorem Garde.trans {m m' m'' : MemoireT} (h : Garde m m') (h' : Garde m' m'') : Garde m m'' :=
  ⟨h'.maxJoueur.trans h.maxJoueur, h'.plateau.trans h.plateau, h'.taillePlateau.trans h.taillePlateau,
    h'.tailleBateau.trans h.tailleBateau, h'.timeout.trans h.timeout⟩

theorem Garde.joueur {m m' : MemoireT} {f : ClientT → Option ClientT} (h : m.joueur f = some m') : Garde m m' := by
  obtain ⟨k, joueur, -, -, rfl⟩ := MemoireT.joueur_eq_some h
  exact ⟨rfl, rfl, rfl, rfl, rfl⟩

theorem Pas.garde (h : Pas s e s') : Garde s.memoire s'.memoire := by
  cases h with
  | pseudo _ hm | socket _ hm | numero _ hm => exact .joueur hm
  | compte | lance => exact ⟨rfl, rfl, rfl, rfl, rfl⟩
  | _ => exact .refl _

theorem Trace.garde {P : Salon → Fait → Prop} (h : Trace (Under P Pas) (attenteJoueur game) es s) :
    Garde game s.memoire :=
  h.invariant (fun _ t => Garde game t.memoire) ⟨rfl, rfl, rfl, rfl, rfl⟩ fun _ _ _ _ _ ht hstep =>
    ht.trans hstep.2.garde

theorem Tenu.registres (h : Tenu s) (hp : s.point = .lancement) (hm : s.memoire.Parametree) (horsEnum : Int → Status) :
    Registres (s.memoire.game horsEnum) := by
  have hpt := h.point
  rw [hp] at hpt
  have hplace := h.registre.place
  have hmax := h.registre.max_le
  have h2 : 2 ≤ s.memoire.nbJoueur := h.eveil.lance hpt
  refine ⟨hm.plateau_le, ?_, hm.bateau_le, ?_, hplace.trans hmax, fun i hi => ?_⟩
  · exact (by decide : (1 : Int) ≤ 2).trans hm.bateau
  · exact (by decide : (1 : Int) ≤ 2).trans h2
  · obtain ⟨c, -, -, hid, -⟩ := h.registre.inscrit hi
    exact hid

-- whatever the memory held, the game starts from an empty board without a boat
def Net (game : MemoireT) : Prop :=
  ∀ es s horsEnum, Trace (Under Fait.Sur Pas) (attenteJoueur game) es s → s.point = .lancement →
    Propre (s.memoire.game horsEnum)

theorem net_iff (hg : Reglable game) : Net game ↔ PlateauNul game game.taillePlateau := by
  constructor
  · intro h
    obtain ⟨es, s, hrun, hp⟩ := lancer hg
    have hgarde := Trace.garde hrun
    have hn : PlateauNul s.memoire s.memoire.taillePlateau :=
      propre_iff_nul.mp fun horsEnum => h es s horsEnum (Trace.sur hrun) hp
    rw [hgarde.taillePlateau] at hn
    exact ⟨hgarde.plateau ▸ hn.nbBateau, hgarde.plateau ▸ hn.nul⟩
  · intro h es s horsEnum hrun hp
    have hgarde := Trace.garde hrun
    refine propre_iff_nul.mpr ⟨?_, ?_⟩ horsEnum
    · rw [hgarde.plateau]
      exact h.nbBateau
    · rw [hgarde.plateau, hgarde.taillePlateau]
      exact h.nul

theorem Tenu.entiers (h : Tenu s) (hp : s.point = .lancement) (hm : s.memoire.Parametree) (ht : InInt s.memoire.timeout)
    (horsEnum : Int → Status) : (s.memoire.game horsEnum).Entiers := by
  have hg := h.registres hp hm horsEnum
  have h1 := hg.joueurs
  have h2 := hg.joueurs_le
  have h3 := hg.plateau
  have h4 := hg.bateau
  have h5 := hg.bateau_le
  have h6 : 2 * (s.memoire.game horsEnum).tailleBateau ≤ (s.memoire.game horsEnum).taillePlateau := hm.place
  exact ⟨by simp only [InInt]; omega, by simp only [InInt]; omega, by simp only [InInt]; omega, ht⟩

theorem Garde.parametree {m m' : MemoireT} (h : Garde m m') (hm : m.Parametree) : m'.Parametree := by
  obtain ⟨h1, -, h2, h3, -⟩ := h
  obtain ⟨i1, i2, i3, i4, i5, i6, i7⟩ := hm
  constructor <;> omega

theorem Tenu.etat (h : Tenu s) (hp : s.point = .lancement) : s.memoire.etat = 1 := by
  have hpt := h.point
  rw [hp] at hpt
  exact hpt

theorem menu_plateau {m : MemoireT} {touches : List Touche} {p : Parametrage}
    (h : menuParametrageGame m touches = some p) : p.game.plateau = m.plateau := by
  have hs := menuParametrageGame_sur m m touches
  rw [h, Option.map_some, Option.some.injEq] at hs
  rw [hs]
  rfl

theorem lancement_initial {m : MemoireT} {touches : List Touche} {p : Parametrage}
    (h : menuParametrageGame m touches = some p) (hn : PlateauNul m p.game.taillePlateau) (ht : InInt p.game.timeout)
    (hr : Trace (Under Fait.Sur Pas) (attenteJoueur p.game) es s) (hl : s.point = .lancement)
    (horsEnum : Int → Status) : Lancement (s.memoire.game horsEnum) := by
  have hp := menuParametrageGame_parametree h
  have hg := Trace.garde hr
  have hs := hg.parametree hp
  have htenu := Trace.tenu hr (attenteJoueur_tenu ⟨hp.joueurs, hp.joueurs_le⟩)
  have hnul : PlateauNul p.game p.game.taillePlateau :=
    ⟨(menu_plateau h).symm ▸ hn.nbBateau, (menu_plateau h).symm ▸ hn.nul⟩
  obtain ⟨hnb, hvide⟩ := (net_iff ⟨hp.joueurs, hp.joueurs_le⟩).mpr hnul es s horsEnum hr hl
  have hpt := htenu.point
  rw [hl] at hpt
  refine ⟨htenu.registres hl hs horsEnum, hs.bateau, hs.place, hnb, hvide, ?_, ?_⟩
  · exact (hg.timeout.symm ▸ ht : InInt s.memoire.timeout)
  · rw [show (s.memoire.game horsEnum).etat = 1 from hpt]
    decide

end Salon

end Bnbr.Serveur
