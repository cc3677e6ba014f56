import Mathlib.Logic.Relation
import Bnbr.Affichage
import Bnbr.Joueur

namespace Bnbr.Client

open CArray Serveur Logged

inductive Vue
  | curseur
  | menu (direction : Char)
  | place
deriving DecidableEq, Repr

structure Choix where
  game : GameT
  x : Int
  y : Int
  vue : Vue

-- a key, the board left on the stack and, for Enter in the menu, the id of the server's answer
structure Evenement where
  touche : Touche
  pile : Cells
  reponse : Int

def choixBateau (g : GameT) : Choix := ⟨g, 0, 0, .curseur⟩

def Choix.apercevoir (c : Choix) (pile : Cells) (direction : Char) : Logged (Int × Int) Choix := do
  let a ← afficherPlateauPlacerBateauNote c.game pile c.x c.y direction
  pure { c with vue := .menu a.1.direction }

def Choix.menuPlacerBateau (c : Choix) (direction : Char) (e : Evenement) : Logged (Int × Int) Choix :=
  if e.touche = .entree then do
    let g ← lift (enregistrer c.game c.x c.y direction)
    if e.reponse = 0 then pure { c with game := g, vue := .place }
    else Choix.apercevoir { c with game := g } e.pile direction
  else if e.touche = .q then do
    let c' ← c.apercevoir e.pile direction
    pure { c' with vue := .curseur }
  else c.apercevoir e.pile (orienter e.touche direction)

def Choix.evenement (c : Choix) (e : Evenement) : Logged (Int × Int) Choix :=
  match c.vue with
  | .curseur =>
    if e.touche = .entree then c.apercevoir e.pile 'd'
    else pure { c with
      x := (deplacer c.game.taillePlateau e.touche c.x c.y).1
      y := (deplacer c.game.taillePlateau e.touche c.x c.y).2 }
  | .menu direction => c.menuPlacerBateau direction e
  | .place => pure c

def Choix.jouer : List Evenement → Choix → Logged (Int × Int) Choix
  | [], c => pure c
  | e :: es, c => c.evenement e >>= jouer es

def Loge (n taille x y : Int) (direction : Char) : Prop :=
  ∃ v, pas direction = some v ∧ ∀ k : Nat, (k : Int) < taille → Dans n (kieme x y v k)

theorem Loge.pas {n taille x y : Int} {direction : Char} (h : Loge n taille x y direction) :
    (pas direction).isSome = true := by
  obtain ⟨v, hv, -⟩ := h
  rw [hv]
  rfl

theorem viderNote_within (n : Int) (plateau : Cells) : Within (Dans n) (viderNote n.toNat plateau) :=
  Within.loop (fun _ _ => True) trivial fun i _ hi _ =>
    ⟨Within.loop (fun _ _ => True) trivial fun j _ hj _ =>
      ⟨Within.use (by simp only [Dans]; omega) _, fun _ _ => trivial⟩, fun _ _ => trivial⟩

theorem afficherCasesNote_within (n : Int) (plateau : Cells) : Within (Dans n) (afficherCasesNote n.toNat plateau) :=
  Within.collect fun i hi => Within.collect fun j hj =>
    (Within.use (by simp only [Dans]; omega) _).bind fun _ _ => Within.pure _

theorem Dans.swap {n a b : Int} (h : Dans n (a, b)) : Dans n (b, a) := ⟨h.2.2.1, h.2.2.2, h.1, h.2.1⟩

theorem dessinerNote_within {n taille : Int} {x y : Nat → Int}
    (h : ∀ k : Nat, (k : Int) < taille → Dans n (x k, y k)) (a : Apercu) :
    Within (Dans n) (dessinerNote taille x y a) :=
  Within.loop (fun _ _ => True) trivial fun i _ hi _ =>
    ⟨(Within.use (Dans.swap (h i (by omega))) _).bind fun _ _ => Within.pure _, fun _ _ => trivial⟩

section Regle

variable {g : GameT} (hp : 2 * g.tailleBateau ≤ g.taillePlateau) {x y : Int} (hd : Dans g.taillePlateau (x, y))
  {direction : Char} (hv : (pas direction).isSome = true)

include hp hd hv

theorem apercuNote_spec (plateau : Cells) : Within (Dans g.taillePlateau) (apercuNote g plateau x y direction) ∧
    ∀ a, (apercuNote g plateau x y direction).value = some a →
      Loge g.taillePlateau g.tailleBateau x y a.direction := by
  obtain ⟨d, v, fx, fy, hdv, hf, hin, he⟩ := choisir_sens hp hd hv
    (fun d fx fy => dessinerNote g.tailleBateau fx fy ⟨d, plateau, []⟩) (pure ⟨direction, plateau, []⟩)
  have he' : apercuNote g plateau x y direction = dessinerNote g.tailleBateau fx fy ⟨d, plateau, []⟩ := he
  rw [he']
  refine ⟨dessinerNote_within (fun k hk => hf k ▸ hin k hk) _, fun a ha => ?_⟩
  rw [dessinerNote_value] at ha
  rw [dessiner_direction ha]
  exact ⟨v, hdv, hin⟩

theorem afficherPlateauPlacerBateauNote_within (plateau : Cells) :
    Within (Dans g.taillePlateau) (afficherPlateauPlacerBateauNote g plateau x y direction) :=
  (viderNote_within _ _).bind fun p _ => (apercuNote_spec hp hd hv p).1.bind fun _ _ =>
    (afficherCasesNote_within _ _).bind fun _ _ => Within.pure _

theorem afficherPlateauPlacerBateauNote_loge {plateau : Cells} {a : Apercu × List (List CaseEcran)}
    (ha : (afficherPlateauPlacerBateauNote g plateau x y direction).value = some a) :
    Loge g.taillePlateau g.tailleBateau x y a.1.direction := by
  simp only [afficherPlateauPlacerBateauNote, value_bind, value_pure, Option.bind_eq_some_iff] at ha
  obtain ⟨p, -, b, hb, l, -, hl⟩ := ha
  rw [← Option.some.inj hl]
  exact (apercuNote_spec hp hd hv p).2 b hb

end Regle

structure Choix.SurPlateau (g : GameT) (c : Choix) : Prop where
  game : ∃ bateau, c.game = { g with bateau := bateau }
  curseur : Dans g.taillePlateau (c.x, c.y)
  direction : ∀ d, c.vue = .menu d → Loge g.taillePlateau g.tailleBateau c.x c.y d

theorem enregistrerCases_cases {g g' : GameT} {fx fy : Nat → Int} (h : enregistrerCases g fx fy = some g') :
    g.tailleBateau ≤ 10 ∧ ∃ bateau, g' = { g with bateau := bateau } := by
  simp only [enregistrerCases, Option.bind_eq_bind, Option.bind_eq_some_iff, Option.some.injEq] at h
  obtain ⟨cell, hcell, rfl⟩ := h
  refine ⟨?_, _, rfl⟩
  have hle := Loop.run_invariant (fun k _ => k ≤ 10) (by omega) (fun i t v _ _ hv => ?_) hcell
  · omega
  · obtain ⟨c, hc, -⟩ := Option.bind_eq_some_iff.mp hv
    obtain ⟨k, hk, -⟩ := CArray.get_eq_some.mp hc
    omega

theorem enregistrer_cases {g g' : GameT} {x y : Int} {direction : Char} (hv : (pas direction).isSome = true)
    (h : enregistrer g x y direction = some g') : g.tailleBateau ≤ 10 ∧ ∃ bateau, g' = { g with bateau := bateau } := by
  obtain ⟨v, hv⟩ := Option.isSome_iff_exists.mp hv
  rcases pas_cases hv with ⟨rfl, -⟩ | ⟨rfl, -⟩ | ⟨rfl, -⟩ | ⟨rfl, -⟩ <;> exact enregistrerCases_cases h

section Run

variable {g : GameT} (hp : 2 * g.tailleBateau ≤ g.taillePlateau)

include hp

theorem Choix.SurPlateau.apercevoir {c : Choix} (h : c.SurPlateau g) (pile : Cells) {direction : Char}
    (hv : (Serveur.pas direction).isSome = true) : Within (Dans g.taillePlateau) (c.apercevoir pile direction) ∧
      ∀ c', (c.apercevoir pile direction).value = some c' → c'.SurPlateau g := by
  obtain ⟨bateau, hg⟩ := h.game
  have hn : c.game.taillePlateau = g.taillePlateau := by rw [hg]
  have ht : c.game.tailleBateau = g.tailleBateau := by rw [hg]
  have hp' : 2 * c.game.tailleBateau ≤ c.game.taillePlateau := by rwa [hn, ht]
  have hd : Dans c.game.taillePlateau (c.x, c.y) := hn ▸ h.curseur
  constructor
  · have := afficherPlateauPlacerBateauNote_within hp' hd hv pile
    rw [hn] at this
    exact this.bind fun _ _ => Within.pure _
  · intro c' hc
    obtain ⟨a, ha, hc⟩ := Option.bind_eq_some_iff.mp hc
    obtain rfl := Option.some.inj hc
    refine ⟨h.game, h.curseur, fun d hd' => ?_⟩
    obtain rfl := Vue.menu.inj hd'
    have := afficherPlateauPlacerBateauNote_loge hp' hd hv ha
    rwa [hn, ht] at this

omit hp in
theorem Choix.SurPlateau.enregistre {c : Choix} (h : c.SurPlateau g) {direction : Char}
    (hv : (Serveur.pas direction).isSome = true) {g' : GameT}
    (hg : enregistrer c.game c.x c.y direction = some g') : ({ c with game := g' } : Choix).SurPlateau g := by
  obtain ⟨bateau, hb⟩ := h.game
  obtain ⟨-, bateau', rfl⟩ := enregistrer_cases hv hg
  exact ⟨⟨bateau', by rw [hb]⟩, h.curseur, h.direction⟩

theorem Choix.SurPlateau.menu {c : Choix} (h : c.SurPlateau g) {direction : Char} (hm : c.vue = .menu direction)
    (e : Evenement) : Within (Dans g.taillePlateau) (c.menuPlacerBateau direction e) ∧
      ∀ c', (c.menuPlacerBateau direction e).value = some c' → c'.SurPlateau g := by
  have hv := (h.direction direction hm).pas
  have hrefus (g' : GameT) (hg : enregistrer c.game c.x c.y direction = some g') :=
    (h.enregistre hv hg).apercevoir hp e.pile hv
  obtain ⟨hw, hs⟩ := h.apercevoir hp e.pile hv
  simp only [menuPlacerBateau]
  split
  · constructor
    · refine (Within.lift _).bind fun g' hg => ?_
      split
      · exact Within.pure _
      · exact (hrefus g' hg).1
    · intro c' hc
      obtain ⟨g', hg, hc⟩ := Option.bind_eq_some_iff.mp hc
      split at hc
      · obtain rfl := Option.some.inj hc
        have hc' := h.enregistre hv hg
        exact ⟨hc'.game, hc'.curseur, fun d hd => by cases hd⟩
      · exact (hrefus g' hg).2 c' hc
  · split
    · refine ⟨hw.bind fun _ _ => Within.pure _, fun c' hc => ?_⟩
      obtain ⟨d, hd, hc⟩ := Option.bind_eq_some_iff.mp hc
      obtain rfl := Option.some.inj hc
      exact ⟨(hs d hd).game, (hs d hd).curseur, fun d hd => by cases hd⟩
    · exact h.apercevoir hp e.pile (orienter_pas hv e.touche)

theorem Choix.SurPlateau.evenement {c : Choix} (h : c.SurPlateau g) (e : Evenement) :
    Within (Dans g.taillePlateau) (c.evenement e) ∧ ∀ c', (c.evenement e).value = some c' → c'.SurPlateau g := by
  simp only [Choix.evenement]
  split
  · split
    · exact h.apercevoir hp e.pile rfl
    · rename_i hm ht
      refine ⟨Within.pure _, fun c' hc => ?_⟩
      obtain rfl := Option.some.inj hc
      obtain ⟨bateau, hg⟩ := h.game
      refine ⟨h.game, ?_, fun d hd => by simp [hm] at hd⟩
      have hn : c.game.taillePlateau = g.taillePlateau := by rw [hg]
      exact hn ▸ deplacer_dans h.curseur e.touche
  · rename_i direction hm
    exact h.menu hp hm e
  · refine ⟨Within.pure _, fun c' hc => ?_⟩
    exact Option.some.inj hc ▸ h

theorem Choix.SurPlateau.jouer {c : Choix} (h : c.SurPlateau g) (es : List Evenement) :
    Within (Dans g.taillePlateau) (Choix.jouer es c) ∧
      ∀ c', (Choix.jouer es c).value = some c' → c'.SurPlateau g := by
  induction es generalizing c with
  | nil => exact ⟨Within.pure _, fun c' hc => Option.some.inj hc ▸ h⟩
  | cons e es ih =>
    obtain ⟨hw, hs⟩ := h.evenement hp e
    refine ⟨hw.bind fun c' hc => (ih (hs c' hc)).1, fun c' hc => ?_⟩
    obtain ⟨d, hd, hc⟩ := Option.bind_eq_some_iff.mp hc
    exact (ih (hs d hd)).2 c' hc

end Run

theorem Choix.SurPlateau.regle {g : GameT} (hg : g.Regle) {c : Choix} (h : c.SurPlateau g) : c.game.Regle := by
  obtain ⟨bateau, hb⟩ := h.game
  rw [hb]
  exact ⟨hg.plateau, hg.bateau, hg.bateau_le, hg.place⟩

section Defini

variable {g : GameT} (hg : g.Regle)

include hg

theorem Choix.SurPlateau.apercevoir_defini {c : Choix} (h : c.SurPlateau g) (pile : Cells) {direction : Char}
    (hv : (Serveur.pas direction).isSome = true) : (c.apercevoir pile direction).value.isSome = true := by
  obtain ⟨bateau, hb⟩ := h.game
  have hr := h.regle hg
  have hd : Dans c.game.taillePlateau (c.x, c.y) := by
    rw [hb]
    exact h.curseur
  obtain ⟨a, v, ha, -⟩ := afficherPlateauPlacerBateau_spec hr pile hd hv
  have hn := hr.plateau
  simp only [Choix.apercevoir, value_bind, value_pure, afficherPlateauPlacerBateauNote_value, ha, Option.bind_some,
    afficherCasesNote_value (n := c.game.taillePlateau.toNat) (by omega), Option.map_some, Option.isSome_some]

theorem Choix.SurPlateau.evenement_defini {c : Choix} (h : c.SurPlateau g) (e : Evenement) :
    (c.evenement e).value.isSome = true := by
  simp only [Choix.evenement]
  split
  · split
    · exact h.apercevoir_defini hg e.pile rfl
    · rfl
  · rename_i direction hm
    have hv := (h.direction direction hm).pas
    obtain ⟨d, hd⟩ := Option.isSome_iff_exists.mp (h.apercevoir_defini hg e.pile hv)
    obtain ⟨v, hpas⟩ := Option.isSome_iff_exists.mp hv
    obtain ⟨bateau, hb, -⟩ := enregistrer_spec (h.regle hg).bateau_le c.x c.y hpas
    simp only [menuPlacerBateau]
    split
    · simp only [value_bind, value_lift, hb, Option.bind_some]
      split
      · rfl
      · exact (h.enregistre hv hb).apercevoir_defini hg e.pile hv
    · split
      · simp only [value_bind, hd, Option.bind_some, value_pure, Option.isSome_some]
      · exact h.apercevoir_defini hg e.pile (orienter_pas hv e.touche)
  · rfl

theorem Choix.SurPlateau.jouer_defini {c : Choix} (h : c.SurPlateau g) (es : List Evenement) :
    (Choix.jouer es c).value.isSome = true := by
  induction es generalizing c with
  | nil => rfl
  | cons e es ih =>
    obtain ⟨d, hd⟩ := Option.isSome_iff_exists.mp (h.evenement_defini hg e)
    simp only [Choix.jouer, value_bind, hd, Option.bind_some]
    exact ih ((h.evenement hg.place e).2 d hd)

end Defini

def BateauT.case (bateau : BateauT) (j : Fin 10) : Int × Int := ((bateau.cell j).x, (bateau.cell j).y)

structure BienPose (g : GameT) (x y : Int) (direction : Char) : Prop where
  taille : g.tailleBateau ≤ 10
  debut : ∀ j : Fin 10, j.val = 0 → g.bateau.case j = (x, y)
  ligne : ∃ v, pas direction = some v ∧ ∀ j k : Fin 10, k.val = j.val + 1 → (k.val : Int) < g.tailleBateau →
    g.bateau.case k = ((g.bateau.case j).1 + v.1, (g.bateau.case j).2 + v.2)
  dans : ∀ j : Fin 10, (j.val : Int) < g.tailleBateau → Dans g.taillePlateau (g.bateau.case j)
  distinctes : ∀ j k : Fin 10, (j.val : Int) < g.tailleBateau → (k.val : Int) < g.tailleBateau →
    g.bateau.case j = g.bateau.case k → j = k

theorem kieme_inj {x y : Int} {v : Int × Int} {direction : Char} (hv : pas direction = some v) {j k : Nat}
    (h : kieme x y v j = kieme x y v k) : j = k := by
  have h1 := congrArg Prod.fst h
  have h2 := congrArg Prod.snd h
  simp only [kieme] at h1 h2
  rcases pas_cases hv with ⟨-, rfl⟩ | ⟨-, rfl⟩ | ⟨-, rfl⟩ | ⟨-, rfl⟩ <;> omega

theorem kieme_zero (x y : Int) (v : Int × Int) : kieme x y v 0 = (x, y) := by
  simp [kieme]

theorem kieme_succ (x y : Int) (v : Int × Int) (k : Nat) :
    kieme x y v (k + 1) = ((kieme x y v k).1 + v.1, (kieme x y v k).2 + v.2) := by
  simp only [kieme, Nat.cast_add, Nat.cast_one, add_mul, one_mul, add_assoc]

theorem enregistrer_bienPose {g g' : GameT} {x y : Int} {direction : Char} (ht : 1 ≤ g.tailleBateau)
    (hl : Loge g.taillePlateau g.tailleBateau x y direction) (h : enregistrer g x y direction = some g') :
    BienPose g' x y direction := by
  have ht' := (enregistrer_cases hl.pas h).1
  obtain ⟨v, hv, hin⟩ := hl
  obtain ⟨bateau, hb, hs⟩ := enregistrer_spec ht' x y hv
  obtain rfl := Option.some.inj (hb.symm.trans h)
  have hcase (j : Fin 10) (hj : (j.val : Int) < g.tailleBateau) : BateauT.case bateau j = kieme x y v j :=
    Prod.ext (hs j hj).1 (hs j hj).2
  refine ⟨ht', fun j hj => ?_, ⟨v, hv, fun j k hjk hk => ?_⟩, fun j hj => ?_, fun j k hj hk he => ?_⟩
  · rw [hcase j (by omega), hj, kieme_zero]
  · simp only at hk ⊢
    rw [hcase k hk, hcase j (by omega), hjk, kieme_succ]
  · simp only at hj ⊢
    rw [hcase j hj]
    exact hin j hj
  · simp only at hj hk he
    rw [hcase j hj, hcase k hk] at he
    exact Fin.ext (kieme_inj hv he)

theorem Choix.apercevoir_cases {c c' : Choix} {pile : Cells} {direction : Char}
    (h : (c.apercevoir pile direction).value = some c') :
    ∃ a : Apercu, afficherPlateauPlacerBateau c.game pile c.x c.y direction = some a ∧
      c' = { c with vue := .menu a.direction } := by
  obtain ⟨b, hb, h⟩ := Option.bind_eq_some_iff.mp h
  rw [afficherPlateauPlacerBateauNote_value] at hb
  obtain ⟨a, ha, hl⟩ := Option.bind_eq_some_iff.mp hb
  obtain ⟨l, -, rfl⟩ := Option.map_eq_some_iff.mp hl
  exact ⟨a, ha, (Option.some.inj h).symm⟩

theorem Choix.evenement_entree {c c' : Choix} {direction : Char} (hm : c.vue = .menu direction) {e : Evenement}
    (he : e.touche = .entree) (h : (c.evenement e).value = some c') :
    enregistrer c.game c.x c.y direction = some c'.game := by
  simp only [evenement, hm, menuPlacerBateau, he, if_true] at h
  obtain ⟨g', hg, h⟩ := Option.bind_eq_some_iff.mp h
  rw [value_ite] at h
  split at h
  · rw [← Option.some.inj h]
    exact hg
  · obtain ⟨a, -, rfl⟩ := Choix.apercevoir_cases h
    exact hg

theorem choixBateau_surPlateau {g : GameT} (hn : 0 < g.taillePlateau) : (choixBateau g).SurPlateau g :=
  ⟨⟨g.bateau, rfl⟩, ⟨le_refl _, hn, le_refl _, hn⟩, fun d hd => by cases hd⟩

theorem afficherPlateauPlacerBateau_loge {g : GameT} (hp : 2 * g.tailleBateau ≤ g.taillePlateau) {pile : Cells}
    {x y : Int} (hd : Dans g.taillePlateau (x, y)) {direction : Char} (hv : (pas direction).isSome = true) {a : Apercu}
    (h : afficherPlateauPlacerBateau g pile x y direction = some a) :
    Loge g.taillePlateau g.tailleBateau x y a.direction := by
  rw [← apercuNote_value] at h
  obtain ⟨p, -, ha⟩ := Option.bind_eq_some_iff.mp h
  exact (apercuNote_spec hp hd hv p).2 a ha

structure Choix.Reagit (c : Choix) : Prop where
  deplace : c.vue = .curseur → ∀ e, e.touche ≠ .entree → (c.evenement e).value = some { c with
    x := (deplacer c.game.taillePlateau e.touche c.x c.y).1
    y := (deplacer c.game.taillePlateau e.touche c.x c.y).2 }
  ouvre : c.vue = .curseur → ∀ e, e.touche = .entree →
    ∃ direction, (c.evenement e).value = some { c with vue := .menu direction }
  tourne : ∀ direction, c.vue = .menu direction → ∀ e, e.touche ≠ .entree → e.touche ≠ .q →
    ∃ direction', (c.evenement e).value = some { c with vue := .menu direction' }
  annule : ∀ direction, c.vue = .menu direction → ∀ e, e.touche = .q →
    (c.evenement e).value = some { c with vue := .curseur }
  pose : ∀ direction, c.vue = .menu direction → ∀ e, e.touche = .entree →
    ∃ c', (c.evenement e).value = some c' ∧ BienPose c'.game c.x c.y direction ∧ (e.reponse = 0 → c'.vue = .place)

theorem Choix.SurPlateau.bienPose {g : GameT} (ht : 2 ≤ g.tailleBateau) {c c' : Choix} (h : c.SurPlateau g)
    {direction : Char} (hm : c.vue = .menu direction) {e : Evenement} (he : e.touche = .entree)
    (hc : (c.evenement e).value = some c') : BienPose c'.game c.x c.y direction := by
  obtain ⟨bateau, hb⟩ := h.game
  refine enregistrer_bienPose (g := c.game) ?_ ?_ (Choix.evenement_entree hm he hc)
  · rw [hb]
    show 1 ≤ g.tailleBateau
    omega
  · rw [hb]
    exact h.direction direction hm

theorem Choix.SurPlateau.vu {g : GameT} (hg : g.Regle) {c : Choix} (h : c.SurPlateau g) (pile : Cells)
    {direction : Char} (hv : (Serveur.pas direction).isSome = true) :
    ∃ direction', (c.apercevoir pile direction).value = some { c with vue := .menu direction' } := by
  obtain ⟨c', hc⟩ := Option.isSome_iff_exists.mp (h.apercevoir_defini hg pile hv)
  obtain ⟨a, -, rfl⟩ := Choix.apercevoir_cases hc
  exact ⟨a.direction, hc⟩

theorem Choix.SurPlateau.reagit {g : GameT} (hg : g.Regle) (ht : 2 ≤ g.tailleBateau) {c : Choix}
    (h : c.SurPlateau g) : c.Reagit where
  deplace := fun hv e he => by simp only [Choix.evenement, hv, he, if_false, value_pure]
  ouvre := fun hv e he => by
    simp only [Choix.evenement, hv, he, if_true]
    exact h.vu hg e.pile rfl
  tourne := fun direction hm e he hq => by
    simp only [Choix.evenement, hm, menuPlacerBateau, he, hq, if_false]
    exact h.vu hg e.pile (orienter_pas (h.direction direction hm).pas e.touche)
  annule := fun direction hm e he => by
    obtain ⟨d, hd⟩ := h.vu hg e.pile (h.direction direction hm).pas
    simp only [Choix.evenement, hm, menuPlacerBateau, he, reduceCtorEq, if_false, if_true, value_bind, hd,
      Option.bind_some, value_pure]
  pose := fun direction hm e he => by
    obtain ⟨c', hc⟩ := Option.isSome_iff_exists.mp (h.evenement_defini hg e)
    refine ⟨c', hc, h.bienPose ht hm he hc, fun hr => ?_⟩
    simp only [Choix.evenement, hm, menuPlacerBateau, he, hr, if_true] at hc
    obtain ⟨g', -, hc⟩ := Option.bind_eq_some_iff.mp hc
    rw [← Option.some.inj hc]

theorem choix_sur_plateau (g : GameT) (ht : 2 ≤ g.tailleBateau) (hp : 2 * g.tailleBateau ≤ g.taillePlateau) :
    (∀ es, Within (Dans g.taillePlateau) (Choix.jouer es (choixBateau g))) ∧
    (∀ es c, (Choix.jouer es (choixBateau g)).value = some c → Dans g.taillePlateau (c.x, c.y) ∧
      ∀ direction, c.vue = .menu direction → Loge g.taillePlateau g.tailleBateau c.x c.y direction ∧
        ∀ e c', e.touche = .entree → (c.evenement e).value = some c' → BienPose c'.game c.x c.y direction) ∧
    (∀ x y direction pile a, Dans g.taillePlateau (x, y) → (pas direction).isSome = true →
      afficherPlateauPlacerBateau g pile x y direction = some a →
        Loge g.taillePlateau g.tailleBateau x y a.direction ∧
        ∀ pile' a', afficherPlateauPlacerBateau g pile' x y a.direction = some a' → a'.direction = a.direction) ∧
    (g.taillePlateau ≤ 50 → g.tailleBateau ≤ 10 → (∀ es, (Choix.jouer es (choixBateau g)).value.isSome = true) ∧
      ∀ es c, (Choix.jouer es (choixBateau g)).value = some c → c.Reagit) := by
  have h0 := choixBateau_surPlateau (g := g) (by omega)
  refine ⟨fun es => (h0.jouer hp es).1, fun es c hc => ?_, fun x y direction pile a hd hv ha => ?_,
    fun hn ht' => ?_⟩
  · have hs := (h0.jouer hp es).2 c hc
    exact ⟨hs.curseur, fun direction hm => ⟨hs.direction direction hm, fun e c' he hc' => hs.bienPose ht hm he hc'⟩⟩
  · have hl := afficherPlateauPlacerBateau_loge hp hd hv ha
    refine ⟨hl, fun pile' a' ha' => ?_⟩
    obtain ⟨v, hv', hin⟩ := hl
    exact afficherPlateauPlacerBateau_direction (by omega) ha' hv' hin
  · have hg : g.Regle := ⟨hn, by omega, ht', hp⟩
    exact ⟨fun es => h0.jouer_defini hg es, fun es c hc => ((h0.jouer hp es).2 c hc).reagit hg ht⟩

def Choix.Suit (c : Choix) (p : Poste) : Prop :=
  p.game = c.game ∧ p.x = c.x ∧ p.y = c.y ∧
    match c.vue with
    | .curseur => p.point = .choix
    | .menu direction => p.point = .menu ∧ p.direction = direction
    | .place => p.point = .attenteAccuse

theorem Choix.evenement_pas {c c' : Choix} {p : Poste} (hs : c.Suit p) (hv : c.vue ≠ .place) {e : Evenement}
    (he : e.touche = .entree → e.reponse = 0) (h : (c.evenement e).value = some c') :
    ∃ a p', Pas p a p' ∧ c'.Suit p' := by
  obtain ⟨game, x, y, vue⟩ := c
  obtain ⟨hg, hx, hy, hp⟩ := hs
  simp only at hg hx hy hp
  cases vue with
  | curseur =>
    simp only [evenement] at h
    rw [value_ite] at h
    split at h
    · obtain ⟨a, ha, rfl⟩ := Choix.apercevoir_cases h
      rw [← hg, ← hx, ← hy] at ha
      exact ⟨_, _, .entrer e.pile hp ha, hg, hx, hy, rfl, rfl⟩
    · rename_i ht
      obtain rfl := Option.some.inj h
      refine ⟨_, _, .choix e.touche hp ht, hg, ?_, ?_, hp⟩
      · simp only [hg, hx, hy]
      · simp only [hg, hx, hy]
  | menu direction =>
    obtain ⟨hp, rfl⟩ := hp
    simp only [evenement, menuPlacerBateau] at h
    rw [value_ite] at h
    split at h
    · rename_i ht
      obtain ⟨g, hb, h⟩ := Option.bind_eq_some_iff.mp h
      simp only [he ht, if_true] at h
      obtain rfl := Option.some.inj h
      rw [value_lift, ← hg, ← hx, ← hy] at hb
      exact ⟨_, _, .placer hp hb, rfl, hx, hy, rfl⟩
    · rename_i ht
      rw [value_ite] at h
      split at h
      · obtain ⟨d, hd, h⟩ := Option.bind_eq_some_iff.mp h
        obtain rfl := Option.some.inj h
        obtain ⟨a, ha, rfl⟩ := Choix.apercevoir_cases hd
        rw [← hg, ← hx, ← hy] at ha
        exact ⟨_, _, .quitter e.pile hp ha, hg, hx, hy, rfl⟩
      · rename_i hq
        obtain ⟨a, ha, rfl⟩ := Choix.apercevoir_cases h
        rw [← hg, ← hx, ← hy] at ha
        exact ⟨_, _, .menu e.pile e.touche hp ⟨ht, hq⟩ ha, hg, hx, hy, hp, rfl⟩
  | place => exact absurd rfl hv

theorem Choix.jouer_pas {c c' : Choix} {p : Poste} (hs : c.Suit p) {es : List Evenement}
    (he : ∀ e ∈ es, e.touche = .entree → e.reponse = 0) (h : (Choix.jouer es c).value = some c') :
    ∃ p', Relation.ReflTransGen (fun p p' => ∃ a, Pas p a p') p p' ∧ c'.Suit p' := by
  induction es generalizing c p with
  | nil => exact ⟨p, .refl, Option.some.inj h ▸ hs⟩
  | cons e es ih =>
    obtain ⟨d, hd, h⟩ := Option.bind_eq_some_iff.mp h
    have htl : ∀ e ∈ es, e.touche = .entree → e.reponse = 0 := fun e hm => he e (List.mem_cons_of_mem _ hm)
    by_cases hv : c.vue = .place
    · simp only [Choix.evenement, hv, value_pure, Option.some.injEq] at hd
      exact ih (hd ▸ hs) htl h
    · obtain ⟨a, q, hq, hsq⟩ := Choix.evenement_pas hs hv (he e List.mem_cons_self) hd
      obtain ⟨p', hp, hs'⟩ := ih hsq htl h
      exact ⟨p', hp.head ⟨a, hq⟩, hs'⟩

def jeuOnze : GameT := ⟨2, fun _ _ => .empty, 11, ⟨fun _ => ⟨0, 0, .empty⟩⟩, 5, 15, .enJeu⟩

def touches (ts : List Touche) : List Evenement := ts.map fun t => ⟨t, fun _ _ => .hitShot, 0⟩

theorem choix_sur_plateau_onze : ∃ c c',
    (Choix.jouer (touches [.droite, .entree, .gauche, .q, .bas, .entree]) (choixBateau jeuOnze)).value = some c ∧
      c.vue = .menu 'd' ∧ (c.evenement ⟨.entree, fun _ _ => .hitShot, 0⟩).value = some c' ∧
      BienPose c'.game 1 1 'd' ∧ c'.vue = .place := by
  obtain ⟨-, -, -, hdefini⟩ := choix_sur_plateau jeuOnze (by decide) (by decide)
  obtain ⟨hd, hreagit⟩ := hdefini (by decide) (by decide)
  obtain ⟨c, hc⟩ := Option.isSome_iff_exists.mp (hd (touches [.droite, .entree, .gauche, .q, .bas, .entree]))
  have hmenu : ((Choix.jouer (touches [.droite, .entree, .gauche, .q, .bas, .entree])
      (choixBateau jeuOnze)).value.map fun c => (c.vue, c.x, c.y)) = some (.menu 'd', 1, 1) := rfl
  rw [hc, Option.map_some, Option.some.injEq, Prod.mk.injEq, Prod.mk.injEq] at hmenu
  obtain ⟨hv, hx, hy⟩ := hmenu
  obtain ⟨c', hc', hpose, hplace⟩ := (hreagit _ c hc).pose 'd' hv ⟨.entree, fun _ _ => .hitShot, 0⟩ rfl
  rw [hx, hy] at hpose
  exact ⟨c, c', hc, hv, hc', hpose, hplace rfl⟩

end Bnbr.Client
