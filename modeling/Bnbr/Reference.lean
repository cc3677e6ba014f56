import Bnbr.Placement
import Bnbr.Tir

namespace Bnbr.Serveur

open CArray Bataille Decimal Scanf CString

structure TirRecu where
  pile : PileTir
  lecture : Lecture
  reponse : ReqT
  recu : recevoir unserialReq lecture pile.buff pile.reponse = some reponse
  bienForme : TirBienForme reponse

def TirRecu.tir (pile : PileTir) (x y : Int) (hx : InInt x) (hy : InInt y) : TirRecu where
  pile := pile
  lecture := Lecture.entiere (requeteTir x y) (requeteTir_valide hx hy)
  reponse := livrer (requeteTir x y) (requeteTir_valide hx hy) pile.reponse
  recu := recevoir_livrer (requeteTir_valide hx hy) pile.buff pile.reponse
  bienForme := bienForme_requeteTir hx hy pile.reponse

theorem TirRecu.coup_tir (pile : PileTir) {x y : Int} (hx : InInt x) (hy : InInt y) :
    coup (TirRecu.tir pile x y hx hy).reponse = some (x, y) := coup_requeteTir hx hy _

def recevoirTirs (ts : List TirRecu) (g : GameT) : Option GameT :=
  ts.foldlM (fun g t => (recevoirTir g t.pile t.lecture).map Prod.fst) g

def tires (n : Int) (ts : List TirRecu) : Set (Int × Int) :=
  {p | Dans n p ∧ ∃ t ∈ ts, coup t.reponse = some p}

structure Suite (g g' : GameT) (S : Set (Int × Int)) : Prop where
  represente : g'.plateau.Represente g.taillePlateau S
  borne : g'.plateau.Borne
  taillePlateau : g'.taillePlateau = g.taillePlateau
  nbBateau : g'.plateau.nbBateau = g.plateau.nbBateau
  flotte : g'.plateau.flotte = g.plateau.flotte
  taille : ∀ i, (g'.plateau.bateaux i).taille = (g.plateau.bateaux i).taille
  case : ∀ i j, (g'.plateau.bateaux i).case j = (g.plateau.bateaux i).case j

theorem Suite.cases {g g' : GameT} {S : Set (Int × Int)} (h : Suite g g' S) (i : Fin 100) :
    (g'.plateau.bateaux i).cases = (g.plateau.bateaux i).cases := by
  ext q
  simp only [BateauT.cases, Set.mem_ofPred_eq, h.taille, h.case]

theorem Suite.apresCoup {g g' : GameT} {S : Set (Int × Int)} (h : Suite g g' S) (hn : g.taillePlateau ≤ 50)
    (c : Option (Int × Int)) :
    Suite g (g'.apresCoup c) (S ∪ {p | Dans g.taillePlateau p ∧ c = some p}) := by
  cases c with
  | none => simpa [GameT.apresCoup] using h
  | some p =>
    by_cases hd : Dans g.taillePlateau p
    · obtain ⟨y, x, rfl⟩ := hd.fin hn
      have hS : S ∪ {p | Dans g.taillePlateau p ∧ some (coord y x) = some p} = insert (coord y x) S := by
        ext q
        simp only [Set.mem_union, Set.mem_ofPred_eq, Option.some.injEq, Set.mem_insert_iff]
        constructor
        · rintro (hq | ⟨-, rfl⟩)
          · exact .inr hq
          · exact .inl rfl
        · rintro (rfl | hq)
          · exact .inr ⟨hd, rfl⟩
          · exact .inl hq
      rw [hS, GameT.apresCoup, GameT.apresTir_dans (h.taillePlateau.symm ▸ hd)]
      exact ⟨h.represente.apresTir hd, h.borne.apresTir y x, h.taillePlateau,
        (BoardT.apresTir_nbBateau _ y x).trans h.nbBateau, (BoardT.apresTir_flotte _ y x).trans h.flotte,
        fun i => (BoardT.apresTir_taille _ y x i).trans (h.taille i),
        fun i j => (BoardT.apresTir_case _ y x i j).trans (h.case i j)⟩
    · have hS : S ∪ {q | Dans g.taillePlateau q ∧ some p = some q} = S := by
        ext q
        simp only [Set.mem_union, Set.mem_ofPred_eq, Option.some.injEq, or_iff_left_iff_imp]
        rintro ⟨hq, rfl⟩
        exact absurd hq hd
      rw [hS, GameT.apresCoup, GameT.apresTir_hors (h.taillePlateau.symm ▸ hd)]
      exact h

theorem recevoirTirs_suite {g g' : GameT} {S : Set (Int × Int)} (hn : g.taillePlateau ≤ 50)
    (h : Suite g g' S) (ts : List TirRecu) :
    ∃ g'', recevoirTirs ts g' = some g'' ∧ Suite g g'' (S ∪ tires g.taillePlateau ts) := by
  induction ts generalizing g' S with
  | nil => exact ⟨g', rfl, by simpa [tires] using h⟩
  | cons t ts ih =>
    have hstep := recevoirTir_bienForme (h.taillePlateau.symm ▸ hn) h.borne t.recu t.bienForme
    obtain ⟨g'', hrun, hs⟩ := ih (h.apresCoup hn (coup t.reponse))
    refine ⟨g'', ?_, ?_⟩
    · simp only [recevoirTirs, List.foldlM_cons, hstep, Option.map_some, Option.bind_eq_bind,
        Option.bind_some]
      exact hrun
    · have hS : S ∪ {p | Dans g.taillePlateau p ∧ coup t.reponse = some p} ∪ tires g.taillePlateau ts =
          S ∪ tires g.taillePlateau (t :: ts) := by
        rw [Set.union_assoc]
        congr 1
        ext q
        simp only [Set.mem_union, tires, Set.mem_ofPred_eq, List.mem_cons, exists_eq_or_imp]
        tauto
      rwa [hS] at hs

def jouer (g : GameT) (ps : List Placement) (ts : List TirRecu) : Option GameT := do
  let plateau ← placer g.tailleBateau ps g.plateau
  recevoirTirs ts { g with plateau := plateau }

theorem plateau_reference (g : GameT) (hn : g.taillePlateau ≤ 50) (ht : 1 ≤ g.tailleBateau)
    (ht' : g.tailleBateau ≤ 10) (hj : 1 ≤ g.nbJoueur) (hj' : g.nbJoueur ≤ 100)
    (hvide : ∀ y x : Fin 50, Dans g.taillePlateau (coord y x) → g.plateau.cell y x = .empty)
    (h0 : g.plateau.nbBateau = 0) (ps : List Placement) (hids : Complet g.nbJoueur ps)
    (hps : ∀ p ∈ ps, p.Valide g.taillePlateau g.tailleBateau) (ts : List TirRecu) :
    ∃ g', jouer g ps ts = some g' ∧ g'.plateau.nbBateau = g.nbJoueur ∧
      (∀ y x : Fin 50, Dans g.taillePlateau (coord y x) →
        (g'.plateau.cell y x = .hitShot ↔
          coord y x ∈ union g.tailleBateau ps ∧ coord y x ∈ tires g.taillePlateau ts) ∧
        (g'.plateau.cell y x = .missedShot ↔
          coord y x ∈ tires g.taillePlateau ts ∧ coord y x ∉ union g.tailleBateau ps) ∧
        (g'.plateau.cell y x = .boat ↔
          coord y x ∈ union g.tailleBateau ps ∧ coord y x ∉ tires g.taillePlateau ts) ∧
        (g'.plateau.cell y x = .empty ↔
          coord y x ∉ union g.tailleBateau ps ∧ coord y x ∉ tires g.taillePlateau ts)) ∧
      (∀ p ∈ ps, (g'.plateau.bateaux p.id).taille = g.tailleBateau ∧
        ∀ j : Fin 10, (j.val : Int) < g.tailleBateau → (g'.plateau.bateaux p.id).case j = p.case j) ∧
      (∀ (i : Fin 100) (j : Fin 10), (i.val : Int) < g'.plateau.nbBateau →
        (j.val : Int) < (g'.plateau.bateaux i).taille →
        (((g'.plateau.bateaux i).cell j).status = .hitShot ↔
          (g'.plateau.bateaux i).case j ∈ tires g.taillePlateau ts) ∧
        (((g'.plateau.bateaux i).cell j).status = .boat ↔
          (g'.plateau.bateaux i).case j ∉ tires g.taillePlateau ts)) := by
  obtain ⟨b, hb, hplaces⟩ := placer_spec hn ht ht' hids.nodup hps g.plateau
  have hj0 : 0 ≤ g.nbJoueur := by omega
  obtain ⟨hnb, hf⟩ := hplaces.flotte ht' h0 hids hj0
  have hs : Suite { g with plateau := b } { g with plateau := b } ∅ :=
    ⟨hplaces.represente ht' h0 hids hj0 hvide, hplaces.borne ht' h0 hids hj0 hj', rfl, rfl, rfl,
      fun _ => rfl, fun _ _ => rfl⟩
  obtain ⟨g', hrun, hsuite⟩ := recevoirTirs_suite (g := { g with plateau := b }) hn hs ts
  rw [Set.empty_union] at hsuite
  have hflotte : g'.plateau.flotte = union g.tailleBateau ps := hsuite.flotte.trans hf
  refine ⟨g', by simp [jouer, hb, hrun], hsuite.nbBateau.trans hnb, ?_, ?_, ?_⟩
  · intro y x hd
    rw [hsuite.represente.cell y x hd, hflotte]
    exact ⟨statut_hitShot, statut_missedShot, statut_boat, statut_empty⟩
  · intro p hp
    refine ⟨(hsuite.taille p.id).trans (hplaces.taille p hp), fun j hjt => ?_⟩
    rw [hsuite.case p.id j]
    simp [BateauT.case, hplaces.bateau p hp j hjt]
  · intro i j hi hjt
    have hm := BoardT.case_mem_flotte hi hjt
    rw [hsuite.represente.bateau i j hi hjt]
    exact ⟨statut_hitShot.trans (and_iff_right hm), statut_boat.trans (and_iff_right hm)⟩

theorem plateau_reference_deux :
    let pile : PileTir := ⟨⟨0, Buf.fill 100 'x', Buf.fill 1000 'x'⟩, ⟨0, Buf.fill 100 'x', Buf.fill 1000 'x'⟩,
      Buf.fill maxBuffer 'x', (7, 7)⟩
    ∃ g', jouer (GameT.depart 2 4 2) [⟨1, 3, 0, 'b'⟩, ⟨0, 0, 0, 'd'⟩]
        [TirRecu.tir pile 1 0 (by decide) (by decide), TirRecu.tir pile 2 2 (by decide) (by decide),
          TirRecu.tir pile (-1) 9 (by decide) (by decide)] = some g' ∧ g'.plateau.nbBateau = 2 ∧
      g'.plateau.cell 0 1 = .hitShot ∧ g'.plateau.cell 2 2 = .missedShot ∧
      (g'.plateau.bateaux 0).case 1 = (1, 0) := by
  intro pile
  have hid : Complet 2 [⟨1, 3, 0, 'b'⟩, ⟨0, 0, 0, 'd'⟩] := by
    unfold Complet
    decide
  have hps : ∀ p ∈ [(⟨1, 3, 0, 'b'⟩ : Placement), ⟨0, 0, 0, 'd'⟩], p.Valide 4 2 := by
    intro p hp
    rcases List.mem_pair.mp hp with rfl | rfl
    · exact Placement.valide_bas 1 (by decide) (by decide) (by decide) (by decide)
    · exact Placement.valide_droite 0 (by decide) (by decide) (by decide) (by decide)
  obtain ⟨g', hrun, hn, hcell, hbat, -⟩ := plateau_reference (GameT.depart 2 4 2) (by decide) (by decide)
    (by decide) (by decide) (by decide) (fun _ _ _ => rfl) rfl [⟨1, 3, 0, 'b'⟩, ⟨0, 0, 0, 'd'⟩] hid hps
    [TirRecu.tir pile 1 0 (by decide) (by decide), TirRecu.tir pile 2 2 (by decide) (by decide),
      TirRecu.tir pile (-1) 9 (by decide) (by decide)]
  refine ⟨g', hrun, hn, ?_, ?_, ?_⟩
  · refine (hcell 0 1 (by decide)).1.mpr ⟨⟨⟨0, 0, 0, 'd'⟩, by simp, 1, by decide, by decide⟩, by decide, ?_⟩
    exact ⟨_, List.mem_cons_self, TirRecu.coup_tir _ _ _⟩
  · refine (hcell 2 2 (by decide)).2.1.mpr ⟨⟨by decide, ?_⟩, ?_⟩
    · exact ⟨_, List.mem_cons_of_mem _ List.mem_cons_self, TirRecu.coup_tir _ _ _⟩
    · rintro ⟨p, hp, k, hk, he⟩
      have hk' : k = 0 ∨ k = 1 := by
        have : (k : Int) < 2 := hk
        omega
      rcases List.mem_pair.mp hp with rfl | rfl <;> rcases hk' with rfl | rfl <;> revert he <;> decide
  · exact (hbat ⟨0, 0, 0, 'd'⟩ (by simp)).2 1 (by decide)

end Bnbr.Serveur
