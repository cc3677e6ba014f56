import Bnbr.Bataille
import Bnbr.Plateau

namespace Bnbr.Serveur

open CArray Bataille

def BateauT.case (bateau : BateauT) (j : Fin 10) : Int × Int := ((bateau.cell j).x, (bateau.cell j).y)

def BateauT.cases (bateau : BateauT) : Set (Int × Int) :=
  {p | ∃ j : Fin 10, (j.val : Int) < bateau.taille ∧ bateau.case j = p}

def BoardT.flotte (b : BoardT) : Set (Int × Int) :=
  {p | ∃ i : Fin 100, (i.val : Int) < b.nbBateau ∧ p ∈ (b.bateaux i).cases}

structure BoardT.Represente (b : BoardT) (n : Int) (S : Set (Int × Int)) : Prop where
  cell : ∀ y x : Fin 50, Dans n (coord y x) → b.cell y x = statut b.flotte S (coord y x)
  bateau : ∀ (i : Fin 100) (j : Fin 10), (i.val : Int) < b.nbBateau → (j.val : Int) < (b.bateaux i).taille →
    ((b.bateaux i).cell j).status = statut b.flotte S ((b.bateaux i).case j)

theorem BateauT.toucher_case (bateau : BateauT) (x y : Int) (j : Fin 10) :
    (bateau.toucher x y).case j = bateau.case j := by
  simp only [BateauT.case, BateauT.toucher]
  split <;> rfl

theorem BateauT.toucher_cases (bateau : BateauT) (x y : Int) :
    (bateau.toucher x y).cases = bateau.cases := by
  simp only [BateauT.cases, BateauT.toucher_case]
  rfl

theorem BoardT.toucher_cases (b : BoardT) (x y : Int) (i : Fin 100) :
    ((b.toucher x y).bateaux i).cases = (b.bateaux i).cases := by
  simp only [BoardT.toucher]
  split
  · exact BateauT.toucher_cases _ _ _
  · rfl

theorem BoardT.toucher_case (b : BoardT) (x y : Int) (i : Fin 100) (j : Fin 10) :
    ((b.toucher x y).bateaux i).case j = (b.bateaux i).case j := by
  simp only [BoardT.toucher]
  split
  · exact BateauT.toucher_case _ _ _ _
  · rfl

theorem BoardT.toucher_taille (b : BoardT) (x y : Int) (i : Fin 100) :
    ((b.toucher x y).bateaux i).taille = (b.bateaux i).taille := by
  simp only [BoardT.toucher]
  split <;> rfl

theorem BoardT.toucher_flotte (b : BoardT) (x y : Int) : (b.toucher x y).flotte = b.flotte := by
  simp only [BoardT.flotte, BoardT.toucher_cases]
  rfl

theorem BoardT.apresTir_nbBateau (b : BoardT) (y x : Fin 50) : (b.apresTir y x).nbBateau = b.nbBateau := by
  unfold BoardT.apresTir
  split <;> rfl

theorem BoardT.apresTir_taille (b : BoardT) (y x : Fin 50) (i : Fin 100) :
    ((b.apresTir y x).bateaux i).taille = (b.bateaux i).taille := by
  unfold BoardT.apresTir
  split
  · exact BoardT.toucher_taille _ _ _ i
  · rfl
  · rfl

theorem BoardT.apresTir_case (b : BoardT) (y x : Fin 50) (i : Fin 100) (j : Fin 10) :
    ((b.apresTir y x).bateaux i).case j = (b.bateaux i).case j := by
  unfold BoardT.apresTir
  split
  · exact BoardT.toucher_case _ _ _ i j
  · rfl
  · rfl

theorem BoardT.apresTir_flotte (b : BoardT) (y x : Fin 50) : (b.apresTir y x).flotte = b.flotte := by
  unfold BoardT.apresTir
  split
  · exact BoardT.toucher_flotte _ _ _
  · rfl
  · rfl

theorem BoardT.Borne.apresTir {b : BoardT} (h : b.Borne) (y x : Fin 50) : (b.apresTir y x).Borne where
  nbBateau := by rw [b.apresTir_nbBateau]; exact h.nbBateau
  taille := fun i hi => by
    rw [b.apresTir_nbBateau] at hi
    rw [b.apresTir_taille]
    exact h.taille i hi

theorem BoardT.case_mem_flotte {b : BoardT} {i : Fin 100} {j : Fin 10} (hi : (i.val : Int) < b.nbBateau)
    (hj : (j.val : Int) < (b.bateaux i).taille) : (b.bateaux i).case j ∈ b.flotte :=
  ⟨i, hi, j, hj, rfl⟩

theorem Cells.update_self (p : Cells) (y x : Fin 50) (s : Status) : p.update y x s y x = s := by
  simp [Cells.update]

theorem Cells.update_ne (p : Cells) {y x r c : Fin 50} (s : Status) (h : ¬ (r = y ∧ c = x)) :
    p.update y x s r c = p r c := by
  simp [Cells.update, h]

theorem pos_ne {y x r c : Fin 50} (h : ¬ (r = y ∧ c = x)) :
    coord r c ≠ (coord y x) := by
  intro he
  simp only [Prod.mk.injEq, Nat.cast_inj] at he
  exact h ⟨Fin.ext he.2, Fin.ext he.1⟩

theorem BoardT.Represente.insert_of_cell {b b' : BoardT} {n : Int} {S : Set (Int × Int)} {y x : Fin 50}
    (h : b.Represente n S) {s : Status} (hs : s = statut b.flotte (insert (coord y x) S) (coord y x))
    (hcell : b'.cell = b.cell.update y x s) (hflotte : b'.flotte = b.flotte)
    (hbat : ∀ (i : Fin 100) (j : Fin 10), (i.val : Int) < b'.nbBateau →
      (j.val : Int) < (b'.bateaux i).taille → ((b'.bateaux i).cell j).status =
        statut b'.flotte (insert (coord y x) S) ((b'.bateaux i).case j)) :
    b'.Represente n (insert (coord y x) S) where
  cell := fun r c hd => by
    rw [hcell, hflotte]
    by_cases hrc : r = y ∧ c = x
    · obtain ⟨rfl, rfl⟩ := hrc
      rw [Cells.update_self, hs]
    · rw [Cells.update_ne _ _ hrc, statut_insert_ne (pos_ne hrc)]
      exact h.cell r c hd
  bateau := hbat

theorem BoardT.Represente.bateau_insert {b : BoardT} {n : Int} {S : Set (Int × Int)} {p : Int × Int}
    (h : b.Represente n S) (hp : p ∉ b.flotte ∨ p ∈ S) (i : Fin 100) (j : Fin 10)
    (hi : (i.val : Int) < b.nbBateau) (hj : (j.val : Int) < (b.bateaux i).taille) :
    ((b.bateaux i).cell j).status = statut b.flotte (insert p S) ((b.bateaux i).case j) := by
  rw [h.bateau i j hi hj]
  rcases hp with hp | hp
  · rw [statut_insert_ne]
    intro he
    exact hp (he ▸ case_mem_flotte hi hj)
  · rw [Set.insert_eq_of_mem hp]

theorem BoardT.Represente.toucher_bateau {b : BoardT} {n : Int} {S : Set (Int × Int)} {x y : Int}
    (h : b.Represente n S) (i : Fin 100) (j : Fin 10) (hi : (i.val : Int) < b.nbBateau)
    (hj : (j.val : Int) < (b.bateaux i).taille) :
    (((b.bateaux i).toucher x y).cell j).status =
      statut b.flotte (insert (x, y) S) ((b.bateaux i).case j) := by
  by_cases hc : (b.bateaux i).case j = (x, y)
  · have hxy : ((b.bateaux i).cell j).x = x ∧ ((b.bateaux i).cell j).y = y := by
      simpa [BateauT.case] using hc
    have hm : (x, y) ∈ b.flotte := hc ▸ case_mem_flotte hi hj
    simp [BateauT.toucher, hj, hxy, hc, statut_insert_self, hm]
  · have hxy : ¬ (((b.bateaux i).cell j).x = x ∧ ((b.bateaux i).cell j).y = y) := by
      simpa [BateauT.case] using hc
    rw [statut_insert_ne hc, ← h.bateau i j hi hj]
    simp only [BateauT.toucher, hxy, and_false, if_false]

theorem BoardT.Represente.apresTir {b : BoardT} {n : Int} {S : Set (Int × Int)} {y x : Fin 50}
    (h : b.Represente n S) (hd : Dans n (coord y x)) :
    (b.apresTir y x).Represente n (insert (coord y x) S) := by
  have hs := h.cell y x hd
  unfold BoardT.apresTir
  split
  · rename_i hc
    obtain ⟨hB, -⟩ := statut_boat.mp (hs.symm.trans hc)
    refine h.insert_of_cell (s := .hitShot) (by simp [statut_insert_self, hB]) rfl
      (BoardT.toucher_flotte _ _ _) ?_
    intro i j hi hj
    rw [BoardT.toucher_taille] at hj
    rw [BoardT.toucher_flotte, BoardT.toucher_case]
    have hi' : (i.val : Int) < b.nbBateau := hi
    have hg : ((BoardT.toucher { b with cell := b.cell.update y x .hitShot } x.val y.val).bateaux i) =
        (b.bateaux i).toucher x.val y.val := if_pos hi'
    rw [hg]
    exact h.toucher_bateau i j hi' hj
  · rename_i hc
    obtain ⟨-, hS⟩ := statut_hitShot.mp (hs.symm.trans hc)
    rwa [Set.insert_eq_of_mem hS]
  · rename_i hc1 hc2
    have hB : (coord y x) ∉ b.flotte ∨ (coord y x) ∈ S := by
      by_contra hn
      simp only [not_or, not_not] at hn
      exact hc1 (hs.trans (statut_boat.mpr hn))
    have hB' : (coord y x) ∉ b.flotte := by
      intro hm
      rcases hB with hB | hB
      · exact hB hm
      · exact hc2 (hs.trans (statut_hitShot.mpr ⟨hm, hB⟩))
    refine h.insert_of_cell (s := .missedShot) (by simp [statut_insert_self, hB']) rfl rfl ?_
    intro i j hi hj
    exact h.bateau_insert (.inl hB') i j hi hj

end Bnbr.Serveur
