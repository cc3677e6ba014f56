import Mathlib.Data.List.Perm.Basic
import Bnbr.Deroulement

namespace Bnbr.Serveur

open CArray CString

def statutTire : Status → Status
  | .boat => .hitShot
  | .hitShot => .hitShot
  | _ => .missedShot

theorem statutTire_idem (s : Status) : statutTire (statutTire s) = statutTire s := by
  cases s <;> rfl

theorem statutTire_ne_boat (s : Status) : statutTire s ≠ .boat := by
  cases s <;> simp [statutTire]

theorem BoardT.apresTir_cell (b : BoardT) (y x : Fin 50) :
    (b.apresTir y x).cell = b.cell.update y x (statutTire (b.cell y x)) := by
  unfold BoardT.apresTir
  cases h : b.cell y x with
  | boat => rfl
  | hitShot =>
    funext r c
    simp only [statutTire, Cells.update]
    split
    · rename_i he
      rw [he.1, he.2, h]
    · rfl
  | empty => rfl
  | missedShot => rfl

theorem BoardT.eq_of {b b' : BoardT} (hc : b.cell = b'.cell) (hb : b.bateaux = b'.bateaux)
    (hn : b.nbBateau = b'.nbBateau) : b = b' := by
  cases b
  cases b'
  simp only at hc hb hn
  rw [hc, hb, hn]

theorem BateauT.toucher_cell (bateau : BateauT) (x y : Int) (j : Fin 10) :
    (bateau.toucher x y).cell j = ⟨(bateau.cell j).x, (bateau.cell j).y,
      if (j.val : Int) < bateau.taille ∧ (bateau.cell j).x = x ∧ (bateau.cell j).y = y then .hitShot
      else (bateau.cell j).status⟩ := by
  simp only [BateauT.toucher]
  split <;> rfl

theorem BateauT.eq_of {bateau bateau' : BateauT} (hc : ∀ j, bateau.cell j = bateau'.cell j)
    (ht : bateau.taille = bateau'.taille) : bateau = bateau' := by
  cases bateau
  cases bateau'
  simp only at hc ht
  rw [funext hc, ht]

theorem BateauT.toucher_taille (bateau : BateauT) (x y : Int) : (bateau.toucher x y).taille = bateau.taille := rfl

theorem BateauT.toucher_comm (bateau : BateauT) (x y x' y' : Int) :
    (bateau.toucher x y).toucher x' y' = (bateau.toucher x' y').toucher x y := by
  refine BateauT.eq_of (fun j => ?_) rfl
  simp only [BateauT.toucher_cell, BateauT.toucher_taille, CellBateauT.mk.injEq, true_and]
  split_ifs <;> rfl

theorem BoardT.apresTir_bateau (b : BoardT) (y x : Fin 50) (i : Fin 100) :
    (b.apresTir y x).bateaux i = if b.cell y x = .boat ∧ (i.val : Int) < b.nbBateau then
      (b.bateaux i).toucher x.val y.val else b.bateaux i := by
  unfold BoardT.apresTir
  cases b.cell y x with
  | boat => simp only [BoardT.toucher, true_and]
  | hitShot => rfl
  | empty => rfl
  | missedShot => rfl

theorem BoardT.apresTir_ailleurs (b : BoardT) {y x r c : Fin 50} (h : ¬ (r = y ∧ c = x)) :
    (b.apresTir y x).cell r c = b.cell r c := by
  rw [BoardT.apresTir_cell, Cells.update_ne _ _ h]

theorem BoardT.apresTir_ici (b : BoardT) (y x : Fin 50) :
    (b.apresTir y x).cell y x = statutTire (b.cell y x) := by
  rw [BoardT.apresTir_cell, Cells.update_self]

theorem BoardT.apresTir_idem (b : BoardT) (y x : Fin 50) : (b.apresTir y x).apresTir y x = b.apresTir y x := by
  refine BoardT.eq_of ?_ ?_ (BoardT.apresTir_nbBateau _ y x)
  · funext r c
    rw [BoardT.apresTir_cell, BoardT.apresTir_ici, statutTire_idem]
    by_cases h : r = y ∧ c = x
    · rw [h.1, h.2, Cells.update_self, BoardT.apresTir_ici]
    · rw [Cells.update_ne _ _ h]
  · funext i
    rw [BoardT.apresTir_bateau, BoardT.apresTir_ici, if_neg fun h => statutTire_ne_boat _ h.1]

-- on one cell the second shot finds no boat, on two cells each shot leaves the other's cell alone
theorem BoardT.apresTir_comm (b : BoardT) (y x y' x' : Fin 50) :
    (b.apresTir y x).apresTir y' x' = (b.apresTir y' x').apresTir y x := by
  by_cases hp : y' = y ∧ x' = x
  · rw [hp.1, hp.2]
  · have hp' : ¬ (y = y' ∧ x = x') := fun h => hp ⟨h.1.symm, h.2.symm⟩
    refine BoardT.eq_of ?_ ?_ (by simp only [BoardT.apresTir_nbBateau])
    · funext r c
      by_cases h : r = y ∧ c = x
      · obtain ⟨rfl, rfl⟩ := h
        rw [BoardT.apresTir_ailleurs _ hp', BoardT.apresTir_ici, BoardT.apresTir_ici, BoardT.apresTir_ailleurs _ hp']
      · rw [BoardT.apresTir_ailleurs (b.apresTir y' x') h]
        by_cases h' : r = y' ∧ c = x'
        · obtain ⟨rfl, rfl⟩ := h'
          rw [BoardT.apresTir_ici, BoardT.apresTir_ici, BoardT.apresTir_ailleurs _ hp]
        · rw [BoardT.apresTir_ailleurs _ h', BoardT.apresTir_ailleurs _ h, BoardT.apresTir_ailleurs _ h']
    · funext i
      simp only [BoardT.apresTir_bateau, BoardT.apresTir_ailleurs _ hp, BoardT.apresTir_ailleurs _ hp',
        BoardT.apresTir_nbBateau]
      split_ifs
      · exact BateauT.toucher_comm _ _ _ _ _
      · rfl
      · rfl
      · rfl

def cible (n : Int) (x y : Int) : Option (Fin 50 × Fin 50) :=
  if Dans n (x, y) then
    match index 50 y, index 50 x with
    | some r, some c => some (r, c)
    | _, _ => none
  else none

def GameT.apresCible (g : GameT) : Option (Fin 50 × Fin 50) → GameT
  | some p => { g with plateau := g.plateau.apresTir p.1 p.2 }
  | none => g

theorem GameT.apresTir_cible (g : GameT) (x y : Int) :
    g.apresTir x y = g.apresCible (cible g.taillePlateau x y) := by
  simp only [GameT.apresTir, cible]
  split
  · cases index 50 y with
    | none => rfl
    | some r => cases index 50 x <;> rfl
  · rfl

theorem GameT.apresCible_idem (g : GameT) (c : Option (Fin 50 × Fin 50)) :
    (g.apresCible c).apresCible c = g.apresCible c := by
  cases c with
  | none => rfl
  | some p => simp only [GameT.apresCible, BoardT.apresTir_idem]

theorem GameT.apresCible_comm (g : GameT) (c c' : Option (Fin 50 × Fin 50)) :
    (g.apresCible c).apresCible c' = (g.apresCible c').apresCible c := by
  cases c with
  | none => rfl
  | some p =>
    cases c' with
    | none => rfl
    | some p' => simp only [GameT.apresCible, BoardT.apresTir_comm g.plateau p.1 p.2]

theorem GameT.apresTir_idem (g : GameT) (x y : Int) : (g.apresTir x y).apresTir x y = g.apresTir x y := by
  rw [GameT.apresTir_cible (g.apresTir x y), (g.apresTir_regles x y).1, GameT.apresTir_cible g, GameT.apresCible_idem]

theorem GameT.apresTir_comm (g : GameT) (x y x' y' : Int) :
    (g.apresTir x y).apresTir x' y' = (g.apresTir x' y').apresTir x y := by
  rw [GameT.apresTir_cible (g.apresTir x y), GameT.apresTir_cible (g.apresTir x' y'), (g.apresTir_regles x y).1,
    (g.apresTir_regles x' y').1, GameT.apresTir_cible g x y, GameT.apresTir_cible g x' y', GameT.apresCible_comm]

def apresTous (g : GameT) (ps : List (Int × Int)) : GameT := ps.foldl (fun g p => g.apresTir p.1 p.2) g

theorem apresTous_perm (g : GameT) {ps ps' : List (Int × Int)} (h : ps.Perm ps') :
    apresTous g ps = apresTous g ps' :=
  h.foldl_eq' (fun p _ q _ g => GameT.apresTir_comm g p.1 p.2 q.1 q.2) g

theorem apresTous_tir (g : GameT) (ps : List (Int × Int)) (x y : Int) :
    apresTous (g.apresTir x y) ps = (apresTous g ps).apresTir x y := by
  induction ps generalizing g with
  | nil => rfl
  | cons p ps ih =>
    simp only [apresTous, List.foldl_cons] at ih ⊢
    rw [GameT.apresTir_comm, ih]

theorem apresTous_encore (g : GameT) (ps : List (Int × Int)) : apresTous (apresTous g ps) ps = apresTous g ps := by
  induction ps generalizing g with
  | nil => rfl
  | cons p ps ih =>
    have hcons (g : GameT) : apresTous g (p :: ps) = (apresTous g ps).apresTir p.1 p.2 := apresTous_tir g ps p.1 p.2
    rw [hcons, hcons, apresTous_tir, ih, GameT.apresTir_idem]

theorem apresTous_borne {g : GameT} (hn : g.taillePlateau ≤ 50) (hb : g.plateau.Borne) (ps : List (Int × Int)) :
    (apresTous g ps).taillePlateau ≤ 50 ∧ (apresTous g ps).plateau.Borne := by
  induction ps generalizing g with
  | nil => exact ⟨hn, hb⟩
  | cons p ps ih =>
    exact ih ((g.apresTir_regles p.1 p.2).1 ▸ hn) (GameT.apresCoup_borne hb (some p)).1

-- the request received holds a shot with two well-formed integers
def Tire (e : PileTir × Lecture) (p : Int × Int) : Prop :=
  ∃ r, recevoir unserialReq e.2 e.1.buff e.1.reponse = some r ∧ coup r = some p

def suiteTirs (g : GameT) (es : List (PileTir × Lecture)) : Option GameT :=
  es.foldlM (fun g e => (recevoirTir g e.1 e.2).map Prod.fst) g

theorem coup_eq_some {r : ReqT} {p : Int × Int} (h : coup r = some p) :
    (r.id = 6 ∧ r.nom.str = some txtCoup) ∧ ∃ infos, r.infos.str = some infos := by
  simp only [coup] at h
  split at h
  · obtain ⟨infos, hi, -⟩ := Option.bind_eq_some_iff.mp h
    exact ⟨by assumption, infos, hi⟩
  · cases h

theorem Tire.recu {e : PileTir × Lecture} {p : Int × Int} (h : Tire e p) {g : GameT} (hn : g.taillePlateau ≤ 50)
    (hb : g.plateau.Borne) : recevoirTir g e.1 e.2 = some (g.apresTir p.1 p.2, accuseOk.texte ++ [nul]) := by
  obtain ⟨r, hr, hc⟩ := h
  have hform : TirBienForme r := fun _ => ⟨txtCoup, (coup_eq_some hc).1.2, fun _ => by rw [hc]; rfl⟩
  rw [recevoirTir_bienForme hn hb hr hform, hc]
  rfl

theorem suiteTirs_spec {g : GameT} (hn : g.taillePlateau ≤ 50) (hb : g.plateau.Borne)
    {es : List (PileTir × Lecture)} {ps : List (Int × Int)} (h : List.Forall₂ Tire es ps) :
    suiteTirs g es = some (apresTous g ps) := by
  induction h generalizing g with
  | nil => rfl
  | @cons e p es ps he hes ih =>
    have hb' := apresTous_borne hn hb [p]
    rw [suiteTirs, List.foldlM_cons, he.recu hn hb]
    exact ih hb'.1 hb'.2

def accuses (n : Nat) : Journal := (List.range n).map fun i : Nat => ((i : Int), accuseOk)

theorem suiteTirs_append (g : GameT) (es es' : List (PileTir × Lecture)) :
    suiteTirs g (es ++ es') = (suiteTirs g es).bind fun g' => suiteTirs g' es' := List.foldlM_append

theorem suiteTirs_singleton (g : GameT) (e : PileTir × Lecture) :
    suiteTirs g [e] = (recevoirTir g e.1 e.2).map Prod.fst := by
  simp only [suiteTirs, List.foldlM_cons, List.foldlM_nil, bind_pure]

theorem suiteTirs_sauf {g g' : GameT} {es : List (PileTir × Lecture)} (h : suiteTirs g es = some g') :
    g.SaufPlateau g' := by
  refine Loop.foldlM_invariant (fun t => g.SaufPlateau t) (fun t e u ht hu => ?_) (.refl g) h
  obtain ⟨⟨u, ack⟩, hrecu, rfl⟩ := Option.map_eq_some_iff.mp hu
  exact ht.trans (recevoirTir_sauf hrecu)

theorem tirs_suite {g : GameT} (hj : g.nbJoueur ≤ 100) (e : Nat → PileTir × Lecture) (journal : Journal) :
    tirs g e journal = (suiteTirs g ((List.range g.nbJoueur.toNat).map e)).map fun g' =>
      (g', journal ++ accuses g.nbJoueur.toNat) := by
  have hk (k : Nat) (hk : k ≤ 100) : Loop.run k (fun i (s : GameT × Journal) => do
      let _ ← get s.1.players i
      let t ← recevoirTir s.1 (e i).1 (e i).2
      some (t.1, s.2 ++ [((i : Int), accuseOk)])) (g, journal) =
      (suiteTirs g ((List.range k).map e)).map fun g' => (g', journal ++ accuses k) := by
    induction k with
    | zero => simp [suiteTirs, accuses]
    | succ k ih =>
      obtain ⟨m, hm⟩ := exists_fin (n := 100) (i := (k : Int)) (by omega) (by omega)
      rw [Loop.run_succ, ih (by omega), List.range_succ, List.map_append, List.map_singleton, suiteTirs_append]
      cases suiteTirs g ((List.range k).map e) with
      | none => rfl
      | some g' =>
        simp only [Option.map_some, Option.bind_some, hm, get_fin, suiteTirs_singleton, Option.bind_eq_bind]
        cases recevoirTir g' (e k).1 (e k).2 with
        | none => rfl
        | some t => simp only [Option.bind_some, Option.map_some, accuses, List.range_succ, List.map_append,
            List.map_singleton, List.append_assoc, hm]
  exact hk g.nbJoueur.toNat (by omega)

theorem tirs_sans_ordre (g : GameT) (hn : g.taillePlateau ≤ 50) (hb : g.plateau.Borne)
    {es es' : List (PileTir × Lecture)} {ps ps' : List (Int × Int)} (h : List.Forall₂ Tire es ps)
    (h' : List.Forall₂ Tire es' ps') (hp : ps.Perm ps') :
    (∃ g' : GameT, g.SaufPlateau g' ∧ suiteTirs g es = some g' ∧ suiteTirs g es' = some g' ∧
      suiteTirs g' es = some g' ∧ suiteTirs g' es' = some g') ∧
    ∀ (e e' : Nat → PileTir × Lecture) (journal : Journal), g.nbJoueur ≤ 100 →
      (List.range g.nbJoueur.toNat).map e = es → (List.range g.nbJoueur.toNat).map e' = es' →
      tirs g e journal = tirs g e' journal ∧ (tirs g e journal).isSome = true := by
  have hes := suiteTirs_spec hn hb h
  have hes' := suiteTirs_spec hn hb h'
  have hb' := apresTous_borne hn hb ps
  have hencore := suiteTirs_spec hb'.1 hb'.2 h
  have hencore' := suiteTirs_spec hb'.1 hb'.2 h'
  rw [apresTous_encore] at hencore
  rw [← apresTous_perm _ hp, apresTous_encore] at hencore'
  rw [← apresTous_perm g hp] at hes'
  refine ⟨⟨_, suiteTirs_sauf hes, hes, hes', hencore, hencore'⟩, ?_⟩
  rintro e e' journal hj rfl rfl
  rw [tirs_suite hj, tirs_suite hj, hes, hes']
  exact ⟨rfl, rfl⟩

theorem tirs_sans_ordre_touche :
    (suiteTirs deuxBateaux [mancheTouche.tir 0, mancheTouche.tir 1, mancheTouche.tir 0]).isSome = true ∧
    suiteTirs deuxBateaux [mancheTouche.tir 0, mancheTouche.tir 1, mancheTouche.tir 0] =
      suiteTirs deuxBateaux [mancheTouche.tir 1, mancheTouche.tir 0, mancheTouche.tir 0] := by
  have ht (i : Nat) : Tire (mancheTouche.tir i) (if i = 0 then 0 else 1, 0) :=
    ⟨_, (tirRecu_recu i).1, tirRecu_coup i⟩
  obtain ⟨⟨g', -, hg, hg', -⟩, -⟩ := tirs_sans_ordre deuxBateaux (by decide) deuxBateaux_enPartie.borne
    (.cons (ht 0) (.cons (ht 1) (.cons (ht 0) .nil))) (.cons (ht 1) (.cons (ht 0) (.cons (ht 0) .nil)))
    (.swap _ _ _)
  exact ⟨by rw [hg]; rfl, hg.trans hg'.symm⟩

end Bnbr.Serveur
