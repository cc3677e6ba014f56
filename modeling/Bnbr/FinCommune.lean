import Bnbr.Partie

namespace Bnbr.Serveur

open CArray CString

def UnSeulAFlot (g : GameT) : Prop :=
  ∃! i : Nat, (i : Int) < g.plateau.nbBateau ∧ ¬ g.plateau.coule g.tailleBateau i

theorem unSeulAFlot_iff {g : GameT} (h : EnPartie g) :
    UnSeulAFlot g ↔ compterCoules g = some (g.plateau.nbBateau - 1) := by
  have h0 := h.nbBateau
  rw [compterCoules_spec h.borne.nbBateau h.bateau, Option.some.injEq, UnSeulAFlot]
  have hc := count_pred_iff (g.plateau.coule g.tailleBateau) g.plateau.nbBateau.toNat
  simp only [Int.lt_toNat] at hc
  rw [← hc]
  omega

theorem etatJoueur_id {g : GameT} {i : Nat} {r : Requete} (h : etatJoueur g i = some r) : r.id = 7 ∨ r.id = 8 := by
  simp only [etatJoueur, Option.bind_eq_bind, Option.bind_eq_some_iff, Option.some.injEq] at h
  obtain ⟨-, -, flag, -, rfl⟩ := h
  cases flag with
  | true => exact .inl rfl
  | false => exact .inr rfl

def EnvoieFin (avant apres : Journal) : Prop :=
  ∃ p ∈ apres.drop avant.length, p.2.id = 9 ∨ p.2.id = 10

theorem envoieFin_iff {journal : Journal} {n : Nat} {q : Nat → Requete} :
    EnvoieFin journal (journal ++ (List.range n).map fun i : Nat => ((i : Int), q i)) ↔
      ∃ i, i < n ∧ ((q i).id = 9 ∨ (q i).id = 10) := by
  simp only [EnvoieFin, List.drop_left, List.mem_map, List.mem_range]
  constructor
  · rintro ⟨-, ⟨i, hi, rfl⟩, hid⟩
    exact ⟨i, hi, hid⟩
  · rintro ⟨i, hi, hid⟩
    exact ⟨_, ⟨i, hi, rfl⟩, hid⟩

theorem choisirFin_cases {g g' : GameT} {q : Nat → Option Requete} (hq : choisirFin g = some (g', q)) :
    (compterCoules g = some g.plateau.nbBateau ∧ g'.etat = 2) ∨
    (compterCoules g = some (g.plateau.nbBateau - 1) ∧ g' = g ∧
      ∃ flag : Int, q = fun i : Nat => some (if flag = (i : Int) then requeteGagne else requetePerdu)) ∨
    (compterCoules g ≠ some (g.plateau.nbBateau - 1) ∧ q = etatJoueur g) := by
  simp only [choisirFin, Option.bind_eq_bind, Option.bind_eq_some_iff] at hq
  obtain ⟨n, hn, hq⟩ := hq
  split at hq
  · rename_i htous
    simp only [Option.some.injEq, Prod.mk.injEq] at hq
    obtain ⟨rfl, -⟩ := hq
    exact .inl ⟨htous ▸ hn, rfl⟩
  · split at hq
    · rename_i hseul
      simp only [Option.bind_eq_some_iff, Option.some.injEq, Prod.mk.injEq] at hq
      obtain ⟨flag, -, rfl, rfl⟩ := hq
      exact .inr (.inl ⟨hseul ▸ hn, rfl, flag, rfl⟩)
    · rename_i hseul
      simp only [Option.some.injEq, Prod.mk.injEq] at hq
      refine .inr (.inr ⟨?_, hq.2.symm⟩)
      rw [hn, Ne, Option.some.injEq]
      exact hseul

theorem verifierFinPartie_cases {g g' : GameT} (h : EnPartie g) {e : Nat → Echange} {journal journal' : Journal}
    (hv : verifierFinPartie g e journal = some (g', journal')) :
    (UnSeulAFlot g ∧ g' = g ∧ EnvoieFin journal journal') ∨
    (¬ UnSeulAFlot g ∧ (EnvoieFin journal journal' → g'.etat = 2)) := by
  simp only [verifierFinPartie, Option.bind_eq_bind, Option.bind_eq_some_iff, Option.some.injEq,
    Prod.mk.injEq] at hv
  obtain ⟨⟨g₁, q⟩, hq, journal₁, hj, rfl, rfl⟩ := hv
  simp only at hj
  obtain ⟨hall, rfl⟩ := aTous_journal hj
  rw [envoieFin_iff, unSeulAFlot_iff h]
  rcases choisirFin_cases hq with ⟨htous, hetat⟩ | ⟨hseul, rfl, flag, rfl⟩ | ⟨hplus, rfl⟩
  · refine .inr ⟨?_, fun _ => hetat⟩
    rw [htous, Option.some.injEq]
    omega
  · have h0 := h.joueurs
    refine .inl ⟨hseul, rfl, 0, by omega, ?_⟩
    simp only [Option.getD_some]
    split
    · exact .inr rfl
    · exact .inl rfl
  · refine .inr ⟨hplus, ?_⟩
    rintro ⟨i, hi, hid⟩
    obtain ⟨r, hr⟩ := hall i hi
    rw [hr, Option.getD_some] at hid
    have := etatJoueur_id hr
    omega

structure FinCommune (g : GameT) (entrees : Nat → EntreesManche) : Prop where
  fin : ∀ m a t b, boucleJeu g entrees m = some a → a.1.etat ≠ 2 → avantVerdict a.1 (entrees m) a.2 = some t →
    verifierFinPartie t.1 (entrees m).fin t.2 = some b → EnvoieFin t.2 b.2 →
    b.1.etat = 2 ∧ ∀ k, m < k → boucleJeu g entrees k = some b

theorem fin_commune_iff (g : GameT) (h : EnPartie g) (entrees : Nat → EntreesManche) :
    FinCommune g entrees ↔ ∀ m a t b, boucleJeu g entrees m = some a → a.1.etat ≠ 2 →
      avantVerdict a.1 (entrees m) a.2 = some t → verifierFinPartie t.1 (entrees m).fin t.2 = some b →
      ¬ UnSeulAFlot t.1 := by
  constructor
  · rintro ⟨hfin⟩ m a t b ha he ht hb hseul
    obtain ⟨hpt, het⟩ := (boucleJeu_enPartie h ha).avantVerdict ht
    rcases verifierFinPartie_cases hpt hb with ⟨-, hg, henv⟩ | ⟨hn, -⟩
    · have hb2 := (hfin m a t b ha he ht hb henv).1
      rw [hg, het] at hb2
      exact he hb2
    · exact hn hseul
  · intro hcond
    refine ⟨fun m a t b ha he ht hb henv => ?_⟩
    obtain ⟨hpt, -⟩ := (boucleJeu_enPartie h ha).avantVerdict ht
    rcases verifierFinPartie_cases hpt hb with ⟨hseul, -⟩ | ⟨-, himp⟩
    · exact absurd hseul (hcond m a t b ha he ht hb)
    · have hb2 := himp henv
      refine ⟨hb2, fun k hk => ?_⟩
      have hm : boucleJeu g entrees (m + 1) = some b := by
        rw [boucleJeu_succ, ha, Option.bind_some, if_neg he, manche, ht]
        exact hb
      obtain ⟨d, rfl⟩ := Nat.exists_eq_add_of_le (Nat.succ_le_of_lt hk)
      exact boucleJeu_arret hm hb2 d

def deuxBateaux : GameT :=
  { GameT.depart 2 4 2 with
    plateau := (BoardT.vide.avecBateau 0 2 0 0 (1, 0)).avecBateau 1 2 0 3 (1, 0) }

theorem deuxBateaux_enPartie : EnPartie deuxBateaux :=
  ⟨by decide, by decide, by decide, by decide, by decide, by decide⟩

def reqVierge : ReqT := ⟨0, Buf.fill 100 'x', Buf.fill 1000 'x'⟩

def accuseRecu : Echange := ⟨reqVierge, Lecture.entiere accuseOk accuseOk_valide, Buf.fill maxBuffer 'x', reqVierge⟩

theorem accuseRecu_lu : accuseRecu.Lu := ⟨_, text_append _ accuseOk_valide.texte_nul⟩

theorem tir_valide (i : Nat) : (requeteTir (if i = 0 then 0 else 1) 0).Valide :=
  requeteTir_valide (by split <;> decide) (by decide)

def mancheTouche : EntreesManche where
  plateau := fun _ => accuseRecu
  go := fun _ => accuseRecu
  tir := fun i => (⟨reqVierge, reqVierge, Buf.fill maxBuffer 'x', (0, 0)⟩,
    Lecture.entiere (requeteTir (if i = 0 then 0 else 1) 0) (tir_valide i))
  fin := fun _ => accuseRecu

def tirRecu (i : Nat) : ReqT := livrer (requeteTir (if i = 0 then 0 else 1) 0) (tir_valide i) reqVierge

theorem tirRecu_coup (i : Nat) : coup (tirRecu i) = some (if i = 0 then 0 else 1, 0) :=
  coup_requeteTir (by split <;> decide) (by decide) reqVierge

def deuxBateauxTouches : GameT := (deuxBateaux.apresCoup (some (0, 0))).apresCoup (some (1, 0))

theorem deuxBateauxTouches_flottille : Flottille deuxBateauxTouches :=
  ⟨by decide, by decide, by decide, by decide, by decide⟩

theorem deuxBateauxTouches_seul : UnSeulAFlot deuxBateauxTouches := by
  refine ⟨1, ⟨by decide, fun hc => absurd (BoardT.coule_fin (k := 1).mp hc) (by decide)⟩, ?_⟩
  rintro i ⟨hi, hc⟩
  have hi' : (i : Int) < 2 := hi
  by_contra hne
  have h0 : i = (0 : Fin 100).val := by
    simp only [Fin.val_zero]
    omega
  subst h0
  exact hc (BoardT.coule_fin.mpr (by decide))

theorem tirRecu_recu (i : Nat) :
    recevoir unserialReq (mancheTouche.tir i).2 (mancheTouche.tir i).1.buff (mancheTouche.tir i).1.reponse =
      some (tirRecu i) ∧ TirBienForme (tirRecu i) :=
  ⟨recevoir_livrer (tir_valide i) _ _, bienForme_requeteTir (by split <;> decide) (by decide) reqVierge⟩

theorem apresTirs_touche : apresTirs deuxBateaux tirRecu 2 = deuxBateauxTouches := by
  rw [apresTirs_succ, apresTirs_succ, tirRecu_coup, tirRecu_coup]
  rfl

theorem manche_touche :
    ∃ t b, avantVerdict deuxBateaux mancheTouche [] = some t ∧
      verifierFinPartie t.1 mancheTouche.fin t.2 = some b ∧ UnSeulAFlot t.1 := by
  obtain ⟨journal, hj⟩ := avantVerdict_spec (g := deuxBateaux) (e := mancheTouche) (by decide) (by decide)
    (fun _ _ => accuseRecu_lu) (fun _ _ => accuseRecu_lu) []
  have ht := tirs_spec deuxBateaux_enPartie (by decide) (fun i _ => tirRecu_recu i) journal
  rw [show deuxBateaux.nbJoueur.toNat = 2 from rfl, apresTirs_touche] at ht
  exact ⟨_, _, hj.trans ht, verifierFinPartie_lisible deuxBateauxTouches_flottille (fun _ _ => accuseRecu_lu.lisible) _,
    deuxBateauxTouches_seul⟩

theorem fin_sans_accord :
    ∃ t b, avantVerdict deuxBateaux mancheTouche [] = some t ∧
      verifierFinPartie t.1 mancheTouche.fin t.2 = some b ∧ EnvoieFin t.2 b.2 ∧ b.1.etat ≠ 2 := by
  obtain ⟨t, b, ht, hb, hseul⟩ := manche_touche
  obtain ⟨hp, het⟩ := deuxBateaux_enPartie.avantVerdict ht
  rcases verifierFinPartie_cases hp hb with ⟨-, hg, henv⟩ | ⟨hn, -⟩
  · refine ⟨t, b, ht, hb, henv, ?_⟩
    rw [hg, het]
    decide
  · exact absurd hseul hn

theorem fin_commune_touche : ¬ FinCommune deuxBateaux fun _ => mancheTouche := by
  obtain ⟨t, b, ht, hb, hseul⟩ := manche_touche
  intro h
  exact (fin_commune_iff deuxBateaux deuxBateaux_enPartie fun _ => mancheTouche).mp h 0 _ t b rfl (by decide)
    ht hb hseul

end Bnbr.Serveur
