import Mathlib.Data.Finset.Card
import Bnbr.Clib.Elimination
import Bnbr.FinCommune
import Bnbr.Placement

namespace Bnbr.Serveur

open CArray CString

structure VerdictsRendus (g g' : GameT) (envois : Journal) : Prop where
  ordre : envois.map Prod.fst = (List.range g.nbJoueur.toNat).map fun i : Nat => (i : Int)
  tousCoules : (∀ i : Fin 100, (i.val : Int) < g.nbJoueur → (g.plateau.bateaux i).Coule g.tailleBateau) →
    (∀ p ∈ envois, p.2.id = 9) ∧ g'.etat = 2
  unSeul : ∀ s : Fin 100, (s.val : Int) < g.nbJoueur →
    (∀ i : Fin 100, (i.val : Int) < g.nbJoueur → (¬ (g.plateau.bateaux i).Coule g.tailleBateau ↔ i = s)) →
    ∀ p ∈ envois, p.2.id = if p.1 = s.val then 10 else 9
  plusieurs : ∀ s t : Fin 100, s ≠ t → (s.val : Int) < g.nbJoueur → (t.val : Int) < g.nbJoueur →
    ¬ (g.plateau.bateaux s).Coule g.tailleBateau → ¬ (g.plateau.bateaux t).Coule g.tailleBateau →
    ∀ (i : Fin 100) (r : Requete), ((i.val : Int), r) ∈ envois →
      r.id = if (g.plateau.bateaux i).Coule g.tailleBateau then 8 else 7
  plateau : g'.plateau = g.plateau

theorem aFlot_coule {g : GameT} {i : Fin 100} :
    AFlot g i.val ↔ (i.val : Int) < g.nbJoueur ∧ ¬ (g.plateau.bateaux i).Coule g.tailleBateau := by
  rw [AFlot, BoardT.coule_fin, Int.lt_toNat]

theorem mem_verdicts {g : GameT} {p : Int × Requete} (h : p ∈ verdicts g) :
    ∃ i : Nat, i < g.nbJoueur.toNat ∧ p = ((i : Int), verdictDe g i) := by
  obtain ⟨i, hi, rfl⟩ := List.mem_map.mp h
  exact ⟨i, List.mem_range.mp hi, rfl⟩

theorem nbAFlot_card (g : GameT) : nbAFlot g = ((Finset.range g.nbJoueur.toNat).filter (AFlot g)).card := by
  rw [nbAFlot, Nat.count_eq_card_filter_range]

theorem mem_aFlot {g : GameT} {i : Nat} : i ∈ (Finset.range g.nbJoueur.toNat).filter (AFlot g) ↔ AFlot g i := by
  simp only [Finset.mem_filter, Finset.mem_range, and_iff_right_iff_imp]
  exact fun h => h.1

theorem nbAFlot_zero {g : GameT} : nbAFlot g = 0 ↔ ∀ i, ¬ AFlot g i := by
  rw [nbAFlot_card, Finset.card_eq_zero, Finset.eq_empty_iff_forall_notMem]
  simp only [mem_aFlot]

theorem nbAFlot_le_un {g : GameT} : nbAFlot g ≤ 1 ↔ {i | AFlot g i}.Subsingleton := by
  rw [nbAFlot_card, Finset.card_le_one]
  simp only [mem_aFlot]
  exact ⟨fun h i hi j hj => h i hi j hj, fun h i hi j hj => h hi hj⟩

theorem nbAFlot_eq_un {g : GameT} {s : Nat} (hs : AFlot g s) (hu : ∀ i, AFlot g i → i = s) : nbAFlot g = 1 := by
  have h1 : nbAFlot g ≤ 1 := nbAFlot_le_un.mpr fun i hi j hj => (hu i hi).trans (hu j hj).symm
  have h0 : nbAFlot g ≠ 0 := fun h => nbAFlot_zero.mp h s hs
  omega

theorem verdictsRendus (g : GameT) (hj : g.nbJoueur ≤ 100) : VerdictsRendus g g.apresVerdict (verdicts g) where
  ordre := by simp [verdicts, Function.comp_def]
  tousCoules := by
    intro hc
    have h0 : nbAFlot g = 0 := by
      refine nbAFlot_zero.mpr fun i hi => ?_
      have hlt := hi.1
      obtain ⟨k, hk⟩ := exists_fin (n := 100) (i := (i : Int)) (by omega) (by omega)
      obtain rfl : i = k.val := by omega
      exact (aFlot_coule.mp hi).2 (hc k (aFlot_coule.mp hi).1)
    refine ⟨fun p hp => ?_, if_pos h0⟩
    obtain ⟨i, -, rfl⟩ := mem_verdicts hp
    simp only [verdictDe, h0, if_true]
    rfl
  unSeul := by
    intro s hs hu p hp
    obtain ⟨i, hi, rfl⟩ := mem_verdicts hp
    obtain ⟨k, hk⟩ := exists_fin (n := 100) (i := (i : Int)) (by omega) (by omega)
    obtain rfl : i = k.val := by omega
    have hflot (i : Fin 100) : AFlot g i.val ↔ i = s := by
      rw [aFlot_coule]
      constructor
      · rintro ⟨hi, hc⟩
        exact (hu i hi).mp hc
      · rintro rfl
        exact ⟨hs, (hu i hs).mpr rfl⟩
    have h1 : nbAFlot g = 1 := by
      refine nbAFlot_eq_un ((hflot s).mpr rfl) fun j hj' => ?_
      have hlt := hj'.1
      obtain ⟨m, hm⟩ := exists_fin (n := 100) (i := (j : Int)) (by omega) (by omega)
      obtain rfl : j = m.val := by omega
      exact congrArg _ ((hflot m).mp hj')
    simp only [verdictDe, h1, one_ne_zero, if_true, if_false, hflot, Nat.cast_inj, Fin.val_inj]
    split <;> rfl
  plusieurs := by
    intro s t hst hs ht hcs hct i r hr
    have h2 : ¬ nbAFlot g ≤ 1 := by
      intro h
      exact hst (Fin.ext (nbAFlot_le_un.mp h (aFlot_coule.mpr ⟨hs, hcs⟩) (aFlot_coule.mpr ⟨ht, hct⟩)))
    obtain ⟨k, hk, he⟩ := mem_verdicts hr
    simp only [Prod.mk.injEq, Nat.cast_inj] at he
    obtain ⟨rfl, rfl⟩ := he
    have hi : (i.val : Int) < g.nbJoueur := by omega
    simp only [verdictDe, show nbAFlot g ≠ 0 by omega, show nbAFlot g ≠ 1 by omega, if_false, aFlot_coule, hi, true_and]
    by_cases hc : (g.plateau.bateaux i).Coule g.tailleBateau
    · simp only [hc, not_true, if_false, if_true]
      rfl
    · simp only [hc, not_false_iff, if_false, if_true]
      rfl
  plateau := rfl

theorem verdicts_manche (g : GameT) (hj : 0 ≤ g.nbJoueur) (hj' : g.nbJoueur ≤ 100)
    (hnb : g.plateau.nbBateau = g.nbJoueur) (ht : g.tailleBateau ≤ 10)
    (htaille : ∀ i : Fin 100, (i.val : Int) < g.nbJoueur → (g.plateau.bateaux i).taille = g.tailleBateau)
    (e : Nat → Echange) (journal : Journal) :
    ((∃ b, verifierFinPartie g e journal = some b) ↔ ∀ i : Nat, (i : Int) < g.nbJoueur → (e i).Lisible) ∧
      ∀ g' journal', verifierFinPartie g e journal = some (g', journal') →
        ∃ envois, journal' = journal ++ envois ∧ VerdictsRendus g g' envois := by
  have hf : Flottille g := ⟨hj, hj', ht, hnb, htaille⟩
  refine ⟨⟨?_, fun he => ?_⟩, fun g' journal' hv => ?_⟩
  · rintro ⟨⟨g', journal'⟩, hv⟩ i hi
    exact (verifierFinPartie_journal hf hv).2.2 i (by omega)
  · exact ⟨_, verifierFinPartie_lisible hf (fun i hi => he i (by omega)) journal⟩
  · obtain ⟨rfl, rfl, -⟩ := verifierFinPartie_journal hf hv
    exact ⟨_, rfl, verdictsRendus g hj'⟩

theorem verdicts_manche_touche : ∃ (g' : GameT) (envois : Journal),
    verifierFinPartie deuxBateauxTouches (fun _ => accuseRecu) [] = some (g', envois) ∧
      VerdictsRendus deuxBateauxTouches g' envois ∧ ∀ p ∈ envois, p.2.id = if p.1 = 1 then 10 else 9 := by
  obtain ⟨hdefini, hrendus⟩ := verdicts_manche deuxBateauxTouches (by decide) (by decide) (by decide) (by decide)
    deuxBateauxTouches_flottille.taille (fun _ => accuseRecu) []
  obtain ⟨⟨g', journal'⟩, hv⟩ := hdefini.mpr fun _ _ => accuseRecu_lu.lisible
  obtain ⟨envois, rfl, hr⟩ := hrendus g' journal' hv
  exact ⟨g', _, hv, hr, hr.unSeul 1 (by decide) (by decide)⟩

structure EntreesRonde where
  tir : Nat → PileTir × Lecture
  fin : Nat → Echange

def ronde (g : GameT) (e : EntreesRonde) : Option (GameT × Journal) := do
  let s ← tirs g e.tir []
  verifierFinPartie s.1 e.fin []

def rondes (g : GameT) (entrees : Nat → EntreesRonde) (k : Nat) : Option (GameT × List Journal) :=
  Loop.run k (fun m s => do
    let r ← ronde s.1 (entrees m)
    some (r.1, s.2 ++ [r.2])) (g, [])

structure UnVainqueur (nbJoueur : Int) (rendus : List Journal) : Prop where
  unique : ∀ (m n : Nat) (v w : Journal) (p q : Int × Requete), rendus[m]? = some v → rendus[n]? = some w →
    p ∈ v → q ∈ w → p.2.id = 10 → q.2.id = 10 → p.1 = q.1
  sansRetour : ∀ (m n : Nat) (v w : Journal) (p q : Int × Requete), m < n → rendus[m]? = some v →
    rendus[n]? = some w → p ∈ v → q ∈ w → p.1 = q.1 → p.2.id = 8 ∨ p.2.id = 9 → q.2.id ≠ 7 ∧ q.2.id ≠ 10
  ensemble : ∀ (m : Nat) (v : Journal) (p : Int × Requete), rendus[m]? = some v → p ∈ v →
    p.2.id = 9 ∨ p.2.id = 10 → v.map Prod.fst = (List.range nbJoueur.toNat).map (fun i : Nat => (i : Int)) ∧
      ∀ q ∈ v, q.2.id = 9 ∨ q.2.id = 10

def requeteDe : Elimination.Verdict → Requete
  | .playOn => requeteContinue
  | .out => requeteStop
  | .lost => requetePerdu
  | .won => requeteGagne

open Elimination in
theorem requeteDe_id (v : Elimination.Verdict) : ((requeteDe v).id = 7 ↔ v = .playOn) ∧
    ((requeteDe v).id = 8 ↔ v = .out) ∧ ((requeteDe v).id = 9 ↔ v = .lost) ∧ ((requeteDe v).id = 10 ↔ v = .won) := by
  cases v <;> decide

-- the three branches of the server are one rule on the set of the boats afloat
theorem verdictDe_elimination (g : GameT) (i : Nat) :
    verdictDe g i = requeteDe (Elimination.verdict {i | AFlot g i} i) := by
  simp only [verdictDe, Elimination.verdict, ← nbAFlot_le_un, Set.mem_ofPred_eq]
  by_cases h0 : nbAFlot g = 0
  · have hi : ¬ AFlot g i := nbAFlot_zero.mp h0 i
    simp only [h0, hi, Nat.zero_le, if_true, if_false]
    rfl
  · by_cases h1 : nbAFlot g = 1
    · simp only [h1, one_ne_zero, le_refl, if_true, if_false]
      split <;> rfl
    · simp only [h0, h1, show ¬ nbAFlot g ≤ 1 by omega, if_false]
      split <;> rfl

structure Ronde (g a g' : GameT) : Prop where
  flottille : Flottille a
  suite : Flottille g'
  taillePlateau : g'.taillePlateau = g.taillePlateau
  nbJoueur : a.nbJoueur = g.nbJoueur ∧ g'.nbJoueur = g.nbJoueur
  avant : ∀ i, AFlot a i → AFlot g i
  apres : ∀ i, AFlot g' i ↔ AFlot a i

theorem Flottille.apresVerdict {g : GameT} (h : Flottille g) : Flottille g.apresVerdict :=
  ⟨h.joueurs, h.joueurs_le, h.bateau_le, h.nbBateau, h.taille⟩

theorem ronde_spec {g g' : GameT} (hn : g.taillePlateau ≤ 50) (h : Flottille g) {e : EntreesRonde} {v : Journal}
    (hr : ronde g e = some (g', v)) : ∃ a, Ronde g a g' ∧ v = verdicts a := by
  simp only [ronde, Option.bind_eq_bind, Option.bind_eq_some_iff] at hr
  obtain ⟨⟨a, journal⟩, ht, hv⟩ := hr
  obtain ⟨⟨cs, hcs⟩, -⟩ := tirs_coups hn h.borne ht
  simp only at hcs hv
  subst hcs
  obtain ⟨h1, -, h3, -⟩ := apresCoups_regles g cs
  have hf := h.apresCoups cs
  obtain ⟨rfl, rfl, -⟩ := verifierFinPartie_journal hf hv
  exact ⟨_, ⟨hf, hf.apresVerdict, h1, ⟨h3, h3⟩, fun i hi => hi.avantCoups, fun i => .rfl⟩, rfl⟩

structure Historique (g g' : GameT) (jugees : List GameT) : Prop where
  flottille : Flottille g'
  taillePlateau : g'.taillePlateau = g.taillePlateau
  nbJoueur : g'.nbJoueur = g.nbJoueur
  juges : ∀ a ∈ jugees, a.nbJoueur = g.nbJoueur ∧ {i | AFlot g' i} ⊆ {i | AFlot a i}
  descend : jugees.Pairwise fun a b => {i | AFlot b i} ⊆ {i | AFlot a i}

theorem Historique.ronde {g g' a g'' : GameT} {jugees : List GameT} (h : Historique g g' jugees)
    (hr : Ronde g' a g'') : Historique g g'' (jugees ++ [a]) where
  flottille := hr.suite
  taillePlateau := hr.taillePlateau.trans h.taillePlateau
  nbJoueur := hr.nbJoueur.2.trans h.nbJoueur
  juges := by
    intro b hb
    rcases List.mem_append.mp hb with hb | hb
    · obtain ⟨hj, hsub⟩ := h.juges b hb
      exact ⟨hj, fun i hi => hsub (hr.avant i ((hr.apres i).mp hi))⟩
    · obtain rfl := List.mem_singleton.mp hb
      exact ⟨hr.nbJoueur.1.trans h.nbJoueur, fun i hi => (hr.apres i).mp hi⟩
  descend := by
    refine List.pairwise_append.mpr ⟨h.descend, List.pairwise_singleton _ _, fun b hb c hc => ?_⟩
    obtain rfl := List.mem_singleton.mp hc
    exact fun i hi => (h.juges b hb).2 (hr.avant i hi)

theorem rondes_historique {g g' : GameT} (hn : g.taillePlateau ≤ 50) (h : Flottille g) {entrees : Nat → EntreesRonde}
    {k : Nat} {rendus : List Journal} (hr : rondes g entrees k = some (g', rendus)) :
    ∃ jugees, Historique g g' jugees ∧ rendus = jugees.map verdicts := by
  refine Loop.run_invariant (fun _ s => ∃ jugees, Historique g s.1 jugees ∧ s.2 = jugees.map verdicts)
    ⟨[], ⟨h, rfl, rfl, by simp, .nil⟩, rfl⟩ ?_ hr
  rintro m ⟨b, rendus⟩ c - ⟨jugees, hh, rfl⟩ hstep
  simp only [Option.bind_eq_bind, Option.bind_eq_some_iff, Option.some.injEq] at hstep
  obtain ⟨⟨b', v⟩, hv, rfl⟩ := hstep
  obtain ⟨a, ha, rfl⟩ := ronde_spec (hh.taillePlateau ▸ hn) hh.flottille hv
  exact ⟨jugees ++ [a], hh.ronde ha, by simp⟩

theorem verdictDe_elimine {g : GameT} {i : Nat} :
    ((verdictDe g i).id = 7 ↔ Elimination.verdict {i | AFlot g i} i = .playOn) ∧
    ((verdictDe g i).id = 8 ↔ Elimination.verdict {i | AFlot g i} i = .out) ∧
    ((verdictDe g i).id = 9 ↔ Elimination.verdict {i | AFlot g i} i = .lost) ∧
    ((verdictDe g i).id = 10 ↔ Elimination.verdict {i | AFlot g i} i = .won) := by
  rw [verdictDe_elimination]
  exact requeteDe_id _

theorem mem_rendu {jugees : List GameT} {m : Nat} {v : Journal} {p : Int × Requete}
    (hv : (jugees.map verdicts)[m]? = some v) (hp : p ∈ v) :
    ∃ (a : GameT) (i : Nat), jugees[m]? = some a ∧ v = verdicts a ∧ p = ((i : Int), verdictDe a i) := by
  rw [List.getElem?_map, Option.map_eq_some_iff] at hv
  obtain ⟨a, ha, rfl⟩ := hv
  obtain ⟨i, -, rfl⟩ := mem_verdicts hp
  exact ⟨a, i, ha, rfl, rfl⟩

theorem Historique.unVainqueur {g g' : GameT} {jugees : List GameT} (h : Historique g g' jugees) :
    UnVainqueur g.nbJoueur (jugees.map verdicts) := by
  have hle {m n : Nat} {a b : GameT} (hmn : m < n) (ha : jugees[m]? = some a) (hb : jugees[n]? = some b) :
      {i | AFlot b i} ⊆ {i | AFlot a i} := by
    obtain ⟨hm, rfl⟩ := List.getElem?_eq_some_iff.mp ha
    obtain ⟨hn, rfl⟩ := List.getElem?_eq_some_iff.mp hb
    exact List.pairwise_iff_getElem.mp h.descend m n hm hn hmn
  constructor
  · intro m n v w p q hv hw hp hq hpid hqid
    obtain ⟨a, i, ha, rfl, rfl⟩ := mem_rendu hv hp
    obtain ⟨b, j, hb, rfl, rfl⟩ := mem_rendu hw hq
    have hi := verdictDe_elimine.2.2.2.mp hpid
    have hj := verdictDe_elimine.2.2.2.mp hqid
    simp only [Nat.cast_inj]
    rcases Nat.lt_trichotomy m n with hmn | rfl | hmn
    · exact Elimination.won_unique (hle hmn ha hb) hi hj
    · rw [ha, Option.some.injEq] at hb
      subst hb
      exact Elimination.won_unique subset_rfl hi hj
    · exact (Elimination.won_unique (hle hmn hb ha) hj hi).symm
  · intro m n v w p q hmn hv hw hp hq hpq hpid
    obtain ⟨a, i, ha, rfl, rfl⟩ := mem_rendu hv hp
    obtain ⟨b, j, hb, rfl, rfl⟩ := mem_rendu hw hq
    simp only [Nat.cast_inj] at hpq
    subst hpq
    rw [verdictDe_elimine.2.1, verdictDe_elimine.2.2.1] at hpid
    obtain ⟨h7, h10⟩ := Elimination.no_return (hle hmn ha hb) hpid
    exact ⟨fun he => h7 (verdictDe_elimine.1.mp he), fun he => h10 (verdictDe_elimine.2.2.2.mp he)⟩
  · intro m v p hv hp hpid
    obtain ⟨a, i, ha, rfl, rfl⟩ := mem_rendu hv hp
    have hj := (h.juges a (List.mem_of_getElem? ha)).1
    refine ⟨by simp [verdicts, Function.comp_def, hj], fun q hq => ?_⟩
    obtain ⟨j, -, rfl⟩ := mem_verdicts hq
    rw [verdictDe_elimine.2.2.1, verdictDe_elimine.2.2.2] at hpid ⊢
    exact Elimination.finished_together hpid j

theorem un_vainqueur (g : GameT) (hn : g.taillePlateau ≤ 50) (ht : 1 ≤ g.tailleBateau) (ht' : g.tailleBateau ≤ 10)
    (hj : 0 ≤ g.nbJoueur) (hj' : g.nbJoueur ≤ 100) (h0 : g.plateau.nbBateau = 0) (ps : List Placement)
    (hids : Complet g.nbJoueur ps) (hps : ∀ p ∈ ps, p.Valide g.taillePlateau g.tailleBateau) :
    ∃ plateau, placer g.tailleBateau ps g.plateau = some plateau ∧
      ∀ (entrees : Nat → EntreesRonde) (k : Nat) (g' : GameT) (rendus : List Journal),
        rondes { g with plateau := plateau } entrees k = some (g', rendus) → UnVainqueur g.nbJoueur rendus := by
  obtain ⟨plateau, hb, hplaces⟩ := placer_spec hn ht ht' hids.nodup hps g.plateau
  have hnb := (hplaces.flotte ht' h0 hids hj).1
  have hf : Flottille { g with plateau := plateau } := ⟨hj, hj', ht', hnb, fun i hi => by
    obtain ⟨p, hp, rfl⟩ := hids.mem.mp hi
    exact hplaces.taille p hp⟩
  refine ⟨plateau, hb, fun entrees k g' rendus hr => ?_⟩
  obtain ⟨jugees, hh, rfl⟩ := rondes_historique (g := { g with plateau := plateau }) hn hf hr
  exact hh.unVainqueur

def rondeTouche : EntreesRonde := ⟨mancheTouche.tir, fun _ => accuseRecu⟩

theorem ronde_touche : ronde deuxBateaux rondeTouche =
    some (deuxBateauxTouches.apresVerdict, verdicts deuxBateauxTouches) := by
  have ht := tirs_spec deuxBateaux_enPartie (by decide) (fun i _ => tirRecu_recu i) []
  rw [show deuxBateaux.nbJoueur.toNat = 2 from rfl, apresTirs_touche] at ht
  simp only [ronde, rondeTouche, ht, verifierFinPartie_lisible deuxBateauxTouches_flottille
    (fun _ _ => accuseRecu_lu.lisible), Option.bind_eq_bind, Option.bind_some, List.nil_append]

theorem placer_deuxBateaux :
    placer 2 [⟨0, 0, 0, 'd'⟩, ⟨1, 0, 3, 'd'⟩] BoardT.vide = some deuxBateaux.plateau := by
  have h0 : placerBateau BoardT.vide (0 : Fin 100).val 2 0 0 'd' = some (BoardT.vide.avecBateau 0 2 0 0 (1, 0)) :=
    placerBateau_spec BoardT.vide 0 rfl (by decide) fun i hi => by
      simp only [Dans, kieme]
      omega
  have h1 : placerBateau (BoardT.vide.avecBateau 0 2 0 0 (1, 0)) (1 : Fin 100).val 2 0 3 'd' =
      some deuxBateaux.plateau :=
    placerBateau_spec _ 1 rfl (by decide) fun i hi => by
      simp only [Dans, kieme]
      omega
  simp only [placer, List.foldlM_cons, List.foldlM_nil, h0, h1, Option.bind_eq_bind, Option.bind_some,
    Option.pure_def]

theorem un_vainqueur_touche : ∃ (g' : GameT) (rendus : List Journal),
    rondes deuxBateaux (fun _ => rondeTouche) 1 = some (g', rendus) ∧ rendus = [verdicts deuxBateauxTouches] ∧
      UnVainqueur 2 rendus := by
  have hrun : rondes deuxBateaux (fun _ => rondeTouche) 1 =
      some (deuxBateauxTouches.apresVerdict, [verdicts deuxBateauxTouches]) := by
    simp only [rondes, Loop.run_succ, Loop.run_zero, ronde_touche, Option.bind_eq_bind, Option.bind_some,
      List.nil_append]
  obtain ⟨plateau, hp, hall⟩ := un_vainqueur (GameT.depart 2 4 2) (by decide) (by decide) (by decide) (by decide)
    (by decide) rfl [⟨0, 0, 0, 'd'⟩, ⟨1, 0, 3, 'd'⟩] (by unfold Complet; decide) (by
      intro p hp
      rcases List.mem_pair.mp hp with rfl | rfl
      · exact Placement.valide_droite 0 (by decide) (by decide) (by decide) (by decide)
      · exact Placement.valide_droite 1 (by decide) (by decide) (by decide) (by decide))
  obtain rfl : deuxBateaux.plateau = plateau := Option.some.inj (placer_deuxBateaux.symm.trans hp)
  exact ⟨_, _, hrun, rfl, hall _ 1 _ _ hrun⟩

end Bnbr.Serveur
