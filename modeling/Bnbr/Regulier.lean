import Bnbr.Loyal

namespace Bnbr

open CString Decimal Scanf Sessions

theorem passage_pendant {k : Nat} {a b c : Moment} : passage k k a b c = b := by
  rw [passage, if_neg (by omega), if_pos rfl]

theorem passage_apres {i k : Nat} {a b c : Moment} (h : i < k) : passage i k a b c = c := if_pos h

theorem passage_autre {i k : Nat} {a b c : Moment} (h : i ≠ k) : passage i k a b c = passage i (k + 1) a a c := by
  unfold passage
  rcases Nat.lt_or_gt_of_ne h with hlt | hgt
  · rw [if_pos hlt, if_pos (by omega)]
  · rw [if_neg (by omega), if_neg h, if_neg (by omega)]
    split <;> rfl

theorem passage_pendant_autre {i k : Nat} {a b b' c : Moment} (h : i ≠ k) : passage i k a b c = passage i k a b' c := by
  unfold passage
  rw [if_neg h, if_neg h]

theorem passage_zero {i : Nat} {a c : Moment} : passage i 0 a a c = a := by
  unfold passage
  rw [if_neg (Nat.not_lt_zero i)]
  split <;> rfl

theorem passage_succ {k : Nat} {a b c : Moment} : passage k (k + 1) a b c = c := passage_apres (Nat.lt_succ_self k)

namespace Serveur

theorem Boucle.pendant_eq (b : Boucle) (m : Nat) : b.pendant m = (b.avant m).suivant := by
  cases b <;> rfl

theorem Boucle.apres_eq (b : Boucle) (m : Nat) : b.apres m = (b.pendant m).suivant := by
  cases b <;> rfl

theorem Boucle.pendant_sens (b : Boucle) (m : Nat) : (b.pendant m).sens = .retour := by
  cases b <;> rfl

variable {g₀ : GameT} {cl cl' : Nat → Client.Poste} {p p' : Poste} {i : Nat} {q : Requete}

structure Regles (g₀ g : GameT) : Prop where
  nbJoueur : g.nbJoueur = g₀.nbJoueur
  taillePlateau : g.taillePlateau = g₀.taillePlateau
  tailleBateau : g.tailleBateau = g₀.tailleBateau

structure AvantPartie (p : Poste) : Prop where
  manche : p.manche = 0
  verdicts : p.verdicts = []
  finEnvoyee : p.finEnvoyee = false

structure Lobby (g₀ : GameT) (p : Poste) : Prop extends AvantPartie p where
  game : p.game = g₀

structure EnCollecte (g₀ : GameT) (cl : Nat → Client.Poste) (p : Poste) (j n : Int)
    (envois : List (Int × List Char)) : Prop extends AvantPartie p where
  bilan : ∃ ps, Bilan g₀ (p.collecte j n envois) ps ∧
    ∀ P ∈ ps, 6 ≤ (cl P.id.val).point.rang ∧ (cl P.id.val).placement P.id = P
  envois : envois = (List.range j.toNat).map fun i : Nat => ((i : Int), accuseOk.texte ++ [nul])

structure EnJeu (g₀ : GameT) (p : Poste) : Prop where
  flottille : Flottille p.game
  regles : Regles g₀ p.game
  descend : Descend (p.verdicts ++ [p.game])

structure EnManche (g₀ : GameT) (p : Poste) : Prop extends EnJeu g₀ p where
  verdicts : p.verdicts.length = p.manche
  ouvertes : Ouvertes p.verdicts p.manche
  finEnvoyee : p.finEnvoyee = false
  etat : p.game.etat ≠ 2

structure EnVerdict (g₀ : GameT) (p : Poste) (q : Nat → Option Requete) (envoye : Prop) : Prop extends
    EnJeu g₀ p where
  verdicts : p.verdicts.length = p.manche + 1
  ouvertes : Ouvertes p.verdicts p.manche
  verdict : ∃ g, p.verdicts[p.manche]? = some g ∧ (∀ i : Nat, (i : Int) < g₀.nbJoueur → q i = some (verdictDe g i)) ∧
    (p.finEnvoyee = true ↔ envoye ∧ nbAFlot g ≤ 1) ∧ (p.game.etat = 2 → nbAFlot g ≤ 1)

structure ApresVerdict (g₀ : GameT) (p : Poste) : Prop extends EnJeu g₀ p where
  verdicts : p.verdicts.length = p.manche
  suite : p.finEnvoyee = false → Ouvertes p.verdicts p.manche ∧ p.game.etat ≠ 2
  fin : p.finEnvoyee = true → ∃ k g, p.manche = k + 1 ∧ p.verdicts[k]? = some g ∧ nbAFlot g ≤ 1

theorem Lobby.point (h : Lobby g₀ p) (pt : Point) : Lobby g₀ { p with point := pt } :=
  ⟨⟨h.manche, h.verdicts, h.finEnvoyee⟩, h.game⟩

theorem EnCollecte.point {j n : Int} {envois : List (Int × List Char)} (h : EnCollecte g₀ cl p j n envois)
    (pt : Point) : EnCollecte g₀ cl { p with point := pt } j n envois :=
  ⟨⟨h.manche, h.verdicts, h.finEnvoyee⟩, h.bilan, h.envois⟩

theorem EnManche.point (h : EnManche g₀ p) (pt : Point) : EnManche g₀ { p with point := pt } :=
  ⟨⟨h.flottille, h.regles, h.descend⟩, h.verdicts, h.ouvertes, h.finEnvoyee, h.etat⟩

theorem ApresVerdict.point (h : ApresVerdict g₀ p) (pt : Point) : ApresVerdict g₀ { p with point := pt } :=
  ⟨⟨h.flottille, h.regles, h.descend⟩, h.verdicts, h.suite, h.fin⟩

def Boucle.Reguliere (g₀ : GameT) (p : Poste) (envoye : Prop) : Boucle → Prop
  | .infos => Lobby g₀ p
  | .etat q => EnVerdict g₀ p q envoye
  | _ => EnManche g₀ p

def Regulier (g₀ : GameT) (cl : Nat → Client.Poste) (p : Poste) : Prop :=
  match p.point with
  | .envoi b i => b.Reguliere g₀ p (0 < i) ∧ (i : Int) ≤ g₀.nbJoueur
  | .accuse b i => b.Reguliere g₀ p True ∧ (i : Int) < g₀.nbJoueur
  | .demande i => Lobby g₀ p ∧ (i : Int) ≤ g₀.nbJoueur
  | .collecte j n envois => EnCollecte g₀ cl p j n envois
  | .bateau j n envois q => EnCollecte g₀ cl p j n envois ∧ ¬ (p.collecte j n envois).fini ∧
      BateauChoisi g₀ (cl j.toNat) q
  | .touche => EnManche g₀ p
  | .boucle => ApresVerdict g₀ p
  | .tir i => EnManche g₀ p ∧ (i : Int) ≤ g₀.nbJoueur
  | .tirRecu i q => EnManche g₀ p ∧ (i : Int) < g₀.nbJoueur ∧ TirDe g₀.taillePlateau p.verdicts i p.manche q
  | .fini => ApresVerdict g₀ p ∧ p.finEnvoyee = true

theorem Regulier.garde (h : Regulier g₀ cl p) (hc : ∀ i, (cl i).Garde (cl' i)) : Regulier g₀ cl' p := by
  have hcol {j n : Int} {envois : List (Int × List Char)} (h : EnCollecte g₀ cl p j n envois) :
      EnCollecte g₀ cl' p j n envois := by
    obtain ⟨ps, hb, hps⟩ := h.bilan
    refine ⟨h.toAvantPartie, ⟨ps, hb, fun P hP => ?_⟩, h.envois⟩
    obtain ⟨h6, hpl⟩ := hps P hP
    exact ⟨(hc _).rang h6, ((hc _).placement h6 _).trans hpl⟩
  unfold Regulier at h ⊢
  split at h
  · exact h
  · exact h
  · exact h
  · exact hcol h
  · exact ⟨hcol h.1, h.2.1, h.2.2.garde (hc _)⟩
  · exact h
  · exact h
  · exact h
  · exact h
  · exact h

theorem Boucle.Reguliere.nbJoueur {b : Boucle} {envoye : Prop} (h : b.Reguliere g₀ p envoye) :
    p.game.nbJoueur = g₀.nbJoueur := by
  cases b with
  | infos =>
    have hl : Lobby g₀ p := h
    rw [hl.game]
  | plateau s =>
    have hm : EnManche g₀ p := h
    exact hm.regles.nbJoueur
  | go =>
    have hm : EnManche g₀ p := h
    exact hm.regles.nbJoueur
  | etat q =>
    have hv : EnVerdict g₀ p q envoye := h
    exact hv.regles.nbJoueur

theorem estFin_verdictDe (g : GameT) (i : Nat) : estFin (verdictDe g i) = true ↔ nbAFlot g ≤ 1 := by
  unfold verdictDe
  by_cases h0 : nbAFlot g = 0
  · simp [h0, requetePerdu]
  · by_cases h1 : nbAFlot g = 1
    · by_cases ha : AFlot g i
      · simp [h1, ha, requeteGagne]
      · simp [h1, ha, requetePerdu]
    · have h2 : ¬ nbAFlot g ≤ 1 := by omega
      by_cases ha : AFlot g i
      · simp [h0, h1, h2, ha, requeteContinue]
      · simp [h0, h1, h2, ha, requeteStop]

structure Effet (g₀ : GameT) (cl : Nat → Client.Poste) (p : Poste) (i : Nat) (p' : Poste) : Prop where
  regulier : Regulier g₀ cl p'
  joueur : (i : Int) < g₀.nbJoueur
  verdicts : p'.verdicts = p.verdicts
  depasse : p'.depasse = p.depasse
  moment : p'.moment i = (p.moment i).suivant
  autres : ∀ k, k ≠ i → p'.moment k = p.moment k

theorem Boucle.Reguliere.envoi {b : Boucle} {envoye : Prop} (h : b.Reguliere g₀ p envoye)
    (hi : (i : Int) < g₀.nbJoueur) (hq : b.requete p.game i = some q) (pt : Point) :
    b.Reguliere g₀ { p with point := pt, finEnvoyee := p.finEnvoyee || estFin q } True ∧
      (contrat g₀ p.verdicts i (cl i)).Permis .aller (b.avant p.manche) q := by
  cases b with
  | infos =>
    have hl : Lobby g₀ p := h
    simp only [Boucle.requete, Option.some.injEq] at hq
    subst hq
    exact ⟨⟨⟨hl.manche, hl.verdicts, by simp only [hl.finEnvoyee]; rfl⟩, hl.game⟩, rfl, by
      show requeteInfos p.game = requeteInfos g₀
      rw [hl.game]⟩
  | plateau s =>
    have hm : EnManche g₀ p := h
    simp only [Boucle.requete, Option.some.injEq] at hq
    subst hq
    exact ⟨⟨⟨hm.flottille, hm.regles, hm.descend⟩, hm.verdicts, hm.ouvertes, by simp only [hm.finEnvoyee]; rfl,
      hm.etat⟩, rfl, rfl, hm.ouvertes⟩
  | go =>
    have hm : EnManche g₀ p := h
    simp only [Boucle.requete, Option.some.injEq] at hq
    subst hq
    exact ⟨⟨⟨hm.flottille, hm.regles, hm.descend⟩, hm.verdicts, hm.ouvertes, by simp only [hm.finEnvoyee]; rfl,
      hm.etat⟩, rfl, rfl⟩
  | etat f =>
    have hv : EnVerdict g₀ p f envoye := h
    obtain ⟨g, hg, hf, hfin, he⟩ := hv.verdict
    have hqf : f i = some q := hq
    rw [hf i hi, Option.some.injEq] at hqf
    subst hqf
    refine ⟨⟨⟨hv.flottille, hv.regles, hv.descend⟩, hv.verdicts, hv.ouvertes, g, hg, hf, ?_, he⟩, rfl, g, hg, rfl⟩
    simp only [Bool.or_eq_true, hfin, estFin_verdictDe, true_and, or_iff_right_iff_imp, and_imp]
    exact fun _ h => h

theorem EnCollecte.placer (hg₀ : Lancement g₀) (pile : PileBateau) {j n : Int} {envois : List (Int × List Char)}
    (h : EnCollecte g₀ cl p j n envois) (hf : ¬ (p.collecte j n envois).fini)
    (hb : BateauChoisi g₀ (cl j.toNat) q) (hq : q.Valide) :
    ∃ c, etape (p.collecte j n envois) (Tour.message q hq pile) = some c ∧ c.j = j + 1 ∧ 0 ≤ j ∧ j < g₀.nbJoueur ∧
      EnCollecte g₀ cl { p with point := .collecte c.j c.nbBateauxRecu c.envois, game := c.game }
        c.j c.nbBateauxRecu c.envois := by
  obtain ⟨ps, hbilan, hps⟩ := h.bilan
  have hbl := hbilan.borne
  have hbr : n = ps.length := hbilan.recus
  have hbj : j = ps.length := hbilan.j
  have hnb : p.game.nbJoueur = g₀.nbJoueur := hbilan.game.nbJoueur
  have hfn : n ≠ p.game.nbJoueur := hf
  obtain ⟨h6, rfl, hval⟩ := hb
  obtain ⟨v, hv⟩ := Option.isSome_iff_exists.mp (hval ⟨0, by decide⟩).direction
  have hd : isspace (cl j.toNat).direction = false := by
    have hv' : pas (cl j.toNat).direction = some v := hv
    rcases pas_cases hv' with ⟨h, -⟩ | ⟨h, -⟩ | ⟨h, -⟩ | ⟨h, -⟩ <;> rw [h] <;> decide
  obtain ⟨hx, hy⟩ := (hval ⟨0, by decide⟩).inInt hg₀.registres.plateau hg₀.registres.bateau
  have hdec := decrit_requeteBateau hq hx hy hd
  obtain ⟨c, k, hk, hc, hbilan', henv⟩ := hbilan.etape_bateau hg₀.registres hf
    (t := Tour.message _ hq pile) rfl hdec hval
  have hkj : k.val = j.toNat := by omega
  have hcj : c.j = j + 1 := by
    have := hbilan'.j
    simp only [List.length_append, List.length_singleton] at this
    omega
  refine ⟨c, hc, hcj, by omega, by omega, ⟨h.manche, h.verdicts, h.finEnvoyee⟩, ⟨_, hbilan', ?_⟩, ?_⟩
  · intro P hP
    rcases List.mem_append.mp hP with hP | hP
    · exact hps P hP
    · rw [List.mem_singleton.mp hP]
      simp only [hkj]
      exact ⟨h6, rfl⟩
  · have hsucc : c.j.toNat = j.toNat + 1 := by omega
    have hj0 : ((j.toNat : Nat) : Int) = j := by omega
    rw [henv, hsucc, List.range_succ, List.map_append, List.map_singleton, hj0]
    exact congrArg (· ++ _) h.envois

theorem Flottille.recevoirTir {g g' : GameT} (hf : Flottille g) (hn : g.taillePlateau ≤ 50) {pile : PileTir}
    {l : Lecture} {ack : List Char} (h : recevoirTir g pile l = some (g', ack)) :
    Flottille g' ∧ Regles g g' ∧ g'.etat = g.etat ∧ ∀ i, AFlot g' i → AFlot g i := by
  obtain ⟨c, rfl⟩ := Serveur.recevoirTir_cases hn hf.borne h
  obtain ⟨h1, h2, h3, -, -, -, -, h8⟩ := g.apresCoup_regles c
  exact ⟨hf.apresCoup c, ⟨h3, h1, h2⟩, h8, fun i hi => hi.avantCoup⟩

theorem Regles.trans {a b c : GameT} (h : Regles a b) (h' : Regles b c) : Regles a c :=
  ⟨h'.1.trans h.1, h'.2.trans h.2, h'.3.trans h.3⟩

theorem EnManche.tirRecu {pt : Point} {g : GameT} {pile : PileTir} {l : Lecture} {ack : List Char}
    (hg₀ : Lancement g₀) (h : EnManche g₀ p) (hr : recevoirTir p.game pile l = some (g, ack)) :
    EnManche g₀ { p with point := pt, game := g } := by
  obtain ⟨hf, hregles, he, ha⟩ := Flottille.recevoirTir h.flottille
    (by rw [h.regles.taillePlateau]; exact hg₀.registres.plateau) hr
  exact ⟨⟨hf, h.regles.trans hregles, h.descend.remplace ha⟩, h.verdicts, h.ouvertes, h.finEnvoyee,
    by simp only [he]; exact h.etat⟩

theorem Pas.envoie_regulier (hg₀ : Lancement g₀) (h : Regulier g₀ cl p) (hs : Pas p (.envoie i q) p') :
    Effet g₀ cl p i p' ∧ (contrat g₀ p.verdicts i (cl i)).Permis .aller (p.moment i) q := by
  cases hs with
  | @envoi b _ _ hp hi hq =>
    simp only [Regulier, hp] at h
    rw [h.1.nbJoueur] at hi
    obtain ⟨hb, hperm⟩ := h.1.envoi hi hq (.accuse b i)
    have hm : p.moment i = b.avant p.manche := by simp only [Poste.moment, hp, passage_pendant]
    refine ⟨⟨⟨hb, hi⟩, hi, rfl, rfl, ?_, fun k hk => ?_⟩, hm ▸ hperm⟩
    · rw [hm, ← b.pendant_eq]
      simp only [Poste.moment, passage_pendant]
    · simp only [Poste.moment, hp]
      exact passage_pendant_autre hk
  | demande hp hi =>
    simp only [Regulier, hp] at h
    rw [h.1.game] at hi
    have hm : p.moment i = .demande := by simp only [Poste.moment, hp, passage_pendant]
    refine ⟨⟨⟨h.1.point _, by omega⟩, hi, rfl, rfl, ?_, fun k hk => ?_⟩, ?_⟩
    · rw [hm]
      simp only [Poste.moment, passage_succ]
      rfl
    · simp only [Poste.moment, hp]
      exact (passage_autre hk).symm
    · rw [hm]
      exact ⟨rfl, rfl⟩
  | placer pile hp hij hq hc =>
    simp only [Regulier, hp] at h
    obtain ⟨c, hc', hcj, hj0, hjn, hcol⟩ := h.1.placer hg₀ pile h.2.1 h.2.2 hq
    rw [hc, Option.some.injEq] at hc'
    subst hc' hij
    have hm : p.moment i = .accuseBateau := by
      simp only [Poste.moment, hp, Int.toNat_natCast, passage_pendant]
    refine ⟨⟨hcol, hjn, rfl, rfl, ?_, fun k hk => ?_⟩, ?_⟩
    · rw [hm]
      have hsucc : ((i : Int) + 1).toNat = i + 1 := by omega
      simp only [Poste.moment, hcj, hsucc, passage_succ]
      rfl
    · have hsucc : ((i : Int) + 1).toNat = i + 1 := by omega
      simp only [Poste.moment, hp, hcj, hsucc, Int.toNat_natCast]
      exact (passage_autre hk).symm
    · rw [hm]
      exact ⟨rfl, rfl⟩
  | tirRecu pile hp hq hg =>
    simp only [Regulier, hp] at h
    have hm : p.moment i = .accuseTir p.manche := by simp only [Poste.moment, hp, passage_pendant]
    refine ⟨⟨⟨h.1.tirRecu hg₀ hg, by omega⟩, h.2.1, rfl, rfl, ?_, fun k hk => ?_⟩, ?_⟩
    · rw [hm]
      simp only [Poste.moment, passage_succ]
      rfl
    · simp only [Poste.moment, hp]
      exact (passage_autre hk).symm
    · rw [hm]
      exact ⟨rfl, rfl⟩

theorem EnCollecte.joueur {j n : Int} {envois : List (Int × List Char)} (h : EnCollecte g₀ cl p j n envois)
    (hf : ¬ (p.collecte j n envois).fini) : 0 ≤ j ∧ j < g₀.nbJoueur := by
  obtain ⟨ps, hb, -⟩ := h.bilan
  have h1 := hb.borne
  have h2 := hb.recus
  have h3 := hb.j
  have h4 := hb.game.nbJoueur
  have h5 : ¬ _ = _ := hf
  simp only at h2 h3 h4 h5
  omega

theorem EnCollecte.encore {j n : Int} {envois : List (Int × List Char)} (h : EnCollecte g₀ cl p j n envois)
    (hj : j < g₀.nbJoueur) : ¬ (p.collecte j n envois).fini := by
  obtain ⟨ps, hb, -⟩ := h.bilan
  have h2 := hb.recus
  have h3 := hb.j
  have h4 := hb.game.nbJoueur
  intro hf
  have h5 : n = p.game.nbJoueur := hf
  simp only at h2 h3 h4
  omega

theorem Pas.prend_joueur (h : Regulier g₀ cl p) (hs : Pas p (.prend i q) p') : (i : Int) < g₀.nbJoueur := by
  cases hs with
  | accuse _ hp =>
    simp only [Regulier, hp] at h
    exact h.2
  | bateau _ hp hf hij =>
    simp only [Regulier, hp] at h
    exact hij ▸ (h.joueur hf).2
  | tir _ hp hi =>
    simp only [Regulier, hp] at h
    exact h.1.regles.nbJoueur ▸ hi

theorem Pas.prend_regulier (h : Regulier g₀ cl p) (hs : Pas p (.prend i q) p')
    (hq : (contrat g₀ p.verdicts i (cl i)).Permis .retour (p.moment i) q) : Effet g₀ cl p i p' := by
  have hc : Convient g₀ p.verdicts i (cl i) (p.moment i) q := hq.convient
  cases hs with
  | @accuse b _ _ hp =>
    simp only [Regulier, hp] at h
    have hm : p.moment i = b.pendant p.manche := by simp only [Poste.moment, hp, passage_pendant]
    refine ⟨⟨?_, by omega⟩, h.2, rfl, rfl, ?_, fun k hk => ?_⟩
    · have hb := h.1
      cases b with
      | infos => exact Lobby.point hb _
      | plateau s => exact EnManche.point hb _
      | go => exact EnManche.point hb _
      | etat f =>
        have hv : EnVerdict g₀ p f True := hb
        obtain ⟨g, hg, hf, hfin, he⟩ := hv.verdict
        refine ⟨⟨hv.flottille, hv.regles, hv.descend⟩, hv.verdicts, hv.ouvertes, g, hg, hf, ?_, he⟩
        simp only [hfin, true_and, Nat.succ_pos]
    · rw [hm, ← b.apres_eq]
      simp only [Poste.moment, passage_succ]
    · simp only [Poste.moment, hp]
      exact (passage_autre hk).symm
  | bateau _ hp hf hij =>
    simp only [Regulier, hp] at h
    subst hij
    have hm : p.moment i = .bateau := by
      simp only [Poste.moment, hp, Int.toNat_natCast, passage_pendant]
    rw [hm] at hc
    refine ⟨⟨h.point _, hf, ?_⟩, (h.joueur hf).2, rfl, rfl, ?_, fun k hk => ?_⟩
    · rw [Int.toNat_natCast]
      exact hc
    · rw [hm]
      simp only [Poste.moment, Int.toNat_natCast, passage_pendant]
      rfl
    · simp only [Poste.moment, hp, Int.toNat_natCast]
      exact passage_pendant_autre hk
  | tir _ hp hi =>
    simp only [Regulier, hp] at h
    rw [h.1.regles.nbJoueur] at hi
    have hm : p.moment i = .tir p.manche := by simp only [Poste.moment, hp, passage_pendant]
    rw [hm] at hc
    refine ⟨⟨h.1.point _, hi, hc⟩, hi, rfl, rfl, ?_, fun k hk => ?_⟩
    · rw [hm]
      simp only [Poste.moment, passage_pendant]
      rfl
    · simp only [Poste.moment, hp]
      exact passage_pendant_autre hk

theorem EnCollecte.complet (hg₀ : Lancement g₀) {j n : Int} {envois : List (Int × List Char)}
    (h : EnCollecte g₀ cl p j n envois) (hf : (p.collecte j n envois).fini) :
    j = g₀.nbJoueur ∧ ∃ ps, Bilan g₀ (p.collecte j n envois) ps ∧ Complet g₀.nbJoueur ps ∧
      ∀ P ∈ ps, 6 ≤ (cl P.id.val).point.rang ∧ (cl P.id.val).placement P.id = P := by
  obtain ⟨ps, hb, hps⟩ := h.bilan
  have h1 := hg₀.registres.joueurs
  have h2 := hb.recus
  have h3 := hb.j
  have h4 := hb.game.nbJoueur
  have h5 : n = p.game.nbJoueur := hf
  simp only at h2 h3 h4
  refine ⟨by omega, ps, hb, ?_, hps⟩
  have hlen : ps.length = g₀.nbJoueur.toNat := by omega
  rw [Complet, hb.ids, hlen]

theorem EnCollecte.enManche (hg₀ : Lancement g₀) {j n : Int} {envois : List (Int × List Char)}
    (h : EnCollecte g₀ cl p j n envois) (hf : (p.collecte j n envois).fini) : EnManche g₀ p := by
  obtain ⟨-, ps, hb, hc, -⟩ := h.complet hg₀ hf
  have hr := hg₀.registres
  have h1 := hr.joueurs
  have h4 : p.game.nbJoueur = g₀.nbJoueur := hb.game.nbJoueur
  have h5 : p.game.taillePlateau = g₀.taillePlateau := hb.game.taillePlateau
  have h6 : p.game.tailleBateau = g₀.tailleBateau := hb.game.tailleBateau
  have h7 : p.game.etat = g₀.etat := hb.game.etat
  have h8 : p.game.plateau.nbBateau = g₀.nbJoueur := (hb.places.flotte hr.bateau_le hg₀.nbBateau hc (by omega)).1
  refine ⟨⟨⟨?_, ?_, ?_, ?_, fun i hi => ?_⟩, ⟨h4, h5, h6⟩, ?_⟩, ?_, ?_, h.finEnvoyee, ?_⟩
  · omega
  · rw [h4]
    exact hr.joueurs_le
  · rw [h6]
    exact hr.bateau_le
  · omega
  · obtain ⟨P, hP, rfl⟩ := hc.mem.mp (h4 ▸ hi)
    rw [h6]
    exact hb.places.taille P hP
  · rw [h.verdicts]
    exact Descend.snoc (fun _ _ _ _ _ ha => by simp at ha) fun _ _ ha => by simp at ha
  · rw [h.verdicts, h.manche]
    rfl
  · rw [h.manche]
    exact fun k hk => absurd hk (Nat.not_lt_zero k)
  · rw [h7]
    exact hg₀.etat

theorem EnManche.verdict (h : EnManche g₀ p) {f : Nat → Option Requete} {g : GameT}
    (hq : choisirFin p.game = some (g, f)) :
    EnVerdict g₀ { p with point := .envoi (.etat f) 0, game := g, verdicts := p.verdicts ++ [p.game] } f (0 < 0) := by
  obtain ⟨f', hf', hv⟩ := choisirFin_spec h.flottille
  simp only [hq, Option.some.injEq, Prod.mk.injEq] at hf'
  obtain ⟨rfl, rfl⟩ := hf'
  have hnb := h.regles.nbJoueur
  have hfl := h.flottille
  refine ⟨⟨⟨hfl.1, hfl.2, hfl.3, hfl.4, hfl.5⟩, ⟨hnb, h.regles.2, h.regles.3⟩, h.descend.ajoute fun i hi => hi⟩, ?_,
    h.ouvertes.prolonge (.append _ _), p.game, ?_, fun i hi => ?_, ?_, fun he => ?_⟩
  · simp only [List.length_append, List.length_singleton, h.verdicts]
  · simp only [← h.verdicts, List.getElem?_append_right (Nat.le_refl _), Nat.sub_self]
    rfl
  · exact hv i (by rw [hnb]; omega)
  · simp only [h.finEnvoyee, Nat.lt_irrefl, false_and, Bool.false_eq_true]
  · simp only at he
    by_cases h0 : nbAFlot p.game = 0
    · omega
    · rw [if_neg h0] at he
      exact absurd he h.etat

theorem EnVerdict.apres {f : Nat → Option Requete} {envoye : Prop} (h : EnVerdict g₀ p f envoye) (he : envoye) :
    ApresVerdict g₀ { p with point := .boucle, manche := p.manche + 1 } := by
  obtain ⟨g, hg, -, hfin, het⟩ := h.verdict
  refine ⟨⟨h.flottille, h.regles, h.descend⟩, h.verdicts, fun hf => ?_, fun hf => ?_⟩
  · have hn : ¬ nbAFlot g ≤ 1 := fun hle => by
      have hff : p.finEnvoyee = false := hf
      rw [hfin.mpr ⟨he, hle⟩] at hff
      cases hff
    refine ⟨fun k hk => ?_, fun h2 => hn (het h2)⟩
    rcases Nat.lt_succ_iff_lt_or_eq.mp hk with hk | rfl
    · exact h.ouvertes k hk
    · exact ⟨g, hg, by omega⟩
  · exact ⟨p.manche, g, rfl, hg, (hfin.mp hf).2⟩

structure Calme (g₀ : GameT) (cl : Nat → Client.Poste) (p p' : Poste) : Prop where
  moment : ∀ k : Nat, (k : Int) < g₀.nbJoueur → p'.moment k = p.moment k
  verdicts : Prolonge p.verdicts p'.verdicts
  suite : p'.depasse = p.depasse ∧ Regulier g₀ cl p' ∨
    p.point = .boucle ∧ p.finEnvoyee = true ∧ p'.depasse = true ∧ p'.verdicts = p.verdicts

theorem Boucle.Reguliere.suite (hg₀ : Lancement g₀) {b : Boucle} (h : b.Reguliere g₀ p (0 < i))
    (hp : p.point = .envoi b i) (hi : ¬ (i : Int) < g₀.nbJoueur) :
    Calme g₀ cl p { p with point := b.suite, manche := p.manche + b.termine } := by
  have h1 := hg₀.registres.joueurs
  have hk (k : Nat) (hk : (k : Int) < g₀.nbJoueur) : p.moment k = b.apres p.manche := by
    simp only [Poste.moment, hp]
    exact passage_apres (by omega)
  cases b with
  | infos =>
    refine ⟨fun k hlt => ?_, .refl _, .inl ⟨rfl, Lobby.point h _, by omega⟩⟩
    rw [hk k hlt]
    exact passage_zero
  | plateau s =>
    refine ⟨fun k hlt => ?_, .refl _, .inl ⟨rfl, EnManche.point h _, by omega⟩⟩
    rw [hk k hlt]
    exact passage_zero
  | go =>
    refine ⟨fun k hlt => ?_, .refl _, .inl ⟨rfl, EnManche.point h _, by omega⟩⟩
    rw [hk k hlt]
    exact passage_zero
  | etat f =>
    refine ⟨fun k hlt => ?_, .refl _, .inl ⟨rfl, EnVerdict.apres h (by omega)⟩⟩
    rw [hk k hlt]
    rfl

theorem Pas.interne_regulier (hg₀ : Lancement g₀) (h : Regulier g₀ cl p) (hs : Pas p .interne p') :
    Calme g₀ cl p p' := by
  have h1 := hg₀.registres.joueurs
  cases hs with
  | suite hp hi =>
    simp only [Regulier, hp] at h
    rw [h.1.nbJoueur] at hi
    exact h.1.suite hg₀ hp hi
  | collecter hp hi =>
    simp only [Regulier, hp] at h
    rw [h.1.game] at hi
    refine ⟨fun k hk => ?_, .refl _, .inl ⟨rfl, ⟨h.1.manche, h.1.verdicts, h.1.finEnvoyee⟩, ⟨[], ?_, by simp⟩, rfl⟩⟩
    · simp only [Poste.moment, hp]
      exact passage_zero.trans (passage_apres (by omega)).symm
    · have := Bilan.zero hg₀.registres []
      rw [← h.1.game] at this ⊢
      exact this
  | sonder hp hf ht hc =>
    simp only [Regulier, hp] at h
    obtain ⟨ps, hb, -⟩ := h.bilan
    have hc' := hb.toDepot.etape_rien hg₀.registres hf (recevoirNonBlock_vide ht _ _ _)
    rw [hc, Option.some.injEq] at hc'
    subst hc'
    exact ⟨fun k hk => by simp only [Poste.moment, hp], .refl _, .inl ⟨rfl, h.point _⟩⟩
  | sortie hp hf =>
    simp only [Regulier, hp] at h
    refine ⟨fun k hk => ?_, .refl _, .inl ⟨rfl, (h.enManche hg₀ hf).point _⟩⟩
    have hj := (h.complet hg₀ hf).1
    simp only [Poste.moment, hp, h.manche]
    rw [passage_apres (by omega)]
  | touche hp =>
    simp only [Regulier, hp] at h
    refine ⟨fun k hk => by simp only [Poste.moment, hp], .refl _, .inl ⟨rfl, ⟨⟨h.flottille, h.regles, h.descend⟩,
      h.verdicts, fun _ => ⟨h.ouvertes, h.etat⟩, fun hf => ?_⟩⟩⟩
    have hff : p.finEnvoyee = true := hf
    rw [h.finEnvoyee] at hff
    cases hff
  | manche hp he hs =>
    simp only [Regulier, hp] at h
    refine ⟨fun k hk => ?_, .refl _, ?_⟩
    · simp only [Poste.moment, hp]
      exact passage_zero
    · cases hf : p.finEnvoyee with
      | false =>
        obtain ⟨ho, h2⟩ := h.suite hf
        exact .inl ⟨Bool.or_false _, ⟨⟨h.flottille, h.regles, h.descend⟩, h.verdicts, ho, rfl, h2⟩, by omega⟩
      | true => exact .inr ⟨hp, rfl, Bool.or_true _, rfl⟩
  | fin hp he =>
    simp only [Regulier, hp] at h
    refine ⟨fun k hk => by simp only [Poste.moment, hp], .refl _, .inl ⟨rfl, h.point _, ?_⟩⟩
    by_contra hf
    exact (h.suite (Bool.eq_false_iff.mpr hf)).2 he
  | verdict hp hi hq =>
    simp only [Regulier, hp] at h
    rw [h.1.regles.nbJoueur] at hi
    refine ⟨fun k hk => ?_, .append _ _, .inl ⟨rfl, h.1.verdict hq, by omega⟩⟩
    simp only [Poste.moment, hp]
    exact passage_zero.trans (passage_apres (by omega)).symm

end Serveur

end Bnbr
