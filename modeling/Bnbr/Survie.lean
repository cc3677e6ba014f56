import Mathlib.Data.Finset.Card
import Bnbr.Realisation

namespace Bnbr

open Serveur

variable {g₀ : Serveur.GameT} {s s' : Etat} {a : Action}

namespace Serveur

variable {g : GameT}

def Surnage (g : GameT) (i : Fin 100) : Prop :=
  (i.val : Int) < g.nbJoueur ∧ ∃ j : Fin 10, (j.val : Int) < (g.plateau.bateaux i).taille ∧
    ((g.plateau.bateaux i).cell j).status ≠ .hitShot

def Deux (g : GameT) : Prop := ∃ k l, k ≠ l ∧ Surnage g k ∧ Surnage g l

def Seul (g : GameT) (i : Fin 100) : Prop := ∀ k, Surnage g k ↔ k = i

theorem surnage_iff (hf : Flottille g) (i : Fin 100) : Surnage g i ↔ AFlot g i.val := by
  have hj := hf.joueurs
  constructor
  · rintro ⟨hi, j, hj, hs⟩
    refine ⟨by omega, fun hc => hs ?_⟩
    rw [hf.taille i hi] at hj
    exact BoardT.coule_fin.mp hc j hj
  · rintro ⟨hi, hc⟩
    have hi' : (i.val : Int) < g.nbJoueur := by omega
    refine ⟨hi', ?_⟩
    by_contra hn
    refine hc (BoardT.coule_fin.mpr fun j hj => ?_)
    by_contra hs
    exact hn ⟨j, by rwa [hf.taille i hi'], hs⟩

theorem aFlot_fin (hf : Flottille g) {k : Nat} (hk : AFlot g k) : ∃ i : Fin 100, i.val = k ∧ Surnage g i := by
  have hn := hf.joueurs_le
  have h1 := hk.1
  exact ⟨⟨k, by omega⟩, rfl, (surnage_iff hf _).mpr hk⟩

theorem deux_iff (hf : Flottille g) : Deux g ↔ 2 ≤ nbAFlot g := by
  rw [nbAFlot, Nat.count_eq_card_filter_range, ← Nat.lt_iff_add_one_le, Finset.one_lt_card]
  simp only [Finset.mem_filter, Finset.mem_range]
  constructor
  · rintro ⟨k, l, hkl, hk, hl⟩
    have hk' := (surnage_iff hf k).mp hk
    have hl' := (surnage_iff hf l).mp hl
    exact ⟨k.val, ⟨hk'.1, hk'⟩, l.val, ⟨hl'.1, hl'⟩, fun he => hkl (Fin.ext he)⟩
  · rintro ⟨k, ⟨-, hk⟩, l, ⟨-, hl⟩, hkl⟩
    obtain ⟨i, rfl, hi⟩ := aFlot_fin hf hk
    obtain ⟨j, rfl, hj⟩ := aFlot_fin hf hl
    exact ⟨i, j, fun he => hkl (congrArg Fin.val he), hi, hj⟩

theorem seul_iff (hf : Flottille g) (i : Fin 100) : Seul g i ↔ nbAFlot g = 1 ∧ AFlot g i.val := by
  constructor
  · intro h
    have hi := (surnage_iff hf i).mp ((h i).mpr rfl)
    have h2 : ¬ 2 ≤ nbAFlot g := by
      rw [← deux_iff hf]
      rintro ⟨k, l, hkl, hk, hl⟩
      exact hkl (((h k).mp hk).trans ((h l).mp hl).symm)
    have h0 : 0 < nbAFlot g := by
      rw [nbAFlot, Nat.count_eq_card_filter_range, Finset.card_pos]
      exact ⟨i.val, Finset.mem_filter.mpr ⟨Finset.mem_range.mpr hi.1, hi⟩⟩
    exact ⟨by omega, hi⟩
  · rintro ⟨h1, hi⟩ k
    obtain ⟨l, -, hl⟩ := nbAFlot_un h1
    constructor
    · intro hk
      exact Fin.ext ((hl _ ((surnage_iff hf k).mp hk)).trans (hl _ hi).symm)
    · rintro rfl
      exact (surnage_iff hf k).mpr hi

end Serveur

structure EtatAccorde (g : Serveur.GameT) (i : Fin 100) (e : EtatPartie) : Prop where
  enJeu : e = .enJeu ↔ Surnage g i ∧ Deux g
  dead : e = .dead ↔ ¬ Surnage g i ∧ Deux g
  finWin : e = .finWin ↔ Seul g i
  finLose : e = .finLose ↔ ¬ Seul g i ∧ ¬ Deux g

theorem classe_accordee {g : Serveur.GameT} (hf : Flottille g) (i : Fin 100) : EtatAccorde g i (classe g i.val) := by
  have h1 := surnage_iff hf i
  have h2 := deux_iff hf
  have h3 := seul_iff hf i
  unfold classe
  split_ifs with h0 h1' ha ha
  · constructor <;> simp [h1, h2, h3, h0]
  · constructor <;> simp [h1, h2, h3, h1', ha]
  · constructor <;> simp [h1, h2, h3, h1', ha]
  · have : 2 ≤ nbAFlot g := by omega
    constructor <;> simp [h1, h2, h3, h1', ha, this]
  · have : 2 ≤ nbAFlot g := by omega
    constructor <;> simp [h1, h2, h3, h1', ha, this]

theorem Invariant.enManche (h : Invariant g₀ s) {i : Nat} (hp : s.serveur.point = .tir i) :
    Serveur.EnManche g₀ s.serveur := by
  rcases h with h | h
  · have hr := h.serveur
    simp only [Regulier, hp] at hr
    exact hr.1
  · obtain ⟨t, ht | ht⟩ := h.serveur
    · simp [hp] at ht
    · simp [hp] at ht

theorem Atteignable.verdicts (hg₀ : Lancement g₀) (h : Atteignable g₀ s) :
    ∀ g ∈ s.serveur.verdicts, Flottille g := by
  obtain ⟨s₀, h₀, hr⟩ := h
  induction hr with
  | refl => simp [h₀.serveur]
  | tail hr hs ih =>
    obtain ⟨a, hs⟩ := hs
    rcases hs.verdicts with he | ⟨he, i, hp⟩
    · rw [he]
      exact ih
    · have hinv := Atteignable.invariant hg₀ ⟨s₀, h₀, hr⟩
      rw [he]
      intro g hg
      rcases List.mem_append.mp hg with hg | hg
      · exact ih g hg
      · rw [List.mem_singleton.mp hg]
        exact (hinv.enManche hp).flottille

theorem Invariant.loyal (h : Invariant g₀ s) {i : Nat} (hi : (i : Int) < g₀.nbJoueur) :
    Client.Loyal g₀ s.serveur.verdicts i (s.clients i) := by
  rcases h with h | h
  · exact (h.joueurs i hi).loyal
  · exact (h.joueurs i hi).2.2

theorem Client.Loyal.traite {hist : List Serveur.GameT} {i m : Nat} {c : Client.Poste} {e : EtatPartie}
    (h : Client.Loyal g₀ hist i c) (ht : c.Traite m e) : ∃ g, hist[m]? = some g ∧ e = classe g i := by
  have hstatut (hs : Statut hist i c.manche c.game.etat) (hm : c.manche = m + 1) (he : c.game.etat = e) :
      ∃ g, hist[m]? = some g ∧ e = classe g i := by
    rcases hs with ⟨h0, -⟩ | ⟨k, g, hk, hg, hc⟩
    · omega
    · obtain rfl : k = m := by omega
      exact ⟨g, hg, he.symm.trans hc⟩
  unfold Client.Loyal at h
  rcases ht with ⟨hm, he⟩ | ⟨hm, hp⟩
  · split at h
    · omega
    · omega
    · omega
    · omega
    · omega
    · omega
    · omega
    · exact hstatut h.1.statut hm he
    · exact hstatut h.1.statut hm he
    · exact hstatut h.1.statut hm he
    · exact hstatut h.1.statut hm he
    · exact h.elim
    · exact hstatut h.1.statut hm he
  · simp only [hp] at h
    obtain ⟨-, g, hg, he⟩ := h
    exact ⟨g, hm ▸ hg, he⟩

theorem classe_dead {g : Serveur.GameT} {i : Nat} (h : classe g i = .dead) : ¬ AFlot g i := by
  unfold classe at h
  split_ifs at h
  assumption

theorem classe_aFlot {g : Serveur.GameT} {i : Nat} (h : classe g i = .enJeu) : AFlot g i := by
  unfold classe at h
  split_ifs at h
  assumption

theorem TirDe.mort {n : Int} {hist : List Serveur.GameT} {i m M : Nat} {q : Requete} {g : Serveur.GameT}
    (h : TirDe n hist i M q) (hd : Descend hist) (hm : m < M) (hg : hist[m]? = some g) (ha : ¬ AFlot g i) :
    q = requeteMort := by
  rcases h with ⟨hs, -⟩ | ⟨-, -, -, hq⟩
  · exfalso
    rcases hs with ⟨h0, -⟩ | ⟨k, g', rfl, hg', he⟩
    · omega
    · exact ha (hd m k g g' (by omega) hg hg' i (classe_aFlot he.symm))
  · exact hq

theorem Accord.sansEffet (hg₀ : Lancement g₀) (h : Accord g₀ s) {i m : Nat} {g : Serveur.GameT}
    (hg : s.serveur.verdicts[m]? = some g) (ha : ¬ AFlot g i) (hs : Etape g₀.nbJoueur s a s')
    (hne : s'.serveur.game.plateau ≠ s.serveur.game.plateau) : ∃ k q, k ≠ i ∧ s.serveur.point = .tirRecu k q := by
  have hr := h.serveur
  have hcol {j n : Int} {envois : List (Int × List Char)}
      (hc : EnCollecte g₀ s.clients s.serveur j n envois) : False := by
    rw [hc.verdicts] at hg
    simp at hg
  rcases hs.serveur with he | ⟨b, hb⟩
  · exact absurd (congrArg (fun p => p.game.plateau) he) hne
  · rcases hb.game with he | ⟨j, n, envois, hp⟩ | ⟨j, n, envois, q, hp⟩ | ⟨k, q, hq, pile, ack, hp, hgame⟩ |
      ⟨k, f, hp, hf⟩
    · exact absurd (congrArg GameT.plateau he) hne
    · simp only [Regulier, hp] at hr
      exact (hcol hr).elim
    · simp only [Regulier, hp] at hr
      exact (hcol hr.1).elim
    · by_cases hki : k = i
      · subst hki
        simp only [Regulier, hp] at hr
        obtain ⟨hm, -, ht⟩ := hr
        have hlt := (List.getElem?_eq_some_iff.mp hg).1
        rw [hm.verdicts] at hlt
        obtain rfl := ht.mort h.serveur.descend hlt hg ha
        have hn : s.serveur.game.taillePlateau ≤ 50 := hm.regles.taillePlateau.trans_le hg₀.registres.plateau
        have hmort := recevoirTir_mort hn hm.flottille.borne pile
        rw [hgame, Option.some.injEq, Prod.mk.injEq] at hmort
        exact absurd (congrArg GameT.plateau hmort.1) hne
      · exact ⟨k, _, hki, hp⟩
    · simp only [Regulier, hp] at hr
      obtain ⟨f', hf', -⟩ := choisirFin_spec hr.1.flottille
      rw [hf, Option.some.injEq, Prod.mk.injEq] at hf'
      exact absurd (congrArg GameT.plateau hf'.1) hne

theorem Invariant.sansEffet (hg₀ : Lancement g₀) (h : Invariant g₀ s) {i m : Nat} {g : Serveur.GameT}
    (hg : s.serveur.verdicts[m]? = some g) (ha : ¬ AFlot g i) (hs : Etape g₀.nbJoueur s a s')
    (hne : s'.serveur.game.plateau ≠ s.serveur.game.plateau) : ∃ k q, k ≠ i ∧ s.serveur.point = .tirRecu k q := by
  rcases h with h | h
  · exact h.sansEffet hg₀ hg ha hs hne
  · exact absurd (congrArg GameT.plateau (h.etape hg₀ hs).2.1) hne

structure SurvieAccordee (g₀ : Serveur.GameT) (s : Etat) (i : Fin 100) (m : Nat) (e : EtatPartie) : Prop where
  verdict : ∃ g, s.serveur.verdicts[m]? = some g ∧ EtatAccorde g i e
  mort : e = .dead → ∀ s₁ a s₂, Run g₀.nbJoueur s s₁ → Etape g₀.nbJoueur s₁ a s₂ →
    s₂.serveur.game.plateau ≠ s₁.serveur.game.plateau → ∃ k q, k ≠ i.val ∧ s₁.serveur.point = .tirRecu k q

theorem survie_accordee (g₀ : Serveur.GameT) (hg₀ : Lancement g₀) (s : Etat) (h : Atteignable g₀ s) (i : Fin 100)
    (hi : (i.val : Int) < g₀.nbJoueur) (m : Nat) (e : EtatPartie) (ht : (s.clients i.val).Traite m e) :
    SurvieAccordee g₀ s i m e := by
  obtain ⟨g, hg, rfl⟩ := ((h.invariant hg₀).loyal hi).traite ht
  have hf := h.verdicts hg₀ g (List.mem_of_getElem? hg)
  refine ⟨⟨g, hg, classe_accordee hf i⟩, fun hd s₁ a s₂ hr hs hne => ?_⟩
  exact ((h.run hr).invariant hg₀).sansEffet hg₀ (hr.verdicts m g hg) (classe_dead hd) hs hne

theorem survie_accordee_mort : ∃ s, Atteignable (GameT.depart 3 6 2) s ∧ (s.clients 2).Traite 0 .dead ∧
    SurvieAccordee (GameT.depart 3 6 2) s 2 0 .dead := by
  have hg₀ : Lancement (GameT.depart 3 6 2) := depart_lancement (by decide) (by decide) (by decide) (by decide)
  let P (i : Nat) : Placement := ⟨Fin.ofNat 100 i, 0, 2 * i, 'd'⟩
  let tir (i : Nat) : Int × Int := if i = 0 then (0, 4) else if i = 1 then (1, 4) else (5, 5)
  have hcase (i k : Nat) : (P i).case k = (0 + (k : Int) * 1, 2 * (i : Int) + k * 0) := rfl
  have hP (i : Nat) (hi : (i : Int) < 3) : (P i).id.val = i ∧ (P i).Valide 6 2 := by
    refine ⟨Nat.mod_eq_of_lt (by omega), rfl, fun k hk => ?_⟩
    rw [hcase]
    simp only [Dans]
    omega
  have ht (i : Nat) (_ : (i : Int) < 3) : Dans 6 (tir i) := by
    simp only [tir]
    split_ifs <;> decide
  obtain ⟨s, g, ha, hg, htraite, hsurv⟩ := premiere_manche hg₀ hP ht
  have hf := ha.verdicts hg₀ g (List.mem_of_getElem? hg)
  -- the shots of players 0 and 1 hit both cells of boat 2, no shot hits the others
  have hvit (i : Fin 100) (hi : i.val < 2) : Surnage g i := by
    rw [surnage_iff hf, hsurv i (by simp only [GameT.depart]; omega), Bataille.survivants_iff]
    intro hsub
    obtain ⟨k, -, hk⟩ := hsub ⟨0, by decide, hcase i.val 0⟩
    simp only [tir] at hk
    split_ifs at hk <;> simp only [Prod.mk.injEq] at hk <;> omega
  have hmort : ¬ Surnage g 2 := by
    rw [surnage_iff hf, hsurv 2 (by decide), Bataille.survivants_iff, not_not]
    rintro q ⟨k, hk, rfl⟩
    have hk' : k = 0 ∨ k = 1 := by
      have : (k : Int) < 2 := hk
      omega
    rcases hk' with rfl | rfl
    · exact ⟨0, by decide, rfl⟩
    · exact ⟨1, by decide, rfl⟩
  have hs := survie_accordee _ hg₀ s ha 2 (by decide) 0 _ (htraite 2 (by decide))
  obtain ⟨g', hg', hacc⟩ := hs.verdict
  rw [hg, Option.some.injEq] at hg'
  subst hg'
  have hdead := hacc.dead.mpr ⟨hmort, 0, 1, by decide, hvit 0 (by decide), hvit 1 (by decide)⟩
  exact ⟨s, ha, hdead ▸ htraite 2 (by decide), hdead ▸ hs⟩

end Bnbr
