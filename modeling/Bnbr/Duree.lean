import Bnbr.Clib.Battle
import Bnbr.Terminaison

namespace Bnbr

open CArray CString Sessions Serveur Runs Bataille

variable {g₀ : Serveur.GameT} {s₀ s : Etat} {es : List Action}

def Etat.bateaux (g₀ : Serveur.GameT) (s : Etat) (i : Fin 100) : Set (Int × Int) :=
  {q | (i.val : Int) < g₀.nbJoueur ∧ q ∈ s.flotte g₀ i}

def tire (g₀ : Serveur.GameT) (es : List Action) (k : Nat) (i : Fin 100) (q : Int × Int) : Prop :=
  (i.val : Int) < g₀.nbJoueur ∧ (salves i es)[k]? = some (requeteTir q.1 q.2)

theorem hit_bombardees (hg₀ : Lancement g₀) (es : List Action) (m : Nat) :
    Battle.hit (tire g₀ es) m = bombardees g₀ es m := by
  have hj := hg₀.registres.joueurs_le
  ext q
  constructor
  · rintro ⟨k, hk, i, hi, hq⟩
    exact ⟨i, k, hi, hk, hq⟩
  · rintro ⟨i, k, hi, hk, hq⟩
    exact ⟨k, hk, ⟨i, by omega⟩, hi, hq⟩

theorem afloat_rescapes (hg₀ : Lancement g₀) (es : List Action) (s : Etat) (m : Nat) :
    Battle.afloat (s.bateaux g₀) (tire g₀ es) m = s.rescapes g₀ es m := by
  ext i
  simp only [Battle.afloat, hit_bombardees hg₀, Etat.rescapes, survivants_iff, Set.mem_ofPred_eq]
  constructor
  · intro h
    have hi : (i.val : Int) < g₀.nbJoueur := by
      by_contra hi
      exact h fun q hq => absurd hq.1 hi
    exact ⟨hi, fun hsub => h fun q hq => hsub hq.2⟩
  · rintro ⟨hi, h⟩ hsub
    exact h fun q hq => hsub ⟨hi, hq⟩

theorem Partie.legal (hg₀ : Lancement g₀) (hat : Atteignable g₀ s) (h : Partie g₀ s₀ es s) (K : Nat) :
    Battle.Legal (s.bateaux g₀) (tire g₀ es) K where
  single := by
    rintro k i p p' ⟨-, hp⟩ ⟨-, hp'⟩
    exact requeteTir_inj (Option.some.inj (hp.symm.trans hp'))
  alive := by
    rintro k i p - ⟨hi, hp⟩
    rw [afloat_rescapes hg₀]
    by_contra hn
    exact requeteTir_ne _ _ ((h.tir hg₀ hat hi hp).2 hn)

theorem Partie.fini (hg₀ : Lancement g₀) (hat : Atteignable g₀ s) (h : Partie g₀ s₀ es s) {i : Fin 100}
    (hi : (i.val : Int) < g₀.nbJoueur) (hp : (s.clients i.val).point = .fini) :
    (s.rescapes g₀ es (s.clients i.val).manche).Subsingleton := by
  obtain ⟨k, g, hk, hg, h1, -⟩ := (h.invariant.loyal hi).issue hp
  obtain ⟨-, -, ha⟩ := h.verdict hg₀ hat hg
  rw [hk]
  intro a hsa b hsb
  exact Fin.ext (nbAFlot_le_un.mp h1 ((ha a).mpr hsa) ((ha b).mpr hsb))

theorem duree_minimale (g₀ : Serveur.GameT) (hg₀ : Lancement g₀) (s₀ : Etat) (h₀ : Debut g₀ s₀) (es : List Action)
    (s : Etat) (h : Trace (Etape g₀.nbJoueur) s₀ es s) (i : Fin 100) (hi : (i.val : Int) < g₀.nbJoueur)
    (hp : (s.clients i.val).point = .fini) :
    ∃ v : Fin 100, ∀ T : Finset (Int × Int),
      (∀ q ∈ T, ∃ j : Fin 100, j ≠ v ∧ (j.val : Int) < g₀.nbJoueur ∧ q ∈ s.flotte g₀ j) →
      T.card ≤ ∑ m ∈ Finset.range (s.clients i.val).manche, (s.rescapes g₀ es m).ncard := by
  have hpartie := Partie.trace hg₀ h₀ h
  have hat : Atteignable g₀ s := ⟨s₀, h₀, trace_run h⟩
  have hsub := hpartie.fini hg₀ hat hi hp
  rw [← afloat_rescapes hg₀] at hsub
  obtain ⟨v, hv⟩ := Battle.duration (hpartie.legal hg₀ hat _) hsub
  simp only [afloat_rescapes hg₀] at hv
  exact ⟨v, fun T hT => hv T fun q hq => hT q hq⟩

theorem duree_minimale_depart : ∃ es s, Trace (Etape 2) (Etat.depart (GameT.depart 2 4 2)) es s ∧
    (s.clients 0).point = .fini ∧ ∃ v : Fin 100, ∀ T : Finset (Int × Int),
      (∀ q ∈ T, ∃ j : Fin 100, j ≠ v ∧ (j.val : Int) < 2 ∧ q ∈ s.flotte (GameT.depart 2 4 2) j) →
      T.card ≤ ∑ m ∈ Finset.range (s.clients 0).manche, (s.rescapes (GameT.depart 2 4 2) es m).ncard := by
  obtain ⟨s, hr, hfini⟩ := (Etat.depart_atteignable (GameT.depart 2 4 2)).termine depart_deux
  obtain ⟨es, h⟩ := Run.trace hr
  exact ⟨es, s, h, hfini 0 (by decide), duree_minimale _ depart_deux _ (Etat.depart_debut _) es s h 0 (by decide)
    (hfini 0 (by decide))⟩

end Bnbr
