import Mathlib.Data.List.Nodup
import Mathlib.Data.List.Perm.Basic
import Bnbr.Representation

namespace Bnbr.Serveur

open CArray Bataille

structure Placement where
  id : Fin 100
  x : Int
  y : Int
  direction : Char

def Placement.vecteur (p : Placement) : Int × Int := (pas p.direction).getD (0, 0)

def Placement.case (p : Placement) (k : Nat) : Int × Int := kieme p.x p.y p.vecteur k

def Placement.cases (p : Placement) (taille : Int) : Set (Int × Int) :=
  {q | ∃ k : Nat, (k : Int) < taille ∧ p.case k = q}

structure Placement.Valide (p : Placement) (n taille : Int) : Prop where
  direction : (pas p.direction).isSome = true
  dans : ∀ k : Nat, (k : Int) < taille → Dans n (p.case k)

theorem Placement.case_pas {p : Placement} {v : Int × Int} (h : pas p.direction = some v) (k : Nat) :
    p.case k = kieme p.x p.y v k := by
  rw [Placement.case, Placement.vecteur, h, Option.getD_some]

theorem Placement.case_droite {id : Fin 100} {x y : Int} (k : Nat) : (Placement.mk id x y 'd').case k = (x + k, y) := by
  rw [case_pas (v := (1, 0)) rfl]
  simp only [kieme, mul_one, mul_zero, add_zero]

theorem Placement.valide_droite (id : Fin 100) {n taille x y : Int} (hx : 0 ≤ x) (hxt : x + taille ≤ n) (hy : 0 ≤ y)
    (hyn : y < n) : (Placement.mk id x y 'd').Valide n taille := by
  refine ⟨rfl, fun k hk => ?_⟩
  rw [case_droite, Dans]
  omega

theorem Placement.valide_bas (id : Fin 100) {n taille x y : Int} (hx : 0 ≤ x) (hxn : x < n) (hy : 0 ≤ y)
    (hyt : y + taille ≤ n) : (Placement.mk id x y 'b').Valide n taille := by
  refine ⟨rfl, fun k hk => ?_⟩
  rw [case_pas (v := (0, 1)) rfl]
  simp only [kieme, Dans]
  omega

def placer (taille : Int) (ps : List Placement) (b : BoardT) : Option BoardT :=
  ps.foldlM (fun b p => placerBateau b p.id.val taille p.x p.y p.direction) b

structure Places (t : Int) (b b' : BoardT) (ps : List Placement) : Prop where
  nbBateau : b'.nbBateau = b.nbBateau + ps.length
  taille : ∀ p ∈ ps, (b'.bateaux p.id).taille = t
  bateau : ∀ p ∈ ps, ∀ j : Fin 10, (j.val : Int) < t →
    (b'.bateaux p.id).cell j = ⟨(p.case j).1, (p.case j).2, .boat⟩
  autre : ∀ i : Fin 100, (∀ p ∈ ps, p.id ≠ i) → b'.bateaux i = b.bateaux i
  navire : ∀ y x : Fin 50, (∃ p ∈ ps, coord y x ∈ p.cases t) → b'.cell y x = .boat
  vide : ∀ y x : Fin 50, (¬ ∃ p ∈ ps, coord y x ∈ p.cases t) → b'.cell y x = b.cell y x

theorem Dans.mono {n m : Int} {p : Int × Int} (h : Dans n p) (hnm : n ≤ m) : Dans m p :=
  ⟨h.1, lt_of_lt_of_le h.2.1 hnm, h.2.2.1, lt_of_lt_of_le h.2.2.2 hnm⟩

theorem Placement.Valide.mono {n m taille : Int} {p : Placement} (h : p.Valide n taille) (hnm : n ≤ m) :
    p.Valide m taille :=
  ⟨h.direction, fun k hk => (h.dans k hk).mono hnm⟩

theorem placerBateau_valide {n taille : Int} (hn : n ≤ 50) (ht0 : 1 ≤ taille) (ht : taille ≤ 10) {p : Placement}
    (hp : p.Valide n taille) (b : BoardT) :
    ∃ b', placerBateau b p.id.val taille p.x p.y p.direction = some b' ∧ Places taille b b' [p] := by
  obtain ⟨v, hv⟩ := Option.isSome_iff_exists.mp hp.direction
  have hcase := p.case_pas hv
  refine ⟨_, placerBateau_spec b p.id hv ht fun i hi => hcase i ▸ (hp.dans i hi).mono hn, ?_⟩
  have hpos : 0 < taille.toNat := by omega
  have hmem (y x : Fin 50) : (∃ q ∈ [p], coord y x ∈ q.cases taille) ↔
      ∃ i < taille.toNat, (kieme p.x p.y v i).1 = (x.val : Int) ∧ (kieme p.x p.y v i).2 = (y.val : Int) := by
    simp only [List.mem_singleton, exists_eq_left, Placement.cases, Set.mem_ofPred_eq, hcase, Prod.ext_iff,
      Int.lt_toNat]
  constructor
  · simp [BoardT.avecBateau]
  · simp [BoardT.avecBateau, apresPlacement, hpos]
  · simp only [List.mem_singleton, forall_eq]
    intro j hj
    simp [BoardT.avecBateau, apresPlacement, hpos, hcase, hj]
  · intro i hi
    have hne : i ≠ p.id := fun h => hi p (by simp) h.symm
    simp [BoardT.avecBateau, apresPlacement, hne]
  · intro y x h
    exact if_pos ((hmem y x).mp h)
  · intro y x h
    exact if_neg fun hc => h ((hmem y x).mpr hc)

theorem Places.append {taille : Int} {b c d : BoardT} {ps qs : List Placement}
    (h : Places taille b c ps) (h' : Places taille c d qs) (hd : ∀ p ∈ ps, ∀ q ∈ qs, q.id ≠ p.id) :
    Places taille b d (ps ++ qs) where
  nbBateau := by
    rw [h'.nbBateau, h.nbBateau, List.length_append]
    omega
  taille := fun p hp => by
    rcases List.mem_append.mp hp with hp | hp
    · rw [h'.autre p.id (hd p hp)]
      exact h.taille p hp
    · exact h'.taille p hp
  bateau := fun p hp => by
    rcases List.mem_append.mp hp with hp | hp
    · rw [h'.autre p.id (hd p hp)]
      exact h.bateau p hp
    · exact h'.bateau p hp
  autre := fun i hi => by
    rw [h'.autre i fun q hq => hi q (List.mem_append_right _ hq)]
    exact h.autre i fun p hp => hi p (List.mem_append_left _ hp)
  navire := fun y x hm => by
    by_cases hq : ∃ q ∈ qs, coord y x ∈ q.cases taille
    · exact h'.navire y x hq
    · rw [h'.vide y x hq]
      obtain ⟨p, hp, hc⟩ := hm
      rcases List.mem_append.mp hp with hp | hp
      · exact h.navire y x ⟨p, hp, hc⟩
      · exact absurd ⟨p, hp, hc⟩ hq
  vide := fun y x hm => by
    have h1 : ¬ ∃ p ∈ ps, coord y x ∈ p.cases taille := fun ⟨p, hp, hc⟩ =>
      hm ⟨p, List.mem_append_left _ hp, hc⟩
    have h2 : ¬ ∃ q ∈ qs, coord y x ∈ q.cases taille := fun ⟨q, hq, hc⟩ =>
      hm ⟨q, List.mem_append_right _ hq, hc⟩
    rw [h'.vide y x h2, h.vide y x h1]

theorem placer_spec {n taille : Int} (hn : n ≤ 50) (ht0 : 1 ≤ taille) (ht : taille ≤ 10) {ps : List Placement}
    (hids : (ps.map Placement.id).Nodup) (hps : ∀ p ∈ ps, p.Valide n taille) (b : BoardT) :
    ∃ b', placer taille ps b = some b' ∧ Places taille b b' ps := by
  induction ps generalizing b with
  | nil => exact ⟨b, rfl, by constructor <;> simp⟩
  | cons p ps ih =>
    obtain ⟨hp, hids'⟩ := List.nodup_cons.mp hids
    obtain ⟨c, hc, hpc⟩ := placerBateau_valide hn ht0 ht (hps p (by simp)) b
    obtain ⟨d, hd, hpd⟩ := ih hids' (fun q hq => hps q (List.mem_cons_of_mem _ hq)) c
    refine ⟨d, ?_, hpc.append hpd ?_⟩
    · simp only [placer, List.foldlM_cons, hc, Option.bind_eq_bind, Option.bind_some]
      exact hd
    · intro p' hp' q hq he
      rw [List.mem_singleton.mp hp'] at he
      exact hp (he ▸ List.mem_map_of_mem hq)

def Complet (nbJoueur : Int) (ps : List Placement) : Prop :=
  (ps.map fun p => p.id.val).Perm (List.range nbJoueur.toNat)

theorem Complet.nodup {nbJoueur : Int} {ps : List Placement} (h : Complet nbJoueur ps) :
    (ps.map Placement.id).Nodup := by
  have hn : (ps.map fun p => p.id.val).Nodup := h.nodup_iff.mpr List.nodup_range
  apply List.Nodup.of_map Fin.val
  simpa [List.map_map, Function.comp_def] using hn

theorem Complet.length {nbJoueur : Int} {ps : List Placement} (h : Complet nbJoueur ps) :
    ps.length = nbJoueur.toNat := by
  simpa using h.length_eq

theorem Complet.mem {nbJoueur : Int} {ps : List Placement} (h : Complet nbJoueur ps) {i : Fin 100} :
    (i.val : Int) < nbJoueur ↔ ∃ p ∈ ps, p.id = i := by
  have := h.mem_iff (a := i.val)
  simp only [List.mem_map, List.mem_range] at this
  rw [← Int.lt_toNat, ← this]
  constructor
  · rintro ⟨p, hp, he⟩
    exact ⟨p, hp, Fin.ext he⟩
  · rintro ⟨p, hp, rfl⟩
    exact ⟨p, hp, rfl⟩

def union (taille : Int) (ps : List Placement) : Set (Int × Int) := {q | ∃ p ∈ ps, q ∈ p.cases taille}

theorem Places.cases {t : Int} {b b' : BoardT} {ps : List Placement} (h : Places t b b' ps) (ht : t ≤ 10)
    {p : Placement} (hp : p ∈ ps) : (b'.bateaux p.id).cases = p.cases t := by
  ext q
  simp only [BateauT.cases, Placement.cases, Set.mem_ofPred_eq, h.taille p hp]
  constructor
  · rintro ⟨j, hj, rfl⟩
    exact ⟨j, hj, by simp [BateauT.case, h.bateau p hp j hj]⟩
  · rintro ⟨k, hk, rfl⟩
    refine ⟨⟨k, by omega⟩, hk, ?_⟩
    simp [BateauT.case, h.bateau p hp ⟨k, by omega⟩ hk]

theorem Places.flotte {t nbJoueur : Int} {b b' : BoardT} {ps : List Placement} (h : Places t b b' ps)
    (ht : t ≤ 10) (hb : b.nbBateau = 0) (hc : Complet nbJoueur ps) (hj : 0 ≤ nbJoueur) :
    b'.nbBateau = nbJoueur ∧ b'.flotte = union t ps := by
  have hn : b'.nbBateau = nbJoueur := by
    have := hc.length
    rw [h.nbBateau, hb]
    omega
  refine ⟨hn, ?_⟩
  ext q
  simp only [BoardT.flotte, union, Set.mem_ofPred_eq, hn]
  constructor
  · rintro ⟨i, hi, hq⟩
    obtain ⟨p, hp, rfl⟩ := hc.mem.mp hi
    exact ⟨p, hp, h.cases ht hp ▸ hq⟩
  · rintro ⟨p, hp, hq⟩
    exact ⟨p.id, hc.mem.mpr ⟨p, hp, rfl⟩, (h.cases ht hp).symm ▸ hq⟩

theorem Places.represente {t n nbJoueur : Int} {b b' : BoardT} {ps : List Placement} (h : Places t b b' ps)
    (ht : t ≤ 10) (hb : b.nbBateau = 0) (hc : Complet nbJoueur ps) (hj : 0 ≤ nbJoueur)
    (hvide : ∀ y x : Fin 50, Dans n (coord y x) → b.cell y x = .empty) : b'.Represente n ∅ := by
  obtain ⟨hn, hf⟩ := h.flotte ht hb hc hj
  constructor
  · intro y x hd
    by_cases hm : ∃ p ∈ ps, coord y x ∈ p.cases t
    · rw [h.navire y x hm]
      exact (statut_boat.mpr ⟨hf ▸ hm, Set.notMem_empty _⟩).symm
    · rw [h.vide y x hm, hvide y x hd]
      exact (statut_empty.mpr ⟨fun hq => hm (hf ▸ hq : _ ∈ union t ps), Set.notMem_empty _⟩).symm
  · intro i j hi hj'
    obtain ⟨p, hp, rfl⟩ := hc.mem.mp (hn ▸ hi)
    have hcell : ((b'.bateaux p.id).cell j).status = .boat := by
      rw [h.bateau p hp j (h.taille p hp ▸ hj')]
    rw [hcell]
    exact (statut_boat.mpr ⟨BoardT.case_mem_flotte hi hj', Set.notMem_empty _⟩).symm

theorem Places.borne {t nbJoueur : Int} {b b' : BoardT} {ps : List Placement} (h : Places t b b' ps)
    (ht : t ≤ 10) (hb : b.nbBateau = 0) (hc : Complet nbJoueur ps) (hj : 0 ≤ nbJoueur)
    (hj' : nbJoueur ≤ 100) : b'.Borne where
  nbBateau := (h.flotte ht hb hc hj).1 ▸ hj'
  taille := fun i hi => by
    obtain ⟨p, hp, rfl⟩ := hc.mem.mp ((h.flotte ht hb hc hj).1 ▸ hi)
    rw [h.taille p hp]
    exact ht

end Bnbr.Serveur
