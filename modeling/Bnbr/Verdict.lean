import Mathlib.Data.Nat.Count
import Bnbr.Representation
import Bnbr.Tir

namespace Bnbr.Serveur

open CArray CString

structure Echange where
  avant : ReqT
  lecture : Lecture
  buff : Buf maxBuffer
  quoi : ReqT

def echanger (e : Echange) (q : Requete) : Option Unit := do
  let _ ← envoyer (formatReq e.avant q)
  let _ ← recevoir unserialReq e.lecture e.buff e.quoi
  some ()

abbrev Journal := List (Int × Requete)

def aTous (g : GameT) (q : Nat → Option Requete) (e : Nat → Echange) (journal : Journal) : Option Journal :=
  Loop.run g.nbJoueur.toNat (fun i journal => do
    let _ ← get g.players i
    let r ← q i
    echanger (e i) r
    some (journal ++ [((i : Int), r)])) journal

def balayer {α : Type} (bateau : BateauT) (taille : Int) (marque v : α) : Option α :=
  Loop.run taille.toNat (fun j v => do
    let c ← get bateau.cell j
    some (if c.status ≠ .hitShot then marque else v)) v

def compterCoules (g : GameT) : Option Int :=
  Loop.run g.plateau.nbBateau.toNat (fun i nbBateauCoule => do
    let bateau ← get g.plateau.bateaux i
    let flag ← balayer bateau g.tailleBateau true false
    some (if flag then nbBateauCoule else nbBateauCoule + 1)) 0

def dernierAFlot (g : GameT) : Option Int :=
  Loop.run g.nbJoueur.toNat (fun i flag => do
    let bateau ← get g.plateau.bateaux i
    balayer bateau bateau.taille (i : Int) flag) (-1)

def txtFin : List Char := ['f', 'i', 'n']

def txtContinue : List Char := ['c', 'o', 'n', 't', 'i', 'n', 'u', 'e']

def txtStop : List Char := ['s', 't', 'o', 'p']

def requeteGagne : Requete := ⟨10, txtFin, txtBlanc⟩

def requetePerdu : Requete := ⟨9, txtFin, txtBlanc⟩

def requeteContinue : Requete := ⟨7, txtContinue, txtBlanc⟩

def requeteStop : Requete := ⟨8, txtStop, txtBlanc⟩

def etatJoueur (g : GameT) (i : Nat) : Option Requete := do
  let bateau ← get g.plateau.bateaux i
  let flag ← balayer bateau bateau.taille true false
  some (if flag then requeteContinue else requeteStop)

def choisirFin (g : GameT) : Option (GameT × (Nat → Option Requete)) := do
  let nbBateauCoule ← compterCoules g
  if nbBateauCoule = g.plateau.nbBateau then
    some ({ g with etat := 2 }, fun _ => some requetePerdu)
  else if nbBateauCoule = g.plateau.nbBateau - 1 then do
    let flag ← dernierAFlot g
    some (g, fun i => some (if flag = (i : Int) then requeteGagne else requetePerdu))
  else some (g, etatJoueur g)

def verifierFinPartie (g : GameT) (e : Nat → Echange) (journal : Journal) : Option (GameT × Journal) := do
  let (g', q) ← choisirFin g
  let journal' ← aTous g' q e journal
  some (g', journal')

def BateauT.Coule (bateau : BateauT) (taille : Int) : Prop :=
  ∀ j : Fin 10, (j.val : Int) < taille → (bateau.cell j).status = .hitShot

instance (bateau : BateauT) (taille : Int) : Decidable (bateau.Coule taille) :=
  inferInstanceAs (Decidable (∀ _ : Fin 10, _))

theorem balayer_spec {α : Type} (bateau : BateauT) {taille : Int} (ht : taille ≤ 10) (marque v : α) :
    balayer bateau taille marque v = some (if bateau.Coule taille then v else marque) := by
  have hrun := Loop.run_states (n := taille.toNat)
    (f := fun j v => do
      let c ← get bateau.cell j
      some (if c.status ≠ .hitShot then marque else v))
    (fun k => if bateau.Coule k then v else marque) (by
      intro i hi
      obtain ⟨j, hj⟩ := exists_fin (n := 10) (i := (i : Int)) (by omega) (by omega)
      have hsucc : bateau.Coule ((i + 1 : Nat) : Int) ↔
          bateau.Coule i ∧ (bateau.cell j).status = .hitShot := by
        constructor
        · intro h
          exact ⟨fun m hm => h m (by omega), h j (by omega)⟩
        · rintro ⟨h, hjh⟩ m hm
          rcases (show (m.val : Int) < i ∨ m.val = j.val by omega) with hlt | he
          · exact h m hlt
          · rwa [Fin.ext he]
      rw [hj, get_fin, ← hj]
      simp only [Option.bind_eq_bind, Option.bind_some, hsucc, Option.some.injEq]
      by_cases h1 : bateau.Coule i <;> by_cases h2 : (bateau.cell j).status = .hitShot <;> simp [h1, h2])
  have h0 : bateau.Coule ((0 : Nat) : Int) := fun j hj => by omega
  have hn : bateau.Coule (taille.toNat : Int) ↔ bateau.Coule taille := by
    constructor
    · intro h j hj
      exact h j (by omega)
    · intro h j hj
      exact h j (by omega)
  simp only [h0, if_true, hn] at hrun
  exact hrun

def BoardT.coule (b : BoardT) (taille : Int) (i : Nat) : Prop :=
  ∀ k : Fin 100, k.val = i → (b.bateaux k).Coule taille

instance (b : BoardT) (taille : Int) : DecidablePred (b.coule taille) :=
  fun _ => inferInstanceAs (Decidable (∀ _ : Fin 100, _))

theorem BoardT.coule_fin {b : BoardT} {taille : Int} {k : Fin 100} :
    b.coule taille k.val ↔ (b.bateaux k).Coule taille := by
  constructor
  · intro h
    exact h k rfl
  · intro h m hm
    rwa [Fin.ext hm]

theorem compterCoules_spec {g : GameT} (hn : g.plateau.nbBateau ≤ 100) (ht : g.tailleBateau ≤ 10) :
    compterCoules g = some (Nat.count (g.plateau.coule g.tailleBateau) g.plateau.nbBateau.toNat : Int) := by
  have hrun := Loop.run_states (n := g.plateau.nbBateau.toNat)
    (f := fun i (n : Int) => do
      let bateau ← get g.plateau.bateaux i
      let flag ← balayer bateau g.tailleBateau true false
      some (if flag then n else n + 1))
    (fun k => (Nat.count (g.plateau.coule g.tailleBateau) k : Int)) (by
      intro i hi
      obtain ⟨k, hk⟩ := exists_fin (n := 100) (i := (i : Int)) (by omega) (by omega)
      have hki : i = k.val := by omega
      subst hki
      simp only [get_fin, balayer_spec _ ht, Option.bind_eq_bind, Option.bind_some, Nat.count_succ,
        BoardT.coule_fin]
      by_cases h : (g.plateau.bateaux k).Coule g.tailleBateau <;> simp [h])
  exact hrun

theorem aTous_journal {g : GameT} {q : Nat → Option Requete} {e : Nat → Echange} {journal journal' : Journal}
    (h : aTous g q e journal = some journal') :
    (∀ i, i < g.nbJoueur.toNat → ∃ r, q i = some r) ∧
      journal' = journal ++ (List.range g.nbJoueur.toNat).map fun i : Nat => ((i : Int), (q i).getD default) := by
  refine Loop.run_invariant (fun k journal' => (∀ i, i < k → ∃ r, q i = some r) ∧
    journal' = journal ++ (List.range k).map fun i : Nat => ((i : Int), (q i).getD default)) ?_ ?_ h
  · exact ⟨fun i hi => absurd hi (Nat.not_lt_zero i), by simp⟩
  · rintro k t v - ⟨hall, rfl⟩ hv
    simp only [Option.bind_eq_bind, Option.bind_eq_some_iff, Option.some.injEq] at hv
    obtain ⟨-, -, r, hr, -, -, rfl⟩ := hv
    refine ⟨fun i hi => ?_, by simp [List.range_succ, hr]⟩
    rcases Nat.lt_succ_iff_lt_or_eq.mp hi with hi | rfl
    · exact hall i hi
    · exact ⟨r, hr⟩

theorem count_compl (p : Nat → Prop) [DecidablePred p] (n : Nat) :
    Nat.count p n + Nat.count (fun i => ¬ p i) n = n := by
  induction n with
  | zero => rfl
  | succ n ih =>
    rw [Nat.count_succ, Nat.count_succ]
    by_cases h : p n <;> simp only [h, not_true, not_false_iff, if_true, if_false] <;> omega

theorem count_pred_iff (p : Nat → Prop) [DecidablePred p] (n : Nat) :
    Nat.count p n + 1 = n ↔ ∃! i, i < n ∧ ¬ p i := by
  have h1 : Nat.count p n + 1 = n ↔ Nat.count (fun i => ¬ p i) n = 1 := by
    have := count_compl p n
    omega
  rw [h1, Nat.count_eq_card_filter_range, Finset.card_eq_one_iff_existsUnique]
  simp only [Finset.mem_filter, Finset.mem_range]

def Echange.Lu (e : Echange) : Prop := ∃ s, text e.lecture.recu = some s

def Echange.Lisible (e : Echange) : Prop := ∃ r, recevoir unserialReq e.lecture e.buff e.quoi = some r

theorem Echange.Lu.lisible {e : Echange} (h : e.Lu) : e.Lisible := by
  obtain ⟨s, hs⟩ := h
  exact ⟨_, recevoir_texte hs _ _ _⟩

theorem echanger_lisible {e : Echange} (he : e.Lisible) {q : Requete} (hq : q.Valide) : echanger e q = some () := by
  obtain ⟨r, hr⟩ := he
  simp only [echanger, envoyer_formatReq hq, hr, Option.bind_eq_bind, Option.bind_some]

theorem Echange.lisible_of_echanger {e : Echange} {q : Requete} {u : Unit} (h : echanger e q = some u) : e.Lisible := by
  simp only [echanger, Option.bind_eq_bind, Option.bind_eq_some_iff] at h
  obtain ⟨-, -, r, hr, -⟩ := h
  exact ⟨r, hr⟩

theorem aTous_echange {g : GameT} (hn : g.nbJoueur ≤ 100) {q : Nat → Option Requete} {e : Nat → Echange}
    (he : ∀ i, i < g.nbJoueur.toNat → ∃ r, q i = some r ∧ echanger (e i) r = some ()) (journal : Journal) :
    aTous g q e journal =
      some (journal ++ (List.range g.nbJoueur.toNat).map fun i : Nat => ((i : Int), (q i).getD default)) := by
  have hrun := Loop.run_states (n := g.nbJoueur.toNat)
    (f := fun i (journal : Journal) => do
      let _ ← get g.players i
      let r ← q i
      echanger (e i) r
      some (journal ++ [((i : Int), r)]))
    (fun k => journal ++ (List.range k).map fun i : Nat => ((i : Int), (q i).getD default)) (by
      intro i hi
      obtain ⟨k, hk⟩ := exists_fin (n := 100) (i := (i : Int)) (by omega) (by omega)
      obtain ⟨r, hr, hv⟩ := he i hi
      rw [hk, get_fin, hr]
      simp only [Option.bind_eq_bind, Option.bind_some, hv, List.range_succ, List.map_append, List.map_singleton,
        List.append_assoc, hr, Option.getD_some, hk])
  simp only [List.range_zero, List.map_nil, List.append_nil] at hrun
  exact hrun

theorem aTous_spec {g : GameT} (hn : g.nbJoueur ≤ 100) {q : Nat → Option Requete} {e : Nat → Echange}
    (hq : ∀ i, i < g.nbJoueur.toNat → ∃ r, q i = some r ∧ r.Valide)
    (he : ∀ i, i < g.nbJoueur.toNat → (e i).Lisible) (journal : Journal) :
    aTous g q e journal =
      some (journal ++ (List.range g.nbJoueur.toNat).map fun i : Nat => ((i : Int), (q i).getD default)) := by
  refine aTous_echange hn (fun i hi => ?_) journal
  obtain ⟨r, hr, hv⟩ := hq i hi
  exact ⟨r, hr, echanger_lisible (he i hi) hv⟩

theorem aTous_echanger {g : GameT} {q : Nat → Option Requete} {e : Nat → Echange} {journal journal' : Journal}
    (h : aTous g q e journal = some journal') :
    ∀ i, i < g.nbJoueur.toNat → ∃ r, q i = some r ∧ echanger (e i) r = some () := by
  refine Loop.run_invariant (fun k _ => ∀ i, i < k → ∃ r, q i = some r ∧ echanger (e i) r = some ())
    (fun i hi => absurd hi (Nat.not_lt_zero i)) ?_ h
  intro k t v _ hall hv i hi
  simp only [Option.bind_eq_bind, Option.bind_eq_some_iff] at hv
  obtain ⟨-, -, r, hr, u, he, -⟩ := hv
  rcases Nat.lt_succ_iff_lt_or_eq.mp hi with hi | rfl
  · exact hall i hi
  · exact ⟨r, hr, he⟩

theorem aTous_lisible {g : GameT} {q : Nat → Option Requete} {e : Nat → Echange} {journal journal' : Journal}
    (h : aTous g q e journal = some journal') : ∀ i, i < g.nbJoueur.toNat → (e i).Lisible := by
  intro i hi
  obtain ⟨_, _, he⟩ := aTous_echanger h i hi
  exact Echange.lisible_of_echanger he

def DernierAFlot (g : GameT) (k : Nat) (flag : Int) : Prop :=
  (flag = -1 ∧ ∀ i : Fin 100, i.val < k → (g.plateau.bateaux i).Coule (g.plateau.bateaux i).taille) ∨
  ∃ s : Fin 100, s.val < k ∧ flag = s.val ∧ ¬ (g.plateau.bateaux s).Coule (g.plateau.bateaux s).taille ∧
    ∀ i : Fin 100, s.val < i.val → i.val < k → (g.plateau.bateaux i).Coule (g.plateau.bateaux i).taille

theorem dernierAFlot_spec {g : GameT} (hn : g.nbJoueur ≤ 100)
    (ht : ∀ i : Fin 100, (i.val : Int) < g.nbJoueur → (g.plateau.bateaux i).taille ≤ 10) :
    ∃ flag, dernierAFlot g = some flag ∧ DernierAFlot g g.nbJoueur.toNat flag := by
  refine Loop.run_total (DernierAFlot g) (.inl ⟨rfl, fun i hi => absurd hi (Nat.not_lt_zero _)⟩) ?_
  intro i flag hi hI
  obtain ⟨k, hk⟩ := exists_fin (n := 100) (i := (i : Int)) (by omega) (by omega)
  have hki : i = k.val := by omega
  subst hki
  simp only [get_fin, balayer_spec _ (ht k (by omega)), Option.bind_eq_bind, Option.bind_some,
    Option.some.injEq, exists_eq_left']
  split
  · rename_i hc
    rcases hI with ⟨rfl, hall⟩ | ⟨s, hs, rfl, hsc, hall⟩
    · refine .inl ⟨rfl, fun i hi => ?_⟩
      rcases Nat.lt_succ_iff_lt_or_eq.mp hi with hi | hi
      · exact hall i hi
      · rwa [Fin.ext hi]
    · refine .inr ⟨s, by omega, rfl, hsc, fun i hsi hi => ?_⟩
      rcases Nat.lt_succ_iff_lt_or_eq.mp hi with hi | hi
      · exact hall i hsi hi
      · rwa [Fin.ext hi]
  · rename_i hc
    exact .inr ⟨k, by omega, rfl, hc, fun i hsi hi => by omega⟩

theorem etatJoueur_spec {g : GameT} {i : Fin 100} (ht : (g.plateau.bateaux i).taille ≤ 10) :
    etatJoueur g i.val =
      some (if (g.plateau.bateaux i).Coule (g.plateau.bateaux i).taille then requeteStop else requeteContinue) := by
  simp only [etatJoueur, get_fin, balayer_spec _ ht, Option.bind_eq_bind, Option.bind_some]
  split <;> rfl

structure Flottille (g : GameT) : Prop where
  joueurs : 0 ≤ g.nbJoueur
  joueurs_le : g.nbJoueur ≤ 100
  bateau_le : g.tailleBateau ≤ 10
  nbBateau : g.plateau.nbBateau = g.nbJoueur
  taille : ∀ i : Fin 100, (i.val : Int) < g.nbJoueur → (g.plateau.bateaux i).taille = g.tailleBateau

def AFlot (g : GameT) (i : Nat) : Prop := i < g.nbJoueur.toNat ∧ ¬ g.plateau.coule g.tailleBateau i

instance (g : GameT) : DecidablePred (AFlot g) := fun _ => inferInstanceAs (Decidable (_ ∧ _))

def nbAFlot (g : GameT) : Nat := Nat.count (AFlot g) g.nbJoueur.toNat

def verdictDe (g : GameT) (i : Nat) : Requete :=
  if nbAFlot g = 0 then requetePerdu
  else if nbAFlot g = 1 then (if AFlot g i then requeteGagne else requetePerdu)
  else (if AFlot g i then requeteContinue else requeteStop)

theorem verdictDe_valide (g : GameT) (i : Nat) : (verdictDe g i).Valide := by
  unfold verdictDe
  split_ifs <;> constructor <;> decide

theorem nbAFlot_coules (g : GameT) :
    Nat.count (g.plateau.coule g.tailleBateau) g.nbJoueur.toNat + nbAFlot g = g.nbJoueur.toNat := by
  have h : Nat.count (fun i => ¬ g.plateau.coule g.tailleBateau i) g.nbJoueur.toNat = nbAFlot g := by
    apply Nat.le_antisymm
    · exact Nat.count_mono_left fun k hk hc => ⟨hk, hc⟩
    · exact Nat.count_mono_left fun k _ hc => hc.2
  rw [← h]
  exact count_compl _ _

theorem nbAFlot_un {g : GameT} (h : nbAFlot g = 1) : ∃ s, AFlot g s ∧ ∀ i, AFlot g i → i = s := by
  have hc := nbAFlot_coules g
  obtain ⟨s, hs, hu⟩ := (count_pred_iff (g.plateau.coule g.tailleBateau) g.nbJoueur.toNat).mp (by omega)
  exact ⟨s, hs, fun i hi => hu i hi⟩

theorem Flottille.coule {g : GameT} (h : Flottille g) {k : Fin 100} (hk : (k.val : Int) < g.nbJoueur) :
    (g.plateau.bateaux k).Coule (g.plateau.bateaux k).taille ↔ ¬ AFlot g k.val := by
  rw [h.taille k hk, AFlot, BoardT.coule_fin, not_and_not_right]
  exact ⟨fun hc _ => hc, fun hc => hc (by omega)⟩

theorem Flottille.taille_le {g : GameT} (h : Flottille g) {k : Fin 100} (hk : (k.val : Int) < g.nbJoueur) :
    (g.plateau.bateaux k).taille ≤ 10 := by
  rw [h.taille k hk]
  exact h.bateau_le

theorem Flottille.dernierAFlot {g : GameT} (h : Flottille g) {s : Nat} (hs : AFlot g s) (hu : ∀ i, AFlot g i → i = s) :
    Serveur.dernierAFlot g = some (s : Int) := by
  obtain ⟨flag, hflag, ⟨-, hall⟩ | ⟨k, hk, rfl, hkc, -⟩⟩ :=
    dernierAFlot_spec h.joueurs_le fun i hi => h.taille_le hi
  · have hj := h.joueurs_le
    have hlt := hs.1
    obtain ⟨k, hk⟩ := exists_fin (n := 100) (i := (s : Int)) (by omega) (by omega)
    obtain rfl : s = k.val := by omega
    exact absurd hs ((h.coule (by omega)).mp (hall k hlt))
  · rw [h.coule (by omega), not_not] at hkc
    rw [hflag, hu k.val hkc]

theorem Flottille.etatJoueur {g : GameT} (h : Flottille g) {i : Nat} (hi : i < g.nbJoueur.toNat) :
    Serveur.etatJoueur g i = some (if AFlot g i then requeteContinue else requeteStop) := by
  have hj := h.joueurs_le
  obtain ⟨k, hk⟩ := exists_fin (n := 100) (i := (i : Int)) (by omega) (by omega)
  obtain rfl : i = k.val := by omega
  have hk' : (k.val : Int) < g.nbJoueur := by omega
  rw [etatJoueur_spec (h.taille_le hk')]
  simp only [h.coule hk', ite_not]

theorem choisirFin_spec {g : GameT} (h : Flottille g) :
    ∃ q, choisirFin g = some ({ g with etat := if nbAFlot g = 0 then 2 else g.etat }, q) ∧
      ∀ i, i < g.nbJoueur.toNat → q i = some (verdictDe g i) := by
  have hj := h.joueurs
  have hj' := h.joueurs_le
  have hnb := h.nbBateau
  have hcoules := nbAFlot_coules g
  have hcompte := compterCoules_spec (g := g) (by omega) h.bateau_le
  rw [hnb] at hcompte
  simp only [choisirFin, hcompte, hnb, Option.bind_eq_bind, Option.bind_some]
  by_cases h0 : nbAFlot g = 0
  · rw [if_pos (by omega)]
    exact ⟨_, by rw [if_pos h0], fun i hi => by simp only [verdictDe, h0, if_true]⟩
  · rw [if_neg (by omega)]
    by_cases h1 : nbAFlot g = 1
    · rw [if_pos (by omega)]
      obtain ⟨s, hs, hu⟩ := nbAFlot_un h1
      refine ⟨_, by rw [h.dernierAFlot hs hu, Option.bind_some, if_neg h0], fun i hi => ?_⟩
      have hiff : s = i ↔ AFlot g i := ⟨fun he => he ▸ hs, fun hi => (hu i hi).symm⟩
      simp only [verdictDe, h1, one_ne_zero, if_true, if_false, Nat.cast_inj, hiff]
    · rw [if_neg (by omega)]
      exact ⟨_, by rw [if_neg h0], fun i hi => by simp only [h.etatJoueur hi, verdictDe, h0, h1, if_false]⟩

def verdicts (g : GameT) : Journal := (List.range g.nbJoueur.toNat).map fun i : Nat => ((i : Int), verdictDe g i)

abbrev GameT.apresVerdict (g : GameT) : GameT := { g with etat := if nbAFlot g = 0 then 2 else g.etat }

theorem verdicts_congr {g : GameT} {q : Nat → Option Requete}
    (hq : ∀ i, i < g.nbJoueur.toNat → q i = some (verdictDe g i)) :
    ((List.range g.nbJoueur.toNat).map fun i : Nat => ((i : Int), (q i).getD default)) = verdicts g := by
  apply List.map_congr_left
  intro i hi
  rw [hq i (List.mem_range.mp hi), Option.getD_some]

theorem verifierFinPartie_lisible {g : GameT} (h : Flottille g) {e : Nat → Echange}
    (he : ∀ i, i < g.nbJoueur.toNat → (e i).Lisible) (journal : Journal) :
    verifierFinPartie g e journal = some (g.apresVerdict, journal ++ verdicts g) := by
  obtain ⟨q, hq, hqi⟩ := choisirFin_spec h
  have hj := aTous_spec (g := g.apresVerdict) h.joueurs_le
    (fun i hi => ⟨_, hqi i hi, verdictDe_valide g i⟩) he journal
  simp only [verifierFinPartie, hq, hj, verdicts_congr hqi, Option.bind_eq_bind, Option.bind_some]

theorem verifierFinPartie_journal {g g' : GameT} (h : Flottille g) {e : Nat → Echange} {journal journal' : Journal}
    (hv : verifierFinPartie g e journal = some (g', journal')) :
    g' = g.apresVerdict ∧ journal' = journal ++ verdicts g ∧ ∀ i, i < g.nbJoueur.toNat → (e i).Lisible := by
  obtain ⟨q, hq, hqi⟩ := choisirFin_spec h
  simp only [verifierFinPartie, hq, Option.bind_eq_bind, Option.bind_some, Option.bind_eq_some_iff,
    Option.some.injEq, Prod.mk.injEq] at hv
  obtain ⟨j, hj, rfl, rfl⟩ := hv
  have hjournal := (aTous_journal hj).2
  rw [verdicts_congr hqi] at hjournal
  exact ⟨rfl, hjournal, aTous_lisible hj⟩

end Bnbr.Serveur
