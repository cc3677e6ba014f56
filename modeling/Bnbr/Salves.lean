import Bnbr.Issue
import Bnbr.Reference

namespace Bnbr

open CArray CString Decimal Sessions Serveur Runs Determinacy Bataille

variable {g₀ : Serveur.GameT} {s₀ s s' : Etat} {es : List Action} {a : Action} {n : Int} {i : Nat} {q : Requete}

abbrev estTir (q : Requete) : Bool := decide (q.id = 6)

def tirsPris (i : Nat) (es : List Action) : List Requete := (inputs i (actes es)).filter estTir

def salves (i : Nat) (es : List Action) : List Requete := (emises i es).filter estTir

-- the cells aimed at by the first m i moves of each player i
def vises (n : Int) (L : Nat → List Requete) (m : Nat → Nat) : Set (Int × Int) :=
  {q | ∃ i k : Nat, (i : Int) < n ∧ k < m i ∧ (L i)[k]? = some (requeteTir q.1 q.2)}

theorem print_inj {x y : Int} (h : print x = print y) : x = y := by
  have hx : scan (print x ++ []) = some (x, []) := scan_print x (by simp)
  have hy : scan (print y ++ []) = some (y, []) := scan_print y (by simp)
  rw [h, hy] at hx
  exact (congrArg Prod.fst (Option.some.inj hx)).symm

theorem requeteTir_inj {x y z t : Int} (h : requeteTir x y = requeteTir z t) : (x, y) = (z, t) := by
  have hi : print x ++ ';' :: print y = print z ++ ';' :: print t := congrArg Requete.infos h
  have hr (v : Int) : ∀ c, (';' :: print v).head? = some c → c.isDigit = false := by
    rintro c hc
    obtain rfl : ';' = c := Option.some.inj hc
    rfl
  have hx := scan_print x (hr y)
  rw [hi, scan_print z (hr t), Option.some.injEq, Prod.mk.injEq, List.cons.injEq] at hx
  rw [hx.1, print_inj hx.2.2]

theorem requeteTir_ne (x y : Int) : requeteTir x y ≠ requeteMort := by
  intro h
  have : txtCoup = txtMort := congrArg Requete.nom h
  exact absurd this (by decide)

theorem vises_prefixe {L L' : Nat → List Requete} {m : Nat → Nat} (h : ∀ i : Nat, (i : Int) < n → L i <+: L' i)
    (hm : ∀ i : Nat, (i : Int) < n → m i ≤ (L i).length) : vises n L m = vises n L' m := by
  ext q
  constructor
  · rintro ⟨i, k, hi, hk, hq⟩
    obtain ⟨r, hr⟩ := h i hi
    have hlt := (List.getElem?_eq_some_iff.mp hq).1
    exact ⟨i, k, hi, hk, by rw [← hr, List.getElem?_append_left hlt, hq]⟩
  · rintro ⟨i, k, hi, hk, hq⟩
    obtain ⟨r, hr⟩ := h i hi
    have := hm i hi
    rw [← hr, List.getElem?_append_left (by omega)] at hq
    exact ⟨i, k, hi, hk, hq⟩

theorem vises_congr {L : Nat → List Requete} {m m' : Nat → Nat} (h : ∀ i : Nat, (i : Int) < n → m i = m' i) :
    vises n L m = vises n L m' := by
  ext q
  constructor
  · rintro ⟨i, k, hi, hk, hq⟩
    exact ⟨i, k, hi, h i hi ▸ hk, hq⟩
  · rintro ⟨i, k, hi, hk, hq⟩
    exact ⟨i, k, hi, (h i hi).symm ▸ hk, hq⟩

theorem vises_coup {L : Nat → List Requete} {m m' : Nat → Nat} {x y : Int} (hi : (i : Int) < n) (hm : m' i = m i + 1)
    (hautres : ∀ k, k ≠ i → m' k = m k) (hq : (L i)[m i]? = some (requeteTir x y)) :
    vises n L m' = insert (x, y) (vises n L m) := by
  ext c
  rw [Set.mem_insert_iff]
  constructor
  · rintro ⟨j, k, hj, hk, hc⟩
    by_cases hji : j = i
    · subst hji
      rcases Nat.lt_succ_iff_lt_or_eq.mp (hm ▸ hk) with hlt | rfl
      · exact .inr ⟨j, k, hj, hlt, hc⟩
      · rw [hq, Option.some.injEq] at hc
        exact .inl (requeteTir_inj hc).symm
    · exact .inr ⟨j, k, hj, hautres j hji ▸ hk, hc⟩
  · rintro (rfl | ⟨j, k, hj, hk, hc⟩)
    · exact ⟨i, m i, hi, by omega, hq⟩
    · by_cases hji : j = i
      · subst hji
        exact ⟨j, k, hj, by omega, hc⟩
      · exact ⟨j, k, hj, (hautres j hji).symm ▸ hk, hc⟩

theorem vises_mort {L : Nat → List Requete} {m m' : Nat → Nat} (hm : m' i = m i + 1)
    (hautres : ∀ k, k ≠ i → m' k = m k) (hq : (L i)[m i]? = some requeteMort) : vises n L m' = vises n L m := by
  ext c
  constructor
  · rintro ⟨j, k, hj, hk, hc⟩
    by_cases hji : j = i
    · subst hji
      rcases Nat.lt_succ_iff_lt_or_eq.mp (hm ▸ hk) with hlt | rfl
      · exact ⟨j, k, hj, hlt, hc⟩
      · rw [hq, Option.some.injEq] at hc
        exact absurd hc.symm (requeteTir_ne _ _)
    · exact ⟨j, k, hj, hautres j hji ▸ hk, hc⟩
  · rintro ⟨j, k, hj, hk, hc⟩
    by_cases hji : j = i
    · subst hji
      exact ⟨j, k, hj, by omega, hc⟩
    · exact ⟨j, k, hj, (hautres j hji).symm ▸ hk, hc⟩

-- the moves of player i that the game has taken into account, and those the server has read
def Serveur.Poste.joues (p : Serveur.Poste) (i : Nat) : Nat :=
  match p.point with
  | .tir k => if i < k then p.manche + 1 else p.manche
  | .tirRecu k _ => if i < k then p.manche + 1 else p.manche
  | .envoi (.etat _) _ => p.manche + 1
  | .accuse (.etat _) _ => p.manche + 1
  | _ => p.manche

def Serveur.Poste.recus (p : Serveur.Poste) (i : Nat) : Nat :=
  match p.point with
  | .tirRecu k _ => if i ≤ k then p.manche + 1 else p.manche
  | _ => p.joues i

def Serveur.Poste.Lance (p : Serveur.Poste) : Prop :=
  match p.point with
  | .envoi .infos _ => False
  | .accuse .infos _ => False
  | .demande _ => False
  | .collecte _ _ _ => False
  | .bateau _ _ _ _ => False
  | _ => True

theorem Serveur.Poste.joues_le (p : Serveur.Poste) (i : Nat) : p.joues i ≤ p.recus i := by
  unfold Serveur.Poste.recus
  split
  · rename_i k q hp
    simp only [Serveur.Poste.joues, hp]
    split_ifs <;> omega
  · exact Nat.le_refl _

structure Serveur.Poste.SansTir (p p' : Serveur.Poste) : Prop where
  game : p.Lance → p'.game = p.game
  verdicts : p'.verdicts = p.verdicts
  lance : p'.Lance ↔ p.Lance
  recus : ∀ i, p'.recus i = p.recus i
  joues : ∀ i, p'.joues i = p.joues i
  point : ∀ i q, p'.point ≠ .tirRecu i q

theorem Serveur.Pas.sansTir {p p' : Serveur.Poste} {b : Serveur.Action} (h : Serveur.Pas p b p')
    (ht : ∀ i, p.point ≠ .tir i) (hr : ∀ i q, p.point ≠ .tirRecu i q) (hc : p'.point ≠ .touche) : p.SansTir p' := by
  cases h with
  | @envoi b _ _ hp | @accuse b _ _ hp =>
    refine ⟨fun _ => rfl, rfl, ?_, fun k => ?_, fun k => ?_, by simp⟩
    · cases b <;> simp [Serveur.Poste.Lance, hp]
    · cases b <;> simp [Serveur.Poste.recus, Serveur.Poste.joues, hp]
    · cases b <;> simp [Serveur.Poste.joues, hp]
  | @suite b _ hp =>
    refine ⟨fun _ => rfl, rfl, ?_, fun k => ?_, fun k => ?_, ?_⟩
    · cases b <;> simp [Serveur.Poste.Lance, Boucle.suite, hp]
    · cases b <;> simp [Serveur.Poste.recus, Serveur.Poste.joues, Boucle.suite, Boucle.termine, hp]
    · cases b <;> simp [Serveur.Poste.joues, Boucle.suite, Boucle.termine, hp]
    · cases b <;> simp [Boucle.suite]
  | demande hp | collecter hp | bateau _ hp | touche hp | manche hp | fin hp =>
    refine ⟨fun _ => rfl, rfl, ?_, fun k => ?_, fun k => ?_, by simp⟩
    · simp [Serveur.Poste.Lance, hp]
    · simp [Serveur.Poste.recus, Serveur.Poste.joues, hp]
    · simp [Serveur.Poste.joues, hp]
  | sonder hp | placer _ hp =>
    refine ⟨fun hl => ?_, rfl, ?_, fun k => ?_, fun k => ?_, by simp⟩
    · simp [Serveur.Poste.Lance, hp] at hl
    · simp [Serveur.Poste.Lance, hp]
    · simp [Serveur.Poste.recus, Serveur.Poste.joues, hp]
    · simp [Serveur.Poste.joues, hp]
  | tir _ hp | verdict hp => exact absurd hp (ht _)
  | tirRecu _ hp => exact absurd hp (hr _ _)
  | sortie => exact absurd rfl hc

def Etat.flotte (g₀ : Serveur.GameT) (s : Etat) (i : Fin 100) : Set (Int × Int) :=
  ((s.clients i.val).placement i).cases g₀.tailleBateau

-- a game drawn from boats and shots
structure Peint (g₀ g : Serveur.GameT) (F : Fin 100 → Set (Int × Int)) (S : Set (Int × Int)) : Prop where
  regles : Serveur.Regles g₀ g
  nbBateau : g.plateau.nbBateau = g₀.nbJoueur
  cases : ∀ i : Fin 100, (i.val : Int) < g₀.nbJoueur → (g.plateau.bateaux i).cases = F i
  dans : ∀ i : Fin 100, (i.val : Int) < g₀.nbJoueur → ∀ q ∈ F i, Dans g₀.taillePlateau q
  represente : g.plateau.Represente g₀.taillePlateau S

theorem Peint.coup {g : Serveur.GameT} {F : Fin 100 → Set (Int × Int)} {S : Set (Int × Int)} (h : Peint g₀ g F S)
    (hg₀ : Lancement g₀) (hb : g.plateau.Borne) {x y : Int} (hd : Dans g₀.taillePlateau (x, y)) :
    Peint g₀ (g.apresCoup (some (x, y))) F (insert (x, y) S) := by
  have hn := h.regles.taillePlateau
  obtain ⟨h1, h2, h3, -⟩ := g.apresCoup_regles (some (x, y))
  have hs : Suite g g S := ⟨hn ▸ h.represente, hb, rfl, rfl, rfl, fun _ => rfl, fun _ _ => rfl⟩
  have hS : S ∪ {p | Dans g.taillePlateau p ∧ some (x, y) = some p} = insert (x, y) S := by
    ext c
    simp only [Set.mem_union, Set.mem_ofPred_eq, Set.mem_insert_iff, Option.some.injEq]
    constructor
    · rintro (hc | ⟨-, rfl⟩)
      · exact .inr hc
      · exact .inl rfl
    · rintro (rfl | hc)
      · exact .inr ⟨hn.symm ▸ hd, rfl⟩
      · exact .inl hc
  have := hs.apresCoup (by rw [hn]; exact hg₀.registres.plateau) (some (x, y))
  rw [hS] at this
  exact ⟨h.regles.trans ⟨h3, h1, h2⟩, this.nbBateau.trans h.nbBateau, fun i hi => (this.cases i).trans (h.cases i hi),
    h.dans, hn ▸ this.represente⟩

theorem Peint.flotte {g : Serveur.GameT} {F F' : Fin 100 → Set (Int × Int)} {S : Set (Int × Int)} (h : Peint g₀ g F S)
    (hF : ∀ i : Fin 100, (i.val : Int) < g₀.nbJoueur → F' i = F i) : Peint g₀ g F' S where
  regles := h.regles
  nbBateau := h.nbBateau
  cases := fun i hi => (h.cases i hi).trans (hF i hi).symm
  dans := fun i hi q hq => h.dans i hi q (hF i hi ▸ hq)
  represente := h.represente

structure Salve (g₀ : Serveur.GameT) (es : List Action) (s : Etat) : Prop where
  longueur : ∀ i : Nat, (i : Int) < g₀.nbJoueur → (tirsPris i es).length = s.serveur.recus i
  enCours : ∀ (i : Nat) (q : Requete), s.serveur.point = .tirRecu i q →
    (tirsPris i es)[s.serveur.manche]? = some q
  rang : s.serveur.Lance → ∀ i : Nat, (i : Int) < g₀.nbJoueur → 6 ≤ (s.clients i).point.rang
  peint : s.serveur.Lance → Peint g₀ s.serveur.game (s.flotte g₀)
    (vises g₀.nbJoueur (fun i => tirsPris i es) s.serveur.joues)
  verdicts : ∀ (k : Nat) (g : Serveur.GameT), s.serveur.verdicts[k]? = some g → s.serveur.Lance ∧
    (∀ i : Nat, (i : Int) < g₀.nbJoueur → k + 1 ≤ s.serveur.joues i) ∧
    Peint g₀ g (s.flotte g₀) (vises g₀.nbJoueur (fun i => tirsPris i es) fun _ => k + 1)

theorem tirsPris_snoc (i : Nat) (es : List Action) (a : Action) :
    tirsPris i (es ++ [a]) = tirsPris i es ++ (inputs i a.acte.toList).filter estTir := by
  rw [tirsPris, actes_snoc, inputs, List.filterMap_append, List.filter_append]
  rfl

theorem tirsPris_autre (h : ∀ q, a = .serveur (.prend i q) → q.id ≠ 6) : tirsPris i (es ++ [a]) = tirsPris i es := by
  have hnil : (inputs i a.acte.toList).filter estTir = [] := by
    cases a with
    | client => rfl
    | serveur b =>
      cases b with
      | prend k q =>
        by_cases hki : k = i
        · subst hki
          have := h q rfl
          simp [Action.acte, inputs, Act.input, this]
        · simp [Action.acte, inputs, Act.input, hki]
      | _ => rfl
  rw [tirsPris_snoc, hnil, List.append_nil]

theorem tirsPris_prend (h : q.id = 6) : tirsPris i (es ++ [.serveur (.prend i q)]) = tirsPris i es ++ [q] := by
  rw [tirsPris_snoc]
  simp [Action.acte, inputs, Act.input, h]

theorem Salve.sansVerdict (h : Salve g₀ es s) (hl : ¬ s.serveur.Lance) : s.serveur.verdicts = [] := by
  cases hv : s.serveur.verdicts with
  | nil => rfl
  | cons g gs => exact absurd (h.verdicts 0 g (by rw [hv]; rfl)).1 hl

theorem Salve.calme {p : Serveur.Poste} {vc vs : Nat → List Requete} (h : Salve g₀ es s)
    (hL : ∀ i, tirsPris i (es ++ [a]) = tirsPris i es) (hc : s.serveur.SansTir p) :
    Salve g₀ (es ++ [a]) ⟨p, s.clients, vc, vs⟩ := by
  refine ⟨fun i hi => ?_, fun i q hp => absurd hp (hc.point i q), fun hl => h.rang (hc.lance.mp hl), fun hl => ?_,
    fun k g hk => ?_⟩
  · rw [hL, hc.recus]
    exact h.longueur i hi
  · have hl' := hc.lance.mp hl
    simp only [hL]
    rw [vises_congr fun i _ => hc.joues i, hc.game hl']
    exact h.peint hl'
  · rw [hc.verdicts] at hk
    obtain ⟨hl, hj, hpeint⟩ := h.verdicts k g hk
    refine ⟨hc.lance.mpr hl, fun i hi => ?_, ?_⟩
    · rw [hc.joues]
      exact hj i hi
    · simp only [hL]
      exact hpeint

theorem Salve.prefixe (h : Salve g₀ es s) {L : Nat → List Requete}
    (hL : ∀ i : Nat, (i : Int) < g₀.nbJoueur → tirsPris i es <+: L i) {m : Nat → Nat}
    (hm : ∀ i : Nat, (i : Int) < g₀.nbJoueur → m i ≤ s.serveur.recus i) :
    vises g₀.nbJoueur (fun i => tirsPris i es) m = vises g₀.nbJoueur L m :=
  vises_prefixe hL fun i hi => by
    rw [h.longueur i hi]
    exact hm i hi

theorem Salve.tir {vc vs : Nat → List Requete} (h : Salve g₀ es s) (hp : s.serveur.point = .tir i)
    (hi : (i : Int) < g₀.nbJoueur) (hid : q.id = 6) :
    Salve g₀ (es ++ [.serveur (.prend i q)]) ⟨{ s.serveur with point := .tirRecu i q }, s.clients, vc, vs⟩ := by
  have hprend : tirsPris i (es ++ [.serveur (.prend i q)]) = tirsPris i es ++ [q] := tirsPris_prend hid
  have hk (k : Nat) (hki : k ≠ i) : tirsPris k (es ++ [.serveur (.prend i q)]) = tirsPris k es :=
    tirsPris_autre fun q' he => by
      simp only [Action.serveur.injEq, Serveur.Action.prend.injEq] at he
      exact absurd he.1.symm hki
  have hlance : s.serveur.Lance := by simp [Serveur.Poste.Lance, hp]
  have hlong := h.longueur i hi
  simp only [Serveur.Poste.recus, Serveur.Poste.joues, hp, Nat.lt_irrefl, if_false] at hlong
  have hpre (k : Nat) (_ : (k : Int) < g₀.nbJoueur) :
      tirsPris k es <+: tirsPris k (es ++ [.serveur (.prend i q)]) := by
    rw [tirsPris_snoc]
    exact List.prefix_append _ _
  have hjoues (k : Nat) : Serveur.Poste.joues { s.serveur with point := .tirRecu i q } k = s.serveur.joues k := by
    simp only [Serveur.Poste.joues, hp]
  refine ⟨fun k hk' => ?_, fun k q' hp' => ?_, fun _ => h.rang hlance, fun _ => ?_, fun k g hk' => ?_⟩
  · by_cases hki : k = i
    · subst hki
      rw [hprend, List.length_append, List.length_singleton, hlong]
      simp only [Serveur.Poste.recus, Nat.le_refl, if_true]
    · rw [hk k hki, h.longueur k hk']
      simp only [Serveur.Poste.recus, Serveur.Poste.joues, hp]
      split_ifs <;> omega
  · simp only [Serveur.Point.tirRecu.injEq] at hp'
    obtain ⟨rfl, rfl⟩ := hp'
    show (tirsPris i (es ++ [.serveur (.prend i q)]))[s.serveur.manche]? = some q
    rw [hprend, List.getElem?_append_right (by omega), hlong, Nat.sub_self]
    rfl
  · have := h.peint hlance
    rw [h.prefixe hpre fun k _ => s.serveur.joues_le k] at this
    refine ⟨this.regles, this.nbBateau, this.cases, this.dans, ?_⟩
    rw [vises_congr fun k _ => hjoues k]
    exact this.represente
  · obtain ⟨-, hj, hpeint⟩ := h.verdicts k g hk'
    refine ⟨by simp [Serveur.Poste.Lance], fun k' hk'' => by rw [hjoues]; exact hj k' hk'', ?_⟩
    rw [h.prefixe hpre fun k' hk'' => (hj k' hk'').trans (s.serveur.joues_le k')] at hpeint
    exact hpeint

theorem Salve.prend {p : Serveur.Poste} {vc vs : Nat → List Requete} (h : Salve g₀ es s)
    (ha : Accord g₀ s) (hs : Serveur.Pas s.serveur (.prend i q) p)
    (hq : (contrat g₀ s.serveur.verdicts i (s.clients i)).Permis .retour (s.serveur.moment i) q) :
    Salve g₀ (es ++ [.serveur (.prend i q)]) ⟨p, s.clients, vc, vs⟩ := by
  have hreg := ha.serveur
  have hc : Convient g₀ s.serveur.verdicts i (s.clients i) (s.serveur.moment i) q := hq.convient
  have hautre (hid : q.id ≠ 6) (k : Nat) : tirsPris k (es ++ [.serveur (.prend i q)]) = tirsPris k es :=
    tirsPris_autre fun q' he => by
      simp only [Action.serveur.injEq, Serveur.Action.prend.injEq] at he
      exact he.2 ▸ hid
  have hs' := hs
  cases hs with
  | @accuse b _ _ hp =>
    have hm : s.serveur.moment i = b.pendant s.serveur.manche := by
      simp only [Serveur.Poste.moment, hp, passage_pendant]
    have hid : q.id = 0 := by
      rw [hm] at hc
      cases b <;> exact hc
    exact h.calme (hautre (by omega)) (hs'.sansTir (by simp [hp]) (by simp [hp]) (by simp))
  | bateau _ hp hf hij =>
    subst hij
    have hm : s.serveur.moment i = .bateau := by
      simp only [Serveur.Poste.moment, hp, Int.toNat_natCast, passage_pendant]
    rw [hm] at hc
    have hid : q.id = 3 := by rw [BateauChoisi.requete hc]; rfl
    exact h.calme (hautre (by omega)) (hs'.sansTir (by simp [hp]) (by simp [hp]) (by simp))
  | tir _ hp hi =>
    simp only [Regulier, hp] at hreg
    rw [hreg.1.regles.nbJoueur] at hi
    have hm : s.serveur.moment i = .tir s.serveur.manche := by simp only [Serveur.Poste.moment, hp, passage_pendant]
    rw [hm] at hc
    have hid : q.id = 6 := by
      rcases (hc : TirDe _ _ _ _ _) with ⟨-, x, y, -, rfl⟩ | ⟨-, -, -, rfl⟩ <;> rfl
    exact h.tir hp hi hid

theorem tirsPris_envoie (k : Nat) : tirsPris k (es ++ [.serveur (.envoie i q)]) = tirsPris k es :=
  tirsPris_autre fun q' he => by cases he

theorem tirsPris_interne (k : Nat) : tirsPris k (es ++ [.serveur .interne]) = tirsPris k es :=
  tirsPris_autre fun q' he => by cases he

theorem Salve.tirRecu {g : Serveur.GameT} {vc vs : Nat → List Requete} (hg₀ : Lancement g₀) (h : Salve g₀ es s)
    (hm : Serveur.EnManche g₀ s.serveur) (hi : (i : Int) < g₀.nbJoueur)
    (ht : TirDe g₀.taillePlateau s.serveur.verdicts i s.serveur.manche q) (hp : s.serveur.point = .tirRecu i q)
    {pile : PileTir} {hq : q.Valide} {ack : List Char}
    (hg : recevoirTir s.serveur.game pile (Lecture.entiere q hq) = some (g, ack)) :
    Salve g₀ (es ++ [.serveur (.envoie i accuseOk)])
      ⟨{ s.serveur with point := .tir (i + 1), game := g }, s.clients, vc, vs⟩ := by
  have hn := hg₀.registres.plateau
  have hgn : s.serveur.game.taillePlateau = g₀.taillePlateau := hm.regles.taillePlateau
  have hle : s.serveur.game.taillePlateau ≤ 50 := by rw [hgn]; exact hn
  have hlance : s.serveur.Lance := by simp [Serveur.Poste.Lance, hp]
  let p' : Serveur.Poste := { s.serveur with point := .tir (i + 1), game := g }
  have hji : p'.joues i = s.serveur.joues i + 1 := by
    simp only [p', Serveur.Poste.joues, hp, Nat.lt_irrefl, Nat.lt_succ_self, if_true, if_false]
  have hjk (k : Nat) (hk : k ≠ i) : p'.joues k = s.serveur.joues k := by
    simp only [p', Serveur.Poste.joues, hp]
    split_ifs <;> omega
  have hrecus (k : Nat) : p'.recus k = s.serveur.recus k := by
    simp only [p', Serveur.Poste.recus, Serveur.Poste.joues, hp]
    split_ifs <;> omega
  have hcours : (tirsPris i es)[s.serveur.joues i]? = some q := by
    have hj : s.serveur.joues i = s.serveur.manche := by
      simp only [Serveur.Poste.joues, hp, Nat.lt_irrefl, if_false]
    rw [hj]
    exact h.enCours i q hp
  have hpeint : Peint g₀ g (s.flotte g₀) (vises g₀.nbJoueur (fun i => tirsPris i es) p'.joues) := by
    have hpeint := h.peint hlance
    rcases ht with ⟨-, x, y, hd, rfl⟩ | ⟨-, -, -, rfl⟩
    · obtain ⟨hx, hy⟩ := Dans.inInt hn hd
      have hgame := recevoirTir_requeteTir hm.flottille hle hx hy pile
      rw [hg, Option.some.injEq, Prod.mk.injEq] at hgame
      obtain ⟨rfl, -⟩ := hgame
      rw [vises_coup hi hji hjk hcours]
      exact hpeint.coup hg₀ hm.flottille.borne hd
    · have hgame := recevoirTir_mort hle hm.flottille.borne pile
      rw [hg, Option.some.injEq, Prod.mk.injEq] at hgame
      obtain ⟨rfl, -⟩ := hgame
      rw [vises_mort hji hjk hcours]
      exact hpeint
  refine ⟨fun k hk => ?_, fun k q' hp' => (by cases hp'), fun _ => h.rang hlance, fun _ => ?_, fun k g' hk => ?_⟩
  · rw [tirsPris_envoie, h.longueur k hk]
    exact (hrecus k).symm
  · simp only [tirsPris_envoie]
    exact hpeint
  · obtain ⟨-, hj, hpeint'⟩ := h.verdicts k g' hk
    refine ⟨trivial, fun k' hk' => ?_, ?_⟩
    · have := hj k' hk'
      by_cases hki : k' = i
      · subst hki
        exact (hji ▸ this.trans (Nat.le_succ _) : k + 1 ≤ p'.joues k')
      · exact (hjk k' hki ▸ this : k + 1 ≤ p'.joues k')
    · simp only [tirsPris_envoie]
      exact hpeint'

theorem Salve.envoie {p : Serveur.Poste} {vc vs : Nat → List Requete} (hg₀ : Lancement g₀) (h : Salve g₀ es s)
    (hreg : Serveur.Suit g₀ s.serveur) (hs : Serveur.Pas s.serveur (.envoie i q) p)
    (hi : (i : Int) < g₀.nbJoueur) : Salve g₀ (es ++ [.serveur (.envoie i q)]) ⟨p, s.clients, vc, vs⟩ := by
  have hs' := hs
  cases hs with
  | envoi hp | demande hp | placer _ hp =>
    exact h.calme tirsPris_envoie (hs'.sansTir (by simp [hp]) (by simp [hp]) (by simp))
  | tirRecu pile hp hq hg =>
    obtain ⟨hm, ht⟩ := hreg.tirRecu hp
    exact h.tirRecu hg₀ hm hi ht hp hg

theorem Salve.sortie {j n : Int} {envois : List (Int × List Char)} (hg₀ : Lancement g₀) (h : Salve g₀ es s)
    (hreg : Serveur.EnCollecte g₀ s.clients s.serveur j n envois) (hp : s.serveur.point = .collecte j n envois)
    (hf : (s.serveur.collecte j n envois).fini) :
    Salve g₀ (es ++ [.serveur .interne]) { s with serveur := { s.serveur with point := .touche } } := by
  have hr := hg₀.registres
  have h1 := hr.joueurs
  obtain ⟨-, ps, hb, hc, hps⟩ := hreg.complet hg₀ hf
  have hlance : ¬ s.serveur.Lance := by simp [Serveur.Poste.Lance, hp]
  have hverdicts := h.sansVerdict hlance
  have hvide : vises g₀.nbJoueur (fun i => tirsPris i (es ++ [.serveur .interne]))
      (Serveur.Poste.joues { s.serveur with point := .touche }) = ∅ := by
    ext q
    simp only [vises, Serveur.Poste.joues, hreg.manche, Set.mem_ofPred_eq, Set.mem_empty_iff_false, iff_false]
    rintro ⟨i, k, -, hk, -⟩
    exact absurd hk (Nat.not_lt_zero k)
  refine ⟨fun k hk => ?_, fun k q' hp' => (by cases hp'), fun _ i hi => ?_, fun _ => ?_, fun k g hk => ?_⟩
  · rw [tirsPris_interne, h.longueur k hk]
    simp [Serveur.Poste.recus, Serveur.Poste.joues, hp]
  · obtain ⟨k, hk⟩ := exists_fin (n := 100) (i := (i : Int)) (by omega) (by have := hr.joueurs_le; omega)
    obtain ⟨P, hP, hid⟩ := hc.mem.mp (by rw [← hk]; exact hi)
    have := (hps P hP).1
    rw [hid] at this
    have hki : k.val = i := by omega
    rw [hki] at this
    exact this
  · rw [hvide]
    refine ⟨⟨hb.game.nbJoueur, hb.game.taillePlateau, hb.game.tailleBateau⟩,
      (hb.places.flotte hr.bateau_le hg₀.nbBateau hc (by omega)).1, fun i hi => ?_, fun i hi q hq => ?_,
      hb.places.represente hr.bateau_le hg₀.nbBateau hc (by omega) hg₀.vide⟩
    all_goals obtain ⟨P, hP, rfl⟩ := hc.mem.mp hi
    · have hpl := hb.places.cases hr.bateau_le hP
      rw [Etat.flotte, (hps P hP).2]
      exact hpl
    · rw [Etat.flotte, (hps P hP).2] at hq
      obtain ⟨k, hk, rfl⟩ := hq
      exact (hb.valide P hP).dans k hk
  · rw [hverdicts] at hk
    simp at hk

theorem Salve.verdict {g : Serveur.GameT} {f : Nat → Option Requete} (h : Salve g₀ es s)
    (hreg : Serveur.EnManche g₀ s.serveur) (hp : s.serveur.point = .tir i) (hi : ¬ (i : Int) < g₀.nbJoueur)
    (hq : choisirFin s.serveur.game = some (g, f)) :
    Salve g₀ (es ++ [.serveur .interne]) { s with serveur := { s.serveur with
      point := .envoi (.etat f) 0, game := g, verdicts := s.serveur.verdicts ++ [s.serveur.game] } } := by
  obtain ⟨f', hf', -⟩ := choisirFin_spec hreg.flottille
  rw [hq, Option.some.injEq, Prod.mk.injEq] at hf'
  obtain ⟨rfl, -⟩ := hf'
  have hlance : s.serveur.Lance := by simp [Serveur.Poste.Lance, hp]
  have hj (k : Nat) (hk : (k : Int) < g₀.nbJoueur) : s.serveur.joues k = s.serveur.manche + 1 := by
    simp only [Serveur.Poste.joues, hp]
    exact if_pos (by omega)
  have hpeint := h.peint hlance
  rw [vises_congr hj] at hpeint
  have hL : (fun i => tirsPris i es) = fun i => tirsPris i (es ++ [.serveur .interne]) :=
    funext fun k => (tirsPris_interne k).symm
  rw [hL] at hpeint
  refine ⟨fun k hk => ?_, fun k q' hp' => (by cases hp'), fun _ => h.rang hlance,
    fun _ => ⟨⟨hpeint.regles.1, hpeint.regles.2, hpeint.regles.3⟩, hpeint.nbBateau, hpeint.cases,
      hpeint.dans, ?_⟩,
    fun k g hk => ?_⟩
  · rw [tirsPris_interne, h.longueur k hk]
    simp only [Serveur.Poste.recus, Serveur.Poste.joues, hp]
    exact if_pos (by omega)
  · exact hpeint.represente
  · refine ⟨trivial, ?_⟩
    rcases Nat.lt_or_ge k s.serveur.verdicts.length with hlt | hge
    · rw [List.getElem?_append_left hlt] at hk
      obtain ⟨-, hjk, hp'⟩ := h.verdicts k g hk
      refine ⟨fun i hi => ?_, ?_⟩
      · have := hjk i hi
        rw [hj i hi] at this
        exact this
      · simp only [tirsPris_interne]
        exact hp'
    · rw [List.getElem?_append_right hge] at hk
      obtain rfl : g = _ := List.mem_singleton.mp (List.mem_of_getElem? hk)
      have hk0 := (List.getElem?_eq_some_iff.mp hk).1
      rw [List.length_singleton] at hk0
      have hv := hreg.verdicts
      obtain rfl : k = s.serveur.manche := by omega
      exact ⟨fun i _ => Nat.le_refl _, hpeint⟩

theorem Salve.interne {p : Serveur.Poste} (hg₀ : Lancement g₀) (h : Salve g₀ es s) (ha : Accord g₀ s)
    (hs : Serveur.Pas s.serveur .interne p) : Salve g₀ (es ++ [.serveur .interne]) { s with serveur := p } := by
  have hreg := ha.serveur
  have hs' := hs
  cases hs with
  | @suite b _ hp =>
    exact h.calme tirsPris_interne (hs'.sansTir (by simp [hp]) (by simp [hp]) (by cases b <;> simp [Boucle.suite]))
  | collecter hp | sonder hp | touche hp | manche hp | fin hp =>
    exact h.calme tirsPris_interne (hs'.sansTir (by simp [hp]) (by simp [hp]) (by simp))
  | sortie hp hf =>
    simp only [Regulier, hp] at hreg
    exact h.sortie hg₀ hreg hp hf
  | verdict hp hi hq =>
    simp only [Regulier, hp] at hreg
    rw [hreg.1.regles.nbJoueur] at hi
    exact h.verdict hreg.1 hp hi hq

theorem Salve.epilogue {p : Serveur.Poste} {vc vs : Nat → List Requete} {b : Serveur.Action} (h : Salve g₀ es s)
    (he : Epilogue g₀ s) (hg₀ : Lancement g₀) (hs : Serveur.Pas s.serveur b p) (hb : ∀ i q, b ≠ .prend i q) :
    Salve g₀ (es ++ [.serveur b]) ⟨p, s.clients, vc, vs⟩ := by
  have h1 := hg₀.registres.joueurs
  have hn := he.nbJoueur
  obtain ⟨t, ht⟩ := he.serveur
  rcases hs.epilogue ht (by omega) with ⟨q, rfl, -⟩ | ⟨q, rfl⟩
  · exact h.envoie hg₀ (.inr ⟨t, ht⟩) hs (by omega)
  · exact absurd rfl (hb 0 q)

theorem Salve.client {c : Client.Poste} {b : Client.Action} {vc vs : Nat → List Requete} (h : Salve g₀ es s)
    (hc : (s.clients i).Garde c) :
    Salve g₀ (es ++ [.client i b]) ⟨s.serveur, Function.update s.clients i c, vc, vs⟩ := by
  have hL (k : Nat) : tirsPris k (es ++ [.client i b]) = tirsPris k es := tirsPris_autre fun q he => by cases he
  have hgarde := garde_update s.clients hc
  have hflotte (hl : s.serveur.Lance) (k : Fin 100) (hk : (k.val : Int) < g₀.nbJoueur) :
      Etat.flotte g₀ ⟨s.serveur, Function.update s.clients i c, vc, vs⟩ k = s.flotte g₀ k := by
    simp only [Etat.flotte, (hgarde k.val).placement (h.rang hl k.val hk)]
  refine ⟨fun k hk => ?_, fun k q hp => ?_, fun hl k hk => (hgarde k).rang (h.rang hl k hk), fun hl => ?_,
    fun k g hk => ?_⟩
  · rw [hL]
    exact h.longueur k hk
  · rw [hL]
    exact h.enCours k q hp
  · simp only [hL]
    exact (h.peint hl).flotte (hflotte hl)
  · simp only [hL]
    obtain ⟨hl, hj, hpeint⟩ := h.verdicts k g hk
    exact ⟨hl, hj, hpeint.flotte (hflotte hl)⟩

theorem Salve.etape (hg₀ : Lancement g₀) (h : Salve g₀ es s) (hinv : Invariant g₀ s)
    (hs : Etape g₀.nbJoueur s a s') : Salve g₀ (es ++ [a]) s' := by
  rcases hinv with ha | he
  · cases hs with
    | @serveurPrend p i q reste hs hc =>
      obtain ⟨hsync, -⟩ := ha.joueurs i (hs.prend_joueur ha.serveur)
      rw [hc] at hsync
      exact h.prend ha hs hsync.lecture.1
    | serveurEnvoie hs => exact h.envoie hg₀ (Invariant.suit (.inl ha)) hs (hs.envoie_regulier hg₀ ha.serveur).1.joueur
    | serveurInterne hs => exact h.interne hg₀ ha hs
    | @clientPrend c i q reste hi hs hc =>
      obtain ⟨hsync, hloyal⟩ := ha.joueurs i hi
      rw [hc] at hsync
      exact h.client (hs.prend_loyal hg₀ ha.serveur.descend hloyal hsync.reception.1).2.2
    | clientEnvoie hi hs => exact h.client (hs.envoie_loyal hg₀ (ha.joueurs _ hi).loyal).2.2.1
    | clientInterne hi hs => exact h.client (hs.interne_loyal hg₀ (ha.joueurs _ hi).loyal).2.2
  · cases hs with
    | serveurPrend hs hc =>
      obtain ⟨t, ht⟩ := he.serveur
      have h1 := hg₀.registres.joueurs
      have hn := he.nbJoueur
      rcases hs.epilogue ht (by omega) with ⟨q, ha, -⟩ | ⟨q, ha⟩
      · cases ha
      · cases ha
        rw [(he.joueurs 0 (by omega)).2.1] at hc
        cases hc
    | serveurEnvoie hs => exact h.epilogue he hg₀ hs (by simp)
    | serveurInterne hs => exact h.epilogue he hg₀ hs (by simp)
    | clientPrend hi hs => exact absurd (he.joueurs _ hi).1 hs.nonFini
    | clientEnvoie hi hs => exact absurd (he.joueurs _ hi).1 hs.nonFini
    | clientInterne hi hs => exact absurd (he.joueurs _ hi).1 hs.nonFini

theorem Debut.salve (h : Debut g₀ s) : Salve g₀ [] s := by
  have hl : ¬ s.serveur.Lance := by simp [h.serveur, Serveur.Poste.Lance]
  refine ⟨fun i _ => ?_, fun i q hp => ?_, fun h' => absurd h' hl, fun h' => absurd h' hl, fun k g hk => ?_⟩
  · simp [h.serveur, Serveur.Poste.recus, Serveur.Poste.joues, tirsPris, actes, inputs]
  · rw [h.serveur] at hp
    cases hp
  · simp [h.serveur] at hk

theorem Salve.trace (hg₀ : Lancement g₀) (h₀ : Debut g₀ s₀) (h : Trace (Etape g₀.nbJoueur) s₀ es s) :
    Invariant g₀ s ∧ Salve g₀ es s := by
  refine h.invariant (fun es s => Invariant g₀ s ∧ Salve g₀ es s) ⟨.inl (h₀.accord hg₀), h₀.salve⟩ ?_
  rintro es t a u - ⟨hinv, ht⟩ hs
  exact ⟨hinv.etape hg₀ hs, ht.etape hg₀ hinv hs⟩

end Bnbr
