import Mathlib.Data.Fintype.Prod
import Bnbr.Reprise

namespace Bnbr

open CArray CString Sessions Serveur Runs Bataille

variable {g₀ : Serveur.GameT} {s s' t : Etat} {i : Nat} {n : Int}

def Navire (g₀ g : Serveur.GameT) (y x : Fin 50) : Prop :=
  Dans g₀.taillePlateau (coord y x) ∧ g.plateau.cell y x = .boat

instance (g₀ g : Serveur.GameT) (y x : Fin 50) : Decidable (Navire g₀ g y x) := inferInstanceAs (Decidable (_ ∧ _))

section

variable {F : Fin 100 → Set (Int × Int)} {S S' : Set (Int × Int)} {g g' : Serveur.GameT} {j : Fin 100}

theorem Peint.navire_iff (h : Peint g₀ g F S) (y x : Fin 50) : Navire g₀ g y x ↔ Dans g₀.taillePlateau (coord y x) ∧
    (∃ i : Fin 100, (i.val : Int) < g₀.nbJoueur ∧ coord y x ∈ F i) ∧ coord y x ∉ S := by
  refine and_congr_right fun hd => ?_
  rw [h.represente.cell y x hd, statut_boat]
  refine and_congr_left fun _ => ?_
  simp only [BoardT.flotte, Set.mem_ofPred_eq, h.nbBateau]
  exact exists_congr fun i => and_congr_right fun hi => by rw [h.cases i hi]

theorem Peint.aFlot_navire (hg₀ : Lancement g₀) (h : Peint g₀ g (s.flotte g₀) S) (hf : Flottille g)
    (hj : (j.val : Int) < g₀.nbJoueur) :
    AFlot g j.val ↔ ∃ y x, Navire g₀ g y x ∧ coord y x ∈ (g.plateau.bateaux j).cases := by
  rw [h.aFlot hf j hj, survivants_iff, Set.not_subset, h.cases j hj]
  constructor
  · rintro ⟨q, hq, hqS⟩
    have hd := h.dans j hj q hq
    obtain ⟨y, x, rfl⟩ := hd.fin hg₀.registres.plateau
    exact ⟨y, x, (h.navire_iff y x).mpr ⟨hd, ⟨j, hj, hq⟩, hqS⟩, hq⟩
  · rintro ⟨y, x, hn, hq⟩
    exact ⟨_, hq, ((h.navire_iff y x).mp hn).2.2⟩

theorem nbAFlot_congr (h : ∀ i, AFlot g i ↔ AFlot g' i) : nbAFlot g = nbAFlot g' := by
  rw [nbAFlot_card, nbAFlot_card]
  congr 1
  ext i
  rw [mem_aFlot, mem_aFlot, h i]

end

theorem Accord.apresVerdict (h : Accord g₀ s) (hp : s.serveur.point = .boucle) :
    Serveur.ApresVerdict g₀ s.serveur := by
  have hr := h.serveur
  simp only [Regulier, hp] at hr
  exact hr

theorem Partie.aFlot_boucle {s₀ : Etat} {es : List Action} (h : Partie g₀ s₀ es s) (ha : Accord g₀ s)
    (hp : s.serveur.point = .boucle) {j : Fin 100} (hj : (j.val : Int) < g₀.nbJoueur) :
    AFlot s.serveur.game j.val ↔ j ∈ s.rescapes g₀ es s.serveur.manche := by
  have hjoues (i : Nat) (_ : (i : Int) < g₀.nbJoueur) : s.serveur.joues i = s.serveur.manche := by
    simp only [Serveur.Poste.joues, hp]
  have hpeint := h.salve.peint (by simp [Serveur.Poste.Lance, hp])
  rw [h.vises hjoues fun i hi => (hjoues i hi).symm.le] at hpeint
  rw [hpeint.aFlot (ha.apresVerdict hp).flottille j hj]
  exact (and_iff_right hj).symm

theorem Partie.verdict_boucle (hg₀ : Lancement g₀) (hat : Atteignable g₀ s) {s₀ : Etat} {es : List Action}
    (h : Partie g₀ s₀ es s) (ha : Accord g₀ s) (hp : s.serveur.point = .boucle) {k : Nat} {g : Serveur.GameT}
    (hk : s.serveur.manche = k + 1) (hg : s.serveur.verdicts[k]? = some g) :
    (∀ i, AFlot s.serveur.game i ↔ AFlot g i) ∧ nbAFlot s.serveur.game = nbAFlot g := by
  obtain ⟨-, hf, hverdict⟩ := h.verdict hg₀ hat hg
  obtain ⟨-, -, hpeint⟩ := h.salve.verdicts k g hg
  have hn := (ha.apresVerdict hp).regles.nbJoueur
  have hj := hg₀.registres.joueurs_le
  have haflot (i : Nat) : AFlot s.serveur.game i ↔ AFlot g i := by
    by_cases hi : (i : Int) < g₀.nbJoueur
    · have h1 := h.aFlot_boucle ha hp (j := ⟨i, by omega⟩) hi
      rw [hk] at h1
      exact h1.trans (hverdict ⟨i, by omega⟩).symm
    · refine iff_of_false (fun h1 => ?_) fun h1 => ?_
      · have := h1.1
        omega
      · have := h1.1
        rw [hpeint.regles.nbJoueur] at this
        omega
  exact ⟨haflot, nbAFlot_congr haflot⟩

theorem Atteignable.partie (hg₀ : Lancement g₀) (h : Atteignable g₀ s) : ∃ s₀ es, Partie g₀ s₀ es s := by
  obtain ⟨s₀, h₀, hr⟩ := h
  obtain ⟨es, htrace⟩ := Run.trace hr
  exact ⟨s₀, es, Partie.trace hg₀ h₀ htrace⟩

theorem Accord.encore (hg₀ : Lancement g₀) (hat : Atteignable g₀ s) (h : Accord g₀ s) (hp : s.serveur.point = .boucle)
    (h2 : 2 ≤ nbAFlot s.serveur.game) : s.serveur.finEnvoyee = false := by
  obtain ⟨s₀, es, hpartie⟩ := hat.partie hg₀
  cases hf : s.serveur.finEnvoyee with
  | false => rfl
  | true =>
    obtain ⟨k, g, hk, hg, h1⟩ := (h.apresVerdict hp).fin hf
    have := (hpartie.verdict_boucle hg₀ hat h hp hk hg).2
    omega

theorem Accord.deuxAFlot (hg₀ : Lancement g₀) (hat : Atteignable g₀ s) (h : Accord g₀ s)
    (hp : s.serveur.point = .boucle) (hf : s.serveur.finEnvoyee = false) (hm : s.serveur.manche ≠ 0) :
    2 ≤ nbAFlot s.serveur.game := by
  obtain ⟨s₀, es, hpartie⟩ := hat.partie hg₀
  obtain ⟨k, hk⟩ := Nat.exists_eq_succ_of_ne_zero hm
  obtain ⟨g, hg, h2⟩ := ((h.apresVerdict hp).suite hf).1 k (by omega)
  rw [(hpartie.verdict_boucle hg₀ hat h hp hk hg).2]
  exact h2

theorem Accord.statut (hg₀ : Lancement g₀) (hat : Atteignable g₀ s) (h : Accord g₀ s) (hp : s.serveur.point = .boucle)
    (hf : s.serveur.finEnvoyee = false) (hi : (i : Int) < g₀.nbJoueur) :
    Statut s.serveur.verdicts i s.serveur.manche .enJeu ↔ AFlot s.serveur.game i := by
  have hj := hg₀.registres.joueurs_le
  obtain ⟨s₀, es, hpartie⟩ := hat.partie hg₀
  cases hm : s.serveur.manche with
  | zero =>
    refine iff_of_true (.inl ⟨rfl, rfl⟩) ((hpartie.aFlot_boucle h hp (j := ⟨i, by omega⟩) hi).mpr ?_)
    rw [hm]
    exact Etat.rescapes_zero hg₀ hi
  | succ k =>
    obtain ⟨g, hg, h2⟩ := ((h.apresVerdict hp).suite hf).1 k (by omega)
    rw [(hpartie.verdict_boucle hg₀ hat h hp hm hg).1 i]
    constructor
    · intro hs
      exact classe_aFlot (hs.unique (.inr ⟨k, g, rfl, hg, rfl⟩)).symm
    · intro ha
      exact .inr ⟨k, g, rfl, hg, (classe_enJeu h2 ha).symm⟩

theorem Accord.aFlot_navire (hg₀ : Lancement g₀) (hat : Atteignable g₀ s) (h : Accord g₀ s)
    (hp : s.serveur.point = .boucle) {j : Fin 100} (hj : (j.val : Int) < g₀.nbJoueur) : AFlot s.serveur.game j.val ↔
      ∃ y x, Navire g₀ s.serveur.game y x ∧ coord y x ∈ (s.serveur.game.plateau.bateaux j).cases := by
  obtain ⟨s₀, es, hpartie⟩ := hat.partie hg₀
  exact (hpartie.salve.peint (by simp [Serveur.Poste.Lance, hp])).aFlot_navire hg₀ (h.apresVerdict hp).flottille hj

theorem Accord.auPlateau (h : Accord g₀ s) (hp : s.serveur.point = .boucle) (hf : s.serveur.finEnvoyee = false)
    (hi : (i : Int) < g₀.nbJoueur) (hm : (s.clients i).moment = .plateau s.serveur.manche) :
    (s.clients i).point = .plateau := by
  have hl := (h.joueurs i hi).loyal
  cases hc : (s.clients i).point with
  | plateau => rfl
  | fini =>
    simp only [Client.Loyal, hc] at hl
    simp only [Client.Poste.moment, hc, Moment.plateau.injEq] at hm
    exact absurd hl.2 (((h.apresVerdict hp).suite hf).1.statut (hm ▸ hl.1.statut))
  | _ => simp [Client.Poste.moment, hc] at hm

theorem coord_inj {y x r c : Fin 50} (h : coord r c = coord y x) : r = y ∧ c = x := by
  by_contra hne
  exact pos_ne hne h

theorem Accord.aFlot_lt (h : Accord g₀ s) (hp : s.serveur.point = .boucle) {k : Nat} (hk : AFlot s.serveur.game k) :
    (k : Int) < g₀.nbJoueur := by
  have hlt := hk.1
  rw [(h.apresVerdict hp).regles.nbJoueur] at hlt
  omega

theorem Accord.epargnee (hg₀ : Lancement g₀) (hat : Atteignable g₀ s) (h : Accord g₀ s) (hp : s.serveur.point = .boucle)
    (hf : s.serveur.finEnvoyee = false) {tir : Nat → Fin 50 × Fin 50} {y x : Fin 50} :
    coord y x ∉ {q | ∃ k : Nat, (k : Int) < g₀.nbJoueur ∧ Statut s.serveur.verdicts k s.serveur.manche .enJeu ∧
      coord (tir k).1 (tir k).2 = q} ↔ ∀ k, AFlot s.serveur.game k → tir k ≠ (y, x) := by
  constructor
  · intro hq k hk he
    have hlt := h.aFlot_lt hp hk
    exact hq ⟨k, hlt, (h.statut hg₀ hat hp hf hlt).mpr hk, by rw [he]⟩
  · rintro hsauf ⟨k, hk, hstat, hq⟩
    obtain ⟨hy, hx⟩ := coord_inj hq
    exact hsauf k ((h.statut hg₀ hat hp hf hk).mp hstat) (Prod.ext hy hx)

theorem Accord.mancheJouee (hg₀ : Lancement g₀) (hat : Atteignable g₀ s) (h : Accord g₀ s)
    (hp : s.serveur.point = .boucle) (hf : s.serveur.finEnvoyee = false) (tir : Nat → Fin 50 × Fin 50)
    (hd : ∀ i : Nat, (i : Int) < g₀.nbJoueur → Dans g₀.taillePlateau (coord (tir i).1 (tir i).2)) :
    ∃ s', Run g₀.nbJoueur s s' ∧ Accord g₀ s' ∧ s'.serveur.point = .boucle ∧ s'.serveur.manche ≠ 0 ∧
      (∀ y x, Navire g₀ s'.serveur.game y x ↔
        Navire g₀ s.serveur.game y x ∧ ∀ k, AFlot s.serveur.game k → tir k ≠ (y, x)) ∧
      ∀ j : Fin 100, (j.val : Int) < g₀.nbJoueur →
        (s'.serveur.game.plateau.bateaux j).cases = (s.serveur.game.plateau.bateaux j).cases := by
  obtain ⟨s₁, hr₁, h₁, hs₁, hpareil, hm₁⟩ := h.repos hg₀ hat hp
  have hp₁ : s₁.serveur.point = .boucle := by rw [hs₁, hp]
  have hf₁ : s₁.serveur.finEnvoyee = false := by rw [hs₁, hf]
  obtain ⟨s₀, es, hpart⟩ := (hat.run hr₁).partie hg₀
  have hpeint := hpart.salve.peint (by simp [Serveur.Poste.Lance, hp₁])
  obtain ⟨p₂, cl₂, hr₂, ha₂, hp₂, hpeint₂⟩ := Repos.manche hg₀ (hpareil.accord h₁) hp₁ hf₁ hd
    (fun i hi => h₁.auPlateau hp₁ hf₁ hi (by rw [hs₁]; exact hm₁ i hi)) hpeint
  have hreg : Serveur.Regulier g₀ cl₂ p₂ := ha₂.serveur
  simp only [Regulier, hp₂] at hreg
  obtain ⟨t, hrt, hpt⟩ := hpareil.run hr₂
  have hst : t.serveur = p₂ := hpt.serveur.symm
  have hta := h₁.run hg₀ hrt (by rw [hst]; exact ha₂.depasse)
  obtain ⟨g, f, hverdict⟩ := hta.verdict (i := g₀.nbJoueur.toNat) (by rw [hst, hp₂]) (by omega)
  have hv := Etape.serveurInterne (n := g₀.nbJoueur) hverdict
  obtain ⟨s', hr', h', hp', hm'⟩ := (hta.run hg₀ hv.run hta.depasse).versBoucle_verdict hg₀ rfl
  have hrun := ((hr₁.trans hrt).trans hv.run).trans hr'
  obtain ⟨s₀', es', hpart'⟩ := (hat.run hrun).partie hg₀
  have hman : s'.serveur.manche = p₂.manche + 1 := by rw [hm', hst]
  have hg : s'.serveur.verdicts[p₂.manche]? = some p₂.game := by
    refine hr'.verdicts _ _ ?_
    simp only [hst]
    rw [List.getElem?_append_right (by rw [hreg.1.verdicts]), hreg.1.verdicts, Nat.sub_self]
    rfl
  have hjoues (i : Nat) (_ : (i : Int) < g₀.nbJoueur) : s'.serveur.joues i = p₂.manche + 1 := by
    simp only [Serveur.Poste.joues, hp', hman]
  have hpeint' := hpart'.salve.peint (by simp [Serveur.Poste.Lance, hp'])
  rw [vises_congr hjoues] at hpeint'
  obtain ⟨-, -, hpeintg⟩ := hpart'.salve.verdicts _ _ hg
  rw [hs₁] at hpeint
  refine ⟨s', hrun, h', hp', by omega, fun y x => ?_, fun j hj => ?_⟩
  · rw [hpeint'.navire_iff, ← hpeintg.navire_iff, hpeint₂.navire_iff, hpeint.navire_iff, Set.mem_union, not_or]
    rw [hs₁, h.epargnee hg₀ hat hp hf, and_assoc, and_assoc]
  · rw [hpeint'.cases j hj, ← hpeintg.cases j hj, hpeint₂.cases j hj, ← hpeint.cases j hj]

def navires (g₀ g : Serveur.GameT) : Finset (Fin 50 × Fin 50) := Finset.univ.filter fun e => Navire g₀ g e.1 e.2

theorem mem_navires {g : Serveur.GameT} {e : Fin 50 × Fin 50} : e ∈ navires g₀ g ↔ Navire g₀ g e.1 e.2 := by
  simp only [navires, Finset.mem_filter, Finset.mem_univ, true_and]

theorem navires_lt {g g' : Serveur.GameT} (hmono : ∀ r c, Navire g₀ g' r c → Navire g₀ g r c) {y x : Fin 50}
    (hy : Navire g₀ g y x) (hne : ¬ Navire g₀ g' y x) : (navires g₀ g').card < (navires g₀ g).card := by
  have hsub : navires g₀ g' ⊆ navires g₀ g := by
    intro e he
    rw [mem_navires] at he ⊢
    exact hmono _ _ he
  refine Finset.card_lt_card ((Finset.ssubset_iff_of_subset hsub).mpr ⟨(y, x), ?_, ?_⟩)
  · rw [mem_navires]
    exact hy
  · rw [mem_navires]
    exact hne

-- each boat afloat keeps a cell of its own in reserve
def Reserve (g₀ g : Serveur.GameT) (ρ : Nat → Fin 50 × Fin 50) : Prop :=
  ∀ j : Fin 100, AFlot g j.val →
    Navire g₀ g (ρ j).1 (ρ j).2 ∧ coord (ρ j).1 (ρ j).2 ∈ (g.plateau.bateaux j).cases

theorem Lancement.coin (hg₀ : Lancement g₀) : Dans g₀.taillePlateau (coord 0 0) := by
  have hplace := hg₀.place
  have hbateau := hg₀.bateau
  exact ⟨by decide, by simp; omega, by decide, by simp; omega⟩

theorem Accord.allege (hg₀ : Lancement g₀) (hat : Atteignable g₀ s) (h : Accord g₀ s)
    (hp : s.serveur.point = .boucle) (h2 : 2 ≤ nbAFlot s.serveur.game) {ρ : Nat → Fin 50 × Fin 50}
    (hρ : Reserve g₀ s.serveur.game ρ) {y x : Fin 50} (hyx : Navire g₀ s.serveur.game y x)
    (hlibre : ∀ j : Fin 100, AFlot s.serveur.game j.val → ρ j ≠ (y, x)) :
    ∃ s', Run g₀.nbJoueur s s' ∧ Accord g₀ s' ∧ s'.serveur.point = .boucle ∧ 2 ≤ nbAFlot s'.serveur.game ∧
      Reserve g₀ s'.serveur.game ρ ∧ (navires g₀ s'.serveur.game).card < (navires g₀ s.serveur.game).card := by
  have hj := hg₀.registres.joueurs_le
  obtain ⟨s', hr, h', hp', -, hnav, hcases⟩ := h.mancheJouee hg₀ hat hp (h.encore hg₀ hat hp h2) (fun _ => (y, x))
    fun _ _ => hyx.1
  have hat' := hat.run hr
  have hmono (r c : Fin 50) (hrc : Navire g₀ s'.serveur.game r c) : Navire g₀ s.serveur.game r c :=
    ((hnav r c).mp hrc).1
  have hreste (j : Fin 100) (ha : AFlot s.serveur.game j.val) : Navire g₀ s'.serveur.game (ρ j).1 (ρ j).2 ∧
      coord (ρ j).1 (ρ j).2 ∈ (s'.serveur.game.plateau.bateaux j).cases := by
    refine ⟨(hnav _ _).mpr ⟨(hρ j ha).1, fun _ _ he => hlibre j ha he.symm⟩, ?_⟩
    rw [hcases j (h.aFlot_lt hp ha)]
    exact (hρ j ha).2
  have haflot (k : Nat) : AFlot s.serveur.game k ↔ AFlot s'.serveur.game k := by
    constructor
    · intro hk
      have hlt := h.aFlot_lt hp hk
      exact (h'.aFlot_navire hg₀ hat' hp' (j := ⟨k, by omega⟩) hlt).mpr ⟨_, _, hreste ⟨k, by omega⟩ hk⟩
    · intro hk
      have hlt := h'.aFlot_lt hp' hk
      obtain ⟨r, c, hrc, hq⟩ := (h'.aFlot_navire hg₀ hat' hp' (j := ⟨k, by omega⟩) hlt).mp hk
      rw [hcases _ hlt] at hq
      exact (h.aFlot_navire hg₀ hat hp (j := ⟨k, by omega⟩) hlt).mpr ⟨r, c, hmono r c hrc, hq⟩
  obtain ⟨k₀, hk₀⟩ : ∃ k, AFlot s.serveur.game k := by
    by_contra hnone
    rw [nbAFlot_zero.mpr fun i hi => hnone ⟨i, hi⟩] at h2
    omega
  exact ⟨s', hr, h', hp', nbAFlot_congr haflot ▸ h2, fun j ha => hreste j ((haflot j).mpr ha),
    navires_lt hmono hyx fun hyx' => ((hnav y x).mp hyx').2 k₀ hk₀ rfl⟩

theorem Accord.saborde (hg₀ : Lancement g₀) (hat : Atteignable g₀ s) (h : Accord g₀ s)
    (hp : s.serveur.point = .boucle) (h2 : 2 ≤ nbAFlot s.serveur.game) {ρ : Nat → Fin 50 × Fin 50}
    (hρ : Reserve g₀ s.serveur.game ρ)
    (hreste : ∀ y x, Navire g₀ s.serveur.game y x → ∃ j : Fin 100, AFlot s.serveur.game j.val ∧ ρ j = (y, x)) :
    ∃ s', Run g₀.nbJoueur s s' ∧ Accord g₀ s' ∧ s'.serveur.point = .boucle ∧ s'.serveur.manche ≠ 0 ∧
      nbAFlot s'.serveur.game = 0 := by
  have hj := hg₀.registres.joueurs_le
  obtain ⟨s', hr, h', hp', hm, hnav, -⟩ := h.mancheJouee hg₀ hat hp (h.encore hg₀ hat hp h2)
    (fun k => if AFlot s.serveur.game k then ρ k else (0, 0)) fun k hk => by
      by_cases ha : AFlot s.serveur.game k
      · rw [if_pos ha]
        exact (hρ ⟨k, by omega⟩ ha).1.1
      · rw [if_neg ha]
        exact hg₀.coin
  refine ⟨s', hr, h', hp', hm, nbAFlot_zero.mpr fun k hk => ?_⟩
  have hlt := h'.aFlot_lt hp' hk
  obtain ⟨y, x, hyx, -⟩ := (h'.aFlot_navire hg₀ (hat.run hr) hp' (j := ⟨k, by omega⟩) hlt).mp hk
  obtain ⟨hyx, hsauf⟩ := (hnav y x).mp hyx
  obtain ⟨j, ha, he⟩ := hreste y x hyx
  exact hsauf j.val ha (by rw [if_pos ha, he])

-- all the boats can be sunk in one round: the other cells first, by induction on the cells that show on the board
theorem Accord.extinction (hg₀ : Lancement g₀) (hat : Atteignable g₀ s) (h : Accord g₀ s)
    (hp : s.serveur.point = .boucle) (h2 : 2 ≤ nbAFlot s.serveur.game) {ρ : Nat → Fin 50 × Fin 50}
    (hρ : Reserve g₀ s.serveur.game ρ) :
    ∃ s', Run g₀.nbJoueur s s' ∧ Accord g₀ s' ∧ s'.serveur.point = .boucle ∧ s'.serveur.manche ≠ 0 ∧
      nbAFlot s'.serveur.game = 0 := by
  induction hc : (navires g₀ s.serveur.game).card using Nat.strong_induction_on generalizing s with
  | _ d ih =>
    by_cases hex : ∃ y x, Navire g₀ s.serveur.game y x ∧ ∀ j : Fin 100, AFlot s.serveur.game j.val → ρ j ≠ (y, x)
    · obtain ⟨y, x, hyx, hlibre⟩ := hex
      obtain ⟨s', hr, h', hp', h2', hρ', hlt⟩ := h.allege hg₀ hat hp h2 hρ hyx hlibre
      obtain ⟨s'', hr', hfini⟩ := ih _ (hc ▸ hlt) (hat.run hr) h' hp' h2' hρ' rfl
      exact ⟨s'', hr.trans hr', hfini⟩
    · refine h.saborde hg₀ hat hp h2 hρ fun y x hyx => ?_
      by_contra hnone
      exact hex ⟨y, x, hyx, fun j ha he => hnone ⟨j, ha, he⟩⟩

theorem Accord.reserve (hg₀ : Lancement g₀) (hat : Atteignable g₀ s) (h : Accord g₀ s)
    (hp : s.serveur.point = .boucle) : ∃ ρ, Reserve g₀ s.serveur.game ρ := by
  have hn := (h.apresVerdict hp).regles.nbJoueur
  have hex (k : Nat) : ∃ e : Fin 50 × Fin 50, ∀ j : Fin 100, j.val = k → AFlot s.serveur.game k →
      Navire g₀ s.serveur.game e.1 e.2 ∧ coord e.1 e.2 ∈ (s.serveur.game.plateau.bateaux j).cases := by
    by_cases hk : AFlot s.serveur.game k
    · obtain ⟨j, rfl, -⟩ := aFlot_fin (h.apresVerdict hp).flottille hk
      have hlt := hk.1
      obtain ⟨y, x, hyx⟩ := (h.aFlot_navire hg₀ hat hp (j := j) (by omega)).mp hk
      exact ⟨(y, x), fun j' hj' _ => Fin.ext hj' ▸ hyx⟩
    · exact ⟨(0, 0), fun _ _ ha => absurd ha hk⟩
  choose ρ hρ using hex
  exact ⟨ρ, fun j ha => hρ j.val j rfl ha⟩

theorem Accord.tousFinis (h : Accord g₀ s)
    (hp : s.serveur.point = .boucle ∨ s.serveur.point = .fini) (hf : s.serveur.finEnvoyee = true) :
    ∀ i : Nat, (i : Int) < g₀.nbJoueur → (s.clients i).point = .fini := by
  intro i hi
  have hr := h.serveur
  have hapres : Serveur.ApresVerdict g₀ s.serveur := by
    rcases hp with hp | hp
    · exact h.apresVerdict hp
    · simp only [Regulier, hp] at hr
      exact hr.1
  obtain ⟨k, g, hk, hg, h1⟩ := hapres.fin hf
  refine ((h.joueurs i hi).fini (k := k) ?_ hg h1).1
  rcases hp with hp | hp <;> simp only [Serveur.Poste.moment, hp, hk]

theorem Accord.finis (h : Accord g₀ s) (hp : s.serveur.point = .fini) :
    ∀ i : Nat, (i : Int) < g₀.nbJoueur → (s.clients i).point = .fini := by
  have hreg := h.serveur
  simp only [Regulier, hp] at hreg
  exact h.tousFinis (.inr hp) hreg.2

theorem Accord.terminer (hg₀ : Lancement g₀) (hat : Atteignable g₀ s) (h : Accord g₀ s)
    (hp : s.serveur.point = .boucle) :
    ∃ s', Run g₀.nbJoueur s s' ∧ ∀ i : Nat, (i : Int) < g₀.nbJoueur → (s'.clients i).point = .fini := by
  have hfini {t : Etat} (hat : Atteignable g₀ t) (ht : Accord g₀ t) (hpt : t.serveur.point = .boucle)
      (hm : t.serveur.manche ≠ 0) : ∃ s', Run g₀.nbJoueur t s' ∧
        ∀ i : Nat, (i : Int) < g₀.nbJoueur → (s'.clients i).point = .fini := by
    cases hf : t.serveur.finEnvoyee with
    | true => exact ⟨t, .refl, ht.tousFinis (.inl hpt) hf⟩
    | false =>
      obtain ⟨ρ, hρ⟩ := ht.reserve hg₀ hat hpt
      have h2 := ht.deuxAFlot hg₀ hat hpt hf hm
      obtain ⟨s', hr, h', hp', hm', h0⟩ := ht.extinction hg₀ hat hpt h2 hρ
      refine ⟨s', hr, h'.tousFinis (.inl hp') ?_⟩
      by_contra hf'
      have := h'.deuxAFlot hg₀ (hat.run hr) hp' (Bool.eq_false_iff.mpr hf') hm'
      omega
  cases hf : s.serveur.finEnvoyee with
  | true => exact ⟨s, .refl, h.tousFinis (.inl hp) hf⟩
  | false =>
    obtain ⟨s', hr, h', hp', hm, -⟩ := h.mancheJouee hg₀ hat hp hf (fun _ => (0, 0)) fun _ _ => hg₀.coin
    obtain ⟨s'', hr', hs''⟩ := hfini (hat.run hr) h' hp' hm
    exact ⟨s'', hr.trans hr', hs''⟩

theorem Atteignable.termine (hg₀ : Lancement g₀) (h : Atteignable g₀ s) :
    ∃ s', Run g₀.nbJoueur s s' ∧ ∀ i : Nat, (i : Int) < g₀.nbJoueur → (s'.clients i).point = .fini := by
  rcases h.invariant hg₀ with ha | he
  · obtain ⟨s₁, hr₁, h₁, hp₁ | hp₁⟩ := ha.versBoucle hg₀
    · obtain ⟨s', hr, hfini⟩ := h₁.terminer hg₀ (h.run hr₁) hp₁
      exact ⟨s', hr₁.trans hr, hfini⟩
    · exact ⟨s₁, hr₁, h₁.finis hp₁⟩
  · exact ⟨s, .refl, fun i hi => (he.joueurs i hi).1⟩

theorem Client.Loyal.issue {hist : List Serveur.GameT} {c : Client.Poste} (h : Client.Loyal g₀ hist i c)
    (hp : c.point = .fini) :
    ∃ m g, c.manche = m + 1 ∧ hist[m]? = some g ∧ nbAFlot g ≤ 1 ∧ c.game.etat = classe g i := by
  simp only [Client.Loyal, hp] at h
  obtain ⟨hm, ht⟩ := h
  rcases hm.statut with ⟨-, he⟩ | ⟨k, g, hk, hg, he⟩
  · rw [he] at ht
    simp [Termine] at ht
  · refine ⟨k, g, hk, hg, ?_, he⟩
    by_contra h2
    exact classe_termine (by omega) i (he ▸ ht)

theorem classe_finie {g : Serveur.GameT} (h1 : nbAFlot g ≤ 1) :
    (classe g i = .finWin ↔ ∀ k, AFlot g k ↔ k = i) ∧ (classe g i = .finLose ↔ ¬ AFlot g i) := by
  have hseul : AFlot g i ↔ ∀ k, AFlot g k ↔ k = i := by
    constructor
    · intro ha k
      refine ⟨fun hk => nbAFlot_le_un.mp h1 hk ha, fun he => he ▸ ha⟩
    · intro h
      exact (h i).mpr rfl
  rw [← hseul]
  unfold classe
  by_cases h0 : nbAFlot g = 0
  · have ha : ¬ AFlot g i := nbAFlot_zero.mp h0 i
    simp only [h0, if_true, ha, reduceCtorEq, not_false_eq_true, and_self]
  · have h1' : nbAFlot g = 1 := by omega
    by_cases ha : AFlot g i
    · simp only [h1', one_ne_zero, if_true, if_false, ha, reduceCtorEq, not_true_eq_false, and_self]
    · simp only [h1', one_ne_zero, if_true, if_false, ha, reduceCtorEq, not_false_eq_true, and_self]

structure Sorti (s : Etat) (i : Nat) : Prop where
  point : (s.clients i).point = .fini
  issue : ∃ m g, (s.clients i).manche = m + 1 ∧ s.serveur.verdicts[m]? = some g ∧ nbAFlot g ≤ 1 ∧
    ((s.clients i).game.etat = .finWin ↔ ∀ k, AFlot g k ↔ k = i) ∧
    ((s.clients i).game.etat = .finLose ↔ ¬ AFlot g i)

theorem Invariant.sortis (h : Invariant g₀ s)
    (hfini : ∀ i : Nat, (i : Int) < g₀.nbJoueur → (s.clients i).point = .fini) :
    ∀ i : Nat, (i : Int) < g₀.nbJoueur → Sorti s i := by
  intro i hi
  obtain ⟨m, g, hm, hg, h1, he⟩ := (h.loyal hi).issue (hfini i hi)
  exact ⟨hfini i hi, m, g, hm, hg, h1, he ▸ classe_finie h1⟩

theorem fin_accessible (g₀ : Serveur.GameT) (hg₀ : Lancement g₀) (s : Etat) (h : Atteignable g₀ s) :
    ∃ s', Run g₀.nbJoueur s s' ∧ ∀ i : Nat, (i : Int) < g₀.nbJoueur → Sorti s' i := by
  obtain ⟨s', hr, hfini⟩ := h.termine hg₀
  exact ⟨s', hr, ((h.run hr).invariant hg₀).sortis hfini⟩

theorem fin_accessible_depart : ∃ s', Run 2 (.depart (GameT.depart 2 4 2)) s' ∧
    ∀ i : Nat, (i : Int) < 2 → Sorti s' i :=
  fin_accessible _ depart_deux _ (Etat.depart_atteignable _)

end Bnbr
