import Bnbr.Clib.Fairness
import Bnbr.Cadence
import Bnbr.Retour

namespace Bnbr

open Sessions Serveur Runs

namespace Serveur

def Poste.Avance (p : Poste) : Prop := ∃ a p', Pas p a p' ∧ p'.point ≠ p.point ∧ ∀ i q, a ≠ .prend i q

structure Poste.Attend (p : Poste) (i : Nat) : Prop where
  sens : (p.moment i).sens = .retour
  pas : ∀ q, ∃ p', Pas p (.prend i q) p'

end Serveur

structure Doit (s : Etat) (i : Nat) : Prop where
  reste : (s.clients i).point ≠ .fini
  du : (s.clients i).moment.sens = .retour ∨ s.versClient i ≠ []

-- the server is not held back for ever, and no player keeps what it owes
structure Equitable (n : Int) (r : Nat → Etat) : Prop where
  serveur : WeakFair (fun k => ∃ a t, Etape n (r k) (.serveur a) t ∧ t.serveur ≠ (r k).serveur)
    fun k => (r (k + 1)).serveur ≠ (r k).serveur
  client : ∀ i : Nat, (i : Int) < n → WeakFair (fun k => Doit (r k) i)
    fun k => ((r (k + 1)).clients i).moment ≠ ((r k).clients i).moment

variable {g₀ : Serveur.GameT} {s s' : Etat} {a : Action} {i : Nat} {n : Int} {r : Nat → Etat} {N k : Nat}

theorem Serveur.Pas.nonFini {p p' : Serveur.Poste} {b : Serveur.Action} (h : Serveur.Pas p b p') :
    p.point ≠ .fini := by
  intro hp
  cases h <;> simp_all

theorem Serveur.Boucle.suite_ne (b : Boucle) (i : Nat) : b.suite ≠ .envoi b i := by
  cases b <;> simp [Boucle.suite]

theorem Accord.avance (hg₀ : Lancement g₀) (h : Accord g₀ s) (hp : s.serveur.point ≠ .fini) :
    s.serveur.Avance ∨ ∃ i : Nat, (i : Int) < g₀.nbJoueur ∧ s.serveur.Attend i := by
  have hr := h.serveur
  cases hpt : s.serveur.point with
  | envoi b i =>
    refine .inl ?_
    by_cases hi : (i : Int) < g₀.nbJoueur
    · obtain ⟨q, -, hpas⟩ := h.emet hpt hi
      exact ⟨_, _, hpas, by simp [hpt], by simp⟩
    · exact ⟨_, _, h.finEnvoi hpt hi, by rw [hpt]; exact b.suite_ne i, by simp⟩
  | accuse b i =>
    simp only [Regulier, hpt] at hr
    refine .inr ⟨i, hr.2, ?_, fun q => ⟨_, .accuse q hpt⟩⟩
    simp only [Serveur.Poste.moment, hpt, passage_pendant]
    exact b.pendant_sens _
  | demande i =>
    refine .inl ?_
    by_cases hi : (i : Int) < s.serveur.game.nbJoueur
    · exact ⟨_, _, .demande hpt hi, by simp [hpt], by simp⟩
    · exact ⟨_, _, .collecter hpt hi, by simp [hpt], by simp⟩
  | collecte j n envois =>
    simp only [Regulier, hpt] at hr
    by_cases hf : (s.serveur.collecte j n envois).fini
    · exact .inl ⟨_, _, .sortie hpt hf, by simp [hpt], by simp⟩
    · obtain ⟨hj0, hj⟩ := hr.joueur hf
      refine .inr ⟨j.toNat, by omega, ?_, fun q => ⟨_, .bateau q hpt hf (by omega)⟩⟩
      simp only [Serveur.Poste.moment, hpt, passage_pendant]
      rfl
  | bateau j n envois q =>
    simp only [Regulier, hpt] at hr
    obtain ⟨hj0, -⟩ := hr.1.joueur hr.2.1
    obtain ⟨c, -, hpas⟩ := h.bateau hg₀ hpt (i := j.toNat) (by omega)
    exact .inl ⟨_, _, hpas, by simp [hpt], by simp⟩
  | touche => exact .inl ⟨_, _, .touche hpt, by simp [hpt], by simp⟩
  | boucle =>
    refine .inl ?_
    by_cases he : s.serveur.game.etat = 2
    · exact ⟨_, _, .fin hpt he, by simp [hpt], by simp⟩
    · have hn : s.serveur.game.taillePlateau ≤ 50 := by
        rw [(h.apresVerdict hpt).regles.taillePlateau]
        exact hg₀.registres.plateau
      exact ⟨_, _, .manche hpt he (textePlateau_spec hn), by simp [hpt], by simp⟩
  | tir i =>
    simp only [Regulier, hpt] at hr
    by_cases hi : (i : Int) < g₀.nbJoueur
    · refine .inr ⟨i, hi, ?_, fun q => ⟨_, .tir q hpt (by rw [hr.1.regles.nbJoueur]; exact hi)⟩⟩
      simp only [Serveur.Poste.moment, hpt, passage_pendant]
      rfl
    · obtain ⟨g, f, hpas⟩ := h.verdict hpt hi
      exact .inl ⟨_, _, hpas, by simp [hpt], by simp⟩
  | tirRecu i q =>
    obtain ⟨g, hpas⟩ := h.tirRecu hg₀ hpt
    exact .inl ⟨_, _, hpas, by simp [hpt], by simp⟩
  | fini => exact absurd hpt hp

theorem Serveur.Poste.Avance.etape (h : s.serveur.Avance) :
    ∃ a t, Etape n s (.serveur a) t ∧ t.serveur ≠ s.serveur := by
  obtain ⟨a, p, hpas, hne, ha⟩ := h
  have hne' : p ≠ s.serveur := fun he => hne (congrArg Poste.point he)
  cases a with
  | interne => exact ⟨_, _, .serveurInterne hpas, hne'⟩
  | envoie i q => exact ⟨_, _, .serveurEnvoie hpas, hne'⟩
  | prend i q => exact absurd rfl (ha i q)

theorem Invariant.change {p : Serveur.Poste} {b : Serveur.Action} (hg₀ : Lancement g₀) (h : Invariant g₀ s)
    (hs : Serveur.Pas s.serveur b p) (hb : b ≠ .interne) : p ≠ s.serveur := by
  rintro rfl
  rcases h.parcouru hg₀ hs with ⟨he, -⟩ | hplus
  · exact hb he
  · omega

inductive Autour (s s' : Etat) (i : Nat) : Prop
  | calme (hm : (s'.clients i).moment = (s.clients i).moment) (hc : s'.versClient i = s.versClient i)
      (hs : s'.versServeur i = s.versServeur i)
  | prend {q : Requete} (hc : s.versClient i = q :: s'.versClient i) (hs : s'.versServeur i = s.versServeur i)
  | envoie {q : Requete} (hc : s'.versClient i = s.versClient i) (hs : s'.versServeur i = s.versServeur i ++ [q])

theorem Accord.autour (hg₀ : Lancement g₀) (h : Accord g₀ s) (hs : Etape g₀.nbJoueur s a s')
    (hp : s'.serveur = s.serveur) (i : Nat) : Autour s s' i := by
  cases hs with
  | serveurPrend hs => exact absurd hp (Invariant.change hg₀ (.inl h) hs (by simp))
  | serveurEnvoie hs => exact absurd hp (Invariant.change hg₀ (.inl h) hs (by simp))
  | serveurInterne => exact .calme rfl rfl rfl
  | @clientPrend c j q reste hj hs hc =>
    by_cases hij : i = j
    · subst hij
      exact .prend (q := q) (by simp only [Function.update_self, hc]) rfl
    · exact .calme (by simp only [Function.update_of_ne hij]) (Function.update_of_ne hij _ _) rfl
  | @clientEnvoie c j q hj hs =>
    by_cases hij : i = j
    · subst hij
      exact .envoie rfl (Function.update_self ..)
    · exact .calme (by simp only [Function.update_of_ne hij]) rfl (Function.update_of_ne hij _ _)
  | @clientInterne c j hj hs =>
    refine .calme ?_ rfl rfl
    by_cases hij : i = j
    · subst hij
      obtain ⟨-, hm, -⟩ := hs.interne_loyal hg₀ (h.joueurs i hj).loyal
      simp only [Function.update_self]
      exact hm
    · simp only [Function.update_of_ne hij]

theorem Accord.doit (h : Accord g₀ s) (hi : (i : Int) < g₀.nbJoueur) (hs : (s.serveur.moment i).sens = .retour)
    (hv : s.versServeur i = []) : Doit s i := by
  obtain ⟨hsync, hloyal⟩ := h.joueurs i hi
  rw [hv] at hsync
  rcases hsync.blocage with he | ⟨q, reste, hq, hperm⟩
  · rw [he] at hs
    refine ⟨fun hp => ?_, .inl hs⟩
    simp only [Client.Poste.moment, hp, Moment.sens, reduceCtorEq] at hs
  · obtain ⟨c, hc⟩ := hloyal.peut_prendre h.serveur.descend hperm
    exact ⟨hc.nonFini, .inr (by rw [hq]; exact List.cons_ne_nil _ _)⟩

theorem Moment.suivant_ne (k : Moment) : k.suivant ≠ k := by
  cases k <;> simp [Moment.suivant]

theorem Client.Loyal.internes {hist : List Serveur.GameT} {c c' : Client.Poste} (hg₀ : Lancement g₀)
    (h : Client.Loyal g₀ hist i c) (hr : Relation.ReflTransGen (fun c c' => Client.Pas c .interne c') c c') :
    Client.Loyal g₀ hist i c' ∧ c'.moment = c.moment := by
  induction hr with
  | refl => exact ⟨h, rfl⟩
  | tail _ hs ih =>
    obtain ⟨hloyal, hm, -⟩ := hs.interne_loyal hg₀ ih.1
    exact ⟨hloyal, hm.trans ih.2⟩

theorem Accord.honore (hg₀ : Lancement g₀) (h : Accord g₀ s) (hi : (i : Int) < g₀.nbJoueur) (hd : Doit s i) :
    ∃ s₁ b s', Run g₀.nbJoueur s s₁ ∧ Etape g₀.nbJoueur s₁ (.client i b) s' ∧
      (s'.clients i).moment ≠ (s.clients i).moment := by
  obtain ⟨hsync, hloyal⟩ := h.joueurs i hi
  by_cases hs : (s.clients i).moment.sens = .retour
  · obtain ⟨c₁, q, c₂, hc, hstep⟩ := hloyal.peut_emettre hg₀ hs
    obtain ⟨hl, hm⟩ := hloyal.internes hg₀ hc
    obtain ⟨-, hm', -⟩ := hstep.envoie_loyal hg₀ hl
    refine ⟨_, _, _, run_client hi hc, .clientEnvoie hi (by simp only [Function.update_self]; exact hstep), ?_⟩
    simp only [Function.update_self]
    rw [hm', hm]
    exact Moment.suivant_ne _
  · obtain ⟨q, reste, hq⟩ := List.exists_cons_of_ne_nil (hd.du.resolve_left hs)
    rw [hq] at hsync
    have hperm := hsync.reception.1
    obtain ⟨c, hc⟩ := hloyal.peut_prendre h.serveur.descend hperm
    obtain ⟨-, hm, -⟩ := hc.prend_loyal hg₀ h.serveur.descend hloyal hperm
    refine ⟨_, _, _, .refl, .clientPrend hi hc hq, ?_⟩
    simp only [Function.update_self]
    rw [hm]
    exact Moment.suivant_ne _

section

variable (hg₀ : Lancement g₀) (hr : Behaviour (Etape g₀.nbJoueur) r)

include hg₀ hr

theorem Behaviour.fige (h₀ : Invariant g₀ (r 0)) {M : Nat} (hM : ∀ k, (r k).serveur.manche ≤ M) :
    ∃ N, ∀ k, N ≤ k → (r k).serveur = (r N).serveur := by
  have hinv (k : Nat) : Invariant g₀ (r k) := hr.invariant h₀ (fun _ _ _ hs h => h.etape hg₀ hs) k
  have hpas (k : Nat) : (r (k + 1)).serveur = (r k).serveur ∨ (r (k + 1)).serveur.parcouru g₀.nbJoueur.toNat =
      (r k).serveur.parcouru g₀.nbJoueur.toNat + 1 := by
    rcases hr k with he | ⟨a, hs⟩
    · exact .inl (congrArg Etat.serveur he)
    · rcases hs.serveur with he | ⟨b, hb⟩
      · exact .inl he
      · exact ((hinv k).parcouru hg₀ hb).imp_left And.right
  obtain ⟨N, hN⟩ := settles (f := fun k => (r k).serveur.parcouru g₀.nbJoueur.toNat)
    (B := 5 * g₀.nbJoueur.toNat + 5 + (M + 1) * tour g₀.nbJoueur.toNat)
    (fun k => by rcases hpas k with he | he <;> simp only [he] <;> omega)
    fun k => (hinv k).parcouru_le.trans
      (Nat.add_le_add_left (Nat.mul_le_mul_right _ (Nat.succ_le_succ (hM k))) _)
  refine ⟨N, fun k hk => ?_⟩
  induction k, hk using Nat.le_induction with
  | base => rfl
  | succ k hk ih =>
    rcases hpas k with he | he
    · exact he.trans ih
    · have h1 := hN k hk
      have h2 := hN (k + 1) (Nat.le_succ_of_le hk)
      omega

section

variable (hN : ∀ k, N ≤ k → Accord g₀ (r k)) (hfige : ∀ k, N ≤ k → (r k).serveur = (r N).serveur)

include hN hfige

theorem Behaviour.autour (hk : N ≤ k) (i : Nat) : Autour (r k) (r (k + 1)) i := by
  have hmeme : (r (k + 1)).serveur = (r k).serveur :=
    (hfige (k + 1) (Nat.le_succ_of_le hk)).trans (hfige k hk).symm
  rcases hr k with he | ⟨a, hs⟩
  · rw [he]
    exact .calme rfl rfl rfl
  · exact (hN k hk).autour hg₀ hs hmeme i

theorem Behaviour.sansReponse (heq : Equitable g₀.nbJoueur r) (hatt : (r N).serveur.Attend i) (hk : N ≤ k) :
    (r k).versServeur i = [] := by
  by_contra hne
  have hreste (l : Nat) (hl : k ≤ l) : (r l).versServeur i ≠ [] := by
    induction l, hl using Nat.le_induction with
    | base => exact hne
    | succ l hl ih =>
      cases Behaviour.autour hg₀ hr hN hfige (hk.trans hl) i with
      | calme _ _ hs => rwa [hs]
      | prend _ hs => rwa [hs]
      | envoie _ hs => simp [hs]
  refine WeakFair.steady (f := fun k => (r k).serveur) heq.serveur hfige hk fun l hl => ?_
  obtain ⟨q, reste, hq⟩ := List.exists_cons_of_ne_nil (hreste l hl)
  obtain ⟨p, hp⟩ := hatt.pas q
  rw [← hfige l (hk.trans hl)] at hp
  exact ⟨_, _, .serveurPrend hp hq, Invariant.change hg₀ (.inl (hN l (hk.trans hl))) hp (by simp)⟩

-- the server does not wait for ever: what the player still has to take gets shorter
theorem Behaviour.repond (heq : Equitable g₀.nbJoueur r) (hi : (i : Int) < g₀.nbJoueur)
    (hatt : (r N).serveur.Attend i) : False := by
  have hvide (k : Nat) (hk : N ≤ k) : (r k).versServeur i = [] :=
    Behaviour.sansReponse hg₀ hr hN hfige heq hatt hk
  have hdoit (k : Nat) (hk : N ≤ k) : Doit (r k) i :=
    (hN k hk).doit hi (by rw [hfige k hk]; exact hatt.sens) (hvide k hk)
  refine no_descent (f := fun k => ((r k).versClient i).length) (N := N) (fun k hk => ?_) fun k hk => ?_
  · cases Behaviour.autour hg₀ hr hN hfige hk i with
    | calme _ hc => rw [hc]
    | prend hc => simp [hc]
    | envoie hc => rw [hc]
  · obtain ⟨l, hl, hm⟩ := heq.client i hi k fun l hl => hdoit l (hk.trans hl)
    refine ⟨l, hl, ?_⟩
    cases Behaviour.autour hg₀ hr hN hfige (hk.trans hl) i with
    | calme he => exact absurd he hm
    | prend hc => simp [hc]
    | envoie _ hs =>
      have := hvide (l + 1) (Nat.le_succ_of_le (hk.trans hl))
      simp [hs] at this

end

end

theorem Serveur.Pas.manche_le {p p' : Serveur.Poste} {b : Serveur.Action} (h : Serveur.Pas p b p')
    (hp : p.manche ≤ p.verdicts.length)
    (hv : ∀ f k, p.point = .envoi (.etat f) k → p.verdicts.length = p.manche + 1) :
    p'.manche ≤ p'.verdicts.length := by
  cases h with
  | @suite b i hpt hi =>
    cases b with
    | etat f => exact Nat.le_of_eq (hv f i hpt).symm
    | _ => exact hp
  | verdict =>
    simp only [List.length_append]
    exact Nat.le_add_right_of_le hp
  | _ => exact hp

theorem Atteignable.manche_le (hg₀ : Lancement g₀) (h : Atteignable g₀ s) :
    s.serveur.manche ≤ s.serveur.verdicts.length := by
  obtain ⟨s₀, h₀, hr⟩ := h
  induction hr with
  | refl => simp [h₀.serveur]
  | @tail s t hr hs ih =>
    obtain ⟨a, hs⟩ := hs
    rcases hs.serveur with he | ⟨b, hb⟩
    · rw [he]
      exact ih
    · refine hb.manche_le ih fun f k hp => ?_
      rcases Atteignable.invariant hg₀ ⟨s₀, h₀, hr⟩ with h | h
      · have hreg := h.serveur
        simp only [Regulier, hp] at hreg
        exact (show Serveur.EnVerdict g₀ s.serveur f _ from hreg.1).verdicts
      · obtain ⟨t, ht | ht⟩ := h.serveur <;> simp [hp] at ht

theorem Atteignable.encoreDeux (hg₀ : Lancement g₀) (h : Atteignable g₀ s) {l : Nat}
    (hl : l + 2 ≤ s.serveur.manche) : ∃ g, s.serveur.verdicts[l]? = some g ∧ 2 ≤ nbAFlot g :=
  (h.conclu hg₀).ouvertes l (by have := h.manche_le hg₀; omega)

theorem vises_mono {L : Nat → List Requete} {m l : Nat} (h : m ≤ l) :
    vises n L (fun _ => m) ⊆ vises n L fun _ => l := by
  rintro q ⟨i, k, hi, hk, hq⟩
  exact ⟨i, k, hi, Nat.lt_of_lt_of_le hk h, hq⟩

theorem Atteignable.navire_reste (hg₀ : Lancement g₀) (h : Atteignable g₀ s) {m l : Nat} {g g' : Serveur.GameT}
    (hml : m ≤ l) (hg : s.serveur.verdicts[m]? = some g) (hg' : s.serveur.verdicts[l]? = some g') {y x : Fin 50}
    (hn : Navire g₀ g' y x) : Navire g₀ g y x := by
  obtain ⟨s₀, es, hpartie⟩ := h.partie hg₀
  obtain ⟨-, -, hpeint⟩ := hpartie.salve.verdicts m g hg
  obtain ⟨-, -, hpeint'⟩ := hpartie.salve.verdicts l g' hg'
  obtain ⟨hd, hflotte, hvise⟩ := (hpeint'.navire_iff y x).mp hn
  exact (hpeint.navire_iff y x).mpr ⟨hd, hflotte, fun hq => hvise (vises_mono (Nat.succ_le_succ hml) hq)⟩

-- rounds for ever, in which from some round on nobody is hit any more
structure Interminable (g₀ : Serveur.GameT) (r : Nat → Etat) : Prop where
  manches : ∀ M, ∃ k, M ≤ (r k).serveur.manche
  navires : ∃ m, ∀ (k l : Nat) (g g' : Serveur.GameT), m ≤ l → (r k).serveur.verdicts[m]? = some g →
    (r k).serveur.verdicts[l]? = some g' → 2 ≤ nbAFlot g' ∧ ∀ y x, Navire g₀ g' y x ↔ Navire g₀ g y x

theorem Behaviour.interminable (hg₀ : Lancement g₀) (hr : Behaviour (Etape g₀.nbJoueur) r) (h₀ : Atteignable g₀ (r 0))
    (hM : ∀ M, ∃ k, M ≤ (r k).serveur.manche) : Interminable g₀ r := by
  have hat (k : Nat) : Atteignable g₀ (r k) := hr.invariant h₀ (fun _ _ _ hs h => h.run hs.run) k
  have hprolonge {k k' : Nat} (hk : k ≤ k') : Prolonge (r k).serveur.verdicts (r k').serveur.verdicts :=
    hr.always (P := fun s => Prolonge (r k).serveur.verdicts s.serveur.verdicts) (.refl _)
      (fun _ _ _ hs ih l g hl => hs.prolonge l g (ih l g hl)) hk
  have hmeme {k k' l : Nat} {g g' : Serveur.GameT} (hg : (r k).serveur.verdicts[l]? = some g)
      (hg' : (r k').serveur.verdicts[l]? = some g') : g = g' := by
    have h1 := hprolonge (le_max_left k k') l g hg
    have h2 := hprolonge (le_max_right k k') l g' hg'
    exact Option.some.inj (h1.symm.trans h2)
  have hrendu (l : Nat) : ∃ g, 2 ≤ nbAFlot g ∧ ∃ k, (r k).serveur.verdicts[l]? = some g := by
    obtain ⟨k, hk⟩ := hM (l + 2)
    obtain ⟨g, hg, h2⟩ := (hat k).encoreDeux hg₀ hk
    exact ⟨g, h2, k, hg⟩
  choose v h2 κ hv using hrendu
  have hanti : Antitone fun l => Bnbr.navires g₀ (v l) := by
    intro m l hml q hq
    rw [mem_navires] at hq ⊢
    exact (hat (max (κ m) (κ l))).navire_reste hg₀ hml (hprolonge (le_max_left _ _) m _ (hv m))
      (hprolonge (le_max_right _ _) l _ (hv l)) hq
  obtain ⟨m, hm⟩ := WellFoundedLT.antitone_chain_condition hanti
  refine ⟨hM, m, fun k l g g' hml hg hg' => ?_⟩
  obtain rfl := hmeme hg (hv m)
  obtain rfl := hmeme hg' (hv l)
  refine ⟨h2 l, fun y x => ?_⟩
  have hq := Finset.ext_iff.mp (hm l hml) (y, x)
  rw [mem_navires, mem_navires] at hq
  exact hq.symm

theorem partie_vivante (g₀ : Serveur.GameT) (hg₀ : Lancement g₀) (r : Nat → Etat) (h₀ : Atteignable g₀ (r 0))
    (hr : Behaviour (Etape g₀.nbJoueur) r) (heq : Equitable g₀.nbJoueur r) :
    (∃ k, ∀ i : Nat, (i : Int) < g₀.nbJoueur → Sorti (r k) i) ∨ Interminable g₀ r := by
  have hinv (k : Nat) : Invariant g₀ (r k) := hr.invariant (h₀.invariant hg₀) (fun _ _ _ hs h => h.etape hg₀ hs) k
  by_cases hM : ∃ M, ∀ k, (r k).serveur.manche ≤ M
  · refine .inl ?_
    obtain ⟨M, hM⟩ := hM
    obtain ⟨N, hfige⟩ := Behaviour.fige hg₀ hr (hinv 0) hM
    refine ⟨N, (hinv N).sortis ?_⟩
    rcases hinv N with h | h
    · by_contra hreste
      have haccord (k : Nat) (hk : N ≤ k) : Accord g₀ (r k) :=
        (hinv k).accord (by rw [hfige k hk]; exact h.depasse)
      rcases h.avance hg₀ fun hp => hreste (h.finis hp) with ha | ⟨i, hi, hatt⟩
      · exact WeakFair.steady (f := fun k => (r k).serveur) heq.serveur hfige (Nat.le_refl N) fun k hk =>
          Serveur.Poste.Avance.etape (by rw [hfige k hk]; exact ha)
      · exact Behaviour.repond hg₀ hr haccord hfige heq hi hatt
    · exact fun i hi => (h.joueurs i hi).1
  · refine .inr (Behaviour.interminable hg₀ hr h₀ fun M => ?_)
    by_contra hnone
    exact hM ⟨M, fun k => Nat.le_of_not_le fun hle => hnone ⟨k, hle⟩⟩

theorem partie_vivante_finie : ∃ r, Atteignable (GameT.depart 2 4 2) (r 0) ∧ Behaviour (Etape 2) r ∧ Equitable 2 r ∧
    ((∃ k, ∀ i : Nat, (i : Int) < 2 → Sorti (r k) i) ∨ Interminable (GameT.depart 2 4 2) r) := by
  have hat := Etat.depart_atteignable (GameT.depart 2 4 2)
  obtain ⟨s, hrun, hp⟩ := hat.acheve depart_deux (by decide) (.inr (by simp [Serveur.Poste.Lance, Etat.depart]))
    (by simp [Etat.depart])
  obtain ⟨es, ht⟩ := Run.trace hrun
  obtain ⟨r, hr, h0, N, hN⟩ := ht.behaviour
  have hfini : ∀ i : Nat, (i : Int) < 2 → (s.clients i).point = .fini := by
    rcases (hat.run hrun).invariant depart_deux with h | h
    · exact h.finis hp
    · exact fun i hi => (h.joueurs i hi).1
  have heq : Equitable 2 r := by
    refine ⟨fun k hk => ?_, fun i hi k hk => ?_⟩
    · obtain ⟨a, t, hs, hne⟩ := hk (max k N) (le_max_left k N)
      rw [hN _ (le_max_right k N)] at hs hne
      obtain ⟨b, hb⟩ := hs.serveur.resolve_left hne
      exact absurd hp hb.nonFini
    · have hd := hk (max k N) (le_max_left k N)
      simp only [hN _ (le_max_right k N)] at hd
      exact absurd (hfini i hi) hd.reste
  have hat₀ : Atteignable (GameT.depart 2 4 2) (r 0) := h0 ▸ hat
  exact ⟨r, hat₀, hr, heq, partie_vivante _ depart_deux r hat₀ hr heq⟩

end Bnbr
