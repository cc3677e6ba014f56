import Bnbr.Fidelite

namespace Bnbr

open CArray CString Sessions Serveur Runs Bataille

variable {g₀ : Serveur.GameT} {s s' t : Etat} {i : Nat} {n : Int}

-- two states that differ only in what no player of the game sees
structure Pareil (n : Int) (s t : Etat) : Prop where
  serveur : s.serveur = t.serveur
  clients : ∀ i : Nat, (i : Int) < n → s.clients i = t.clients i
  versClient : ∀ i : Nat, (i : Int) < n → s.versClient i = t.versClient i
  versServeur : s.versServeur = t.versServeur

theorem update_pareil {α : Type} {f g : Nat → α} (h : ∀ i : Nat, (i : Int) < n → f i = g i) (k : Nat) (a : α) :
    ∀ i : Nat, (i : Int) < n → Function.update f k a i = Function.update g k a i := by
  intro i hi
  by_cases hik : i = k
  · subst hik
    rw [Function.update_self, Function.update_self]
  · rw [Function.update_of_ne hik, Function.update_of_ne hik, h i hi]

theorem Pareil.etape {a : Action} (h : Pareil n s t) (hs : Etape n s a s') : ∃ t', Etape n t a t' ∧ Pareil n s' t' := by
  obtain ⟨h1, h2, h3, h4⟩ := h
  cases hs with
  | serveurPrend hs hc =>
    exact ⟨_, .serveurPrend (h1 ▸ hs) (h4 ▸ hc), rfl, h2, h3, by simp only [h4]⟩
  | @serveurEnvoie p i q hs =>
    refine ⟨_, .serveurEnvoie (h1 ▸ hs), rfl, h2, fun k hk => ?_, h4⟩
    by_cases hki : k = i
    · subst hki
      simp only [Function.update_self, h3 k hk]
    · simp only [Function.update_of_ne hki, h3 k hk]
  | serveurInterne hs => exact ⟨_, .serveurInterne (h1 ▸ hs), rfl, h2, h3, h4⟩
  | @clientPrend c i q reste hi hs hc =>
    exact ⟨_, .clientPrend hi (h2 i hi ▸ hs) (h3 i hi ▸ hc), h1, update_pareil h2 i c, update_pareil h3 i reste, h4⟩
  | @clientEnvoie c i q hi hs =>
    exact ⟨_, .clientEnvoie hi (h2 i hi ▸ hs), h1, update_pareil h2 i c, h3, by simp only [h4]⟩
  | @clientInterne c i hi hs => exact ⟨_, .clientInterne hi (h2 i hi ▸ hs), h1, update_pareil h2 i c, h3, h4⟩

theorem Pareil.run (h : Pareil n s t) (hr : Run n s s') : ∃ t', Run n t t' ∧ Pareil n s' t' := by
  induction hr with
  | refl => exact ⟨t, .refl, h⟩
  | tail _ hs ih =>
    obtain ⟨a, hs⟩ := hs
    obtain ⟨t', hr', h'⟩ := ih
    obtain ⟨u, hu, hp⟩ := h'.etape hs
    exact ⟨u, hr'.tail ⟨a, hu⟩, hp⟩

theorem Atteignable.sansAutres (h : Atteignable g₀ s) (hi : ¬ (i : Int) < g₀.nbJoueur) : s.versServeur i = [] := by
  obtain ⟨s₀, h₀, hr⟩ := h
  induction hr with
  | refl => exact h₀.versServeur i
  | tail _ hs ih =>
    obtain ⟨a, hs⟩ := hs
    cases hs with
    | @serveurPrend p k q reste hs hc =>
      by_cases hki : i = k
      · subst hki
        rw [ih] at hc
        cases hc
      · simp only [Function.update_of_ne hki]
        exact ih
    | @clientEnvoie c k q hk hs =>
      have hki : i ≠ k := by
        rintro rfl
        exact hi hk
      simp only [Function.update_of_ne hki]
      exact ih
    | _ => exact ih

-- player i reads all that has been sent to it, by induction on that
theorem Accord.lit (hg₀ : Lancement g₀) (h : Accord g₀ s) (hi : (i : Int) < g₀.nbJoueur) :
    ∃ c, Run g₀.nbJoueur s
      { s with clients := Function.update s.clients i c, versClient := Function.update s.versClient i [] } := by
  induction hl : s.versClient i generalizing s with
  | nil =>
    refine ⟨s.clients i, ?_⟩
    rw [Function.update_eq_self, ← hl, Function.update_eq_self]
    exact .refl
  | cons q reste ih =>
    obtain ⟨hsync, hloyal⟩ := h.joueurs i hi
    rw [hl] at hsync
    obtain ⟨c, hc⟩ := hloyal.peut_prendre h.serveur.descend hsync.reception.1
    have hprend : Etape g₀.nbJoueur s _ _ := .clientPrend hi hc hl
    obtain ⟨c', hr⟩ := ih (h.run hg₀ hprend.run h.depasse) (by simp only [Function.update_self])
    simp only [Function.update_idem] at hr
    exact ⟨c', hprend.run.trans hr⟩

theorem Accord.lisent (hg₀ : Lancement g₀) (h : Accord g₀ s) {k : Nat} (hk : (k : Int) ≤ g₀.nbJoueur) :
    ∃ s', Run g₀.nbJoueur s s' ∧ Accord g₀ s' ∧ s'.serveur = s.serveur ∧ s'.versServeur = s.versServeur ∧
      ∀ i, i < k → s'.versClient i = [] := by
  induction k with
  | zero => exact ⟨s, .refl, h, rfl, rfl, fun i hi => absurd hi (Nat.not_lt_zero i)⟩
  | succ k ih =>
    obtain ⟨s₁, hr₁, h₁, hs₁, hv₁, hvide⟩ := ih (by omega)
    obtain ⟨c, hr₂⟩ := h₁.lit hg₀ (i := k) (by omega)
    refine ⟨_, hr₁.trans hr₂, h₁.run hg₀ hr₂ h₁.depasse, hs₁, hv₁, fun i hi => ?_⟩
    rcases Nat.lt_succ_iff_lt_or_eq.mp hi with hlt | rfl
    · simp only [Function.update_of_ne (Nat.ne_of_lt hlt)]
      exact hvide i hlt
    · simp only [Function.update_self]

theorem Accord.repos (hg₀ : Lancement g₀) (hat : Atteignable g₀ s) (h : Accord g₀ s) (hp : s.serveur.point = .boucle) :
    ∃ s', Run g₀.nbJoueur s s' ∧ Accord g₀ s' ∧ s'.serveur = s.serveur ∧
      Pareil g₀.nbJoueur (Repos s'.serveur s'.clients) s' ∧
      ∀ i : Nat, (i : Int) < g₀.nbJoueur → (s'.clients i).moment = .plateau s.serveur.manche := by
  have h1 := hg₀.registres.joueurs
  obtain ⟨s', hr, h', hs', -, hvide⟩ := h.lisent hg₀ (k := g₀.nbJoueur.toNat) (by omega)
  have hm (i : Nat) : s'.serveur.moment i = .plateau s.serveur.manche := by
    rw [hs']
    simp only [Serveur.Poste.moment, hp]
  have hsync (i : Nat) (hi : (i : Int) < g₀.nbJoueur) :
      (s'.clients i).moment = .plateau s.serveur.manche ∧ s'.versServeur i = [] := by
    have hsync := (h'.joueurs i hi).sync
    rw [hm, hvide i (by omega)] at hsync
    have hb := hsync.muet rfl
    rw [hb] at hsync
    exact ⟨hsync.vide.symm, hb⟩
  refine ⟨s', hr, h', hs', ⟨rfl, fun _ _ => rfl, fun i hi => (hvide i (by omega)).symm, ?_⟩, fun i hi => (hsync i hi).1⟩
  funext i
  by_cases hi : (i : Int) < g₀.nbJoueur
  · exact (hsync i hi).2.symm
  · exact ((hat.run hr).sansAutres hi).symm

theorem Accord.versBoucle_verdict (hg₀ : Lancement g₀) (h : Accord g₀ s) {f : Nat → Option Requete}
    (hp : s.serveur.point = .envoi (.etat f) i) :
    ∃ s', Run g₀.nbJoueur s s' ∧ Accord g₀ s' ∧ s'.serveur.point = .boucle ∧
      s'.serveur.manche = s.serveur.manche + 1 := by
  obtain ⟨s₁, k, hr₁, h₁, hp₁, hk₁, hm₁⟩ := h.sert hg₀ hp
  have hsuite := Etape.serveurInterne (n := g₀.nbJoueur) (h₁.finEnvoi hp₁ hk₁)
  exact ⟨_, hr₁.trans hsuite.run, h₁.run hg₀ hsuite.run h₁.depasse, rfl, by simp only [hm₁, Boucle.termine]⟩

theorem Accord.versBoucle_tir (hg₀ : Lancement g₀) (h : Accord g₀ s) (hp : s.serveur.point = .tir i) :
    ∃ s', Run g₀.nbJoueur s s' ∧ Accord g₀ s' ∧ s'.serveur.point = .boucle := by
  obtain ⟨s₁, k, hr₁, h₁, hp₁, hk₁⟩ := h.tirs hg₀ hp
  obtain ⟨g, f, hverdict⟩ := h₁.verdict hp₁ hk₁
  have hv := Etape.serveurInterne (n := g₀.nbJoueur) hverdict
  obtain ⟨s₂, hr₂, h₂, hp₂, -⟩ := (h₁.run hg₀ hv.run h₁.depasse).versBoucle_verdict hg₀ rfl
  exact ⟨s₂, (hr₁.trans hv.run).trans hr₂, h₂, hp₂⟩

theorem Accord.versBoucle_collecte (hg₀ : Lancement g₀) (h : Accord g₀ s) {j n : Int} {envois : List (Int × List Char)}
    (hp : s.serveur.point = .collecte j n envois) :
    ∃ s', Run g₀.nbJoueur s s' ∧ Accord g₀ s' ∧ s'.serveur.point = .boucle ∧ s'.serveur.finEnvoyee = false := by
  obtain ⟨s₁, j', n', envois', hr₁, h₁, hp₁, hf₁⟩ := h.collecte_finie hg₀ hp
  have hsortie : Etape g₀.nbJoueur s₁ _ _ := .serveurInterne (.sortie hp₁ hf₁)
  have htouche : Etape g₀.nbJoueur { s₁ with serveur := { s₁.serveur with point := .touche } } _ _ :=
    .serveurInterne (.touche rfl)
  have hr := hsortie.run.trans htouche.run
  have hreg := h₁.serveur
  simp only [Regulier, hp₁] at hreg
  exact ⟨_, hr₁.trans hr, h₁.run hg₀ hr h₁.depasse, rfl, hreg.finEnvoyee⟩

theorem Accord.versBoucle_demande (hg₀ : Lancement g₀) (h : Accord g₀ s) (hp : s.serveur.point = .demande i) :
    ∃ s', Run g₀.nbJoueur s s' ∧ Accord g₀ s' ∧ s'.serveur.point = .boucle ∧ s'.serveur.finEnvoyee = false := by
  obtain ⟨s₁, k, hr₁, h₁, hp₁, hk₁⟩ := h.demandes hg₀ hp
  have hreg := h₁.serveur
  simp only [Regulier, hp₁] at hreg
  have hcol : Etape g₀.nbJoueur s₁ _ _ := .serveurInterne (.collecter hp₁ (by rw [hreg.1.game]; exact hk₁))
  obtain ⟨s₂, hr₂, h₂, hp₂, hf₂⟩ := (h₁.run hg₀ hcol.run h₁.depasse).versBoucle_collecte hg₀ rfl
  exact ⟨s₂, (hr₁.trans hcol.run).trans hr₂, h₂, hp₂, hf₂⟩

theorem Accord.apresEnvoi (hg₀ : Lancement g₀) (h : Accord g₀ s) {b : Boucle} (hp : s.serveur.point = .envoi b i) :
    ∃ s', Run g₀.nbJoueur s s' ∧ Accord g₀ s' ∧ s'.serveur.point = b.suite := by
  obtain ⟨s₁, k, hr₁, h₁, hp₁, hk₁, -⟩ := h.sert hg₀ hp
  have hstep := Etape.serveurInterne (n := g₀.nbJoueur) (h₁.finEnvoi hp₁ hk₁)
  exact ⟨_, hr₁.trans hstep.run, h₁.run hg₀ hstep.run h₁.depasse, rfl⟩

theorem Accord.apresAccuse (hg₀ : Lancement g₀) (h : Accord g₀ s) {b : Boucle} (hp : s.serveur.point = .accuse b i) :
    ∃ s', Run g₀.nbJoueur s s' ∧ Accord g₀ s' ∧ s'.serveur.point = .envoi b (i + 1) := by
  have hreg := h.serveur
  simp only [Regulier, hp] at hreg
  obtain ⟨s₁, q, s₂, hr, he, hs₂⟩ := h.prend hg₀ hreg.2
    (by simp only [Serveur.Poste.moment, hp, passage_pendant, b.pendant_sens]) fun q => .accuse q hp
  exact ⟨s₂, hr.trans he.run, h.run hg₀ (hr.trans he.run) (by rw [hs₂]; exact h.depasse), by rw [hs₂]⟩

theorem Accord.apresBateau (hg₀ : Lancement g₀) (h : Accord g₀ s) {j n : Int} {envois : List (Int × List Char)}
    {q : Requete} (hp : s.serveur.point = .bateau j n envois q) :
    ∃ s' j' n' envois', Run g₀.nbJoueur s s' ∧ Accord g₀ s' ∧ s'.serveur.point = .collecte j' n' envois' := by
  have hreg := h.serveur
  simp only [Regulier, hp] at hreg
  have hj := hreg.1.joueur hreg.2.1
  obtain ⟨c, -, hs⟩ := h.bateau hg₀ (i := j.toNat) hp (by omega)
  have hplacer : Etape g₀.nbJoueur s _ _ := .serveurEnvoie hs
  exact ⟨_, _, _, _, hplacer.run, h.run hg₀ hplacer.run h.depasse, rfl⟩

theorem Accord.versBoucle_envoi (hg₀ : Lancement g₀) (h : Accord g₀ s) {b : Boucle}
    (hp : s.serveur.point = .envoi b i) : ∃ s', Run g₀.nbJoueur s s' ∧ Accord g₀ s' ∧ s'.serveur.point = .boucle := by
  obtain ⟨s₁, hr₁, h₁, hp₁⟩ := h.apresEnvoi hg₀ hp
  cases b with
  | infos =>
    obtain ⟨s₂, hr₂, h₂, hp₂, -⟩ := h₁.versBoucle_demande hg₀ hp₁
    exact ⟨s₂, hr₁.trans hr₂, h₂, hp₂⟩
  | plateau t =>
    obtain ⟨s₂, hr₂, h₂, hp₂⟩ := h₁.apresEnvoi hg₀ hp₁
    obtain ⟨s₃, hr₃, h₃, hp₃⟩ := h₂.versBoucle_tir hg₀ hp₂
    exact ⟨s₃, (hr₁.trans hr₂).trans hr₃, h₃, hp₃⟩
  | go =>
    obtain ⟨s₂, hr₂, h₂, hp₂⟩ := h₁.versBoucle_tir hg₀ hp₁
    exact ⟨s₂, hr₁.trans hr₂, h₂, hp₂⟩
  | etat f => exact ⟨s₁, hr₁, h₁, hp₁⟩

theorem Accord.versBoucle (hg₀ : Lancement g₀) (h : Accord g₀ s) :
    ∃ s', Run g₀.nbJoueur s s' ∧ Accord g₀ s' ∧ (s'.serveur.point = .boucle ∨ s'.serveur.point = .fini) := by
  cases hp : s.serveur.point with
  | envoi b i =>
    obtain ⟨s', hr, h', hp'⟩ := h.versBoucle_envoi hg₀ hp
    exact ⟨s', hr, h', .inl hp'⟩
  | accuse b i =>
    obtain ⟨s₁, hr₁, h₁, hp₁⟩ := h.apresAccuse hg₀ hp
    obtain ⟨s', hr, h', hp'⟩ := h₁.versBoucle_envoi hg₀ hp₁
    exact ⟨s', hr₁.trans hr, h', .inl hp'⟩
  | demande i =>
    obtain ⟨s', hr, h', hp', -⟩ := h.versBoucle_demande hg₀ hp
    exact ⟨s', hr, h', .inl hp'⟩
  | collecte j n envois =>
    obtain ⟨s', hr, h', hp', -⟩ := h.versBoucle_collecte hg₀ hp
    exact ⟨s', hr, h', .inl hp'⟩
  | bateau j n envois q =>
    obtain ⟨s₁, j', n', envois', hr₁, h₁, hp₁⟩ := h.apresBateau hg₀ hp
    obtain ⟨s', hr, h', hp', -⟩ := h₁.versBoucle_collecte hg₀ hp₁
    exact ⟨s', hr₁.trans hr, h', .inl hp'⟩
  | touche =>
    have htouche : Etape g₀.nbJoueur s _ _ := .serveurInterne (.touche hp)
    exact ⟨_, htouche.run, h.run hg₀ htouche.run h.depasse, .inl rfl⟩
  | boucle => exact ⟨s, .refl, h, .inl hp⟩
  | tir i =>
    obtain ⟨s', hr, h', hp'⟩ := h.versBoucle_tir hg₀ hp
    exact ⟨s', hr, h', .inl hp'⟩
  | tirRecu i q =>
    obtain ⟨g, hs⟩ := h.tirRecu hg₀ hp
    have hjoue : Etape g₀.nbJoueur s _ _ := .serveurEnvoie hs
    obtain ⟨s', hr, h', hp'⟩ := (h.run hg₀ hjoue.run h.depasse).versBoucle_tir hg₀ rfl
    exact ⟨s', hjoue.run.trans hr, h', .inl hp'⟩
  | fini => exact ⟨s, .refl, h, .inr hp⟩

theorem Accord.versManche_envoi (hg₀ : Lancement g₀) (h : Accord g₀ s) (hp : s.serveur.point = .envoi .infos i) :
    ∃ s', Run g₀.nbJoueur s s' ∧ Accord g₀ s' ∧ s'.serveur.point = .boucle ∧ s'.serveur.finEnvoyee = false := by
  obtain ⟨s₁, hr₁, h₁, hp₁⟩ := h.apresEnvoi hg₀ hp
  obtain ⟨s', hr, h', hp', hf'⟩ := h₁.versBoucle_demande hg₀ hp₁
  exact ⟨s', hr₁.trans hr, h', hp', hf'⟩

theorem Accord.versManche (hg₀ : Lancement g₀) (h : Accord g₀ s) (hl : ¬ s.serveur.Lance) :
    ∃ s', Run g₀.nbJoueur s s' ∧ Accord g₀ s' ∧ s'.serveur.point = .boucle ∧ s'.serveur.finEnvoyee = false := by
  cases hp : s.serveur.point with
  | envoi b i =>
    cases b with
    | infos => exact h.versManche_envoi hg₀ hp
    | _ => simp [Serveur.Poste.Lance, hp] at hl
  | accuse b i =>
    cases b with
    | infos =>
      obtain ⟨s₁, hr₁, h₁, hp₁⟩ := h.apresAccuse hg₀ hp
      obtain ⟨s', hr, h', hp', hf'⟩ := h₁.versManche_envoi hg₀ hp₁
      exact ⟨s', hr₁.trans hr, h', hp', hf'⟩
    | _ => simp [Serveur.Poste.Lance, hp] at hl
  | demande i => exact h.versBoucle_demande hg₀ hp
  | collecte j n envois => exact h.versBoucle_collecte hg₀ hp
  | bateau j n envois q =>
    obtain ⟨s₁, j', n', envois', hr₁, h₁, hp₁⟩ := h.apresBateau hg₀ hp
    obtain ⟨s', hr, h', hp', hf'⟩ := h₁.versBoucle_collecte hg₀ hp₁
    exact ⟨s', hr₁.trans hr, h', hp', hf'⟩
  | _ => simp [Serveur.Poste.Lance, hp] at hl

section

variable {p p' : Serveur.Poste} {cl : Nat → Client.Poste} {q : Requete}

theorem Pareil.accord (h : Pareil g₀.nbJoueur (Repos s.serveur s.clients) s) (ha : Accord g₀ s) :
    Accord g₀ (Repos s.serveur s.clients) := by
  refine ⟨ha.depasse, ha.serveur, fun i hi => ⟨?_, (ha.joueurs i hi).loyal⟩⟩
  have hc := h.versClient i hi
  have hs := congrFun h.versServeur i
  have hsync := (ha.joueurs i hi).sync
  rw [← hc, ← hs] at hsync
  exact hsync

theorem Repos.moment (ha : Accord g₀ (Repos p cl)) (hi : (i : Int) < g₀.nbJoueur) : p.moment i = (cl i).moment := by
  have hsync : (contrat g₀ p.verdicts i (cl i)).Sync (p.moment i) (cl i).moment [] [] := (ha.joueurs i hi).sync
  exact hsync.vide

def Client.Poste.Vise (c : Client.Poste) : Prop :=
  c.game.etat = .enJeu ∧ c.point = .viser 0 0 ∨ c.game.etat ≠ .enJeu ∧ c.point = .mort

theorem Client.repond_go_vise (hist : List Serveur.GameT) :
    Client.Repond g₀ hist requeteGo (fun c => c.point = .go) Client.Poste.Vise := by
  intro i c _ hp
  obtain ⟨r, hr⟩ := Client.Lire.existe requeteGo
  by_cases he : c.game.etat = .enJeu
  · exact ⟨_, .go hp he hr hr.id, fun _ => ⟨_, _, .accuseGo rfl he, .inl ⟨he, rfl⟩⟩⟩
  · exact ⟨_, .goMort hp he, fun _ => ⟨_, _, .accuseGoMort rfl he, .inr ⟨he, rfl⟩⟩⟩

theorem Repos.mort (hg₀ : Lancement g₀) (ha : Accord g₀ (Repos p cl)) (hi : (i : Int) < g₀.nbJoueur)
    (hp : p.point = .tir i) (hc : (cl i).point = .mort) :
    ∃ c, Run g₀.nbJoueur (Repos p cl) (Repos { p with point := .tir (i + 1) } (Function.update cl i c)) := by
  have hr : Serveur.Regulier g₀ cl p := ha.serveur
  simp only [Regulier, hp] at hr
  let c₁ : Client.Poste := { cl i with point := .attenteTir }
  let c₂ : Client.Poste := { c₁ with point := .etat }
  let p₁ : Serveur.Poste := { p with point := .tirRecu i requeteMort }
  have hmort : Client.Pas (cl i) (.envoie requeteMort) c₁ := .mort hc
  have hr₁ : Run g₀.nbJoueur (Repos p cl) (Repos p₁ (Function.update cl i c₁)) :=
    Repos.reponse hi hmort (.tir _ hp (hr.1.regles.nbJoueur ▸ hi))
  let pile : PileTir := ⟨pileBateau.reponse, pileBateau.requete, pileBateau.buff, (0, 0)⟩
  have hn : p.game.taillePlateau ≤ 50 := by
    rw [hr.1.regles.taillePlateau]
    exact hg₀.registres.plateau
  have hs : Serveur.Pas p₁ (.envoie i accuseOk) { p with point := .tir (i + 1) } :=
    .tirRecu pile rfl requeteMort_valide (recevoirTir_mort hn hr.1.flottille.borne pile)
  have hetat : Client.Pas c₁ (.prend accuseOk) c₂ := .attenteTir rfl
  have hr₂ : Run g₀.nbJoueur (Repos p₁ (Function.update cl i c₁)) (Repos _ (Function.update _ i c₂)) :=
    Repos.demande hs hi (by rw [Function.update_self]; exact hetat)
  rw [Function.update_idem] at hr₂
  exact ⟨c₂, hr₁.trans hr₂⟩

theorem Repos.salve (hg₀ : Lancement g₀) {F : Fin 100 → Set (Int × Int)} {S : Set (Int × Int)} {tir : Nat → Int × Int}
    (ha : Accord g₀ (Repos p cl)) (hp : p.point = .tir 0)
    (hd : ∀ i : Nat, (i : Int) < g₀.nbJoueur → Dans g₀.taillePlateau (tir i))
    (hc : ∀ i : Nat, (i : Int) < g₀.nbJoueur → (cl i).Vise) (hpeint : Peint g₀ p.game F S) :
    ∃ p' cl', Run g₀.nbJoueur (Repos p cl) (Repos p' cl') ∧ Accord g₀ (Repos p' cl') ∧
      p'.point = .tir g₀.nbJoueur.toNat ∧ p'.verdicts = p.verdicts ∧
      Peint g₀ p'.game F (S ∪ {q | ∃ k < g₀.nbJoueur.toNat, (cl k).point = .viser 0 0 ∧ tir k = q}) := by
  let S' (i : Nat) : Set (Int × Int) := S ∪ {q | ∃ k < i, (cl k).point = .viser 0 0 ∧ tir k = q}
  let J (i : Nat) (p' : Serveur.Poste) : Prop := p'.point = .tir i ∧ p'.depasse = false ∧ p'.verdicts = p.verdicts ∧
    Peint g₀ p'.game F (S' i)
  have hS₀ : S' 0 = S := by
    ext q
    simp [S']
  have hvise (i : Nat) (hi : (cl i).point = .viser 0 0) : S' (i + 1) = insert (tir i) (S' i) := by
    ext q
    simp only [S', Set.mem_union, Set.mem_insert_iff, Set.mem_ofPred_eq, Nat.lt_succ_iff_lt_or_eq]
    constructor
    · rintro (hq | ⟨k, hk | rfl, hk'⟩)
      · exact .inr (.inl hq)
      · exact .inr (.inr ⟨k, hk, hk'⟩)
      · exact .inl hk'.2.symm
    · rintro (rfl | hq | ⟨k, hk, hk'⟩)
      · exact .inr ⟨i, .inr rfl, hi, rfl⟩
      · exact .inl hq
      · exact .inr ⟨k, .inl hk, hk'⟩
  have hmort (i : Nat) (hi : (cl i).point ≠ .viser 0 0) : S' (i + 1) = S' i := by
    ext q
    simp only [S', Set.mem_union, Set.mem_ofPred_eq, Nat.lt_succ_iff_lt_or_eq]
    refine or_congr_right (exists_congr fun k => and_congr_left fun hk => ?_)
    refine or_iff_left ?_
    rintro rfl
    exact hi hk.1
  have htour (i : Nat) (p' : Serveur.Poste) (cl' : Nat → Client.Poste) (ha' : Accord g₀ (Repos p' cl'))
      (hi : (i : Int) < g₀.nbJoueur) (hJ : J i p') (hPi : cl' i = cl i) :
      ∃ p'' c, J (i + 1) p'' ∧ True ∧ Run g₀.nbJoueur (Repos p' cl') (Repos p'' (Function.update cl' i c)) := by
    obtain ⟨hp', hd', hv, hpeint'⟩ := hJ
    have hr : Serveur.Regulier g₀ cl' p' := ha'.serveur
    simp only [Regulier, hp'] at hr
    rcases hc i hi with ⟨-, hci⟩ | ⟨-, hci⟩
    · obtain ⟨c, hrun⟩ := Repos.tir hg₀ (hd i hi) ha' hi hp' (hPi ▸ hci)
      refine ⟨{ p' with point := .tir (i + 1), game := p'.game.apresCoup (some (tir i)) }, c, ⟨rfl, hd', hv, ?_⟩,
        trivial, hrun⟩
      rw [hvise i hci]
      exact hpeint'.coup hg₀ hr.1.flottille.borne (hd i hi)
    · obtain ⟨c, hrun⟩ := Repos.mort hg₀ ha' hi hp' (hPi ▸ hci)
      refine ⟨{ p' with point := .tir (i + 1) }, c, ⟨rfl, hd', hv, ?_⟩, trivial, hrun⟩
      rw [hmort i (by rw [hci]; simp)]
      exact hpeint'
  have h1 := hg₀.registres.joueurs
  obtain ⟨p₁, cl₁, hr₁, ha₁, ⟨hp₁, -, hv₁, hpeint₁⟩, -⟩ := Repos.tour (P := fun i c => c = cl i) (Q := fun _ _ => True)
    (fun _ _ hJ => hJ.2.1) htour hg₀ ha ⟨hp, ha.depasse, rfl, hS₀ ▸ hpeint⟩ (fun _ _ => rfl) (k := g₀.nbJoueur.toNat)
    (by omega)
  exact ⟨p₁, cl₁, hr₁, ha₁, hp₁, hv₁, hpeint₁⟩

theorem Repos.manche (hg₀ : Lancement g₀) {F : Fin 100 → Set (Int × Int)} {S : Set (Int × Int)} {tir : Nat → Int × Int}
    (ha : Accord g₀ (Repos p cl)) (hp : p.point = .boucle) (hf : p.finEnvoyee = false)
    (hd : ∀ i : Nat, (i : Int) < g₀.nbJoueur → Dans g₀.taillePlateau (tir i))
    (hc : ∀ i : Nat, (i : Int) < g₀.nbJoueur → (cl i).point = .plateau) (hpeint : Peint g₀ p.game F S) :
    ∃ p' cl', Run g₀.nbJoueur (Repos p cl) (Repos p' cl') ∧ Accord g₀ (Repos p' cl') ∧
      p'.point = .tir g₀.nbJoueur.toNat ∧
      Peint g₀ p'.game F
        (S ∪ {q | ∃ k : Nat, (k : Int) < g₀.nbJoueur ∧ Statut p.verdicts k p.manche .enJeu ∧ tir k = q}) := by
  obtain ⟨t, hs⟩ := ha.debutManche hg₀ hp hf
  let p₁ : Serveur.Poste := { p with point := .envoi (.plateau t) 0, depasse := p.depasse || p.finEnvoyee }
  have hmanche : Run g₀.nbJoueur (Repos p cl) (Repos p₁ cl) := Repos.interne hs
  have hdep : p₁.depasse = false := by
    have hd : p.depasse = false := ha.depasse
    simp only [p₁, hd, hf, Bool.or_self]
  obtain ⟨p₂, cl₂, hr₂, ha₂, hp₂, hm₂, hc₂⟩ := Repos.boucle hg₀ (ha.run hg₀ hmanche hdep) (b := .plateau t) rfl
    (fun i q hq => Option.some.inj hq ▸ Client.repond_plateau _ t) hc
  obtain ⟨p₃, cl₃, hr₃, ha₃, hp₃, hm₃, hc₃⟩ := Repos.boucle hg₀ ha₂ (b := .go) hp₂
    (fun i q hq => Option.some.inj hq ▸ Client.repond_go_vise _) hc₂
  have hgame : p₃.game = p.game := hm₃.game.trans hm₂.game
  have hhist : p₃.verdicts = p.verdicts := hm₃.verdicts.trans hm₂.verdicts
  have hreg₃ : Serveur.Regulier g₀ cl₃ p₃ := ha₃.serveur
  have hregp : Serveur.Regulier g₀ cl p := ha.serveur
  simp only [Regulier, hp] at hregp
  simp only [Regulier, hp₃, Boucle.suite] at hreg₃
  have hman : p₃.manche = p.manche := by
    have h1 := hreg₃.1.verdicts
    have h2 := hregp.verdicts
    rw [hhist] at h1
    omega
  have hvise (k : Nat) (hk : (k : Int) < g₀.nbJoueur) :
      (cl₃ k).point = .viser 0 0 ↔ Statut p.verdicts k p.manche .enJeu := by
    have hl : Client.Loyal g₀ p₃.verdicts k (cl₃ k) := (ha₃.joueurs k hk).loyal
    have hmom := Repos.moment ha₃ hk
    simp only [Serveur.Poste.moment, hp₃, Boucle.suite, passage_zero] at hmom
    rcases hc₃ k hk with ⟨he, hpt⟩ | ⟨hne, hpt⟩
    · simp only [Client.Poste.moment, hpt, Moment.tir.injEq] at hmom
      simp only [Client.Loyal, hpt] at hl
      have hst := hl.1.statut
      rw [← hmom, hman, hhist, he] at hst
      exact iff_of_true hpt hst
    · simp only [Client.Poste.moment, hpt, Moment.tir.injEq] at hmom
      simp only [Client.Loyal, hpt] at hl
      have hst := hl.1.statut
      rw [← hmom, hman, hhist] at hst
      exact iff_of_false (by rw [hpt]; simp) fun he => hne (hst.unique he)
  obtain ⟨p₄, cl₄, hr₄, ha₄, hp₄, -, hpeint₄⟩ := Repos.salve hg₀ ha₃ hp₃ hd hc₃ (hgame ▸ hpeint)
  have htirs : {q | ∃ k < g₀.nbJoueur.toNat, (cl₃ k).point = .viser 0 0 ∧ tir k = q} =
      {q | ∃ k : Nat, (k : Int) < g₀.nbJoueur ∧ Statut p.verdicts k p.manche .enJeu ∧ tir k = q} := by
    ext q
    refine exists_congr fun k => ?_
    constructor
    · rintro ⟨hk, hv, hq⟩
      have hk' : (k : Int) < g₀.nbJoueur := by omega
      exact ⟨hk', (hvise k hk').mp hv, hq⟩
    · rintro ⟨hk, hv, hq⟩
      exact ⟨by omega, (hvise k hk).mpr hv, hq⟩
  exact ⟨p₄, cl₄, ((hmanche.trans hr₂).trans hr₃).trans hr₄, ha₄, hp₄, htirs ▸ hpeint₄⟩

end

end Bnbr
