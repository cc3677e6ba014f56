import Bnbr.Arrivee

namespace Bnbr

open CArray CString Decimal Scanf Sessions Serveur Runs

namespace Accueil

theorem sync_identification {k : Moment} {a b : List Requete} (h : contrat.Sync .identification k a b) :
    k = .salut ∧ a = [accuseOk] ∧ b = [] ∨ k = .identification ∧ a = [] ∧ b = [] ∨
      k = .confirmation ∧ a = [] ∧ ∃ pseudo, Saisi pseudo ∧ b = [Client.requeteIdentification pseudo] := by
  cases h with
  | avance h =>
    cases h with
    | nil => exact .inr (.inl ⟨rfl, rfl, rfl⟩)
    | cons hm h =>
      cases k with
      | salut =>
        obtain rfl : _ = accuseOk := hm.convient
        have h' : contrat.Suite .aller .identification .identification _ := h
        rw [(h'.arret (by decide)).2]
        exact .inl ⟨rfl, rfl, rfl⟩
      | identification => exact absurd hm.sens (by decide)
      | confirmation =>
        have h' : contrat.Suite .aller .admis .identification _ := h
        cases h' with
        | cons hm' _ => exact hm'.convient.elim
      | admis => exact hm.convient.elim
  | retard h =>
    cases h with
    | nil => exact .inr (.inl ⟨rfl, rfl, rfl⟩)
    | cons hm h =>
      obtain ⟨pseudo, hs, rfl⟩ : ∃ pseudo, Saisi pseudo ∧ _ = Client.requeteIdentification pseudo := hm.convient
      have h' : contrat.Suite .retour .confirmation k _ := h
      obtain ⟨rfl, rfl⟩ := h'.arret (by decide)
      exact .inr (.inr ⟨rfl, rfl, pseudo, hs, rfl⟩)

end Accueil

namespace Serveur.Salon

theorem nouveau_existe (s : Salon) : ∃ fd, s.Nouveau fd := by
  obtain ⟨fd, hfd⟩ := Infinite.exists_notMem_finset (s.acceptees.map fun c => c.socket.fd).toFinset
  refine ⟨fd, fun c hc _ he => hfd ?_⟩
  rw [List.mem_toFinset]
  exact List.mem_map.mpr ⟨c, hc, he⟩

theorem reponse_saisie {pseudo : List Char} (h : Saisi pseudo) :
    ReponseEntiere (Lecture.entiere _ h.valide) ⟨0, Buf.fill 100 nul, Buf.fill 1000 nul⟩ := by
  have hnul : nul ∉ (Client.requeteIdentification pseudo).texte := h.valide.texte_nul
  have hsuit := unserialReq_suit hnul ⟨0, Buf.fill 100 nul, Buf.fill 1000 nul⟩
  rw [show unserialReq _ _ = Serveur.livrer _ h.valide _ from unserialReq_texte h.valide (by omega) _] at hsuit
  have hid : (champs (Client.requeteIdentification pseudo).texte).id = some 1 := by
    rw [champs, champsLus, Requete.texte, sscanf_int_print _ _ _ (by simp)]
    exact champsSuite_id _ _
  refine ⟨_, 1, text_append _ hnul, hid, fun _ => ?_⟩
  rw [← hsuit.infos]
  by_cases hl : lu 999 (Client.requeteIdentification pseudo).infos = []
  · exact ⟨[], by rw [livrer_infos_vide _ _ _ hl]; rfl, Nat.zero_le _⟩
  · refine ⟨_, livrer_infos _ h.valide _ hl, ?_⟩
    have h1 : (lu 999 pseudo).length ≤ (pseudo.dropWhile isspace).length :=
      (List.takeWhile_prefix _).length_le.trans (List.length_take_le' _ _)
    have h2 := (List.dropWhile_sublist (p := isspace) (l := pseudo)).length_le
    have h3 := h.longueur
    show (lu 999 pseudo).length ≤ 99
    omega

end Serveur.Salon

namespace Arrivee

variable {s s' : Arrivee} {c : Connexion} {es : List Action}

theorem Accord.trace (h : Accord s) (ht : Trace Etape s es s') : Accord s' :=
  ht.invariant (fun _ s => Accord s) h fun _ _ _ _ _ ih hs => ih.etape hs

theorem Accord.presente (h : Accord s) (hp : s.salon.point = .identifier c) :
    ∃ es s' pseudo, Trace Etape s es s' ∧ s'.salon = s.salon ∧ Saisi pseudo ∧
      s'.versServeur c.num = [Client.requeteIdentification pseudo] := by
  have ha : Saisi ['a'] := by constructor <;> decide
  have hpl := h.suivi.point
  rw [hp] at hpl
  have hsync := (h.joueurs c.num).sync
  rw [Salon.moment_de hpl rfl] at hsync
  have hreste := (h.joueurs c.num).reste
  rcases Accueil.sync_identification hsync with ⟨hk, hvc, hvs⟩ | ⟨hk, -, hvs⟩ | ⟨-, -, pseudo, hpseudo, hvs⟩
  · have hcl : s.clients c.num = .salut := by
      cases hcl : s.clients c.num <;> simp_all [Client.Arrivant.moment]
    obtain ⟨r, hlire⟩ := Client.Lire.existe accuseOk
    have h₁ : Etape s (.client c.num (.prend accuseOk)) _ := .clientPrend (by rw [hcl]; exact .salut hlire hlire.id) hvc
    have h₂ := (Trace.single h₁).snoc (.clientEnvoie (i := c.num)
      (by simp only [Function.update_self]; exact .saisie ha))
    exact ⟨_, _, _, h₂, rfl, ha, by simp only [Function.update_self, hvs]; rfl⟩
  · have hcl : s.clients c.num = .saisie := by
      cases hcl : s.clients c.num <;> simp_all [Client.Arrivant.moment]
    have h₁ : Etape s (.client c.num (.envoie (Client.requeteIdentification ['a']))) _ :=
      .clientEnvoie (by rw [hcl]; exact .saisie ha)
    exact ⟨_, _, _, .single h₁, rfl, ha, by simp only [Function.update_self, hvs]; rfl⟩
  · exact ⟨_, _, pseudo, .nil, rfl, hpseudo, hvs⟩

theorem Accord.lue (h : Accord s) (hp : s.salon.point = .identifier c) :
    ∃ es s' r octets, Trace Etape s es s' ∧
      s'.salon = { s.salon with point := .decider c r, lues := s.salon.lues ++ [(c, octets)] } := by
  obtain ⟨es, s₁, pseudo, h₁, hs₁, hpseudo, hvs⟩ := h.presente hp
  have hp₁ : s₁.salon.point = .identifier c := hs₁ ▸ hp
  have hpt := (h.trace h₁).tenu.point
  rw [hp₁] at hpt
  have hmode := (h.trace h₁).suivi.modes c hpt.2.acceptee
  have hrecu := Serveur.recevoir_livrer hpseudo.valide (Buf.fill maxBuffer nul)
    ⟨0, Buf.fill 100 nul, Buf.fill 1000 nul⟩
  have hlit := Etape.lit hp₁ hvs rfl (Salon.reponse_saisie hpseudo) (.lit hp₁ (.inl hmode) hrecu)
  exact ⟨_, _, _, _, h₁.snoc hlit, by rw [← hs₁]⟩

end Arrivee

namespace Serveur.Salon

-- a player counted but not yet told so is still to come
def manquants (s : Salon) : Nat :=
  match s.point with
  | .confirmer _ => (3 - s.memoire.nbJoueur).toNat
  | _ => (2 - s.memoire.nbJoueur).toNat

def rang (s : Salon) : Nat :=
  match s.point with
  | .test => if s.memoire.nbJoueur < 2 then 12 else 0
  | .accepter => 11
  | .accepte _ => 10
  | .saluer _ => 9
  | .identifier _ => 8
  | .decider _ _ => 7
  | .pseudo _ _ => 6
  | .socket _ => 5
  | .numero _ => 4
  | .compter _ => 3
  | .compte _ _ => 2
  | .confirmer _ => 1
  | _ => 0

def mesure (s : Salon) : Nat := 14 * s.manquants + s.rang

-- two players are registered and the loop is between two connections, or it is over
def Pret (s : Salon) : Prop :=
  match s.point with
  | .test => 2 ≤ s.memoire.nbJoueur
  | .joindre => True
  | .accepter => 2 ≤ s.memoire.nbJoueur
  | .clore => True
  | .lancement => True
  | _ => False

end Serveur.Salon

namespace Arrivee

variable {s s' : Arrivee} {c : Connexion} {es : List Action}

theorem Accord.progresse (h : Accord s) (ha : s.salon.point ≠ .arret) (hn : ¬ s.salon.Pret) :
    ∃ es s', Trace Etape s es s' ∧ s'.salon.point ≠ .arret ∧ s'.salon.mesure < s.salon.mesure := by
  have hpt := h.tenu.point
  have hpl := h.suivi.point
  have hreg := h.tenu.registre
  have hmax := hreg.max_ge
  -- the steps of the server that nothing can prevent
  have hpas {t : Salon} {e : Salon.Fait} (hi : Interne e) (he : e.Attendu s.salon) (hs : Salon.Pas s.salon e t)
      (ht : t.point ≠ .arret) (hlt : t.mesure < s.salon.mesure) :
      ∃ es s', Trace Etape s es s' ∧ s'.salon.point ≠ .arret ∧ s'.salon.mesure < s.salon.mesure :=
    ⟨_, _, .single (.salon hi he hs), ht, hlt⟩
  cases hp : s.salon.point with
  | test =>
    simp only [Salon.Pret, hp] at hn
    refine hpas (e := .avance) trivial trivial (.place hp (by omega)) (by simp) ?_
    simp only [Salon.mesure, Salon.manquants, Salon.rang, hp]
    split <;> omega
  | joindre => exact absurd trivial (by simpa only [Salon.Pret, hp] using hn)
  | accepter =>
    obtain ⟨fd, hfd⟩ := s.salon.nouveau_existe
    refine hpas (e := .accepte (some fd)) trivial ⟨fd, rfl, hfd⟩ (.accepte (some fd) hp rfl) (by simp) ?_
    simp only [Salon.mesure, Salon.manquants, Salon.rang, hp]
    omega
  | accepte c =>
    by_cases he : s.salon.memoire.etat = 1
    · refine hpas (e := .avance) trivial trivial (.commencee hp he) (by simp) ?_
      simp only [Salon.mesure, Salon.manquants, Salon.rang, hp]
      omega
    · refine hpas (e := .avance) trivial trivial (.connecte hp he) (by simp) ?_
      simp only [Salon.mesure, Salon.manquants, Salon.rang, hp]
      omega
  | saluer c =>
    have he : s.salon.point.ecriture = some (c, accuseOk, .identifier c) := by rw [hp]; rfl
    refine ⟨_, _, .single (.ecrit he (.ecrit he)), (by simp), ?_⟩
    simp only [Salon.mesure, Salon.manquants, Salon.rang, hp]
    omega
  | identifier c =>
    obtain ⟨es, s', r, octets, ht, hs'⟩ := h.lue hp
    refine ⟨es, s', ht, by rw [hs']; simp, ?_⟩
    simp only [hs', Salon.mesure, Salon.manquants, Salon.rang, hp]
    omega
  | decider c r =>
    rw [hp] at hpl
    refine hpas (e := .avance) trivial trivial (.identifie hp hpl.2) (by simp) ?_
    simp only [Salon.mesure, Salon.manquants, Salon.rang, hp]
    omega
  | pseudo c r =>
    rw [hp] at hpt
    obtain ⟨k, hk⟩ := hpt.1.joueur h.tenu
    obtain ⟨m, hm⟩ := hpt.2.copie hk
    refine hpas (e := .avance) trivial trivial (.pseudo hp hm) (by simp) ?_
    obtain ⟨-, -, -, -, rfl⟩ := MemoireT.joueur_eq_some hm
    simp only [Salon.mesure, Salon.manquants, Salon.rang, hp, MemoireT.avecJoueur]
    omega
  | socket c =>
    rw [hp] at hpt
    obtain ⟨k, hk⟩ := Salon.Inscrivable.joueur hpt h.tenu
    refine hpas (e := .avance) trivial trivial (.socket hp (MemoireT.joueur_spec hk _)) (by simp) ?_
    simp only [Salon.mesure, Salon.manquants, Salon.rang, hp, MemoireT.avecJoueur]
    omega
  | numero c =>
    rw [hp] at hpt
    obtain ⟨k, hk⟩ := hpt.1.joueur h.tenu
    refine hpas (e := .avance) trivial trivial (.numero hp (MemoireT.joueur_spec hk _)) (by simp) ?_
    simp only [Salon.mesure, Salon.manquants, Salon.rang, hp, MemoireT.avecJoueur]
    omega
  | compter c =>
    refine hpas (e := .avance) trivial trivial (.compter hp) (by simp) ?_
    simp only [Salon.mesure, Salon.manquants, Salon.rang, hp]
    omega
  | compte c n =>
    rw [hp] at hpt
    have hcompte := hpt.2.1
    refine hpas (e := .avance) trivial trivial (.compte hp) (by simp) ?_
    simp only [Salon.mesure, Salon.manquants, Salon.rang, hp]
    omega
  | confirmer c =>
    have he : s.salon.point.ecriture = some (c, accuseOk, .test) := by rw [hp]; rfl
    refine ⟨_, _, .single (.ecrit he (.ecrit he)), (by simp), ?_⟩
    simp only [Salon.mesure, Salon.manquants, Salon.rang, hp]
    split <;> omega
  | refuser c =>
    rw [hp] at hpl
    exact hpl.elim
  | fermer c =>
    rw [hp] at hpl
    exact hpl.elim
  | clore => exact absurd trivial (by simpa only [Salon.Pret, hp] using hn)
  | lancement => exact absurd trivial (by simpa only [Salon.Pret, hp] using hn)
  | arret => exact absurd hp ha
  | indefini =>
    rw [hp] at hpt
    exact hpt.elim

theorem Accord.remplit (h : Accord s) (ha : s.salon.point ≠ .arret) :
    ∃ es s', Trace Etape s es s' ∧ Accord s' ∧ s'.salon.Pret := by
  obtain ⟨es, s', ht, ⟨h', -⟩, hp⟩ := Trace.reach (I := fun s => Accord s ∧ s.salon.point ≠ .arret)
    (G := fun s => s.salon.Pret) (fun s => s.salon.mesure) (fun s hs hn => by
      obtain ⟨es, t, ht, ha', hlt⟩ := hs.1.progresse hs.2 hn
      exact ⟨es, t, ht, ⟨hs.1.trace ht, ha'⟩, hlt⟩) ⟨h, ha⟩
  exact ⟨es, s', ht, h', hp⟩

theorem Accord.deux (h : Accord s) (hp : s.salon.Pret) : 2 ≤ s.salon.memoire.nbJoueur := by
  have hpt := h.tenu.point
  have hmax := h.tenu.registre.max_ge
  cases hpoint : s.salon.point with
  | test => simpa only [Salon.Pret, hpoint] using hp
  | accepter => simpa only [Salon.Pret, hpoint] using hp
  | joindre =>
    rw [hpoint] at hpt
    rw [show s.salon.memoire.nbJoueur = _ from hpt]
    exact hmax
  | clore =>
    rw [hpoint] at hpt
    exact h.tenu.eveil.lance hpt
  | lancement =>
    rw [hpoint] at hpt
    exact h.tenu.eveil.lance hpt
  | _ => simp only [Salon.Pret, hpoint] at hp

def rangVeille : Salon.Veille → Nat
  | .boucle => 4
  | .entree => 3
  | .valide => 2
  | .leve => 1
  | .fini => 0

theorem Accord.pasVeille (h : Accord s) (hp : s.salon.Pret) (hv : s.salon.veille ≠ .fini) :
    ∃ a s', Etape s a s' ∧ s'.salon.Pret ∧ rangVeille s'.salon.veille < rangVeille s.salon.veille := by
  have hdeux := h.deux hp
  cases hpos : s.salon.veille with
  | boucle =>
    exact ⟨_, _, .salon (e := .touche .entree) trivial trivial (.touche .entree hpos), hp, by simp [rangVeille]⟩
  | entree => exact ⟨_, _, .salon (e := .veille) trivial trivial (.suffisant hpos (by omega)), hp, by simp [rangVeille]⟩
  | valide => exact ⟨_, _, .salon (e := .veille) trivial trivial (.lance hpos), hp, by simp [rangVeille]⟩
  | leve => exact ⟨_, _, .salon (e := .veille) trivial trivial (.finit hpos), hp, by simp [rangVeille]⟩
  | fini => exact absurd hpos hv

theorem Accord.veille (h : Accord s) (hp : s.salon.Pret) :
    ∃ es s', Trace Etape s es s' ∧ Accord s' ∧ s'.salon.Pret ∧ s'.salon.veille = .fini := by
  obtain ⟨es, s', ht, ⟨h', hp'⟩, hv⟩ := Trace.reach (I := fun s => Accord s ∧ s.salon.Pret)
    (G := fun s => s.salon.veille = .fini) (fun s => rangVeille s.salon.veille) (fun s hs hn => by
      obtain ⟨a, t, ht, hp, hlt⟩ := hs.1.pasVeille hs.2 hn
      exact ⟨[a], t, .single ht, ⟨hs.1.etape ht, hp⟩, hlt⟩) ⟨h, hp⟩
  exact ⟨es, s', ht, h', hp', hv⟩

def rangSortie : Salon.Point → Nat
  | .test => 4
  | .accepter => 3
  | .accepte _ => 2
  | .joindre => 2
  | .clore => 1
  | _ => 0

def Sortant (s : Arrivee) : Prop :=
  s.salon.veille = .fini ∧ (s.salon.Pret ∨ ∃ c, s.salon.point = .accepte c)

theorem Accord.pasSortie (h : Accord s) (hs : s.Sortant) (hl : s.salon.point ≠ .lancement) :
    ∃ a s', Etape s a s' ∧ s'.Sortant ∧ rangSortie s'.salon.point < rangSortie s.salon.point := by
  obtain ⟨hv, hp⟩ := hs
  cases hpoint : s.salon.point with
  | test =>
    have hdeux : 2 ≤ s.salon.memoire.nbJoueur := by
      rcases hp with hp | ⟨c, hc⟩
      · exact h.deux hp
      · rw [hpoint] at hc
        cases hc
    by_cases hn : s.salon.memoire.nbJoueur = s.salon.memoire.maxJoueur
    · exact ⟨_, _, .salon (e := .avance) trivial trivial (.complet hpoint hn), ⟨hv, .inl trivial⟩, by simp [rangSortie]⟩
    · exact ⟨_, _, .salon (e := .avance) trivial trivial (.place hpoint hn), ⟨hv, .inl hdeux⟩, by simp [rangSortie]⟩
  | joindre =>
    exact ⟨_, _, .salon (e := .avance) trivial trivial (.joint hpoint hv), ⟨hv, .inl trivial⟩, by simp [rangSortie]⟩
  | accepter =>
    obtain ⟨fd, hfd⟩ := s.salon.nouveau_existe
    exact ⟨_, _, .salon (e := .accepte (some fd)) trivial ⟨fd, rfl, hfd⟩ (.accepte (some fd) hpoint rfl),
      ⟨hv, .inr ⟨_, rfl⟩⟩, by simp [rangSortie]⟩
  | accepte c =>
    have he : s.salon.memoire.etat = 1 := h.tenu.eveil.leve (.inr hv)
    exact ⟨_, _, .salon (e := .avance) trivial trivial (.commencee hpoint he), ⟨hv, .inl trivial⟩, by simp [rangSortie]⟩
  | clore =>
    exact ⟨_, _, .salon (e := .avance) trivial trivial (.clot hpoint), ⟨hv, .inl trivial⟩, by simp [rangSortie]⟩
  | lancement => exact absurd hpoint hl
  | _ => simp [Salon.Pret, hpoint] at hp

theorem Accord.sort (h : Accord s) (hs : s.Sortant) : ∃ es s', Trace Etape s es s' ∧ s'.salon.point = .lancement := by
  obtain ⟨es, s', ht, -, hl⟩ := Trace.reach (I := fun s => Accord s ∧ s.Sortant)
    (G := fun s => s.salon.point = .lancement) (fun s => rangSortie s.salon.point) (fun s hs hn => by
      obtain ⟨a, t, ht, hsort, hlt⟩ := hs.1.pasSortie hs.2 hn
      exact ⟨[a], t, .single ht, ⟨hs.1.etape ht, hsort⟩, hlt⟩) ⟨h, hs⟩
  exact ⟨es, s', ht, hl⟩

theorem Accord.lance (h : Accord s) (ha : s.salon.point ≠ .arret) :
    ∃ es s', Trace Etape s es s' ∧ s'.salon.point = .lancement := by
  obtain ⟨es₁, s₁, h₁, hac₁, hp₁⟩ := h.remplit ha
  obtain ⟨es₂, s₂, h₂, hac₂, hp₂, hv₂⟩ := hac₁.veille hp₁
  obtain ⟨es₃, s₃, h₃, hl⟩ := hac₂.sort ⟨hv₂, .inl hp₂⟩
  exact ⟨_, s₃, (h₁.append h₂).append h₃, hl⟩

theorem lancement_accessible (game : MemoireT) (hg : Salon.Reglable game) (es : List Action) (s : Arrivee)
    (h : Trace Etape (debut game) es s) (ha : s.salon.point ≠ .arret) :
    ∃ fs t, Trace Etape s fs t ∧ t.salon.point = .lancement := (Trace.accord hg h).lance ha

theorem lancement_accessible_seul : ∃ s fs t, Trace Etape (debut (initGame memoireZero)) [.salon (.touche .entree)] s ∧
    Trace Etape s fs t ∧ t.salon.point = .lancement := by
  have h : Trace Etape (debut (initGame memoireZero)) [.salon (.touche .entree)] _ :=
    .single (.salon trivial trivial (.touche .entree rfl))
  obtain ⟨fs, t, ht, hl⟩ := lancement_accessible (initGame memoireZero) (by constructor <;> decide) _ _ h nofun
  exact ⟨_, fs, t, h, ht, hl⟩

structure Ouverte (s : Arrivee) (g₀ : Serveur.GameT) (depart : Etat) : Prop where
  lancement : Lancement g₀
  debut : Debut g₀ depart
  joueurs : ∀ i : Nat, (i : Int) < g₀.nbJoueur ↔ ∃ n, s.rang i = some n
  distincts : ∀ i j n, s.rang i = some n → s.rang j = some n → i = j
  -- none of them ever reads a request it does not expect
  sansErreur : ∀ t, Run g₀.nbJoueur depart t → ∀ i : Nat, (i : Int) < g₀.nbJoueur → (t.clients i).point ≠ .erreur

theorem partie_du_salon (memoire : MemoireT) (touches : List Touche) (p : Parametrage)
    (h : menuParametrageGame memoire touches = some p) (hn : PlateauNul memoire p.game.taillePlateau)
    (ht : InInt p.game.timeout) (es : List Action) (s : Arrivee) (hr : Trace Etape (debut p.game) es s)
    (hl : s.salon.point = .lancement) (horsEnum : Int → Status) (postes : Nat → Client.Poste) :
    s.Ouverte (s.salon.memoire.game horsEnum) (s.partie horsEnum postes) := by
  have hp := menuParametrageGame_parametree h
  have haccord := Trace.accord ⟨hp.joueurs, hp.joueurs_le⟩ hr
  obtain ⟨fs, hsalon⟩ := Trace.salon hr
  have hg₀ : Lancement (s.salon.memoire.game horsEnum) := Salon.lancement_initial h hn ht hsalon hl horsEnum
  have hdebut := haccord.debut hl horsEnum postes
  refine ⟨hg₀, hdebut, haccord.rang_spec, fun i j n => haccord.rang_inj, fun t ht i hi => ?_⟩
  exact ((Atteignable.invariant hg₀ ⟨_, hdebut, ht⟩).loyal hi).sansErreur

theorem partie_du_salon_deux : ∃ p es s, menuParametrageGame memoireZero [] = some p ∧
    Trace Etape (debut p.game) es s ∧ s.salon.point = .lancement ∧
      s.Ouverte (s.salon.memoire.game fun _ => .empty) (s.partie (fun _ => .empty) fun _ => Client.Poste.depart) := by
  have hg : Salon.Reglable (initGame memoireZero) := by constructor <;> decide
  obtain ⟨es, s, h, hl⟩ := (debut_accord hg).lance nofun
  exact ⟨_, es, s, rfl, h, hl, partie_du_salon memoireZero [] ⟨0, initGame memoireZero⟩ rfl
    ⟨rfl, fun _ _ _ => rfl⟩ (by decide) es s h hl (fun _ => .empty) fun _ => Client.Poste.depart⟩

end Arrivee

end Bnbr
