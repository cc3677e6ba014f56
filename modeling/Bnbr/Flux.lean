import Bnbr.Conversation
import Bnbr.Deroulement

namespace Bnbr

open CString Sessions Serveur Runs

variable {g₀ : Serveur.GameT} {s₀ s s' t : Etat} {a : Action} {n : Int} {i : Nat} {perdues : List Requete}

-- over a stream a read may take several requests: recevoir keeps the first one, the others are lost
inductive Flux (n : Int) : Etat → Action → List Requete → Etat → Prop
  | entiere {s s' : Etat} {a : Action} (hs : Etape n s a s') : Flux n s a [] s'
  | serveurGroupe {s : Etat} {p : Serveur.Poste} {i : Nat} {q q' : Requete} {perdues reste : List Requete}
      (hs : Serveur.Pas s.serveur (.prend i q) p) (hc : s.versServeur i = q :: q' :: (perdues ++ reste))
      (hl : (octets (q :: q' :: perdues)).length ≤ maxBuffer) :
      Flux n s (.serveur (.prend i q)) (q' :: perdues)
        { s with serveur := p, versServeur := Function.update s.versServeur i reste }
  | clientGroupe {s : Etat} {c : Client.Poste} {i : Nat} {q q' : Requete} {perdues reste : List Requete}
      (hi : (i : Int) < n) (hs : Client.Pas (s.clients i) (.prend q) c)
      (hc : s.versClient i = q :: q' :: (perdues ++ reste))
      (hl : (octets (q :: q' :: perdues)).length ≤ maxBuffer) :
      Flux n s (.client i (.prend q)) (q' :: perdues)
        { s with
          clients := Function.update s.clients i c
          versClient := Function.update s.versClient i reste }

def Ecoulement (n : Int) (s : Etat) (e : Action × List Requete) (t : Etat) : Prop := Flux n s e.1 e.2 t

-- the server cannot go on without a request of player i
def Attend (i : Nat) : Serveur.Point → Prop
  | .accuse b k => k = i ∨ b = .go ∧ i < k
  | .envoi b k => b = .go ∧ i < k
  | .tir k => k ≤ i
  | .tirRecu k _ => k < i
  | _ => False

structure Bloque (n : Int) (i : Nat) (s : Etat) : Prop where
  joueur : (i : Int) < n
  nbJoueur : s.serveur.game.nbJoueur = n
  versClient : s.versClient i = []
  versServeur : s.versServeur i = []
  client : (s.clients i).point.recoit = true
  serveur : Attend i s.serveur.point

theorem Client.Pas.recoit {c c' : Client.Poste} {b : Client.Action} (h : Client.Pas c b c')
    (hc : c.point.recoit = true) : ∃ q, b = .prend q := by
  cases h with
  | _ => first | exact ⟨_, rfl⟩ | simp_all [Client.Point.recoit]

theorem Serveur.Pas.attend {p p' : Serveur.Poste} {b : Serveur.Action} (h : Serveur.Pas p b p')
    (hp : Attend i p.point) (hi : (i : Int) < p.game.nbJoueur) (hb : ∀ q, b ≠ .prend i q) :
    Attend i p'.point ∧ p'.verdicts = p.verdicts ∧ p'.game.nbJoueur = p.game.nbJoueur ∧ ∀ q, b ≠ .envoie i q := by
  cases h with
  | @envoi b k q hpt hlt hq =>
    rw [hpt] at hp
    obtain ⟨rfl, hik⟩ : b = .go ∧ i < k := hp
    exact ⟨.inr ⟨rfl, hik⟩, rfl, rfl, fun q hq => absurd (Serveur.Action.envoie.inj hq).1 (Nat.ne_of_gt hik)⟩
  | @accuse b k q hpt =>
    rw [hpt] at hp
    rcases hp with rfl | ⟨rfl, hik⟩
    · exact absurd rfl (hb q)
    · exact ⟨⟨rfl, Nat.lt_succ_of_lt hik⟩, rfl, rfl, nofun⟩
  | @suite b k hpt hlt =>
    rw [hpt] at hp
    obtain ⟨rfl, -⟩ : b = .go ∧ i < k := hp
    exact ⟨Nat.zero_le i, rfl, rfl, nofun⟩
  | @tir k q hpt hlt =>
    rw [hpt] at hp
    have hne : k ≠ i := fun he => hb q (he ▸ rfl)
    exact ⟨Nat.lt_of_le_of_ne hp hne, rfl, rfl, nofun⟩
  | @tirRecu k q g ack pile hpt hq hg =>
    rw [hpt] at hp
    have hk : k < i := hp
    exact ⟨hk, rfl, (recevoirTir_sauf hg).nbJoueur,
      fun q hq => absurd (Serveur.Action.envoie.inj hq).1 (Nat.ne_of_lt hk)⟩
  | @verdict k g q hpt hlt hq =>
    rw [hpt] at hp
    have hk : k ≤ i := hp
    omega
  | _ => simp_all [Attend]

theorem Bloque.pas {p : Serveur.Poste} {b : Serveur.Action} {vc vs : Nat → List Requete} (h : Bloque n i s)
    (hs : Serveur.Pas s.serveur b p) (hb : ∀ q, b ≠ .prend i q)
    (hvc : (∀ q, b ≠ .envoie i q) → vc i = s.versClient i) (hvs : vs i = s.versServeur i) :
    Bloque n i ⟨p, s.clients, vc, vs⟩ ∧ p.verdicts = s.serveur.verdicts := by
  obtain ⟨hp, hv, hn, he⟩ := hs.attend h.serveur (h.nbJoueur.symm ▸ h.joueur) hb
  exact ⟨⟨h.joueur, hn.trans h.nbJoueur, (hvc he).trans h.versClient, hvs.trans h.versServeur, h.client, hp⟩, hv⟩

theorem Bloque.autre {c : Client.Poste} {k : Nat} {vc vs : Nat → List Requete} (h : Bloque n i s) (hk : i ≠ k)
    (hvc : vc i = s.versClient i) (hvs : vs i = s.versServeur i) :
    Bloque n i ⟨s.serveur, Function.update s.clients k c, vc, vs⟩ ∧ Function.update s.clients k c i = s.clients i := by
  have hc : Function.update s.clients k c i = s.clients i := Function.update_of_ne hk _ _
  refine ⟨⟨h.joueur, h.nbJoueur, hvc.trans h.versClient, hvs.trans h.versServeur, ?_, h.serveur⟩, hc⟩
  simp only [hc]
  exact h.client

theorem Bloque.etape (h : Bloque n i s) (hs : Etape n s a t) :
    Bloque n i t ∧ t.clients i = s.clients i ∧ t.serveur.verdicts = s.serveur.verdicts := by
  cases hs with
  | @serveurPrend p k q reste hs hc =>
    have hk : i ≠ k := by
      rintro rfl
      rw [h.versServeur] at hc
      cases hc
    obtain ⟨hb, hv⟩ := h.pas hs (fun q hq => hk (Serveur.Action.prend.inj hq).1.symm) (fun _ => rfl)
      (Function.update_of_ne hk reste s.versServeur)
    exact ⟨hb, rfl, hv⟩
  | @serveurEnvoie p k q hs =>
    obtain ⟨hb, hv⟩ := h.pas hs nofun (fun he => Function.update_of_ne (fun hk : i = k => he q (by rw [hk])) _ _) rfl
    exact ⟨hb, rfl, hv⟩
  | serveurInterne hs =>
    obtain ⟨hb, hv⟩ := h.pas hs nofun (fun _ => rfl) rfl
    exact ⟨hb, rfl, hv⟩
  | @clientPrend c k q reste hk hs hc =>
    have hne : i ≠ k := by
      rintro rfl
      rw [h.versClient] at hc
      cases hc
    obtain ⟨hb, hcl⟩ := h.autre hne (Function.update_of_ne hne reste s.versClient) rfl
    exact ⟨hb, hcl, rfl⟩
  | @clientEnvoie c k q hk hs =>
    have hne : i ≠ k := by
      rintro rfl
      obtain ⟨q, hq⟩ := hs.recoit h.client
      cases hq
    obtain ⟨hb, hcl⟩ := h.autre hne rfl (Function.update_of_ne hne (s.versServeur k ++ [q]) s.versServeur)
    exact ⟨hb, hcl, rfl⟩
  | @clientInterne c k hk hs =>
    have hne : i ≠ k := by
      rintro rfl
      obtain ⟨q, hq⟩ := hs.recoit h.client
      cases hq
    obtain ⟨hb, hcl⟩ := h.autre hne rfl rfl
    exact ⟨hb, hcl, rfl⟩

theorem Bloque.flux (h : Bloque n i s) (hs : Flux n s a perdues t) :
    Bloque n i t ∧ t.clients i = s.clients i ∧ t.serveur.verdicts = s.serveur.verdicts := by
  cases hs with
  | entiere hs => exact h.etape hs
  | @serveurGroupe p k q q' perdues reste hs hc hl =>
    have hk : i ≠ k := by
      rintro rfl
      rw [h.versServeur] at hc
      cases hc
    obtain ⟨hb, hv⟩ := h.pas hs (fun q hq => hk (Serveur.Action.prend.inj hq).1.symm) (fun _ => rfl)
      (Function.update_of_ne hk reste s.versServeur)
    exact ⟨hb, rfl, hv⟩
  | @clientGroupe c k q q' perdues reste hk hs hc hl =>
    have hne : i ≠ k := by
      rintro rfl
      rw [h.versClient] at hc
      cases hc
    obtain ⟨hb, hcl⟩ := h.autre hne (Function.update_of_ne hne reste s.versClient) rfl
    exact ⟨hb, hcl, rfl⟩

structure Fige (n : Int) (i : Nat) (s : Etat) : Prop where
  bloque : Bloque n i s
  suite : ∀ es t, Trace (Ecoulement n) s es t →
    t.clients i = s.clients i ∧ t.serveur.verdicts = s.serveur.verdicts ∧ t.serveur.point ≠ .fini

theorem Bloque.fige (h : Bloque n i s) : Fige n i s := by
  refine ⟨h, fun es t ht => ?_⟩
  have hI := ht.invariant (fun _ t => Bloque n i t ∧ t.clients i = s.clients i ∧
    t.serveur.verdicts = s.serveur.verdicts) ⟨h, rfl, rfl⟩ fun _ _ _ _ _ ih hs => by
      obtain ⟨hb, hc, hv⟩ := ih.1.flux hs
      exact ⟨hb, hc.trans ih.2.1, hv.trans ih.2.2⟩
  refine ⟨hI.2.1, hI.2.2, fun hp => ?_⟩
  have := hI.1.serveur
  rw [hp] at this
  exact this

theorem Serveur.Poste.attend {p : Serveur.Poste} {m : Nat}
    (h : p.moment i ∈ [.accuseInfos, .accusePlateau m, .accuseGo m, .accuseEtat m]) : ∃ b, p.point = .accuse b i := by
  unfold Serveur.Poste.moment passage at h
  split at h
  case h_2 b k hp =>
    refine ⟨b, ?_⟩
    split_ifs at h with h1 h2
    · cases b <;> simp [Boucle.apres] at h
    · rw [hp, h2]
    · cases b <;> simp [Boucle.avant] at h
  case h_1 b k hp => split_ifs at h <;> cases b <;> simp [Boucle.apres, Boucle.avant] at h
  all_goals first | (split_ifs at h <;> simp at h) | simp at h

theorem Client.Pas.prend_recoit {c c' : Client.Poste} {q : Requete} (h : Client.Pas c (.prend q) c')
    (hs : c'.moment.sens = .aller) (he : c'.point ≠ .erreur) : c'.point.recoit = true := by
  cases h with
  | erreur => exact absurd rfl he
  | _ => simp_all [Client.Poste.moment, Moment.sens, Client.Point.recoit]

theorem contrat_deux {hist : List Serveur.GameT} {c : Client.Poste} {d : Sens} {k l : Moment} {q q' : Requete}
    {reste : List Requete} (h : (contrat g₀ hist i c).Suite d k l (q :: q' :: reste)) :
    reste = [] ∧ l = k.suivant.suivant ∧ (contrat g₀ hist i c).Permis d k q ∧ k.suivant.sens = d := by
  cases h with
  | cons hm h =>
    cases h with
    | cons hm' h =>
      cases h with
      | nil => exact ⟨rfl, rfl, hm, hm'.sens⟩
      | cons hm'' _ => exact absurd hm''.sens (Moment.trois d k hm.sens hm'.sens)

theorem Moment.attendu {k : Moment} (h : k.sens = .aller) (h' : k.suivant.sens = .aller) :
    ∃ m, k.suivant.suivant ∈ [.accuseInfos, .accusePlateau m, .accuseGo m, .accuseEtat m] := by
  cases k with
  | inscription => exact ⟨0, by simp [Moment.suivant]⟩
  | accuseBateau => exact ⟨0, by simp [Moment.suivant]⟩
  | accuseTir m => exact ⟨m, by simp [Moment.suivant]⟩
  | _ => simp_all [Moment.sens, Moment.suivant]

theorem Accord.accuse (h : Accord g₀ s) {b : Serveur.Boucle} (hp : s.serveur.point = .accuse b i) :
    s.serveur.game.nbJoueur = g₀.nbJoueur := by
  have hreg := h.serveur
  simp only [Serveur.Regulier, hp] at hreg
  exact hreg.1.nbJoueur

theorem Accord.clientGroupe {c : Client.Poste} {q q' : Requete} {suite reste : List Requete} (hg₀ : Lancement g₀)
    (h : Accord g₀ s) (hi : (i : Int) < g₀.nbJoueur) (hs : Client.Pas (s.clients i) (.prend q) c)
    (hc : s.versClient i = q :: q' :: (suite ++ reste)) :
    Bloque g₀.nbJoueur i
      { s with
        clients := Function.update s.clients i c
        versClient := Function.update s.versClient i reste } := by
  obtain ⟨hsync, hloyal⟩ := h.joueurs i hi
  rw [hc] at hsync
  generalize hb : s.versServeur i = b at hsync
  cases hsync with
  | avance hsuite =>
    obtain ⟨hreste, hm, hperm, hsens⟩ := contrat_deux hsuite
    obtain ⟨hloyal', hm', -⟩ := hs.prend_loyal hg₀ h.serveur.descend hloyal hperm
    have hrec := hs.prend_recoit (hm' ▸ hsens) hloyal'.sansErreur
    obtain ⟨m, hatt⟩ := Moment.attendu hperm.sens hsens
    obtain ⟨b, hp⟩ := Serveur.Poste.attend (hm ▸ hatt)
    refine ⟨hi, h.accuse hp, ?_, hb, ?_, ?_⟩
    · simp only [Function.update_self]
      exact (List.append_eq_nil_iff.mp hreste).2
    · simp only [Function.update_self]
      exact hrec
    · simp only [hp]
      exact .inl rfl

theorem Accord.serveurGroupe {p : Serveur.Poste} {q q' : Requete} {suite reste : List Requete}
    (h : Accord g₀ s) (hs : Serveur.Pas s.serveur (.prend i q) p)
    (hc : s.versServeur i = q :: q' :: (suite ++ reste)) :
    Bloque g₀.nbJoueur i { s with serveur := p, versServeur := Function.update s.versServeur i reste } := by
  have hi := hs.prend_joueur h.serveur
  obtain ⟨hsync, hloyal⟩ := h.joueurs i hi
  rw [hc] at hsync
  generalize ha : s.versClient i = a at hsync
  cases hsync with
  | retard hsuite =>
    obtain ⟨hreste, hm, hperm, hsens⟩ := contrat_deux hsuite
    have hsens' : (s.serveur.moment i).sens = .retour := hperm.sens
    obtain ⟨m, hgo⟩ : ∃ m, s.serveur.moment i = .accuseGo m := by
      generalize s.serveur.moment i = k at hsens hsens'
      cases k <;> simp_all [Moment.sens, Moment.suivant]
    obtain ⟨b, hp⟩ : ∃ b, s.serveur.point = .accuse b i := Serveur.Poste.attend (m := m) (by simp [hgo])
    have hb : b = .go := by
      rw [Serveur.Poste.moment, hp] at hgo
      simp only [passage_pendant] at hgo
      cases b <;> simp_all [Boucle.pendant]
    have hrec : (s.clients i).point.recoit = true := by
      rw [hgo] at hm
      cases hpc : (s.clients i).point <;> simp_all [Client.Poste.moment, Moment.suivant, Client.Point.recoit]
    subst hb
    cases hs with
    | accuse q hp' =>
      rw [hp, Serveur.Point.accuse.injEq] at hp'
      obtain ⟨rfl, -⟩ := hp'
      refine ⟨hi, h.accuse hp, ha, ?_, hrec, rfl, Nat.lt_succ_self i⟩
      simp only [Function.update_self]
      exact (List.append_eq_nil_iff.mp hreste).2
    | _ => simp_all

theorem Epilogue.entiere (h : Epilogue g₀ s) (hg₀ : Lancement g₀) (hs : Flux g₀.nbJoueur s a perdues t) :
    perdues = [] := by
  have h1 := hg₀.registres.joueurs
  have hn := h.nbJoueur
  cases hs with
  | entiere => rfl
  | serveurGroupe hs hc =>
    obtain ⟨t, ht⟩ := h.serveur
    rcases hs.epilogue ht (by omega) with ⟨q, ha, -⟩ | ⟨q, ha⟩
    · cases ha
    · cases ha
      rw [(h.joueurs 0 (by omega)).2.1] at hc
      cases hc
  | clientGroupe hi hs => exact absurd (h.joueurs _ hi).1 hs.nonFini

theorem Invariant.flux (hg₀ : Lancement g₀) (h : Invariant g₀ s) (hs : Flux g₀.nbJoueur s a perdues t)
    (hne : perdues ≠ []) : ∃ i, Bloque g₀.nbJoueur i t := by
  rcases h with h | h
  · cases hs with
    | entiere => exact absurd rfl hne
    | serveurGroupe hs hc => exact ⟨_, h.serveurGroupe hs hc⟩
    | clientGroupe hi hs hc => exact ⟨_, h.clientGroupe hg₀ hi hs hc⟩
  · exact absurd (h.entiere hg₀ hs) hne

theorem Attend.sens {p : Serveur.Poste} (h : Attend i p.point) : (p.moment i).sens = .retour := by
  unfold Serveur.Poste.moment
  cases hp : p.point with
  | envoi b k =>
    rw [hp] at h
    obtain ⟨rfl, hk⟩ : b = .go ∧ i < k := h
    simp only [passage_apres hk]
    rfl
  | accuse b k =>
    rw [hp] at h
    rcases h with rfl | ⟨rfl, hk⟩
    · simp only [passage_pendant]
      exact Boucle.pendant_sens b p.manche
    · simp only [passage_apres hk]
      rfl
  | tir k =>
    rw [hp] at h
    have hk : k ≤ i := h
    simp only [passage, show ¬ i < k by omega, if_false, ite_self]
    rfl
  | tirRecu k q =>
    rw [hp] at h
    have hk : k < i := h
    simp only [passage, show ¬ i < k by omega, show i ≠ k by omega, if_false]
    rfl
  | _ => simp_all [Attend]

theorem Invariant.libre (h : Invariant g₀ s) : ¬ Bloque g₀.nbJoueur i s := by
  intro hb
  rcases h with h | h
  · obtain ⟨hsync, hloyal⟩ := h.joueurs i hb.joueur
    rw [hb.versClient, hb.versServeur] at hsync
    rcases hsync.blocage with he | ⟨q, a, ha, -⟩
    · have hsens := hb.serveur.sens
      have hrec := hb.client
      have hne := hloyal.sansErreur
      rw [he] at hsens
      cases hp : (s.clients i).point <;> simp_all [Client.Poste.moment, Moment.sens, Client.Point.recoit]
    · cases ha
  · have hrec := hb.client
    rw [(h.joueurs i hb.joueur).1] at hrec
    cases hrec

theorem Ecoulement.etat {es : List (Action × List Requete)} (hg₀ : Lancement g₀) (h₀ : Debut g₀ s₀)
    (h : Trace (Ecoulement g₀.nbJoueur) s₀ es s) :
    (∀ e ∈ es, e.2 = []) ∧ Atteignable g₀ s ∨ (∃ e ∈ es, e.2 ≠ []) ∧ ∃ i, Bloque g₀.nbJoueur i s := by
  refine h.invariant (fun es s => (∀ e ∈ es, e.2 = []) ∧ Atteignable g₀ s ∨
    (∃ e ∈ es, e.2 ≠ []) ∧ ∃ i, Bloque g₀.nbJoueur i s) (.inl ⟨by simp, s₀, h₀, .refl⟩) fun es t e u _ ih hs => ?_
  obtain ⟨a, perdues⟩ := e
  rcases ih with ⟨hes, ha⟩ | ⟨⟨e, he, hne⟩, i, hb⟩
  · by_cases hp : perdues = []
    · subst hp
      refine .inl ⟨fun e he => ?_, ?_⟩
      · rcases List.mem_append.mp he with he | he
        · exact hes e he
        · rw [List.mem_singleton.mp he]
      · obtain ⟨s₁, h₁, hr⟩ := ha
        generalize hq : ([] : List Requete) = perdues at hs
        cases hs with
        | entiere hs => exact ⟨s₁, h₁, hr.tail ⟨a, hs⟩⟩
        | _ => cases hq
    · exact .inr ⟨⟨(a, perdues), by simp, hp⟩, (ha.invariant hg₀).flux hg₀ hs hp⟩
  · exact .inr ⟨⟨e, List.mem_append_left _ he, hne⟩, i, (hb.flux hs).1⟩

theorem lecture_groupee_bloque (g₀ : Serveur.GameT) (hg₀ : Lancement g₀) (s₀ : Etat) (h₀ : Debut g₀ s₀)
    (es : List (Action × List Requete)) (s : Etat) (h : Trace (Ecoulement g₀.nbJoueur) s₀ es s) :
    (∃ e ∈ es, e.2 ≠ []) ↔ ∃ i, Fige g₀.nbJoueur i s := by
  rcases Ecoulement.etat hg₀ h₀ h with ⟨hes, ha⟩ | ⟨he, i, hb⟩
  · constructor
    · rintro ⟨e, he, hne⟩
      exact absurd (hes e he) hne
    · rintro ⟨i, hf⟩
      exact absurd hf.bloque (ha.invariant hg₀).libre
  · exact ⟨fun _ => ⟨i, hb.fige⟩, fun _ => he⟩

theorem lecture_groupee_bloque_infos : ∃ s i, Trace (Ecoulement 2) (Etat.depart (GameT.depart 2 4 2))
    [(.serveur (.envoie 0 (requeteInfos (GameT.depart 2 4 2))), []),
      (.client 0 (.prend accuseOk), [requeteInfos (GameT.depart 2 4 2)])] s ∧ Fige 2 i s := by
  obtain ⟨r, hl⟩ := Client.Lire.existe accuseOk
  have h₀ : Trace (Ecoulement 2) (Etat.depart (GameT.depart 2 4 2)) [] _ := .nil
  have h₁ := h₀.snoc (show Ecoulement 2 _ (.serveur (.envoie 0 (requeteInfos (GameT.depart 2 4 2))), []) _ from
    .entiere (.serveurEnvoie (.envoi rfl (by decide) rfl)))
  have h := h₁.snoc (show Ecoulement 2 _ (.client 0 (.prend accuseOk), [requeteInfos (GameT.depart 2 4 2)]) _ from
    @Flux.clientGroupe 2 _ _ 0 accuseOk _ [] [] (by decide) (.inscription rfl hl hl.id) rfl (by decide))
  obtain ⟨i, hf⟩ := (lecture_groupee_bloque _ depart_deux _ (Etat.depart_debut _) _ _ h).mp
    ⟨_, List.mem_append_right _ (List.mem_singleton_self _), List.cons_ne_nil _ _⟩
  exact ⟨_, i, h, hf⟩

end Bnbr
