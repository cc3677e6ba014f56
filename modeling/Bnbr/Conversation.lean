import Bnbr.Clib.Conversations
import Bnbr.Clib.Frames
import Bnbr.Clib.Runs
import Bnbr.Survie

namespace Bnbr

open CString Sessions Serveur Runs

def Moment.ids : Moment → List Int
  | .infos => [4]
  | .demande => [3]
  | .bateau => [3]
  | .plateau _ => [2]
  | .go _ => [5]
  | .tir _ => [6]
  | .etat _ => [7, 8, 9, 10]
  | _ => [0]

def conversation : Contrat Moment Requete where
  suivant := Moment.suivant
  sens := Moment.sens
  convient := fun k q => q.id ∈ k.ids

def Action.duServeur (i : Nat) : Action → Option (Sens × Requete)
  | .serveur (.prend k q) => if k = i then some (.retour, q) else none
  | .serveur (.envoie k q) => if k = i then some (.aller, q) else none
  | _ => none

def Action.duClient (i : Nat) : Action → Option (Sens × Requete)
  | .client k (.prend q) => if k = i then some (.aller, q) else none
  | .client k (.envoie q) => if k = i then some (.retour, q) else none
  | _ => none

-- what the server and player i have said to each other, as each of them saw it
def journalServeur (i : Nat) (es : List Action) : Echanges Requete := es.filterMap (Action.duServeur i)

def journalClient (i : Nat) (es : List Action) : Echanges Requete := es.filterMap (Action.duClient i)

def Etat.session (s : Etat) (i : Nat) : Session Moment Requete :=
  ⟨s.serveur.moment i, (s.clients i).moment, s.versClient i, s.versServeur i⟩

variable {g₀ : Serveur.GameT} {s s' : Etat} {i : Nat} {a : Action}

theorem Convient.ids {hist : List Serveur.GameT} {c : Client.Poste} {k : Moment} {q : Requete}
    (h : Convient g₀ hist i c k q) : q.id ∈ k.ids := by
  cases k with
  | infos =>
    obtain rfl := h
    exact List.mem_singleton.mpr rfl
  | bateau =>
    obtain ⟨-, rfl, -⟩ := h
    exact List.mem_singleton.mpr rfl
  | plateau m => exact List.mem_singleton.mpr h.1
  | tir m =>
    rcases h with ⟨-, x, y, -, rfl⟩ | ⟨-, -, -, rfl⟩
    · exact List.mem_singleton.mpr rfl
    · exact List.mem_singleton.mpr rfl
  | etat m =>
    obtain ⟨g, -, rfl⟩ := h
    exact verdictDe_id g i
  | _ => exact List.mem_singleton.mpr h

theorem permis_conversation {hist : List Serveur.GameT} {c : Client.Poste} {d : Sens} {k : Moment} {q : Requete}
    (h : (contrat g₀ hist i c).Permis d k q) : conversation.Permis d k q :=
  ⟨h.sens, Convient.ids (h.convient : Convient g₀ hist i c k q)⟩

theorem Accord.session (hg₀ : Lancement g₀) (h : Accord g₀ s) (hs : Etape g₀.nbJoueur s a s')
    (hi : (i : Int) < g₀.nbJoueur) :
    conversation.Pas (s.session i) (a.duServeur i) (a.duClient i) (s'.session i) := by
  cases hs with
  | @serveurPrend p k q reste hs hc =>
    obtain ⟨hsync, -⟩ := h.joueurs k (hs.prend_joueur h.serveur)
    rw [hc] at hsync
    have he := hs.prend_regulier h.serveur hsync.lecture.1
    by_cases hki : k = i
    · subst hki
      simp only [Action.duServeur, Action.duClient, if_true, Etat.session, he.moment, Function.update_self]
      exact .lecture hc
    · simp only [Action.duServeur, Action.duClient, hki, if_false, Etat.session, he.autres i (Ne.symm hki),
        Function.update_of_ne (Ne.symm hki)]
      exact .ailleurs _
  | @serveurEnvoie p k q hs =>
    obtain ⟨he, hperm⟩ := hs.envoie_regulier hg₀ h.serveur
    by_cases hki : k = i
    · subst hki
      simp only [Action.duServeur, Action.duClient, if_true, Etat.session, he.moment, Function.update_self]
      exact .envoi (permis_conversation hperm)
    · simp only [Action.duServeur, Action.duClient, hki, if_false, Etat.session, he.autres i (Ne.symm hki),
        Function.update_of_ne (Ne.symm hki)]
      exact .ailleurs _
  | serveurInterne hs =>
    simp only [Action.duServeur, Action.duClient, Etat.session, (hs.interne_regulier hg₀ h.serveur).moment i hi]
    exact .ailleurs _
  | @clientPrend c k q reste hk hs hc =>
    by_cases hki : k = i
    · subst hki
      obtain ⟨hsync, hloyal⟩ := h.joueurs k hk
      rw [hc] at hsync
      obtain ⟨-, hm, -⟩ := hs.prend_loyal hg₀ h.serveur.descend hloyal hsync.reception.1
      simp only [Action.duServeur, Action.duClient, if_true, Etat.session, Function.update_self, hm]
      exact .reception hc
    · simp only [Action.duServeur, Action.duClient, hki, if_false, Etat.session, Function.update_of_ne (Ne.symm hki)]
      exact .ailleurs _
  | @clientEnvoie c k q hk hs =>
    by_cases hki : k = i
    · subst hki
      obtain ⟨-, hm, -, hperm⟩ := hs.envoie_loyal hg₀ (h.joueurs k hk).loyal
      simp only [Action.duServeur, Action.duClient, if_true, Etat.session, Function.update_self, hm]
      exact .reponse (permis_conversation hperm)
    · simp only [Action.duServeur, Action.duClient, hki, if_false, Etat.session, Function.update_of_ne (Ne.symm hki)]
      exact .ailleurs _
  | @clientInterne c k hk hs =>
    by_cases hki : k = i
    · subst hki
      obtain ⟨-, hm, -⟩ := hs.interne_loyal hg₀ (h.joueurs k hk).loyal
      simp only [Action.duServeur, Action.duClient, Etat.session, Function.update_self, hm]
      exact .ailleurs _
    · simp only [Action.duServeur, Action.duClient, Etat.session, Function.update_of_ne (Ne.symm hki)]
      exact .ailleurs _

theorem Epilogue.session (hg₀ : Lancement g₀) (h : Epilogue g₀ s) (hs : Etape g₀.nbJoueur s a s') :
    conversation.Pas (s.session i) (a.duServeur i) (a.duClient i) (s'.session i) := by
  have h1 := hg₀.registres.joueurs
  have hn := h.nbJoueur
  obtain ⟨t, ht⟩ := h.serveur
  cases hs with
  | serveurPrend hs hc =>
    rcases hs.epilogue ht (by omega) with ⟨q, ha, -⟩ | ⟨q, ha⟩
    · cases ha
    · cases ha
      rw [(h.joueurs 0 (by omega)).2.1] at hc
      cases hc
  | serveurEnvoie hs =>
    rcases hs.epilogue ht (by omega) with ⟨q, ha, -⟩ | ⟨q, ha⟩
    · cases ha
      rcases ht with ht | ht
      · cases hs with
        | envoi hp _ hq =>
          rw [ht, Serveur.Point.envoi.injEq] at hp
          obtain ⟨rfl, -⟩ := hp
          obtain rfl := Option.some.inj hq
          by_cases h0 : 0 = i
          · subst h0
            simp only [Action.duServeur, Action.duClient, if_true, Etat.session, Function.update_self,
              Serveur.Poste.moment, ht, passage_pendant]
            exact .envoi ⟨rfl, List.mem_singleton.mpr rfl⟩
          · have hm (a b c : Moment) : passage i 0 a b c = passage i 0 a a c := passage_pendant_autre (Ne.symm h0)
            simp only [Action.duServeur, Action.duClient, h0, if_false, Etat.session,
              Function.update_of_ne (Ne.symm h0), Serveur.Poste.moment, ht, hm _ (Boucle.pendant _ _) _]
            exact .ailleurs _
        | _ => simp_all
      · cases hs <;> simp_all
    · cases ha
  | serveurInterne hs =>
    rcases hs.epilogue ht (by omega) with ⟨q, ha, -⟩ | ⟨q, ha⟩
    · cases ha
    · cases ha
  | clientPrend hi hs => exact absurd (h.joueurs _ hi).1 hs.nonFini
  | clientEnvoie hi hs => exact absurd (h.joueurs _ hi).1 hs.nonFini
  | clientInterne hi hs => exact absurd (h.joueurs _ hi).1 hs.nonFini

theorem Invariant.session (hg₀ : Lancement g₀) (h : Invariant g₀ s) (hs : Etape g₀.nbJoueur s a s')
    (hi : (i : Int) < g₀.nbJoueur) :
    conversation.Pas (s.session i) (a.duServeur i) (a.duClient i) (s'.session i) := by
  rcases h with h | h
  · exact h.session hg₀ hs hi
  · exact h.session hg₀ hs

theorem Debut.session (h : Debut g₀ s) (hi : (i : Int) < g₀.nbJoueur) :
    conversation.Tenue (s.clients i).moment (etiquette .aller (s.versClient i)) [] (s.session i) := by
  have hs : (s.serveur.moment i) = .infos := by
    rw [h.serveur]
    exact passage_zero
  have hsuite : conversation.Suite .aller (s.clients i).moment (s.serveur.moment i) (s.versClient i) := by
    obtain ⟨-, ⟨hp, hv⟩ | ⟨hp, hv⟩⟩ := h.clients i hi
    · rw [hs, hv, Client.Poste.moment, hp]
      exact .cons ⟨rfl, List.mem_singleton.mpr rfl⟩ (.nil _)
    · rw [hs, hv, Client.Poste.moment, hp]
      exact .nil _
  rw [Etat.session, h.versServeur i]
  exact .debut hsuite

def Finale (e : Sens × Requete) : Prop := e.2.id = 9 ∨ e.2.id = 10

-- a verdict that ends the game is the last message of the server that a player reads
def Client.Poste.Clos (c : Client.Poste) (js : Echanges Requete) : Prop :=
  (∀ e ∈ js, ¬ Finale e) ∨
  (∃ ks e etat, js = ks ++ [e] ∧ (∀ f ∈ ks, ¬ Finale f) ∧ c.point = .accuseEtat etat ∧ Termine etat) ∨
  ∃ ks e f, js = ks ++ [e, f] ∧ (∀ g ∈ ks, ¬ Finale g) ∧ c.point = .fini

theorem Moment.ids_finale {k : Moment} {e : Sens × Requete} (hk : e.2.id ∈ k.ids) (h : Finale e) :
    ∃ m, k = .etat m := by
  cases k with
  | etat m => exact ⟨m, rfl⟩
  | _ =>
    have := List.mem_singleton.mp hk
    rcases h with h | h
    · omega
    · omega

theorem Client.apresEtat_termine {etat e : EtatPartie} {id : Int} (h : id = 9 ∨ id = 10)
    (he : Client.apresEtat etat id = some e) : Termine e := by
  rcases h with rfl | rfl
  · exact .inr (Option.some.inj he).symm
  · exact .inl (Option.some.inj he).symm

theorem Client.Pas.prend_clos {c c' : Client.Poste} {js : Echanges Requete} {q : Requete} (h : c.Clos js)
    (hs : Client.Pas c (.prend q) c') (hq : q.id ∈ c.moment.ids) (hne : c'.point ≠ .erreur) :
    c'.Clos (js ++ [(.aller, q)]) := by
  rcases h with h | ⟨ks, e, etat, -, -, hp, -⟩ | ⟨-, -, -, -, -, hp⟩
  · by_cases hf : Finale (.aller, q)
    · obtain ⟨m, hm⟩ := Moment.ids_finale (e := (.aller, q)) hq hf
      cases hs with
      | etat hp hl he =>
        exact .inr (.inl ⟨js, _, _, rfl, h, rfl, Client.apresEtat_termine (hl.id ▸ hf) he⟩)
      | erreur => exact absurd rfl hne
      | _ => simp_all [Client.Poste.moment]
    · refine .inl fun e he => ?_
      rcases List.mem_append.mp he with he | he
      · exact h e he
      · exact List.mem_singleton.mp he ▸ hf
  · cases hs with
    | erreur hr => simp [hp, Client.Point.recoit] at hr
    | _ => simp_all
  · exact absurd hp hs.nonFini

theorem Client.Pas.envoie_clos {c c' : Client.Poste} {js : Echanges Requete} {q : Requete} (h : c.Clos js)
    (hs : Client.Pas c (.envoie q) c') (hq : conversation.Permis .retour c.moment q) :
    c'.Clos (js ++ [(.retour, q)]) := by
  rcases h with h | ⟨ks, e, etat, rfl, hk, hp, ht⟩ | ⟨-, -, -, -, -, hp⟩
  · refine .inl fun e he hf => ?_
    rcases List.mem_append.mp he with he | he
    · exact h e he hf
    · obtain rfl := List.mem_singleton.mp he
      obtain ⟨m, hm⟩ := Moment.ids_finale (e := (.retour, q)) hq.convient hf
      have hsens : c.moment.sens = .retour := hq.sens
      rw [hm] at hsens
      cases hsens
  · cases hs with
    | accuseEtat hp' =>
      rw [hp, Client.Point.accuseEtat.injEq] at hp'
      subst hp'
      exact .inr (.inr ⟨ks, e, _, by rw [List.append_assoc]; rfl, hk, if_pos ht⟩)
    | _ => simp_all
  · exact absurd hp hs.nonFini

theorem Client.Pas.interne_clos {c c' : Client.Poste} {js : Echanges Requete} (h : c.Clos js)
    (hs : Client.Pas c .interne c') : c'.Clos js := by
  rcases h with h | ⟨ks, e, etat, -, -, hp, -⟩ | ⟨-, -, -, -, -, hp⟩
  · exact .inl h
  · cases hs <;> simp_all
  · exact absurd hp hs.nonFini

theorem Client.Poste.Clos.fin {c : Client.Poste} {js : Echanges Requete} (h : c.Clos js) {k : Nat}
    {e : Sens × Requete} (he : js[k]? = some e) (hf : Finale e) : js.length ≤ k + 2 := by
  have hsuite {ks ls : Echanges Requete} (hk : ∀ f ∈ ks, ¬ Finale f) (he : (ks ++ ls)[k]? = some e) :
      ks.length ≤ k := by
    by_contra hlt
    rw [List.getElem?_append_left (by omega)] at he
    exact hk e (List.mem_of_getElem? he) hf
  rcases h with h | ⟨ks, f, -, rfl, hk, -⟩ | ⟨ks, f, g, rfl, hk, -⟩
  · exact absurd hf (h e (List.mem_of_getElem? he))
  · have := hsuite hk he
    simp only [List.length_append, List.length_singleton]
    omega
  · have := hsuite hk he
    simp only [List.length_append, List.length_cons, List.length_nil]
    omega

structure Commune (debut : Moment) (js jc : Echanges Requete) (s : Session Moment Requete) : Prop where
  coherent : Coherent js jc s.aller s.retour
  serveur : ∀ k e, js[k]? = some e →
    e.1 = (Moment.suivant^[k] debut).sens ∧ e.2.id ∈ (Moment.suivant^[k] debut).ids
  client : ∀ k e, jc[k]? = some e →
    e.1 = (Moment.suivant^[k] debut).sens ∧ e.2.id ∈ (Moment.suivant^[k] debut).ids
  fin : ∀ k e, jc[k]? = some e → Finale e → jc.length ≤ k + 2

theorem journal_snoc (f : Action → Option (Sens × Requete)) (es : List Action) (a : Action) :
    (es ++ [a]).filterMap f = es.filterMap f ++ (f a).toList := by
  rw [List.filterMap_append]
  cases h : f a with
  | none => simp [h]
  | some e => simp [h]

structure Suivie (g₀ : Serveur.GameT) (s₀ : Etat) (i : Nat) (es : List Action) (s : Etat) : Prop where
  tenue : conversation.Tenue (s₀.clients i).moment (etiquette .aller (s₀.versClient i) ++ journalServeur i es)
    (journalClient i es) (s.session i)
  clos : (s.clients i).Clos (journalClient i es)

theorem Client.Loyal.sansErreur {hist : List Serveur.GameT} {c : Client.Poste} (h : Client.Loyal g₀ hist i c) :
    c.point ≠ .erreur := by
  intro hp
  simp only [Client.Loyal, hp] at h

theorem Suivie.clos_etape {s₀ : Etat} {es : List Action} (hg₀ : Lancement g₀) (h : Suivie g₀ s₀ i es s)
    (hinv : Invariant g₀ s) (hs : Etape g₀.nbJoueur s a s') : (s'.clients i).Clos (journalClient i (es ++ [a])) := by
  have hclos := h.clos
  have hmot := h.tenue
  rw [journalClient, journal_snoc]
  cases hs with
  | serveurPrend | serveurEnvoie | serveurInterne =>
    simp only [Action.duClient, Option.toList_none, List.append_nil]
    exact hclos
  | @clientPrend c k q reste hk hs hc =>
    by_cases hki : k = i
    · subst hki
      simp only [Action.duClient, if_true, Option.toList_some, Function.update_self]
      have hl := Invariant.loyal (hinv.etape hg₀ (.clientPrend hk hs hc)) hk
      simp only [Function.update_self] at hl
      have hsync := hmot.sync
      simp only [Etat.session, hc] at hsync
      exact hs.prend_clos hclos hsync.reception.1.convient hl.sansErreur
    · simp only [Action.duClient, hki, if_false, Option.toList_none, List.append_nil,
        Function.update_of_ne (Ne.symm hki)]
      exact hclos
  | @clientEnvoie c k q hk hs =>
    by_cases hki : k = i
    · subst hki
      simp only [Action.duClient, if_true, Option.toList_some, Function.update_self]
      have hpas := hinv.session hg₀ (.clientEnvoie hk hs) hk
      simp only [Action.duServeur, Action.duClient, if_true] at hpas
      exact hs.envoie_clos hclos hpas.reponse_permis
    · simp only [Action.duClient, hki, if_false, Option.toList_none, List.append_nil,
        Function.update_of_ne (Ne.symm hki)]
      exact hclos
  | @clientInterne c k hk hs =>
    simp only [Action.duClient, Option.toList_none, List.append_nil]
    by_cases hki : k = i
    · subst hki
      rw [Function.update_self]
      exact hs.interne_clos hclos
    · rw [Function.update_of_ne (Ne.symm hki)]
      exact hclos

theorem Suivie.trace {s₀ : Etat} {es : List Action} (hg₀ : Lancement g₀) (h₀ : Debut g₀ s₀)
    (h : Trace (Etape g₀.nbJoueur) s₀ es s) :
    Invariant g₀ s ∧ ∀ i : Nat, (i : Int) < g₀.nbJoueur → Suivie g₀ s₀ i es s := by
  refine h.invariant (fun es s => Invariant g₀ s ∧ ∀ i : Nat, (i : Int) < g₀.nbJoueur → Suivie g₀ s₀ i es s)
    ⟨.inl (h₀.accord hg₀), fun i hi => ⟨?_, .inl fun e he => by cases he⟩⟩ fun es t a u _ ht hs => ?_
  · simp only [journalServeur, journalClient, List.filterMap_nil, List.append_nil]
    exact h₀.session hi
  · refine ⟨ht.1.etape hg₀ hs, fun i hi => ⟨?_, (ht.2 i hi).clos_etape hg₀ ht.1 hs⟩⟩
    have := (ht.2 i hi).tenue.pas (ht.1.session hg₀ hs hi)
    rw [journalServeur, journalClient, journal_snoc, journal_snoc, ← List.append_assoc]
    exact this

theorem conversation_commune (g₀ : Serveur.GameT) (hg₀ : Lancement g₀) (s₀ : Etat) (h₀ : Debut g₀ s₀)
    (es : List Action) (s : Etat) (h : Trace (Etape g₀.nbJoueur) s₀ es s) (i : Nat) (hi : (i : Int) < g₀.nbJoueur) :
    Commune (s₀.clients i).moment (etiquette .aller (s₀.versClient i) ++ journalServeur i es) (journalClient i es)
      (s.session i) := by
  obtain ⟨htenue, hclos⟩ := (Suivie.trace hg₀ h₀ h).2 i hi
  refine ⟨htenue.coherent, fun k e he => ?_, fun k e he => ?_, fun k e he hf => hclos.fin he hf⟩
  · have := htenue.amont.lettre he
    exact ⟨this.sens.symm, this.convient⟩
  · have := htenue.aval.lettre he
    exact ⟨this.sens.symm, this.convient⟩

theorem Run.trace {n : Int} (h : Run n s s') : ∃ es, Trace (Etape n) s es s' := by
  induction h with
  | refl => exact ⟨[], .nil⟩
  | tail _ hs ih =>
    obtain ⟨es, h⟩ := ih
    obtain ⟨a, hs⟩ := hs
    exact ⟨_, h.snoc hs⟩

theorem trace_run {n : Int} {es : List Action} (h : Trace (Etape n) s es s') : Run n s s' := by
  induction h with
  | nil => exact .refl
  | snoc _ hs ih => exact ih.tail ⟨_, hs⟩

theorem conversation_commune_manche : ∃ s₀ es s f k, Trace (Etape 2) s₀ es s ∧
    s.serveur.point = .envoi (.etat f) k ∧ Commune (s₀.clients 1).moment
      (etiquette .aller (s₀.versClient 1) ++ journalServeur 1 es) (journalClient 1 es) (s.session 1) := by
  obtain ⟨s, f, k, ⟨s₀, h₀, hr⟩, -, hp, -⟩ := manche_accessible depart_deux
  obtain ⟨es, h⟩ := Run.trace hr
  exact ⟨s₀, es, s, f, k, h, hp, conversation_commune _ depart_deux s₀ h₀ es s h 1 (by decide)⟩

def octets (qs : List Requete) : List Char := Frames.frames nul (qs.map Requete.texte)

theorem recevoir_groupe {q : Requete} {reste : List Requete} (hq : q.Valide) {width : Nat} (hw : width ≤ 999)
    {l : Lecture} (hl : l.recu = octets (q :: reste)) (buff : Buf maxBuffer) (quoi : ReqT) :
    recevoir (unserialReq width hw) l buff quoi = some (livrer width hw q hq.nom_len quoi) := by
  rw [← unserialReq_texte hq]
  refine recevoir_texte ?_ _ buff quoi
  rw [hl, octets, List.map_cons, Frames.frames_cons]
  exact text_append _ hq.texte_nul

theorem Moment.trois (d : Sens) (k : Moment) (h : k.sens = d) (h' : k.suivant.sens = d) :
    k.suivant.suivant.sens ≠ d := by
  cases k <;> cases d <;> simp_all [Moment.sens, Moment.suivant]

theorem Moment.deux_aller {k : Moment} {q q' : Requete} (h : conversation.Permis .aller k q)
    (h' : conversation.Permis .aller k.suivant q') : q.id = 0 ∧ q'.id ∈ [2, 4, 7, 8, 9, 10] := by
  have hs : k.sens = .aller := h.sens
  have hs' : k.suivant.sens = .aller := h'.sens
  have hq : q.id ∈ k.ids := h.convient
  have hq' : q'.id ∈ k.suivant.ids := h'.convient
  cases k <;> simp_all [Moment.sens, Moment.suivant, Moment.ids]

theorem Moment.deux_retour {k : Moment} {q q' : Requete} (h : conversation.Permis .retour k q)
    (h' : conversation.Permis .retour k.suivant q') : q.id = 0 ∧ q'.id = 6 := by
  have hs : k.sens = .retour := h.sens
  have hs' : k.suivant.sens = .retour := h'.sens
  have hq : q.id ∈ k.ids := h.convient
  have hq' : q'.id ∈ k.suivant.ids := h'.convient
  cases k <;> simp_all [Moment.sens, Moment.suivant, Moment.ids]

-- what can be read together: the second request is then lost
structure CanauxBornes (a b : List Requete) : Prop where
  alterne : a = [] ∨ b = []
  aller : ∀ q q' reste, a = q :: q' :: reste → reste = [] ∧ q.id = 0 ∧ q'.id ∈ [2, 4, 7, 8, 9, 10]
  retour : ∀ q q' reste, b = q :: q' :: reste → reste = [] ∧ q.id = 0 ∧ q'.id = 6
  lueClient : ∀ q reste (hq : q.Valide) (l : Lecture) buff quoi, a = q :: reste → l.recu = octets a →
    recevoir Client.unserialReq l buff quoi = some (Client.livrer q hq quoi)
  lueServeur : ∀ q reste (hq : q.Valide) (l : Lecture) buff quoi, b = q :: reste → l.recu = octets b →
    recevoir Serveur.unserialReq l buff quoi = some (Serveur.livrer q hq quoi)

theorem Moment.paire {k l : Moment} {d : Sens} {a : List Requete} (h : conversation.Suite d k l a)
    {q q' : Requete} {reste : List Requete} (ha : a = q :: q' :: reste) :
    reste = [] ∧ conversation.Permis d k q ∧ conversation.Permis d k.suivant q' := by
  rcases h.deux (Moment.trois d) with hv | ⟨m, hm, -⟩ | ⟨m, m', hm, h1, h2⟩
  · rw [ha] at hv
    cases hv
  · rw [ha] at hm
    cases hm
  · rw [ha] at hm
    obtain ⟨rfl, rfl, rfl⟩ : q = m ∧ q' = m' ∧ reste = [] := by simpa using hm
    exact ⟨rfl, h1, h2⟩

theorem Moment.suite_le {k l : Moment} {d : Sens} {a : List Requete} (h : conversation.Suite d k l a) :
    a.length ≤ 2 := by
  rcases h.deux (Moment.trois d) with rfl | ⟨m, rfl, -⟩ | ⟨m, m', rfl, -, -⟩ <;> simp

theorem Suivie.retour_le {s₀ : Etat} {es : List Action} (h : Suivie g₀ s₀ i es s) : (s.versServeur i).length ≤ 2 := by
  have hsync := h.tenue.sync
  simp only [Etat.session] at hsync
  generalize s.versClient i = a at hsync
  generalize s.versServeur i = b at hsync ⊢
  cases hsync with
  | avance _ => exact Nat.zero_le _
  | retard hs => exact Moment.suite_le hs

theorem canaux_bornes (g₀ : Serveur.GameT) (hg₀ : Lancement g₀) (s : Etat) (h : Atteignable g₀ s) (i : Nat)
    (hi : (i : Int) < g₀.nbJoueur) : CanauxBornes (s.versClient i) (s.versServeur i) := by
  obtain ⟨s₀, h₀, hr⟩ := h
  obtain ⟨es, h⟩ := Run.trace hr
  have hsync := ((Suivie.trace hg₀ h₀ h).2 i hi).tenue.sync
  simp only [Etat.session] at hsync
  have hlue (q : Requete) (reste : List Requete) (hq : q.Valide) (l : Lecture) {a : List Requete} (width : Nat)
      (hw : width ≤ 999) (buff : Buf maxBuffer) (quoi : ReqT) (ha : a = q :: reste) (hl : l.recu = octets a) :
      recevoir (unserialReq width hw) l buff quoi = some (livrer width hw q hq.nom_len quoi) :=
    recevoir_groupe hq hw (ha ▸ hl) buff quoi
  refine ⟨?_, fun q q' reste ha => ?_, fun q q' reste hb => ?_,
    fun q reste hq l buff quoi ha hl => hlue q reste hq l 99 (by omega) buff quoi ha hl,
    fun q reste hq l buff quoi hb hl => hlue q reste hq l 999 (by omega) buff quoi hb hl⟩
  · generalize s.versClient i = a at hsync
    generalize s.versServeur i = b at hsync
    cases hsync with
    | avance _ => exact .inr rfl
    | retard _ => exact .inl rfl
  · rw [ha] at hsync
    generalize s.versServeur i = b at hsync
    cases hsync with
    | avance hs =>
      obtain ⟨hreste, h1, h2⟩ := Moment.paire hs rfl
      exact ⟨hreste, Moment.deux_aller h1 h2⟩
  · rw [hb] at hsync
    generalize s.versClient i = a at hsync
    cases hsync with
    | retard hs =>
      obtain ⟨hreste, h1, h2⟩ := Moment.paire hs rfl
      exact ⟨hreste, Moment.deux_retour h1 h2⟩

theorem canaux_bornes_manche : ∃ s f k, Atteignable (GameT.depart 2 4 2) s ∧ s.serveur.point = .envoi (.etat f) k ∧
    CanauxBornes (s.versClient 1) (s.versServeur 1) := by
  obtain ⟨s, f, k, ha, -, hp, -⟩ := manche_accessible depart_deux
  exact ⟨s, f, k, ha, hp, canaux_bornes _ depart_deux s ha 1 (by decide)⟩

end Bnbr
