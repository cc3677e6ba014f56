import Bnbr.Clib.Determinacy
import Bnbr.Conversation

namespace Bnbr

open CString Decimal Serveur Runs Determinacy

namespace Serveur

variable {g₀ : GameT} {cl : Nat → Client.Poste} {p t u : Poste} {e : Act Nat Requete} {i : Nat} {m : Requete}

def agir : Act Nat Requete → Action
  | .quiet => .interne
  | .send i q => .envoie i q
  | .recv i q => .prend i q

def Suit (g₀ : GameT) (p : Poste) : Prop :=
  (∃ cl, Regulier g₀ cl p) ∨ ∃ t, p.point = .envoi (.plateau t) 0 ∨ p.point = .accuse (.plateau t) 0

def PasSuivi (g₀ : GameT) (p : Poste) (e : Act Nat Requete) (p' : Poste) : Prop := Suit g₀ p ∧ Pas p (agir e) p'

theorem Suit.collecte {j n : Int} {envois : List (Int × List Char)} (h : Suit g₀ p)
    (hp : p.point = .collecte j n envois) : ∃ cl, EnCollecte g₀ cl p j n envois := by
  rcases h with ⟨cl, h⟩ | ⟨t, h | h⟩
  · simp only [Regulier, hp] at h
    exact ⟨cl, h⟩
  · rw [hp] at h
    cases h
  · rw [hp] at h
    cases h

theorem Suit.bateau {j n : Int} {envois : List (Int × List Char)} {q : Requete} (h : Suit g₀ p)
    (hp : p.point = .bateau j n envois q) : ∃ cl, EnCollecte g₀ cl p j n envois ∧
      ¬ (p.collecte j n envois).fini ∧ BateauChoisi g₀ (cl j.toNat) q := by
  rcases h with ⟨cl, h⟩ | ⟨t, h | h⟩
  · simp only [Regulier, hp] at h
    exact ⟨cl, h⟩
  · rw [hp] at h
    cases h
  · rw [hp] at h
    cases h

theorem Suit.tirRecu {q : Requete} (h : Suit g₀ p) (hp : p.point = .tirRecu i q) :
    EnManche g₀ p ∧ TirDe g₀.taillePlateau p.verdicts i p.manche q := by
  rcases h with ⟨cl, h⟩ | ⟨t, h | h⟩
  · simp only [Regulier, hp] at h
    exact ⟨h.1, h.2.2⟩
  · rw [hp] at h
    cases h
  · rw [hp] at h
    cases h

theorem Suit.sonder (hg₀ : Lancement g₀) (h : Suit g₀ p) {j n : Int} {envois : List (Int × List Char)} {t : Tour}
    {c : Collecte} (hp : p.point = .collecte j n envois) (hf : ¬ (p.collecte j n envois).fini)
    (ht : t.sondage = .rien ∨ t.sondage = .erreur) (hc : etape (p.collecte j n envois) t = some c) :
    { p with point := .collecte c.j c.nbBateauxRecu c.envois, game := c.game } = p := by
  obtain ⟨cl, hcol⟩ := h.collecte hp
  obtain ⟨ps, hb, -⟩ := hcol.bilan
  have hc' := hb.toDepot.etape_rien hg₀.registres hf (recevoirNonBlock_vide ht _ _ _)
  rw [hc, Option.some.injEq] at hc'
  subst hc'
  simp only [← hp]

theorem EnCollecte.placer_unique (hg₀ : Lancement g₀) {q : Requete} {j n : Int} {envois : List (Int × List Char)}
    (h : EnCollecte g₀ cl p j n envois) (hf : ¬ (p.collecte j n envois).fini)
    (hb : BateauChoisi g₀ (cl j.toNat) q) (hq : q.Valide) (pile pile' : PileBateau) :
    etape (p.collecte j n envois) (Tour.message q hq pile) =
      etape (p.collecte j n envois) (Tour.message q hq pile') := by
  obtain ⟨ps, hbilan, -⟩ := h.bilan
  obtain ⟨-, rfl, hval⟩ := hb
  obtain ⟨v, hv⟩ := Option.isSome_iff_exists.mp (hval ⟨0, by decide⟩).direction
  have hd : isspace (cl j.toNat).direction = false := by
    have hv' : pas (cl j.toNat).direction = some v := hv
    rcases pas_cases hv' with ⟨h, -⟩ | ⟨h, -⟩ | ⟨h, -⟩ | ⟨h, -⟩ <;> rw [h] <;> decide
  obtain ⟨hx, hy⟩ := (hval ⟨0, by decide⟩).inInt hg₀.registres.plateau hg₀.registres.bateau
  have hdec := decrit_requeteBateau hq hx hy hd
  obtain ⟨i, -, -, hget⟩ := hbilan.toDepot.joueur hg₀.registres hf
  rw [etape_decrit hf hget (t := Tour.message _ hq pile) rfl hdec,
    etape_decrit hf hget (t := Tour.message _ hq pile') rfl hdec]

theorem EnManche.tir_unique (hg₀ : Lancement g₀) {q : Requete} (h : EnManche g₀ p)
    (ht : TirDe g₀.taillePlateau p.verdicts i p.manche q) (hq : q.Valide) (pile pile' : PileTir) :
    recevoirTir p.game pile (Lecture.entiere q hq) = recevoirTir p.game pile' (Lecture.entiere q hq) := by
  have hn := hg₀.registres.plateau
  have hg : p.game.taillePlateau ≤ 50 := by
    rw [h.regles.taillePlateau]
    exact hn
  rcases ht with ⟨-, x, y, hd, rfl⟩ | ⟨-, -, -, rfl⟩
  · obtain ⟨hx, hy⟩ := Dans.inInt hn hd
    rw [recevoirTir_requeteTir h.flottille hg hx hy, recevoirTir_requeteTir h.flottille hg hx hy]
  · rw [recevoirTir_mort hg h.flottille.borne, recevoirTir_mort hg h.flottille.borne]

theorem Pas.envoie_unique {p' p'' : Poste} {a : Action} {q : Requete} (hg₀ : Lancement g₀) (h : Suit g₀ p)
    (hs : Pas p (.envoie i q) p') (hs' : Pas p a p'') : a = .envoie i q ∧ p'' = p' := by
  cases hs with
  | envoi hp hi hq =>
    cases hs' with
    | envoi hp' hi' hq' =>
      rw [hp, Point.envoi.injEq] at hp'
      obtain ⟨rfl, rfl⟩ := hp'
      rw [hq, Option.some.injEq] at hq'
      subst hq'
      exact ⟨rfl, rfl⟩
    | suite hp' hi' =>
      rw [hp, Point.envoi.injEq] at hp'
      obtain ⟨rfl, rfl⟩ := hp'
      exact absurd hi hi'
    | _ => simp_all
  | demande hp hi =>
    cases hs' with
    | demande hp' hi' =>
      rw [hp, Point.demande.injEq] at hp'
      subst hp'
      exact ⟨rfl, rfl⟩
    | collecter hp' hi' =>
      rw [hp, Point.demande.injEq] at hp'
      subst hp'
      exact absurd hi hi'
    | _ => simp_all
  | placer pile hp hi hq hc =>
    obtain ⟨cl, hcol, hf, hb⟩ := h.bateau hp
    cases hs' with
    | placer pile' hp' hi' hq' hc' =>
      rw [hp, Point.bateau.injEq] at hp'
      obtain ⟨rfl, rfl, rfl, rfl⟩ := hp'
      obtain rfl : i = _ := Int.natCast_inj.mp (hi.symm.trans hi')
      rw [hcol.placer_unique hg₀ hf hb hq pile pile', hc', Option.some.injEq] at hc
      subst hc
      exact ⟨rfl, rfl⟩
    | _ => simp_all
  | tirRecu pile hp hq hg =>
    obtain ⟨hm, ht⟩ := h.tirRecu hp
    cases hs' with
    | tirRecu pile' hp' hq' hg' =>
      rw [hp, Point.tirRecu.injEq] at hp'
      obtain ⟨rfl, rfl⟩ := hp'
      rw [hm.tir_unique hg₀ ht hq pile pile', hg', Option.some.injEq, Prod.mk.injEq] at hg
      obtain ⟨rfl, -⟩ := hg
      exact ⟨rfl, rfl⟩
    | _ => simp_all

theorem Pas.prend_unique {p' p'' : Poste} {a : Action} {q : Requete} (hg₀ : Lancement g₀) (h : Suit g₀ p)
    (hs : Pas p (.prend i q) p') (hs' : Pas p a p'') :
    (∃ q', a = .prend i q' ∧ (q' = q → p'' = p')) ∨ a = .interne ∧ p'' = p := by
  cases hs with
  | accuse _ hp =>
    cases hs' with
    | accuse q' hp' =>
      rw [hp, Point.accuse.injEq] at hp'
      obtain ⟨rfl, rfl⟩ := hp'
      exact .inl ⟨q', rfl, fun _ => rfl⟩
    | _ => simp_all
  | bateau _ hp hf hi =>
    cases hs' with
    | sonder hp' hf' ht hc => exact .inr ⟨rfl, h.sonder hg₀ hp' hf' ht hc⟩
    | bateau q' hp' hf' hi' =>
      rw [hp, Point.collecte.injEq] at hp'
      obtain ⟨rfl, rfl, rfl⟩ := hp'
      obtain rfl : i = _ := Int.natCast_inj.mp (hi.symm.trans hi')
      exact .inl ⟨q', rfl, fun he => by rw [he]⟩
    | sortie hp' hf' =>
      rw [hp, Point.collecte.injEq] at hp'
      obtain ⟨rfl, rfl, rfl⟩ := hp'
      exact absurd hf' hf
    | _ => simp_all
  | tir _ hp hi =>
    cases hs' with
    | tir q' hp' hi' =>
      rw [hp, Point.tir.injEq] at hp'
      subst hp'
      exact .inl ⟨q', rfl, fun he => by rw [he]⟩
    | verdict hp' hi' =>
      rw [hp, Point.tir.injEq] at hp'
      subst hp'
      exact absurd hi hi'
    | _ => simp_all

-- two idle turns: one of them may be a poll
theorem Pas.interne_unique {p' p'' : Poste} (hg₀ : Lancement g₀) (h : Suit g₀ p) (hs : Pas p .interne p')
    (hs' : Pas p .interne p'') : p' = p ∨ p'' = p' ∨ p'' = p := by
  cases hs with
  | sonder hp hf ht hc => exact .inl (h.sonder hg₀ hp hf ht hc)
  | suite hp hi =>
    cases hs' with
    | suite hp' hi' =>
      rw [hp, Point.envoi.injEq] at hp'
      obtain ⟨rfl, rfl⟩ := hp'
      exact .inr (.inl rfl)
    | _ => simp_all
  | collecter hp hi =>
    cases hs' with
    | collecter hp' hi' => exact .inr (.inl rfl)
    | _ => simp_all
  | sortie hp hf =>
    cases hs' with
    | sonder hp' hf' ht hc => exact .inr (.inr (h.sonder hg₀ hp' hf' ht hc))
    | sortie hp' hf' => exact .inr (.inl rfl)
    | _ => simp_all
  | touche hp =>
    cases hs' with
    | touche hp' => exact .inr (.inl rfl)
    | _ => simp_all
  | manche hp he ht =>
    cases hs' with
    | manche hp' he' ht' =>
      rw [ht, Option.some.injEq] at ht'
      subst ht'
      exact .inr (.inl rfl)
    | fin hp' he' => exact absurd he' he
    | _ => simp_all
  | fin hp he =>
    cases hs' with
    | fin hp' he' => exact .inr (.inl rfl)
    | manche hp' he' => exact absurd he he'
    | _ => simp_all
  | verdict hp hi hq =>
    cases hs' with
    | verdict hp' hi' hq' =>
      rw [hq, Option.some.injEq, Prod.mk.injEq] at hq'
      obtain ⟨rfl, rfl⟩ := hq'
      exact .inr (.inl rfl)
    | _ => simp_all

theorem agir_interne (h : agir e = .interne) : e = .quiet := by
  cases e with
  | quiet => rfl
  | _ => cases h

theorem agir_envoie (h : agir e = .envoie i m) : e = .send i m := by
  cases e with
  | send =>
    simp only [agir, Action.envoie.injEq] at h
    obtain ⟨rfl, rfl⟩ := h
    rfl
  | _ => cases h

theorem agir_prend (h : agir e = .prend i m) : e = .recv i m := by
  cases e with
  | recv =>
    simp only [agir, Action.prend.injEq] at h
    obtain ⟨rfl, rfl⟩ := h
    rfl
  | _ => cases h

theorem pasSuivi_determine (hg₀ : Lancement g₀) : Deterministic (PasSuivi g₀) where
  quiet := by
    rintro p e t u ⟨hsuit, hs⟩ ⟨-, hs'⟩
    cases e with
    | quiet =>
      rcases hs.interne_unique hg₀ hsuit hs' with h | h
      · exact .inl h
      · exact .inr ⟨rfl, h⟩
    | send i q => cases (hs'.envoie_unique hg₀ hsuit hs).1
    | recv i q =>
      rcases hs'.prend_unique hg₀ hsuit hs with ⟨q', ha, -⟩ | ⟨-, h⟩
      · cases ha
      · exact .inl h
  send := by
    rintro p i q e t u ⟨hsuit, hs⟩ ⟨-, hs'⟩
    obtain ⟨ha, h⟩ := hs.envoie_unique hg₀ hsuit hs'
    exact .inl ⟨agir_envoie ha, h⟩
  recv := by
    rintro p i q e t u ⟨hsuit, hs⟩ ⟨-, hs'⟩
    rcases hs.prend_unique hg₀ hsuit hs' with ⟨q', ha, h⟩ | ⟨ha, h⟩
    · exact .inl ⟨q', agir_prend ha, h⟩
    · exact .inr ⟨agir_interne ha, h⟩

theorem Pas.verdicts_prefixe {bs : List Action} (h : Trace Pas p bs t) : p.verdicts <+: t.verdicts := by
  refine h.invariant (fun _ t => p.verdicts <+: t.verdicts) (List.prefix_refl _) fun _ t _ u _ ih hs => ?_
  rcases hs.verdicts with he | ⟨he, -⟩
  · rw [he]
    exact ih
  · rw [he]
    exact ih.trans (List.prefix_append _ _)

theorem PasSuivi.trace {es : List (Act Nat Requete)} (h : Trace (PasSuivi g₀) p es t) : ∃ bs, Trace Pas p bs t := by
  induction h with
  | nil => exact ⟨[], .nil⟩
  | snoc _ hs ih =>
    obtain ⟨bs, h⟩ := ih
    exact ⟨_, h.snoc hs.2⟩

end Serveur

def Action.acte : Action → Option (Act Nat Requete)
  | .serveur .interne => some .quiet
  | .serveur (.envoie i q) => some (.send i q)
  | .serveur (.prend i q) => some (.recv i q)
  | .client _ _ => none

def Action.emise (i : Nat) : Action → Option Requete
  | .client k (.envoie q) => if k = i then some q else none
  | _ => none

def actes (es : List Action) : List (Act Nat Requete) := es.filterMap Action.acte

-- what player i has answered, read by the server or not
def emises (i : Nat) (es : List Action) : List Requete := es.filterMap (Action.emise i)

variable {g₀ : Serveur.GameT} {s₀ s s' : Etat} {es es' : List Action}

theorem Invariant.suit (h : Invariant g₀ s) : Suit g₀ s.serveur := by
  rcases h with h | h
  · exact .inl ⟨_, h.serveur⟩
  · exact .inr h.serveur

theorem actes_snoc (es : List Action) (a : Action) : actes (es ++ [a]) = actes es ++ a.acte.toList := by
  rw [actes, List.filterMap_append]
  cases h : a.acte with
  | none => simp [actes, h]
  | some e => simp [actes, h]

theorem emises_snoc (i : Nat) (es : List Action) (a : Action) :
    emises i (es ++ [a]) = emises i es ++ (a.emise i).toList := by
  rw [emises, List.filterMap_append]
  cases h : a.emise i with
  | none => simp [emises, h]
  | some e => simp [emises, h]

theorem Etape.acte {n : Int} {a : Action} (hs : Etape n s a s') (h : Suit g₀ s.serveur) :
    a.acte = none ∧ s'.serveur = s.serveur ∨ ∃ e, a.acte = some e ∧ PasSuivi g₀ s.serveur e s'.serveur := by
  cases hs with
  | serveurPrend hs => exact .inr ⟨_, rfl, h, hs⟩
  | serveurEnvoie hs => exact .inr ⟨_, rfl, h, hs⟩
  | serveurInterne hs => exact .inr ⟨_, rfl, h, hs⟩
  | clientPrend => exact .inl ⟨rfl, rfl⟩
  | clientEnvoie => exact .inl ⟨rfl, rfl⟩
  | clientInterne => exact .inl ⟨rfl, rfl⟩

theorem Etape.file {n : Int} {a : Action} (hs : Etape n s a s') (i : Nat) :
    inputs i a.acte.toList ++ s'.versServeur i = s.versServeur i ++ (a.emise i).toList := by
  cases hs with
  | @serveurPrend p k q reste hs hc =>
    by_cases hki : k = i
    · subst hki
      simp [Action.acte, Action.emise, inputs, Act.input, hc]
    · simp [Action.acte, Action.emise, inputs, Act.input, hki, Function.update_of_ne (Ne.symm hki)]
  | @clientEnvoie c k q hk hs =>
    by_cases hki : k = i
    · subst hki
      simp [Action.acte, Action.emise, inputs]
    · simp [Action.acte, Action.emise, inputs, hki, Function.update_of_ne (Ne.symm hki)]
  | _ => simp [Action.acte, Action.emise, inputs, Act.input]

structure Joue (g₀ : Serveur.GameT) (s₀ : Etat) (es : List Action) (s : Etat) : Prop where
  invariant : Invariant g₀ s
  serveur : Trace (PasSuivi g₀) s₀.serveur (actes es) s.serveur
  file : ∀ i, inputs i (actes es) ++ s.versServeur i = emises i es

theorem Joue.trace (hg₀ : Lancement g₀) (h₀ : Debut g₀ s₀) (h : Trace (Etape g₀.nbJoueur) s₀ es s) :
    Joue g₀ s₀ es s := by
  refine h.invariant (fun es s => Joue g₀ s₀ es s) ⟨.inl (h₀.accord hg₀), .nil, fun i => h₀.versServeur i⟩ ?_
  rintro es t a u - ⟨hinv, hserv, hfile⟩ hs
  refine ⟨hinv.etape hg₀ hs, ?_, fun i => ?_⟩
  · rw [actes_snoc]
    rcases hs.acte hinv.suit with ⟨ha, he⟩ | ⟨e, ha, he⟩
    · rw [ha, he, Option.toList_none, List.append_nil]
      exact hserv
    · rw [ha, Option.toList_some]
      exact hserv.snoc he
  · rw [emises_snoc, actes_snoc, inputs, List.filterMap_append, List.append_assoc, ← hfile i, List.append_assoc]
    exact congrArg (_ ++ ·) (hs.file i)

-- the run from s is one that ends in s', cut short
structure Poursuit (s : Etat) (es : List Action) (s' : Etat) (es' : List Action) : Prop where
  serveur : ∃ bs, Trace Serveur.Pas s.serveur bs s'.serveur
  echanges : visible (actes es) <+: visible (actes es')
  verdicts : s.serveur.verdicts <+: s'.serveur.verdicts

theorem poursuit {gs : List (Act Nat Requete)} (h : Trace (PasSuivi g₀) s.serveur gs s'.serveur)
    (hv : visible (actes es') = visible (actes es) ++ visible gs) : Poursuit s es s' es' := by
  obtain ⟨bs, hbs⟩ := PasSuivi.trace h
  exact ⟨⟨bs, hbs⟩, ⟨_, hv.symm⟩, Pas.verdicts_prefixe hbs⟩

theorem Joue.recues {i : Nat} (h : Joue g₀ s₀ es s) : inputs i (actes es) <+: emises i es := ⟨_, h.file i⟩

theorem issue_determinee (g₀ : Serveur.GameT) (hg₀ : Lancement g₀) (s₀ s₀' : Etat) (h₀ : Debut g₀ s₀)
    (h₀' : Debut g₀ s₀') (es es' : List Action) (s s' : Etat) (h : Trace (Etape g₀.nbJoueur) s₀ es s)
    (h' : Trace (Etape g₀.nbJoueur) s₀' es' s') (hc : ∀ i, Comparable (emises i es) (emises i es')) :
    Poursuit s es s' es' ∨ Poursuit s' es' s es := by
  have hj := Joue.trace hg₀ h₀ h
  have hj' := Joue.trace hg₀ h₀' h'
  have hserv := hj'.serveur
  rw [h₀'.serveur, ← h₀.serveur] at hserv
  have hin (i : Nat) : Comparable (inputs i (actes es)) (inputs i (actes es')) := by
    rcases hc i with hp | hp
    · exact List.prefix_or_prefix_of_prefix (hj.recues.trans hp) hj'.recues
    · exact List.prefix_or_prefix_of_prefix hj.recues (hj'.recues.trans hp)
  rcases determinate (pasSuivi_determine hg₀) hj.serveur hserv hin with ⟨gs, hgs, hv⟩ | ⟨gs, hgs, hv⟩
  · exact .inl (poursuit hgs hv)
  · exact .inr (poursuit hgs hv)

def reponseEnRoute : List Action :=
  [.serveur (.envoie 0 (requeteInfos (GameT.depart 2 4 2))), .client 1 (.prend accuseOk), .client 0 (.prend accuseOk),
    .client 0 (.prend (requeteInfos (GameT.depart 2 4 2))), .client 0 (.envoie Client.accuse)]

def reponseLue : List Action :=
  [.client 0 (.prend accuseOk), .serveur (.envoie 0 (requeteInfos (GameT.depart 2 4 2))),
    .client 0 (.prend (requeteInfos (GameT.depart 2 4 2))), .client 0 (.envoie Client.accuse),
    .serveur (.prend 0 Client.accuse), .client 1 (.prend accuseOk)]

theorem issue_determinee_infos : ∃ s s', Trace (Etape 2) (.depart (GameT.depart 2 4 2)) reponseEnRoute s ∧
    Trace (Etape 2) (.depart (GameT.depart 2 4 2)) reponseLue s' ∧ s.serveur.point = .accuse .infos 0 ∧
    s'.serveur.point = .envoi .infos 1 ∧ Poursuit s reponseEnRoute s' reponseLue := by
  obtain ⟨r, hr⟩ := Client.Lire.existe accuseOk
  obtain ⟨r', hr'⟩ := Client.Lire.existe (requeteInfos (GameT.depart 2 4 2))
  obtain ⟨t, ht, hregle⟩ := hr'.infos depart_deux
  obtain ⟨g, hg, -⟩ := Client.initPlateau_spec (hregle Client.Poste.depart.game) depart_deux
  have h₀ : Trace (Etape 2) (.depart (GameT.depart 2 4 2)) [] _ := .nil
  have h₁ := h₀.snoc (show Etape 2 _ (.serveur (.envoie 0 (requeteInfos (GameT.depart 2 4 2)))) _ from
    .serveurEnvoie (.envoi rfl (by decide) rfl))
  have h₂ := h₁.snoc (show Etape 2 _ (.client 1 (.prend accuseOk)) _ from
    .clientPrend (by decide) (.inscription rfl hr hr.id) rfl)
  have h₃ := h₂.snoc (show Etape 2 _ (.client 0 (.prend accuseOk)) _ from
    .clientPrend (by decide) (.inscription rfl hr hr.id) rfl)
  have h₄ := h₃.snoc (show Etape 2 _ (.client 0 (.prend (requeteInfos (GameT.depart 2 4 2)))) _ from
    .clientPrend (by decide) (.attentePartie rfl hr' hr'.id) rfl)
  have h := h₄.snoc (show Etape 2 _ (.client 0 (.envoie Client.accuse)) _ from
    .clientEnvoie (by decide) (.accuseInfos rfl ht hg))
  have h₁' := h₀.snoc (show Etape 2 _ (.client 0 (.prend accuseOk)) _ from
    .clientPrend (by decide) (.inscription rfl hr hr.id) rfl)
  have h₂' := h₁'.snoc (show Etape 2 _ (.serveur (.envoie 0 (requeteInfos (GameT.depart 2 4 2)))) _ from
    .serveurEnvoie (.envoi rfl (by decide) rfl))
  have h₃' := h₂'.snoc (show Etape 2 _ (.client 0 (.prend (requeteInfos (GameT.depart 2 4 2)))) _ from
    .clientPrend (by decide) (.attentePartie rfl hr' hr'.id) rfl)
  have h₄' := h₃'.snoc (show Etape 2 _ (.client 0 (.envoie Client.accuse)) _ from
    .clientEnvoie (by decide) (.accuseInfos rfl ht hg))
  have h₅' := h₄'.snoc (show Etape 2 _ (.serveur (.prend 0 Client.accuse)) _ from
    .serveurPrend (.accuse Client.accuse rfl) rfl)
  have h' := h₅'.snoc (show Etape 2 _ (.client 1 (.prend accuseOk)) _ from
    .clientPrend (by decide) (.inscription rfl hr hr.id) rfl)
  have hd := Etat.depart_debut (GameT.depart 2 4 2)
  refine ⟨_, _, h, h', rfl, rfl, ?_⟩
  rcases issue_determinee _ depart_deux _ _ hd hd reponseEnRoute reponseLue _ _ h h' fun i => .inl (List.prefix_refl _)
    with hp | hp
  · exact hp
  · exact absurd hp.echanges.length_le (show ¬ 2 ≤ 1 by decide)

end Bnbr
