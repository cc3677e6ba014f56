import Mathlib.Logic.Function.Basic
import Mathlib.Logic.Relation
import Bnbr.Regulier

namespace Bnbr

open Sessions

structure Etat where
  serveur : Serveur.Poste
  clients : Nat → Client.Poste
  versClient : Nat → List Requete
  versServeur : Nat → List Requete

inductive Action
  | serveur (a : Serveur.Action)
  | client (i : Nat) (a : Client.Action)

-- a read takes one whole request and a write never fails: what a closed connection gives is no step here
inductive Etape (n : Int) : Etat → Action → Etat → Prop
  | serveurPrend {s : Etat} {p : Serveur.Poste} {i : Nat} {q : Requete} {reste : List Requete}
      (hs : Serveur.Pas s.serveur (.prend i q) p) (hc : s.versServeur i = q :: reste) :
      Etape n s (.serveur (.prend i q))
        { s with serveur := p, versServeur := Function.update s.versServeur i reste }
  | serveurEnvoie {s : Etat} {p : Serveur.Poste} {i : Nat} {q : Requete}
      (hs : Serveur.Pas s.serveur (.envoie i q) p) :
      Etape n s (.serveur (.envoie i q))
        { s with serveur := p, versClient := Function.update s.versClient i (s.versClient i ++ [q]) }
  | serveurInterne {s : Etat} {p : Serveur.Poste} (hs : Serveur.Pas s.serveur .interne p) :
      Etape n s (.serveur .interne) { s with serveur := p }
  | clientPrend {s : Etat} {c : Client.Poste} {i : Nat} {q : Requete} {reste : List Requete} (hi : (i : Int) < n)
      (hs : Client.Pas (s.clients i) (.prend q) c) (hc : s.versClient i = q :: reste) :
      Etape n s (.client i (.prend q))
        { s with
          clients := Function.update s.clients i c
          versClient := Function.update s.versClient i reste }
  | clientEnvoie {s : Etat} {c : Client.Poste} {i : Nat} {q : Requete} (hi : (i : Int) < n)
      (hs : Client.Pas (s.clients i) (.envoie q) c) :
      Etape n s (.client i (.envoie q))
        { s with
          clients := Function.update s.clients i c
          versServeur := Function.update s.versServeur i (s.versServeur i ++ [q]) }
  | clientInterne {s : Etat} {c : Client.Poste} {i : Nat} (hi : (i : Int) < n)
      (hs : Client.Pas (s.clients i) .interne c) :
      Etape n s (.client i .interne) { s with clients := Function.update s.clients i c }

def Run (n : Int) : Etat → Etat → Prop := Relation.ReflTransGen fun s s' => ∃ a, Etape n s a s'

structure Debut (g₀ : Serveur.GameT) (s : Etat) : Prop where
  serveur : s.serveur = ⟨.envoi .infos 0, g₀, 0, [], false, false⟩
  versServeur : ∀ i, s.versServeur i = []
  -- the registration ack of attente_joueur may still be on its way
  clients : ∀ i : Nat, (i : Int) < g₀.nbJoueur → (s.clients i).manche = 0 ∧
    ((s.clients i).point = .inscription ∧ s.versClient i = [Serveur.accuseOk] ∨
      (s.clients i).point = .attentePartie ∧ s.versClient i = [])

def Atteignable (g₀ : Serveur.GameT) (s : Etat) : Prop := ∃ s₀, Debut g₀ s₀ ∧ Run g₀.nbJoueur s₀ s

variable {g₀ : Serveur.GameT} {s s' : Etat} {i : Nat} {a : Action}

theorem Etape.serveur {n : Int} (h : Etape n s a s') :
    s'.serveur = s.serveur ∨ ∃ b, Serveur.Pas s.serveur b s'.serveur := by
  cases h with
  | serveurPrend hs => exact .inr ⟨_, hs⟩
  | serveurEnvoie hs => exact .inr ⟨_, hs⟩
  | serveurInterne hs => exact .inr ⟨_, hs⟩
  | clientPrend => exact .inl rfl
  | clientEnvoie => exact .inl rfl
  | clientInterne => exact .inl rfl

theorem Etape.verdicts {n : Int} (h : Etape n s a s') : s'.serveur.verdicts = s.serveur.verdicts ∨
    s'.serveur.verdicts = s.serveur.verdicts ++ [s.serveur.game] ∧ ∃ i, s.serveur.point = .tir i := by
  rcases h.serveur with he | ⟨b, hb⟩
  · exact .inl (congrArg _ he)
  · exact hb.verdicts

theorem Run.verdicts {n : Int} (h : Run n s s') : Prolonge s.serveur.verdicts s'.serveur.verdicts := by
  induction h with
  | refl => exact .refl _
  | tail _ hs ih =>
    obtain ⟨a, hs⟩ := hs
    rcases hs.verdicts with he | ⟨he, -⟩
    · rw [he]
      exact ih
    · rw [he]
      exact fun k g hk => Prolonge.append _ _ k g (ih k g hk)

structure Lie (g₀ : Serveur.GameT) (s : Etat) (i : Nat) : Prop where
  sync : (contrat g₀ s.serveur.verdicts i (s.clients i)).Sync (s.serveur.moment i) (s.clients i).moment
    (s.versClient i) (s.versServeur i)
  loyal : Client.Loyal g₀ s.serveur.verdicts i (s.clients i)

structure Accord (g₀ : Serveur.GameT) (s : Etat) : Prop where
  depasse : s.serveur.depasse = false
  serveur : Serveur.Regulier g₀ s.clients s.serveur
  joueurs : ∀ i : Nat, (i : Int) < g₀.nbJoueur → Lie g₀ s i

structure Epilogue (g₀ : Serveur.GameT) (s : Etat) : Prop where
  depasse : s.serveur.depasse = true
  serveur : ∃ t, s.serveur.point = .envoi (.plateau t) 0 ∨ s.serveur.point = .accuse (.plateau t) 0
  nbJoueur : s.serveur.game.nbJoueur = g₀.nbJoueur
  joueurs : ∀ i : Nat, (i : Int) < g₀.nbJoueur → (s.clients i).point = .fini ∧ s.versServeur i = [] ∧
    Client.Loyal g₀ s.serveur.verdicts i (s.clients i)

def Invariant (g₀ : Serveur.GameT) (s : Etat) : Prop := Accord g₀ s ∨ Epilogue g₀ s

theorem Serveur.AvantPartie.descend {p : Serveur.Poste} (h : Serveur.AvantPartie p) : Descend p.verdicts := by
  rw [h.verdicts]
  exact fun _ _ _ _ _ ha => by simp at ha

theorem Serveur.Boucle.Reguliere.descend {p : Serveur.Poste} {b : Serveur.Boucle} {envoye : Prop}
    (h : b.Reguliere g₀ p envoye) : Descend p.verdicts := by
  cases b with
  | infos => exact (show Serveur.Lobby g₀ p from h).descend
  | plateau t => exact (show Serveur.EnManche g₀ p from h).descend.init
  | go => exact (show Serveur.EnManche g₀ p from h).descend.init
  | etat f => exact (show Serveur.EnVerdict g₀ p f envoye from h).descend.init

theorem Serveur.Regulier.descend {cl : Nat → Client.Poste} {p : Serveur.Poste} (h : Serveur.Regulier g₀ cl p) :
    Descend p.verdicts := by
  unfold Serveur.Regulier at h
  split at h
  · exact h.1.descend
  · exact h.1.descend
  · exact h.1.descend
  · exact h.descend
  · exact h.1.descend
  · exact h.descend.init
  · exact h.descend.init
  · exact h.1.descend.init
  · exact h.1.descend.init
  · exact h.1.descend.init

theorem Debut.accord (hg₀ : Lancement g₀) (h : Debut g₀ s) : Accord g₀ s := by
  have h1 := hg₀.registres.joueurs
  refine ⟨by rw [h.serveur], ?_, fun i hi => ?_⟩
  · rw [h.serveur]
    exact ⟨⟨⟨rfl, rfl, rfl⟩, rfl⟩, by omega⟩
  · have hm : s.serveur.moment i = .infos := by
      rw [h.serveur]
      exact passage_zero
    obtain ⟨hman, ⟨hp, hv⟩ | ⟨hp, hv⟩⟩ := h.clients i hi
    · refine ⟨?_, by simp only [Client.Loyal, hp, hman]⟩
      rw [hm, h.versServeur i, hv]
      simp only [Client.Poste.moment, hp]
      exact .avance (.cons ⟨rfl, rfl⟩ (.nil _))
    · refine ⟨?_, by simp only [Client.Loyal, hp, hman]⟩
      rw [hm, h.versServeur i, hv]
      simp only [Client.Poste.moment, hp]
      exact .avance (.nil _)

theorem Accord.effet {p : Serveur.Poste} {vc vs : Nat → List Requete} (h : Accord g₀ s)
    (he : Serveur.Effet g₀ s.clients s.serveur i p)
    (hsync : (contrat g₀ s.serveur.verdicts i (s.clients i)).Sync (s.serveur.moment i).suivant (s.clients i).moment
      (vc i) (vs i))
    (hautres : ∀ k, k ≠ i → vc k = s.versClient k ∧ vs k = s.versServeur k) :
    Accord g₀ ⟨p, s.clients, vc, vs⟩ := by
  refine ⟨he.depasse.trans h.depasse, he.regulier, fun k hk => ⟨?_, ?_⟩⟩
  · simp only [he.verdicts]
    by_cases hki : k = i
    · subst hki
      rw [he.moment]
      exact hsync
    · rw [he.autres k hki, (hautres k hki).1, (hautres k hki).2]
      exact (h.joueurs k hk).sync
  · simp only [he.verdicts]
    exact (h.joueurs k hk).loyal

theorem garde_update (cl : Nat → Client.Poste) {c : Client.Poste} (h : (cl i).Garde c) (k : Nat) :
    (cl k).Garde (Function.update cl i c k) := by
  by_cases hki : k = i
  · subst hki
    rwa [Function.update_self]
  · rw [Function.update_of_ne hki]
    exact .refl _

theorem Accord.client {c : Client.Poste} {vc vs : Nat → List Requete} (h : Accord g₀ s)
    (hgarde : (s.clients i).Garde c) (hloyal : Client.Loyal g₀ s.serveur.verdicts i c)
    (hsync : (contrat g₀ s.serveur.verdicts i c).Sync (s.serveur.moment i) c.moment (vc i) (vs i))
    (hautres : ∀ k, k ≠ i → vc k = s.versClient k ∧ vs k = s.versServeur k) :
    Accord g₀ ⟨s.serveur, Function.update s.clients i c, vc, vs⟩ := by
  refine ⟨h.depasse, h.serveur.garde (garde_update s.clients hgarde), fun k hk => ?_⟩
  by_cases hki : k = i
  · subst hki
    refine ⟨?_, ?_⟩
    · simp only [Function.update_self]
      exact hsync
    · simp only [Function.update_self]
      exact hloyal
  · refine ⟨?_, ?_⟩
    · simp only [Function.update_of_ne hki, (hautres k hki).1, (hautres k hki).2]
      exact (h.joueurs k hk).sync
    · simp only [Function.update_of_ne hki]
      exact (h.joueurs k hk).loyal

theorem plateau_precede {m : Nat} {k : Moment} (h : k.suivant = .plateau (m + 1)) : k.sens = .retour := by
  cases k with
  | accuseEtat m => rfl
  | _ => simp [Moment.suivant] at h

theorem Lie.fini {k : Nat} {g : Serveur.GameT} (h : Lie g₀ s i) (hm : s.serveur.moment i = .plateau (k + 1))
    (hg : s.serveur.verdicts[k]? = some g) (h1 : Serveur.nbAFlot g ≤ 1) :
    (s.clients i).point = .fini ∧ s.versServeur i = [] := by
  have hsync := h.sync
  rw [hm] at hsync
  obtain ⟨hc, -, hb⟩ := hsync.rattrape rfl fun _ => plateau_precede
  refine ⟨?_, hb⟩
  have hl := h.loyal
  have hterm {e : EtatPartie} (hs : Statut s.serveur.verdicts i (k + 1) e) : Termine e := by
    rcases hs with ⟨h0, -⟩ | ⟨k', g', hk, hg', rfl⟩
    · omega
    · obtain rfl : k = k' := by omega
      rw [hg, Option.some.injEq] at hg'
      subst hg'
      unfold classe
      split_ifs <;> first | exact .inl rfl | exact .inr rfl | omega
  cases hp : (s.clients i).point with
  | fini => rfl
  | plateau =>
    simp only [Client.Poste.moment, hp, Moment.plateau.injEq] at hc
    simp only [Client.Loyal, hp] at hl
    exact absurd (hterm (hc ▸ hl.1.statut)) hl.2
  | _ => simp [Client.Poste.moment, hp] at hc

theorem Accord.interne {p : Serveur.Poste} (h : Accord g₀ s) (hs : Serveur.Pas s.serveur .interne p)
    (hc : Serveur.Calme g₀ s.clients s.serveur p) : Invariant g₀ { s with serveur := p } := by
  rcases hc.suite with ⟨hd, hr⟩ | ⟨hp, hf, hd, hv⟩
  · refine .inl ⟨hd.trans h.depasse, hr, fun k hk => ?_⟩
    obtain ⟨hsync, hloyal⟩ := h.joueurs k hk
    refine ⟨?_, hloyal.prolonge hc.verdicts⟩
    simp only [hc.moment k hk]
    exact contrat_mono hsync hc.verdicts (.refl _)
  · -- a round starts although the game has been won: every client has left
    have hreg := h.serveur
    simp only [Serveur.Regulier, hp] at hreg
    obtain ⟨k, g, hk, hg, h1⟩ := hreg.fin hf
    obtain ⟨-, t, hpt, hgame⟩ | ⟨-, hdep⟩ := hs.deBoucle hp
    · refine .inr ⟨hd, ⟨t, .inl hpt⟩, by rw [hgame]; exact hreg.regles.nbJoueur, fun i hi => ?_⟩
      have hm : s.serveur.moment i = .plateau (k + 1) := by simp only [Serveur.Poste.moment, hp, hk]
      obtain ⟨hfini, hvide⟩ := (h.joueurs i hi).fini hm hg h1
      exact ⟨hfini, hvide, hv ▸ (h.joueurs i hi).loyal⟩
    · rw [hdep, h.depasse] at hd
      cases hd

theorem Accord.etape (hg₀ : Lancement g₀) (h : Accord g₀ s) (hs : Etape g₀.nbJoueur s a s') : Invariant g₀ s' := by
  have hd := h.serveur.descend
  cases hs with
  | @serveurPrend p i q reste hs hc =>
    obtain ⟨hsync, -⟩ := h.joueurs i (hs.prend_joueur h.serveur)
    rw [hc] at hsync
    obtain ⟨hperm, hsync⟩ := hsync.lecture
    refine .inl (h.effet (hs.prend_regulier h.serveur hperm) ?_ fun k hk => ⟨rfl, Function.update_of_ne hk _ _⟩)
    rw [Function.update_self]
    exact hsync
  | @serveurEnvoie p i q hs =>
    obtain ⟨heffet, hperm⟩ := hs.envoie_regulier hg₀ h.serveur
    refine .inl (h.effet heffet ?_ fun k hk => ⟨Function.update_of_ne hk _ _, rfl⟩)
    rw [Function.update_self]
    exact (h.joueurs i heffet.joueur).sync.envoi hperm
  | serveurInterne hs => exact h.interne hs (hs.interne_regulier hg₀ h.serveur)
  | @clientPrend c i q reste hi hs hc =>
    obtain ⟨hsync, hloyal⟩ := h.joueurs i hi
    rw [hc] at hsync
    obtain ⟨hperm, hsync⟩ := hsync.reception
    obtain ⟨hloyal', hm, hgarde⟩ := hs.prend_loyal hg₀ hd hloyal hperm
    refine .inl (h.client hgarde hloyal' ?_ fun k hk => ⟨Function.update_of_ne hk _ _, rfl⟩)
    rw [hm, Function.update_self]
    exact contrat_mono hsync (.refl _) hgarde
  | @clientEnvoie c i q hi hs =>
    obtain ⟨hsync, hloyal⟩ := h.joueurs i hi
    obtain ⟨hloyal', hm, hgarde, hperm⟩ := hs.envoie_loyal hg₀ hloyal
    refine .inl (h.client hgarde hloyal' ?_ fun k hk => ⟨rfl, Function.update_of_ne hk _ _⟩)
    rw [hm, Function.update_self]
    exact (contrat_mono hsync (.refl _) hgarde).reponse hperm
  | @clientInterne c i hi hs =>
    obtain ⟨hsync, hloyal⟩ := h.joueurs i hi
    obtain ⟨hloyal', hm, hgarde⟩ := hs.interne_loyal hg₀ hloyal
    refine .inl (h.client hgarde hloyal' ?_ fun k hk => ⟨rfl, rfl⟩)
    rw [hm]
    exact contrat_mono hsync (.refl _) hgarde

theorem Client.Pas.nonFini {c c' : Client.Poste} {a : Client.Action} (h : Client.Pas c a c') : c.point ≠ .fini := by
  intro hp
  cases h with
  | erreur hr => simp [hp, Client.Point.recoit] at hr
  | _ => simp_all

-- one player left or none, the server knows only the start of the next round
theorem Serveur.Pas.epilogue {p p' : Serveur.Poste} {a : Serveur.Action} {t : List Char} (h : Serveur.Pas p a p')
    (hp : p.point = .envoi (.plateau t) 0 ∨ p.point = .accuse (.plateau t) 0) (hn : 0 < p.game.nbJoueur) :
    (∃ q, a = .envoie 0 q ∧ p'.point = .accuse (.plateau t) 0 ∧ p'.game = p.game ∧ p'.depasse = p.depasse ∧
      p'.verdicts = p.verdicts) ∨ ∃ q, a = .prend 0 q := by
  rcases hp with hp | hp
  · cases h with
    | envoi hp' _ _ =>
      rw [hp, Serveur.Point.envoi.injEq] at hp'
      obtain ⟨rfl, rfl⟩ := hp'
      exact .inl ⟨_, rfl, rfl, rfl, rfl, rfl⟩
    | suite hp' hi =>
      rw [hp, Serveur.Point.envoi.injEq] at hp'
      obtain ⟨-, rfl⟩ := hp'
      exact absurd hn hi
    | _ => simp_all
  · cases h with
    | accuse q hp' =>
      rw [hp, Serveur.Point.accuse.injEq] at hp'
      obtain ⟨-, rfl⟩ := hp'
      exact .inr ⟨q, rfl⟩
    | _ => simp_all

theorem Epilogue.etape (hg₀ : Lancement g₀) (h : Epilogue g₀ s) (hs : Etape g₀.nbJoueur s a s') :
    Epilogue g₀ s' ∧ s'.serveur.game = s.serveur.game ∧ s'.clients = s.clients := by
  have h1 := hg₀.registres.joueurs
  have hn := h.nbJoueur
  obtain ⟨t, ht⟩ := h.serveur
  cases hs with
  | serveurPrend hs hc =>
    rcases hs.epilogue ht (by omega) with ⟨q, ha, -⟩ | ⟨q, ha⟩
    · cases ha
    · cases ha
      rw [(h.joueurs 0 (by omega)).2.1] at hc
      cases hc
  | serveurEnvoie hs =>
    rcases hs.epilogue ht (by omega) with ⟨q, -, hp, hgame, hd, hv⟩ | ⟨q, ha⟩
    · refine ⟨⟨hd.trans h.depasse, ⟨t, .inr hp⟩, ?_, fun i hi => ?_⟩, hgame, rfl⟩
      · simp only [hgame, hn]
      · simp only [hv]
        exact h.joueurs i hi
    · cases ha
  | serveurInterne hs =>
    rcases hs.epilogue ht (by omega) with ⟨q, ha, -⟩ | ⟨q, ha⟩
    · cases ha
    · cases ha
  | clientPrend hi hs => exact absurd (h.joueurs _ hi).1 hs.nonFini
  | clientEnvoie hi hs => exact absurd (h.joueurs _ hi).1 hs.nonFini
  | clientInterne hi hs => exact absurd (h.joueurs _ hi).1 hs.nonFini

theorem Invariant.etape (hg₀ : Lancement g₀) (h : Invariant g₀ s) (hs : Etape g₀.nbJoueur s a s') :
    Invariant g₀ s' := by
  rcases h with h | h
  · exact h.etape hg₀ hs
  · exact .inr (h.etape hg₀ hs).1

theorem Invariant.run (hg₀ : Lancement g₀) (h : Invariant g₀ s) (hr : Run g₀.nbJoueur s s') : Invariant g₀ s' := by
  induction hr with
  | refl => exact h
  | tail _ hs ih =>
    obtain ⟨a, hs⟩ := hs
    exact ih.etape hg₀ hs

theorem Atteignable.invariant (hg₀ : Lancement g₀) (h : Atteignable g₀ s) : Invariant g₀ s := by
  obtain ⟨s₀, h₀, hr⟩ := h
  exact (Invariant.run hg₀ (.inl (h₀.accord hg₀)) hr)

end Bnbr
