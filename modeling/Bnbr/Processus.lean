import Bnbr.Reglages
import Bnbr.Remplissage
import Bnbr.Terminaison

namespace Bnbr

open CArray CString Decimal Sessions Serveur Runs

-- the server writes to player i, or reads when nothing is left to read
def Etat.Coupure (s : Etat) (i : Nat) : Prop :=
  (∃ q p, Serveur.Pas s.serveur (.envoie i q) p) ∨
    s.versServeur i = [] ∧ ∃ q p, Serveur.Pas s.serveur (.prend i q) p

-- main of the server and what it calls, with the clients of each game; the game that lancement_partie
-- starts from is kept beside the state of the game
inductive Processus
  | accueil (choix : Int)
  | parametrage (p : Parametrage)
  | attente (p : Parametrage) (a : Arrivee)
  | partie (p : Parametrage) (g₀ : Serveur.GameT) (s : Etat)
  | coupee (p : Parametrage) (g₀ : Serveur.GameT) (s : Etat)
  | quitte
  | arret

namespace Processus

inductive Evenement
  | touche (t : Touche)
  | ouvre (memoire : MemoireT)
  | attend
  | echec
  | attente (a : Arrivee.Action)
  | lance (horsEnum : Int → Status) (postes : Nat → Client.Poste)
  | partie (a : Bnbr.Action)
  | coupure (i : Nat)
  | retour

def afficher (choix : Int) : Int := if choix = 0 then choix else if choix = 1 then choix else 0

def deplacer (choix : Int) : Touche → Int
  | .haut => if choix = 1 then choix - 1 else choix
  | .bas => if choix = 0 then choix + 1 else choix
  | _ => choix

inductive Pas : Processus → Evenement → Processus → Prop
  -- menu_accueil
  | accueil {choix : Int} {t : Touche} (ht : t ≠ .entree) :
      Pas (.accueil choix) (.touche t) (.accueil (deplacer (afficher choix) t))
  | ouvre {choix : Int} (memoire : MemoireT) (hc : afficher choix = 0) :
      Pas (.accueil choix) (.ouvre memoire) (.parametrage ⟨0, initGame memoire⟩)
  | quitte {choix : Int} (hc : afficher choix = 1) : Pas (.accueil choix) (.touche .entree) .quitte
  -- menu_parametrage_game
  | regle {p p' : Parametrage} {t : Touche} (ht : t ≠ .entree) (h : p.touche t = some p') :
      Pas (.parametrage p) (.touche t) (.parametrage p')
  | revient {p : Parametrage} {t : Touche} (h : p.touche t = none) : Pas (.parametrage p) (.touche t) (.accueil 0)
  | attend {p : Parametrage} : Pas (.parametrage p) .attend (.attente p (Arrivee.debut p.game))
  -- no socket to listen on, or no shared memory
  | echec {p : Parametrage} : Pas (.parametrage p) .echec .arret
  -- attente_joueur
  | attente {p : Parametrage} {s s' : Arrivee} {a : Arrivee.Action} (hs : Arrivee.Etape s a s') :
      Pas (.attente p s) (.attente a) (.attente p s')
  | lance {p : Parametrage} {s : Arrivee} (horsEnum : Int → Status) (postes : Nat → Client.Poste)
      (hl : s.salon.point = .lancement) :
      Pas (.attente p s) (.lance horsEnum postes) (.partie p (s.salon.memoire.game horsEnum) (s.partie horsEnum postes))
  -- lancement_partie
  | partie {p : Parametrage} {g₀ : Serveur.GameT} {s s' : Etat} {a : Bnbr.Action} (hs : Etape g₀.nbJoueur s a s') :
      Pas (.partie p g₀ s) (.partie a) (.partie p g₀ s')
  -- a client that has left closes its connection, and the server uses it: from there on its reads find the
  -- end of file and its writes fail, and the run is not followed any further
  | coupure {p : Parametrage} {g₀ : Serveur.GameT} {s : Etat} {i : Nat} (hi : (i : Int) < g₀.nbJoueur)
      (hf : (s.clients i).point = .fini) (hc : s.Coupure i) : Pas (.partie p g₀ s) (.coupure i) (.coupee p g₀ s)
  | retour {p : Parametrage} {g₀ : Serveur.GameT} {s : Etat} (hf : s.serveur.point = .fini) :
      Pas (.partie p g₀ s) .retour (.parametrage p)

-- the settings are opened over a clean stack, and the time to play does not overflow
def Evenement.Sur : Processus → Evenement → Prop
  | _, .ouvre memoire => PlateauNul memoire 50
  | .parametrage p, .touche t => ∀ p', p.touche t = some p' → InInt p'.game.timeout
  | _, _ => True

end Processus

namespace Serveur

structure Parametrage.Issu (p : Parametrage) : Prop where
  menu : ∃ memoire touches, PlateauNul memoire 50 ∧ menuParametrageGame memoire touches = some p
  timeout : InInt p.game.timeout

theorem Parametrage.Issu.depart {memoire : MemoireT} (h : PlateauNul memoire 50) :
    Parametrage.Issu ⟨0, initGame memoire⟩ := ⟨⟨memoire, [], h, rfl⟩, (by decide : InInt 15)⟩

theorem Parametrage.Issu.touche {p p' : Parametrage} {t : Touche} (h : p.Issu) (ht : p.touche t = some p')
    (hi : InInt p'.game.timeout) : p'.Issu := by
  obtain ⟨memoire, touches, hn, hm⟩ := h.menu
  refine ⟨⟨memoire, touches ++ [t], hn, ?_⟩, hi⟩
  rw [menuParametrageGame, List.foldlM_append]
  rw [menuParametrageGame] at hm
  simp only [hm, Option.bind_eq_bind, Option.bind_some, List.foldlM_cons, List.foldlM_nil, ht]
  rfl

theorem Parametrage.Issu.regle {p : Parametrage} (h : p.Issu) : p.Regle ∧ PlateauNul p.game 50 := by
  obtain ⟨memoire, touches, hn, hm⟩ := h.menu
  have hp := Salon.menu_plateau hm
  exact ⟨(Parametrage.Regle.depart memoire).touches hm, by rw [hp]; exact hn.nbBateau, by rw [hp]; exact hn.nul⟩

theorem PlateauNul.mono {m : MemoireT} {n n' : Int} (h : PlateauNul m n') (hn : n ≤ n') : PlateauNul m n :=
  ⟨h.nbBateau, fun y x hd => h.nul y x (hd.mono hn)⟩

theorem Salon.Pas.affchageBateau {s s' : Salon} {e : Salon.Fait} (h : Salon.Pas s e s') :
    s'.memoire.affchageBateau = s.memoire.affchageBateau := by
  cases h with
  | pseudo _ hm | socket _ hm | numero _ hm =>
    obtain ⟨k, joueur, -, -, rfl⟩ := MemoireT.joueur_eq_some hm
    rfl
  | _ => rfl

structure Poste.Conclu (g₀ : GameT) (p : Poste) : Prop where
  joueurs : ∀ g ∈ p.verdicts, g.nbJoueur = g₀.nbJoueur
  ouvertes : Ouvertes p.verdicts (p.verdicts.length - 1)
  verdict : p.game.etat = 2 ↔ ∃ g, p.verdicts.getLast? = some g ∧ nbAFlot g = 0
  etat : p.point = .fini → p.game.etat = 2
  manche : ∀ t i, p.point = .envoi (.plateau t) i ∨ p.point = .accuse (.plateau t) i → p.game.etat ≠ 2

theorem Poste.Conclu.dernier {g₀ g : GameT} {p : Poste} (h : p.Conclu g₀) (hg : g ∈ p.verdicts) (h1 : nbAFlot g ≤ 1) :
    p.verdicts.getLast? = some g := by
  obtain ⟨k, hk, rfl⟩ := List.mem_iff_getElem.mp hg
  rw [List.getLast?_eq_getElem?]
  by_cases he : k = p.verdicts.length - 1
  · rw [← he, List.getElem?_eq_getElem hk]
  · obtain ⟨g', hg', h2⟩ := h.ouvertes k (by omega)
    rw [List.getElem?_eq_getElem hk, Option.some.injEq] at hg'
    rw [← hg'] at h2
    omega

theorem Poste.Conclu.nonFini {g₀ g : GameT} {p : Poste} (h : p.Conclu g₀) (hg : g ∈ p.verdicts) (h1 : nbAFlot g = 1) :
    p.point ≠ .fini := by
  intro hf
  obtain ⟨g', hlast, h0⟩ := h.verdict.mp (h.etat hf)
  rw [h.dernier hg (Nat.le_of_eq h1), Option.some.injEq] at hlast
  rw [← hlast] at h0
  omega

theorem Pas.conclu {g₀ : GameT} {p p' : Poste} {a : Action} (h : Pas p a p')
    (hm : ∀ i, p.point = .tir i → EnManche g₀ p) (hc : p.Conclu g₀) : p'.Conclu g₀ := by
  have hcol {j n : Int} {envois : List (Int × List Char)} {t : Tour} {c : Collecte}
      (hc : etape (p.collecte j n envois) t = some c) : c.game.etat = p.game.etat := by
    rcases etape_cases hc with ⟨-, rfl⟩ | ⟨-, r, -, ha⟩
    · rfl
    · exact ha.game.etat
  cases h with
  | sonder _ _ _ he => exact ⟨hc.joueurs, hc.ouvertes, by rw [hcol he]; exact hc.verdict, (by simp), (by simp)⟩
  | placer _ _ _ _ he => exact ⟨hc.joueurs, hc.ouvertes, by rw [hcol he]; exact hc.verdict, (by simp), (by simp)⟩
  | tirRecu _ _ _ hg =>
    exact ⟨hc.joueurs, hc.ouvertes, by rw [(recevoirTir_sauf hg).etat]; exact hc.verdict, (by simp), (by simp)⟩
  | @verdict i g f hp hi hq =>
    have hman := hm i hp
    obtain ⟨f', hf', -⟩ := choisirFin_spec hman.flottille
    rw [hq, Option.some.injEq, Prod.mk.injEq] at hf'
    refine ⟨fun a ha => ?_, ?_, ?_, (by simp), (by simp)⟩
    · rcases List.mem_append.mp ha with ha | ha
      · exact hc.joueurs a ha
      · rw [List.mem_singleton.mp ha]
        exact hman.regles.nbJoueur
    · show Ouvertes (p.verdicts ++ [p.game]) ((p.verdicts ++ [p.game]).length - 1)
      rw [List.length_append, List.length_singleton, Nat.add_sub_cancel, hman.verdicts]
      exact hman.ouvertes.prolonge (Prolonge.append _ _)
    · rw [hf'.1]
      simp only [List.getLast?_append, List.getLast?_singleton, Option.some_or, Option.some.injEq]
      constructor
      · intro hetat
        refine ⟨p.game, rfl, ?_⟩
        by_contra h0
        rw [if_neg h0] at hetat
        exact hman.etat hetat
      · rintro ⟨g', rfl, h0⟩
        rw [if_pos h0]
  | @suite b i hp hi =>
    exact ⟨hc.joueurs, hc.ouvertes, hc.verdict, fun hb => by cases b <;> simp [Boucle.suite] at hb,
      fun t i hb => by cases b <;> simp [Boucle.suite] at hb⟩
  | @envoi b i q hp =>
    refine ⟨hc.joueurs, hc.ouvertes, hc.verdict, (by simp), fun t k hb => ?_⟩
    obtain ⟨rfl, -⟩ : b = .plateau t ∧ i = k := by simpa using hb
    exact hc.manche t i (.inl hp)
  | @accuse b i q hp =>
    refine ⟨hc.joueurs, hc.ouvertes, hc.verdict, (by simp), fun t k hb => ?_⟩
    obtain ⟨rfl, -⟩ : b = .plateau t ∧ i + 1 = k := by simpa using hb
    exact hc.manche t i (.inr hp)
  | manche hp he => exact ⟨hc.joueurs, hc.ouvertes, hc.verdict, (by simp), fun _ _ _ => he⟩
  | fin hp h2 => exact ⟨hc.joueurs, hc.ouvertes, hc.verdict, fun _ => h2, (by simp)⟩
  | _ => exact ⟨hc.joueurs, hc.ouvertes, hc.verdict, (by simp), (by simp)⟩

end Serveur

structure Lancee (p : Parametrage) (g₀ : Serveur.GameT) : Prop where
  lancement : Lancement g₀
  joueurs : 2 ≤ g₀.nbJoueur
  joueurs_le : g₀.nbJoueur ≤ p.game.maxJoueur
  taillePlateau : g₀.taillePlateau = p.game.taillePlateau
  tailleBateau : g₀.tailleBateau = p.game.tailleBateau
  timeout : g₀.timeout = p.game.timeout
  affchageBateau : g₀.affchageBateau = p.game.affchageBateau

variable {g₀ : Serveur.GameT} {s s' : Etat} {a : Action} {i : Nat} {p : Parametrage}

theorem Serveur.Parametrage.Issu.lancee (h : p.Issu) {es : List Arrivee.Action} {s : Arrivee}
    (hr : Trace Arrivee.Etape (Arrivee.debut p.game) es s) (hl : s.salon.point = .lancement)
    (horsEnum : Int → Status) : Lancee p (s.salon.memoire.game horsEnum) := by
  obtain ⟨memoire, touches, hn, hm⟩ := h.menu
  have hp := h.regle.1.game
  obtain ⟨fs, hsalon⟩ := Arrivee.Trace.salon hr
  have hg := Salon.Trace.garde hsalon
  have htenu := (Arrivee.Trace.accord ⟨hp.joueurs, hp.joueurs_le⟩ hr).tenu
  have hpt := htenu.point
  rw [hl] at hpt
  refine ⟨Salon.lancement_initial hm (hn.mono hp.plateau_le) h.timeout hsalon hl horsEnum, htenu.eveil.lance hpt, ?_,
    hg.taillePlateau, hg.tailleBateau, hg.timeout, ?_⟩
  · exact hg.maxJoueur ▸ htenu.registre.place
  · exact hsalon.invariant (fun _ t => t.memoire.affchageBateau = p.game.affchageBateau) rfl
      fun _ _ _ _ _ ih hs => hs.2.affchageBateau.trans ih

theorem Atteignable.conclu (hg₀ : Lancement g₀) (h : Atteignable g₀ s) : s.serveur.Conclu g₀ := by
  obtain ⟨s₀, h₀, hr⟩ := h
  induction hr with
  | refl =>
    rw [h₀.serveur]
    exact ⟨nofun, nofun, iff_of_false hg₀.etat (by rintro ⟨g, hg, -⟩; cases hg), nofun, (by simp)⟩
  | @tail s t hr hs ih =>
    obtain ⟨a, hs⟩ := hs
    rcases hs.serveur with he | ⟨b, hb⟩
    · rw [he]
      exact ih
    · exact hb.conclu (fun i hp => (Atteignable.invariant hg₀ ⟨s₀, h₀, hr⟩).enManche hp) ih

theorem Invariant.perdue (h : Invariant g₀ s) (he : s.serveur.Conclu g₀) (hp : s.serveur.point = .fini)
    (hi : (i : Int) < g₀.nbJoueur) : (s.clients i).point = .fini ∧ (s.clients i).game.etat = .finLose := by
  rcases h with h | h
  · have hr := h.serveur
    simp only [Regulier, hp] at hr
    have hfini := h.tousFinis (.inr hp) hr.2 i hi
    obtain ⟨hsync, hloyal⟩ := h.joueurs i hi
    obtain ⟨k, g', hk, -⟩ := hr.1.fin hr.2
    have hmoment : s.serveur.moment i = .plateau (k + 1) := by simp only [Serveur.Poste.moment, hp, hk]
    rw [hmoment] at hsync
    obtain ⟨hc, -, -⟩ := hsync.rattrape rfl fun _ => plateau_precede
    simp only [Client.Poste.moment, hfini, Moment.plateau.injEq] at hc
    obtain ⟨m, g, hm, hg, -, hclasse⟩ := hloyal.issue hfini
    obtain ⟨g'', hlast, h0⟩ := he.verdict.mp (he.etat hp)
    have hlen := hr.1.verdicts
    rw [List.getLast?_eq_getElem?, show s.serveur.verdicts.length - 1 = m by omega, hg, Option.some.injEq] at hlast
    subst hlast
    refine ⟨hfini, ?_⟩
    rw [hclasse, classe, if_pos h0]
  · obtain ⟨t, ht | ht⟩ := h.serveur <;> simp [hp] at ht

theorem Serveur.Regulier.ouvre {cl : Nat → Client.Poste} {p t : Serveur.Poste} {b : Serveur.Action} {m : Nat}
    (h : Serveur.Regulier g₀ cl p) (hs : Serveur.Pas p b t)
    (hb : (∃ q, b = .envoie i q) ∧ p.moment i = .plateau m ∨ (∃ q, b = .prend i q) ∧ p.moment i = .accusePlateau m) :
    Ouvertes p.verdicts m := by
  rcases hb with ⟨⟨q, rfl⟩, hm⟩ | ⟨⟨q, rfl⟩, hm⟩
  · cases hs with
    | @envoi b _ _ hp =>
      simp only [Regulier, hp] at h
      simp only [Serveur.Poste.moment, hp, passage_pendant] at hm
      cases b with
      | plateau c =>
        have hman : EnManche g₀ p := h.1
        obtain rfl := Moment.plateau.inj hm
        exact hman.ouvertes
      | _ => cases hm
    | demande hp => simp [Serveur.Poste.moment, hp, passage_pendant] at hm
    | placer _ hp hij => simp [Serveur.Poste.moment, hp, hij, passage_pendant] at hm
    | tirRecu _ hp => simp [Serveur.Poste.moment, hp, passage_pendant] at hm
  · cases hs with
    | @accuse b _ _ hp =>
      simp only [Regulier, hp] at h
      simp only [Serveur.Poste.moment, hp, passage_pendant] at hm
      cases b with
      | plateau c =>
        have hman : EnManche g₀ p := h.1
        obtain rfl := Moment.accusePlateau.inj hm
        exact hman.ouvertes
      | _ => cases hm
    | bateau _ hp _ hij => simp [Serveur.Poste.moment, hp, hij, passage_pendant] at hm
    | tir _ hp => simp [Serveur.Poste.moment, hp, passage_pendant] at hm

theorem Serveur.Pas.prend_sens {p t : Serveur.Poste} {q : Requete} (hs : Serveur.Pas p (.prend i q) t) :
    (p.moment i).sens = .retour := by
  cases hs with
  | @accuse b _ _ hp => simp only [Serveur.Poste.moment, hp, passage_pendant, b.pendant_sens]
  | bateau _ hp _ hij =>
    simp only [Serveur.Poste.moment, hp, hij, Int.toNat_natCast, passage_pendant]
    rfl
  | tir _ hp =>
    simp only [Serveur.Poste.moment, hp, passage_pendant]
    rfl

-- seen from a player who has left, the server can only be at the board of a round nobody plays
theorem Accord.moment_fini (hg₀ : Lancement g₀) (h : Accord g₀ s) (hi : (i : Int) < g₀.nbJoueur)
    (hp : (s.clients i).point = .fini) {b : Serveur.Action} {t : Serveur.Poste} (hs : Serveur.Pas s.serveur b t)
    (hb : (∃ q, b = .envoie i q) ∨ (∃ q, b = .prend i q) ∧ s.versServeur i = []) :
    (∃ q, b = .envoie i q) ∧ s.serveur.moment i = .plateau (s.clients i).manche ∨
      (∃ q, b = .prend i q) ∧ s.serveur.moment i = .accusePlateau (s.clients i).manche := by
  have hc : (s.clients i).moment = .plateau (s.clients i).manche := by simp only [Client.Poste.moment, hp]
  have hsync := (h.joueurs i hi).sync
  rw [hc] at hsync
  rcases hb with ⟨q, rfl⟩ | ⟨⟨q, rfl⟩, hvide⟩
  · exact .inl ⟨⟨q, rfl⟩, hsync.enTete (hs.envoie_regulier hg₀ h.serveur).2.sens rfl⟩
  · rw [hvide] at hsync
    exact .inr ⟨⟨q, rfl⟩, hsync.enReponse hs.prend_sens rfl rfl⟩

theorem Accord.nonCoupe (hg₀ : Lancement g₀) (h : Accord g₀ s) (hi : (i : Int) < g₀.nbJoueur)
    (hp : (s.clients i).point = .fini) : ¬ s.Coupure i := by
  obtain ⟨m, g, hm, hg, h1, -⟩ := (h.joueurs i hi).loyal.issue hp
  have hferme {b : Serveur.Action} {t : Serveur.Poste} (hs : Serveur.Pas s.serveur b t)
      (hb : (∃ q, b = .envoie i q) ∨ (∃ q, b = .prend i q) ∧ s.versServeur i = []) : False := by
    obtain ⟨g', hg', h2⟩ := h.serveur.ouvre hs (h.moment_fini hg₀ hi hp hs hb) m (by omega)
    obtain rfl := Option.some.inj (hg.symm.trans hg')
    omega
  rintro (⟨q, t, hs⟩ | ⟨hvide, q, t, hs⟩)
  · exact hferme hs (.inl ⟨q, rfl⟩)
  · exact hferme hs (.inr ⟨⟨q, rfl⟩, hvide⟩)

theorem Atteignable.coupure (hg₀ : Lancement g₀) (h : Atteignable g₀ s) (hi : (i : Int) < g₀.nbJoueur)
    (hp : (s.clients i).point = .fini) (hc : s.Coupure i) : ∃ g ∈ s.serveur.verdicts, nbAFlot g = 1 := by
  have hconclu := h.conclu hg₀
  rcases h.invariant hg₀ with ha | he
  · exact absurd hc (ha.nonCoupe hg₀ hi hp)
  · obtain ⟨t, ht⟩ := he.serveur
    obtain ⟨m, g, -, hg, h1, -⟩ := (he.joueurs i hi).2.2.issue hp
    have hmem := List.mem_of_getElem? hg
    refine ⟨g, hmem, ?_⟩
    by_contra hne
    exact hconclu.manche t 0 ht (hconclu.verdict.mpr ⟨g, hconclu.dernier hmem h1, by omega⟩)

namespace Processus

variable {x y : Processus} {e : Evenement} {es : List Evenement}

def Tenu : Processus → Prop
  | .accueil choix => choix = 0 ∨ choix = 1
  | .parametrage p => p.Issu
  | .attente p a => p.Issu ∧ ∃ es, Trace Arrivee.Etape (Arrivee.debut p.game) es a
  | .partie p g₀ s => p.Issu ∧ Lancee p g₀ ∧ Atteignable g₀ s
  | .coupee p g₀ s => p.Issu ∧ Lancee p g₀ ∧ Atteignable g₀ s ∧ ∃ g ∈ s.serveur.verdicts, nbAFlot g = 1
  | .quitte => True
  | .arret => True

theorem deplacer_choix {choix : Int} (h : choix = 0 ∨ choix = 1) (t : Touche) :
    deplacer (afficher choix) t = 0 ∨ deplacer (afficher choix) t = 1 := by
  rcases h with rfl | rfl <;> cases t <;> decide

theorem Pas.tenu (h : x.Tenu) (hsur : e.Sur x) (hs : Pas x e y) : y.Tenu := by
  cases hs with
  | @accueil choix t ht => exact deplacer_choix h t
  | ouvre memoire hc => exact .depart hsur
  | quitte hc => trivial
  | regle ht hp => exact Parametrage.Issu.touche h hp (hsur _ hp)
  | revient hp => exact .inl rfl
  | attend => exact ⟨h, [], .nil⟩
  | echec => trivial
  | attente hs =>
    obtain ⟨hp, es, hes⟩ := h
    exact ⟨hp, _, hes.snoc hs⟩
  | @lance p s horsEnum postes hl =>
    obtain ⟨hp, es, hes⟩ := h
    have hreg := hp.regle.1.game
    have haccord := Arrivee.Trace.accord ⟨hreg.joueurs, hreg.joueurs_le⟩ hes
    exact ⟨hp, hp.lancee hes hl horsEnum, _, haccord.debut hl horsEnum postes, .refl⟩
  | partie hs =>
    obtain ⟨hp, hl, ha⟩ := h
    exact ⟨hp, hl, ha.run (.single ⟨_, hs⟩)⟩
  | coupure hi hf hc =>
    obtain ⟨hp, hl, ha⟩ := h
    exact ⟨hp, hl, ha, ha.coupure hl.lancement hi hf hc⟩
  | retour hf => exact h.1

theorem Trace.tenu (h : Trace (Under (fun x e => e.Sur x) Pas) x es y) (hx : x.Tenu) : y.Tenu :=
  h.invariant (fun _ y => y.Tenu) hx fun _ _ _ _ _ ih hs => Pas.tenu ih hs.1 hs.2

structure PartieSaine (p : Parametrage) (g₀ : Serveur.GameT) (s : Etat) : Prop where
  lancee : Lancee p g₀
  atteignable : Atteignable g₀ s
  sansErreur : ∀ i : Nat, (i : Int) < g₀.nbJoueur → (s.clients i).point ≠ .erreur
  perdue : s.serveur.point = .fini → ∀ i : Nat, (i : Int) < g₀.nbJoueur →
    (s.clients i).point = .fini ∧ (s.clients i).game.etat = .finLose

def Sain : Processus → Prop
  | .accueil choix => choix = 0 ∨ choix = 1
  | .parametrage p => p.Regle ∧ PlateauNul p.game 50
  | .attente p a => p.Regle ∧ Salon.Garde p.game a.salon.memoire ∧ a.salon.memoire.nbJoueur ≤ p.game.maxJoueur
  | .partie p g₀ s => p.Regle ∧ PartieSaine p g₀ s
  | .coupee p g₀ s => p.Regle ∧ PartieSaine p g₀ s ∧ ∃ g ∈ s.serveur.verdicts, nbAFlot g = 1
  | .quitte => True
  | .arret => True

theorem partieSaine {p : Parametrage} {g₀ : Serveur.GameT} {s : Etat} (hl : Lancee p g₀) (h : Atteignable g₀ s) :
    PartieSaine p g₀ s := by
  have hinv := h.invariant hl.lancement
  have hconclu := h.conclu hl.lancement
  exact ⟨hl, h, fun i hi => (hinv.loyal hi).sansErreur, fun hf i hi => hinv.perdue hconclu hf hi⟩

theorem Tenu.sain (h : x.Tenu) : x.Sain := by
  cases x with
  | accueil choix => exact h
  | parametrage p => exact h.regle
  | attente p a =>
    obtain ⟨hp, es, hes⟩ := h
    have hreg := hp.regle.1
    obtain ⟨fs, hsalon⟩ := Arrivee.Trace.salon hes
    have hg := Salon.Trace.garde hsalon
    have htenu := (Arrivee.Trace.accord ⟨hreg.game.joueurs, hreg.game.joueurs_le⟩ hes).tenu
    exact ⟨hreg, hg, hg.maxJoueur ▸ htenu.registre.place⟩
  | partie p g₀ s =>
    obtain ⟨hp, hl, ha⟩ := h
    exact ⟨hp.regle.1, partieSaine hl ha⟩
  | coupee p g₀ s =>
    obtain ⟨hp, hl, ha, hg⟩ := h
    exact ⟨hp.regle.1, partieSaine hl ha, hg⟩
  | quitte => trivial
  | arret => trivial

theorem processus_sain (es : List Evenement) (x : Processus)
    (h : Trace (Under (fun x e => e.Sur x) Pas) (.accueil 0) es x) : x.Sain :=
  (Trace.tenu h (.inl rfl)).sain

theorem Trace.attente {p : Parametrage} {es : List Arrivee.Action} {a a' : Arrivee} (h : Trace Arrivee.Etape a es a') :
    Trace (Under (fun x e => e.Sur x) Pas) (.attente p a) (es.map .attente) (.attente p a') := by
  refine h.map (Processus.attente p) Evenement.attente fun _ _ _ hs => ?_
  exact ⟨trivial, .attente hs⟩

theorem partie_accessible : ∃ es p g₀ s, Trace (Under (fun x e => e.Sur x) Pas) (.accueil 0) es (.partie p g₀ s) ∧
    s.serveur.point = .envoi .infos 0 := by
  have hg : Salon.Reglable (initGame memoireZero) := by constructor <;> decide
  obtain ⟨es, a, h, hl⟩ := (Arrivee.debut_accord hg).lance nofun
  have hnul : PlateauNul memoireZero 50 := ⟨rfl, fun _ _ _ => rfl⟩
  have h₁ : Trace (Under (fun x e => e.Sur x) Pas) (.accueil 0) [.ouvre memoireZero, .attend]
      (.attente ⟨0, initGame memoireZero⟩ (Arrivee.debut (initGame memoireZero))) :=
    (Trace.single ⟨hnul, .ouvre memoireZero rfl⟩).snoc ⟨trivial, .attend⟩
  let lance : Evenement := .lance (fun _ => .empty) fun _ => Client.Poste.depart
  have hsur : lance.Sur (.attente ⟨0, initGame memoireZero⟩ a) := trivial
  exact ⟨_, _, _, _, (h₁.append (Trace.attente h)).snoc ⟨hsur, .lance _ _ hl⟩, rfl⟩

theorem processus_sain_partie : ∃ es p g₀ s, Trace (Under (fun x e => e.Sur x) Pas) (.accueil 0) es (.partie p g₀ s) ∧
    Sain (.partie p g₀ s) := by
  obtain ⟨es, p, g₀, s, h, -⟩ := partie_accessible
  exact ⟨es, p, g₀, s, h, processus_sain _ _ h⟩

def ResteEnPartie (p : Parametrage) (g₀ : Serveur.GameT) (s : Etat) (y : Processus) : Prop :=
  y = .partie p g₀ s ∨ y = .coupee p g₀ s

theorem Pas.gagnee {p : Parametrage} {g₀ g : Serveur.GameT} {s : Etat} (hg₀ : Lancement g₀) (h : Atteignable g₀ s)
    (hg : g ∈ s.serveur.verdicts) (h1 : nbAFlot g = 1) (hs : Pas (.partie p g₀ s) e y) :
    ∃ s', ResteEnPartie p g₀ s' y ∧ Atteignable g₀ s' ∧ s'.serveur.verdicts = s.serveur.verdicts := by
  cases hs with
  | @partie _ _ _ s' a hs =>
    refine ⟨s', .inl rfl, h.run hs.run, ?_⟩
    rcases hs.verdicts with hv | ⟨-, i, hp⟩
    · exact hv
    · -- a round is played only when two boats are afloat
      have hman := (h.invariant hg₀).enManche hp
      obtain ⟨k, hk, rfl⟩ := List.mem_iff_getElem.mp hg
      obtain ⟨g', hg', h2⟩ := hman.ouvertes k (hman.verdicts ▸ hk)
      rw [List.getElem?_eq_getElem hk, Option.some.injEq] at hg'
      rw [← hg'] at h2
      omega
  | coupure => exact ⟨s, .inr rfl, h, rfl⟩
  | retour hf => exact absurd hf ((h.conclu hg₀).nonFini hg h1)

theorem Trace.gagnee {p : Parametrage} {g₀ g : Serveur.GameT} {s : Etat} (hg₀ : Lancement g₀) (h : Atteignable g₀ s)
    (hg : g ∈ s.serveur.verdicts) (h1 : nbAFlot g = 1) {x : Processus} (hx : ResteEnPartie p g₀ s x)
    (hy : Trace Pas x es y) :
    ∃ s', ResteEnPartie p g₀ s' y ∧ Atteignable g₀ s' ∧ s'.serveur.verdicts = s.serveur.verdicts :=
  hy.invariant (fun _ y => ∃ s', ResteEnPartie p g₀ s' y ∧ Atteignable g₀ s' ∧ s'.serveur.verdicts = s.serveur.verdicts)
    ⟨s, hx, h, rfl⟩ fun fs t e u _ ih hs => by
      obtain ⟨s', rfl | rfl, ha, hv⟩ := ih
      · obtain ⟨s'', hu, ha', hv'⟩ := hs.gagnee hg₀ ha (hv ▸ hg) h1
        exact ⟨s'', hu, ha', hv'.trans hv⟩
      · cases hs

theorem gagnant_sans_retour (p : Parametrage) (g₀ : Serveur.GameT) (hg₀ : Lancement g₀) (s : Etat)
    (h : Atteignable g₀ s) (g : Serveur.GameT) (hg : g ∈ s.serveur.verdicts) (i : Nat) (hi : (i : Int) < g₀.nbJoueur)
    (hseul : ∀ k : Nat, (k : Int) < g₀.nbJoueur → (AFlot g k ↔ k = i)) (es : List Evenement) (y : Processus)
    (hy : Trace Pas (.partie p g₀ s) es y) :
    ∃ s', ResteEnPartie p g₀ s' y ∧ s'.serveur.verdicts = s.serveur.verdicts ∧ s'.serveur.point ≠ .fini := by
  have hn := (h.conclu hg₀).joueurs g hg
  have h1 : nbAFlot g = 1 := by
    have h0 : nbAFlot g ≠ 0 := fun h0 => nbAFlot_zero.mp h0 i ((hseul i hi).mpr rfl)
    have hle : nbAFlot g ≤ 1 := nbAFlot_le_un.mpr fun k hk l hl => by
      have hk' : (k : Int) < g₀.nbJoueur := by have := hk.1; omega
      have hl' : (l : Int) < g₀.nbJoueur := by have := hl.1; omega
      exact ((hseul k hk').mp hk).trans ((hseul l hl').mp hl).symm
    omega
  obtain ⟨s', hy', ha, hv⟩ := Trace.gagnee hg₀ h hg h1 (.inl rfl) hy
  exact ⟨s', hy', hv, (ha.conclu hg₀).nonFini (hv ▸ hg) h1⟩

theorem gagnant_sans_retour_manche : ∃ s g, Atteignable (GameT.depart 2 6 2) s ∧ g ∈ s.serveur.verdicts ∧
    ∀ es y, Trace Pas (.partie ⟨0, initGame memoireZero⟩ (GameT.depart 2 6 2) s) es y →
      ∃ s', ResteEnPartie ⟨0, initGame memoireZero⟩ (GameT.depart 2 6 2) s' y ∧
        s'.serveur.verdicts = s.serveur.verdicts ∧ s'.serveur.point ≠ .fini := by
  have hg₀ : Lancement (GameT.depart 2 6 2) := depart_lancement (by decide) (by decide) (by decide) (by decide)
  let P (i : Nat) : Placement := ⟨Fin.ofNat 100 i, 0, 2 * i, 'd'⟩
  let tir (i : Nat) : Int × Int := (i, 2)
  have hcase (i k : Nat) : (P i).case k = (0 + (k : Int) * 1, 2 * (i : Int) + k * 0) := rfl
  have hP (i : Nat) (hi : (i : Int) < 2) : (P i).id.val = i ∧ (P i).Valide 6 2 := by
    refine ⟨Nat.mod_eq_of_lt (by omega), rfl, fun k hk => ?_⟩
    rw [hcase]
    simp only [Dans]
    omega
  have ht (i : Nat) (hi : (i : Int) < 2) : Dans 6 (tir i) := by
    simp only [tir, Dans]
    omega
  obtain ⟨s, g, ha, hg, -, hsurv⟩ := premiere_manche hg₀ hP ht
  have hvit : AFlot g 0 := by
    refine (hsurv 0 (by decide)).mpr (Bataille.survivants_iff.mpr fun hsub => ?_)
    obtain ⟨k, -, hk⟩ := hsub ⟨0, by decide, hcase 0 0⟩
    simp only [tir, Prod.mk.injEq] at hk
    omega
  have hmort : ¬ AFlot g 1 := by
    rw [show AFlot g 1 ↔ _ from hsurv 1 (by decide), Bataille.survivants_iff, not_not]
    rintro q ⟨k, hk, rfl⟩
    have hk' : (k : Int) < 2 := hk
    exact ⟨k, hk', by rw [show (P (1 : Fin 100).val).case k = _ from hcase 1 k]; simp [tir]⟩
  have hseul (k : Nat) (hk : (k : Int) < 2) : AFlot g k ↔ k = 0 := by
    rcases (by omega : k = 0 ∨ k = 1) with rfl | rfl
    · exact iff_of_true hvit rfl
    · exact iff_of_false hmort (by decide)
  have hmem := List.mem_of_getElem? hg
  exact ⟨s, g, ha, hmem, gagnant_sans_retour _ _ hg₀ s ha g hmem 0 (by decide) hseul⟩

end Processus

end Bnbr
