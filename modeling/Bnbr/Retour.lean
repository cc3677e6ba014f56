import Bnbr.Processus

namespace Bnbr

open CArray CString Decimal Sessions Serveur Runs

variable {g₀ : Serveur.GameT} {s : Etat}

theorem Accord.debutAFlot (hg₀ : Lancement g₀) (hn : 2 ≤ g₀.nbJoueur) (hat : Atteignable g₀ s) (h : Accord g₀ s)
    (hp : s.serveur.point = .boucle) (hm : s.serveur.manche = 0) : 2 ≤ nbAFlot s.serveur.game := by
  obtain ⟨s₀, es, hpartie⟩ := hat.partie hg₀
  have hf := (h.apresVerdict hp).flottille
  have hvit (j : Fin 100) (hj : (j.val : Int) < g₀.nbJoueur) : Surnage s.serveur.game j := by
    rw [surnage_iff hf, hpartie.aFlot_boucle h hp hj, hm]
    exact Etat.rescapes_zero hg₀ hj
  exact (deux_iff hf).mp ⟨0, 1, by decide, hvit 0 (by simp; omega), hvit 1 (by simp; omega)⟩

theorem Accord.quitte (hg₀ : Lancement g₀) (hat : Atteignable g₀ s) (h : Accord g₀ s) (hp : s.serveur.point = .boucle)
    (hm : s.serveur.manche ≠ 0) (h0 : nbAFlot s.serveur.game = 0) :
    ∃ s', Run g₀.nbJoueur s s' ∧ s'.serveur.point = .fini := by
  obtain ⟨s₀, es, hpartie⟩ := hat.partie hg₀
  obtain ⟨k, hk⟩ := Nat.exists_eq_succ_of_ne_zero hm
  have hlen := (h.apresVerdict hp).verdicts
  obtain ⟨g, hg⟩ : ∃ g, s.serveur.verdicts[k]? = some g := ⟨_, List.getElem?_eq_getElem (by omega)⟩
  have hlast : s.serveur.verdicts.getLast? = some g := by
    rw [List.getLast?_eq_getElem?, show s.serveur.verdicts.length - 1 = k by omega, hg]
  have hetat : s.serveur.game.etat = 2 :=
    (hat.conclu hg₀).verdict.mpr ⟨g, hlast, (hpartie.verdict_boucle hg₀ hat h hp hk hg).2 ▸ h0⟩
  exact ⟨_, (Etape.serveurInterne (.fin hp hetat)).run, rfl⟩

theorem Accord.acheve (hg₀ : Lancement g₀) (hn : 2 ≤ g₀.nbJoueur) (hat : Atteignable g₀ s) (h : Accord g₀ s)
    (hp : s.serveur.point = .boucle) (hf : s.serveur.finEnvoyee = false) :
    ∃ s', Run g₀.nbJoueur s s' ∧ s'.serveur.point = .fini := by
  have h2 : 2 ≤ nbAFlot s.serveur.game := by
    by_cases hm : s.serveur.manche = 0
    · exact h.debutAFlot hg₀ hn hat hp hm
    · exact h.deuxAFlot hg₀ hat hp hf hm
  obtain ⟨ρ, hρ⟩ := h.reserve hg₀ hat hp
  obtain ⟨s', hr, h', hp', hm', h0⟩ := h.extinction hg₀ hat hp h2 hρ
  obtain ⟨s'', hr', hfini⟩ := h'.quitte hg₀ (hat.run hr) hp' hm' h0
  exact ⟨s'', hr.trans hr', hfini⟩

theorem Atteignable.acheve (hg₀ : Lancement g₀) (hn : 2 ≤ g₀.nbJoueur) (hat : Atteignable g₀ s)
    (hp : s.serveur.point = .boucle ∨ ¬ s.serveur.Lance) (hv : ∀ g ∈ s.serveur.verdicts, nbAFlot g ≠ 1) :
    ∃ s', Run g₀.nbJoueur s s' ∧ s'.serveur.point = .fini := by
  rcases hat.invariant hg₀ with h | h
  · rcases hp with hp | hl
    · cases hf : s.serveur.finEnvoyee with
      | false => exact h.acheve hg₀ hn hat hp hf
      | true =>
        obtain ⟨s₀, es, hpartie⟩ := hat.partie hg₀
        obtain ⟨k, g, hk, hg, h1⟩ := (h.apresVerdict hp).fin hf
        have hne := hv g (List.mem_of_getElem? hg)
        have hnb := (hpartie.verdict_boucle hg₀ hat h hp hk hg).2
        exact h.quitte hg₀ hat hp (by omega) (by omega)
    · obtain ⟨s', hr, h', hp', hf'⟩ := h.versManche hg₀ hl
      obtain ⟨s'', hr', hfini⟩ := h'.acheve hg₀ hn (hat.run hr) hp' hf'
      exact ⟨s'', hr.trans hr', hfini⟩
  · obtain ⟨t, ht⟩ := h.serveur
    exfalso
    rcases ht with ht | ht <;> rcases hp with hp | hp <;> simp [Serveur.Poste.Lance, ht] at hp

namespace Processus

variable {x y : Processus}

def EntreManches : Processus → Prop
  | .attente _ a => a.salon.point ≠ .arret
  | .partie _ _ s => s.serveur.point = .boucle ∨ ¬ s.serveur.Lance
  | .coupee .. => False
  | .quitte => False
  | .arret => False
  | _ => True

def Gagnee : Processus → Prop
  | .partie _ _ s => ∃ g ∈ s.serveur.verdicts, nbAFlot g = 1
  | .coupee _ _ s => ∃ g ∈ s.serveur.verdicts, nbAFlot g = 1
  | _ => False

theorem Trace.partie {p : Parametrage} {g₀ : Serveur.GameT} {s s' : Etat} {es : List Bnbr.Action}
    (h : Trace (Etape g₀.nbJoueur) s es s') :
    Trace (Under (fun x e => e.Sur x) Pas) (.partie p g₀ s) (es.map .partie) (.partie p g₀ s') := by
  refine h.map (Processus.partie p g₀) Evenement.partie fun _ _ _ hs => ?_
  exact ⟨trivial, .partie hs⟩

theorem retour_partie {p : Parametrage} {g₀ : Serveur.GameT} {s : Etat} (h : Tenu (.partie p g₀ s))
    (hx : EntreManches (.partie p g₀ s)) (hv : ¬ Gagnee (.partie p g₀ s)) :
    ∃ fs, Trace (Under (fun x e => e.Sur x) Pas) (.partie p g₀ s) fs (.parametrage p) := by
  obtain ⟨-, hl, hat⟩ := h
  obtain ⟨s', hr, hfini⟩ := hat.acheve hl.lancement hl.joueurs hx fun g hg h1 => hv ⟨g, hg, h1⟩
  obtain ⟨es, ht⟩ := Run.trace hr
  have hretour : Under (fun x e => e.Sur x) Pas (.partie p g₀ s') .retour (.parametrage p) := ⟨trivial, .retour hfini⟩
  exact ⟨_, (Trace.partie ht).snoc hretour⟩

theorem retour_attente {p : Parametrage} {a : Arrivee} (h : Tenu (.attente p a))
    (hx : EntreManches (.attente p a)) :
    ∃ fs, Trace (Under (fun x e => e.Sur x) Pas) (.attente p a) fs (.parametrage p) := by
  obtain ⟨hp, es, hes⟩ := h
  have hreg := hp.regle.1.game
  obtain ⟨fs, t, ht, hl⟩ := (Arrivee.Trace.accord ⟨hreg.joueurs, hreg.joueurs_le⟩ hes).lance hx
  have hlance : Under (fun x e => e.Sur x) Pas (.attente p t)
      (.lance (fun _ => .empty) fun _ => Client.Poste.depart) _ := ⟨trivial, .lance _ _ hl⟩
  have htenu : Tenu (.attente p t) := ⟨hp, _, hes.append ht⟩
  obtain ⟨gs, hgs⟩ := retour_partie (Pas.tenu htenu hlance.1 hlance.2) (.inr not_false) fun ⟨g, hg, _⟩ => nomatch hg
  exact ⟨_, ((Trace.attente ht).snoc hlance).append hgs⟩

theorem retour_possible (es : List Evenement) (x : Processus)
    (h : Trace (Under (fun x e => e.Sur x) Pas) (.accueil 0) es x) (hx : x.EntreManches) :
    (∃ fs p, Trace (Under (fun x e => e.Sur x) Pas) x fs (.parametrage p)) ↔ ¬ x.Gagnee := by
  have htenu : x.Tenu := Trace.tenu h (.inl rfl)
  constructor
  · rintro ⟨fs, p, hr⟩ hg
    cases x with
    | partie p' g₀ s =>
      obtain ⟨g, hmem, h1⟩ := hg
      obtain ⟨s', he | he, -⟩ := Trace.gagnee htenu.2.1.lancement htenu.2.2 hmem h1 (.inl rfl) hr.forget
      · cases he
      · cases he
    | coupee => exact hx
    | _ => exact hg
  · intro hg
    have hnul : PlateauNul memoireZero 50 := ⟨rfl, fun _ _ _ => rfl⟩
    have houvre : Under (fun x e => e.Sur x) Pas (.accueil 0) (.ouvre memoireZero) (.parametrage _) :=
      ⟨hnul, .ouvre memoireZero rfl⟩
    cases x with
    | accueil choix =>
      rcases htenu with rfl | rfl
      · exact ⟨_, _, .single houvre⟩
      · have hhaut : Under (fun x e => e.Sur x) Pas (.accueil 1) (.touche .haut) (.accueil 0) :=
          ⟨trivial, .accueil nofun⟩
        exact ⟨_, _, (Trace.single hhaut).snoc houvre⟩
    | parametrage p => exact ⟨[], p, .nil⟩
    | attente p a =>
      obtain ⟨fs, hr⟩ := retour_attente htenu hx
      exact ⟨fs, p, hr⟩
    | partie p g₀ s =>
      obtain ⟨fs, hr⟩ := retour_partie htenu hx hg
      exact ⟨fs, p, hr⟩
    | coupee => exact hx.elim
    | quitte => exact hx.elim
    | arret => exact hx.elim

theorem retour_possible_partie : ∃ es p g₀ s, Trace (Under (fun x e => e.Sur x) Pas) (.accueil 0) es (.partie p g₀ s) ∧
    ((∃ fs p', Trace (Under (fun x e => e.Sur x) Pas) (.partie p g₀ s) fs (.parametrage p')) ↔
      ¬ Gagnee (.partie p g₀ s)) := by
  obtain ⟨es, p, g₀, s, h, hp⟩ := partie_accessible
  exact ⟨es, p, g₀, s, h, retour_possible es _ h (.inr (by simp [Serveur.Poste.Lance, hp]))⟩

end Processus

end Bnbr
