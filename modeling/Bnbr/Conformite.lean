import Bnbr.Parcours

namespace Bnbr

open Sessions Serveur

variable {g₀ : Serveur.GameT} {s s' : Etat} {i : Nat}

structure Terminee (g₀ : Serveur.GameT) (s : Etat) : Prop where
  serveur : s.serveur.point = .boucle ∨ s.serveur.point = .fini
  finEnvoyee : s.serveur.finEnvoyee = true
  clients : ∀ i : Nat, (i : Int) < g₀.nbJoueur → (s.clients i).point = .fini

def Aboutit (g₀ : Serveur.GameT) (s : Etat) : Prop := ∃ s', Run g₀.nbJoueur s s' ∧ Terminee g₀ s'

def Serveur.Point.attend (i : Nat) : Serveur.Point → Prop
  | .accuse _ k => k = i
  | .collecte j _ _ => j = (i : Int)
  | .tir k => k = i
  | _ => False

def Reponse (g₀ : Serveur.GameT) (q : Requete) : Serveur.Point → Prop
  | .collecte _ _ _ => q.id = 3 ∧ ∃ x y direction, q = requeteBateau x y direction ∧
      ∀ id, (Placement.mk id x y direction).Valide g₀.taillePlateau g₀.tailleBateau
  | .tir _ => q.id = 6 ∧ (q = requeteMort ∨ ∃ x y, Dans g₀.taillePlateau (x, y) ∧ q = requeteTir x y)
  | _ => q.id = 0

structure Conforme (g₀ : Serveur.GameT) (s : Etat) : Prop where
  client : ∀ i : Nat, (i : Int) < g₀.nbJoueur → (s.clients i).point ≠ .erreur ∧
    ∀ q reste, s.versClient i = q :: reste → q.id ∈ (s.clients i).point.attendus
  serveur : ∀ i : Nat, (i : Int) < g₀.nbJoueur → s.serveur.point.attend i →
    ∀ q reste, s.versServeur i = q :: reste → Reponse g₀ q s.serveur.point
  progres : Aboutit g₀ s ∨ Avance g₀.nbJoueur s

theorem Accord.apresInterne (hg₀ : Lancement g₀) (h : Accord g₀ s) {p : Serveur.Poste}
    (hs : Serveur.Pas s.serveur .interne p) (hd : p.depasse = false) : Accord g₀ { s with serveur := p } :=
  (h.etape hg₀ (.serveurInterne hs)).accord hd

theorem Accord.envoi (h : Accord g₀ s) {b : Boucle} (hp : s.serveur.point = .envoi b i)
    (hi : (i : Int) < g₀.nbJoueur) : Avance g₀.nbJoueur s := by
  obtain ⟨q, -, hq⟩ := h.emet hp hi
  exact .envoie (.serveurEnvoie hq)

theorem Accord.demande (h : Accord g₀ s) (hp : s.serveur.point = .demande i) (hi : (i : Int) < g₀.nbJoueur) :
    Avance g₀.nbJoueur s := by
  have hr := h.serveur
  simp only [Regulier, hp] at hr
  exact .envoie (.serveurEnvoie (.demande hp (hr.1.game ▸ hi)))

theorem Accord.tir (hg₀ : Lancement g₀) (h : Accord g₀ s) (hp : s.serveur.point = .tir i)
    (hi : (i : Int) < g₀.nbJoueur) : Avance g₀.nbJoueur s := by
  have hr := h.serveur
  simp only [Regulier, hp] at hr
  refine h.recoit hg₀ hi ?_ fun q => .tir q hp (hr.1.regles.nbJoueur ▸ hi)
  simp only [Serveur.Poste.moment, hp, passage_pendant]
  rfl

theorem Accord.fini (h : Accord g₀ s) (hr : ApresVerdict g₀ s.serveur) (hf : s.serveur.finEnvoyee = true)
    (hm : ∀ i, s.serveur.moment i = .plateau s.serveur.manche) (hi : (i : Int) < g₀.nbJoueur) :
    (s.clients i).point = .fini := by
  obtain ⟨k, g, hk, hg, h1⟩ := hr.fin hf
  exact ((h.joueurs i hi).fini (hk ▸ hm i) hg h1).1

theorem Accord.manche (hg₀ : Lancement g₀) (h : Accord g₀ s) (hp : s.serveur.point = .boucle)
    (hf : s.serveur.finEnvoyee = false) : Avance g₀.nbJoueur s := by
  have h1 := hg₀.registres.joueurs
  obtain ⟨t, hstep⟩ := h.debutManche hg₀ hp hf
  have hs' := h.apresInterne hg₀ hstep (by rw [h.depasse, hf]; rfl)
  exact .run (Etape.serveurInterne hstep).run (hs'.envoi rfl (by omega))

theorem Accord.touche (hg₀ : Lancement g₀) (h : Accord g₀ s) (hp : s.serveur.point = .touche) :
    Avance g₀.nbJoueur s := by
  have hr := h.serveur
  simp only [Regulier, hp] at hr
  have hstep : Serveur.Pas s.serveur .interne _ := .touche hp
  exact .run (Etape.serveurInterne hstep).run ((h.apresInterne hg₀ hstep h.depasse).manche hg₀ rfl hr.finEnvoyee)

theorem Aboutit.run (hr : Run g₀.nbJoueur s s') (h : Aboutit g₀ s' ∨ Avance g₀.nbJoueur s') :
    Aboutit g₀ s ∨ Avance g₀.nbJoueur s := by
  rcases h with ⟨t, ht, hfin⟩ | h
  · exact .inl ⟨t, hr.trans ht, hfin⟩
  · exact .inr (h.run hr)

theorem Accord.boucle (hg₀ : Lancement g₀) (h : Accord g₀ s) (hp : s.serveur.point = .boucle) :
    Aboutit g₀ s ∨ Avance g₀.nbJoueur s := by
  have hr := h.serveur
  simp only [Regulier, hp] at hr
  cases hf : s.serveur.finEnvoyee with
  | true =>
    exact .inl ⟨s, .refl, .inl hp, hf, fun i hi => h.fini hr hf (fun k => by simp only [Serveur.Poste.moment, hp]) hi⟩
  | false => exact .inr (h.manche hg₀ hp hf)

-- the server's loop over the players is over: what comes next is an exchange, or the game has ended
theorem Accord.suite (hg₀ : Lancement g₀) (h : Accord g₀ s) {b : Boucle} (hp : s.serveur.point = .envoi b i)
    (hi : ¬ (i : Int) < g₀.nbJoueur) : Aboutit g₀ s ∨ Avance g₀.nbJoueur s := by
  have h1 := hg₀.registres.joueurs
  have hstep := h.finEnvoi hp hi
  have hs' := h.apresInterne hg₀ hstep h.depasse
  cases b with
  | infos => exact .inr (.run (Etape.serveurInterne hstep).run (hs'.demande rfl (by omega)))
  | plateau t => exact .inr (.run (Etape.serveurInterne hstep).run (hs'.envoi rfl (by omega)))
  | go => exact .inr (.run (Etape.serveurInterne hstep).run (hs'.tir hg₀ rfl (by omega)))
  | etat f => exact Aboutit.run (Etape.serveurInterne hstep).run (hs'.boucle hg₀ rfl)

theorem Accord.collecte (hg₀ : Lancement g₀) (h : Accord g₀ s) {j n : Int} {envois : List (Int × List Char)}
    (hp : s.serveur.point = .collecte j n envois) : Avance g₀.nbJoueur s := by
  have hr := h.serveur
  simp only [Regulier, hp] at hr
  by_cases hf : (s.serveur.collecte j n envois).fini
  · have hstep : Serveur.Pas s.serveur .interne _ := .sortie hp hf
    exact .run (Etape.serveurInterne hstep).run ((h.apresInterne hg₀ hstep h.depasse).touche hg₀ rfl)
  · obtain ⟨h0, hj⟩ := hr.joueur hf
    have hij : j = ((j.toNat : Nat) : Int) := by omega
    refine h.recoit hg₀ (i := j.toNat) (by omega) ?_ fun q => .bateau q hp hf hij
    simp only [Serveur.Poste.moment, hp, passage_pendant]
    rfl

theorem Accord.progres (hg₀ : Lancement g₀) (h : Accord g₀ s) : Aboutit g₀ s ∨ Avance g₀.nbJoueur s := by
  have hr := h.serveur
  cases hp : s.serveur.point with
  | envoi b i =>
    by_cases hi : (i : Int) < g₀.nbJoueur
    · exact .inr (h.envoi hp hi)
    · exact h.suite hg₀ hp hi
  | accuse b i =>
    simp only [Regulier, hp] at hr
    refine .inr (h.recoit hg₀ hr.2 ?_ fun q => .accuse q hp)
    simp only [Serveur.Poste.moment, hp, passage_pendant, b.pendant_sens]
  | demande i =>
    by_cases hi : (i : Int) < g₀.nbJoueur
    · exact .inr (h.demande hp hi)
    · simp only [Regulier, hp] at hr
      have hstep : Serveur.Pas s.serveur .interne _ := .collecter hp (by rw [hr.1.game]; exact hi)
      exact .inr (.run (Etape.serveurInterne hstep).run ((h.apresInterne hg₀ hstep h.depasse).collecte hg₀ rfl))
  | collecte j n envois => exact .inr (h.collecte hg₀ hp)
  | bateau j n envois q =>
    simp only [Regulier, hp] at hr
    have := hr.1.joueur hr.2.1
    obtain ⟨c, -, hpas⟩ := h.bateau hg₀ (i := j.toNat) hp (by omega)
    exact .inr (.envoie (.serveurEnvoie hpas))
  | touche => exact .inr (h.touche hg₀ hp)
  | boucle => exact h.boucle hg₀ hp
  | tir i =>
    by_cases hi : (i : Int) < g₀.nbJoueur
    · exact .inr (h.tir hg₀ hp hi)
    · obtain ⟨g, f, hstep⟩ := h.verdict hp hi
      have h1 := hg₀.registres.joueurs
      exact .inr (.run (Etape.serveurInterne hstep).run ((h.apresInterne hg₀ hstep h.depasse).envoi rfl (by omega)))
  | tirRecu i q =>
    obtain ⟨g, hpas⟩ := h.tirRecu hg₀ hp
    exact .inr (.envoie (.serveurEnvoie hpas))
  | fini =>
    simp only [Regulier, hp] at hr
    exact .inl ⟨s, .refl, .inr hp, hr.2, fun i hi =>
      h.fini hr.1 hr.2 (fun k => by simp only [Serveur.Poste.moment, hp]) hi⟩

theorem Accord.conforme (hg₀ : Lancement g₀) (h : Accord g₀ s) : Conforme g₀ s where
  client := by
    intro i hi
    obtain ⟨hsync, hloyal⟩ := h.joueurs i hi
    refine ⟨fun he => ?_, fun q reste hq => ?_⟩
    · simp only [Client.Loyal, he] at hloyal
    · rw [hq] at hsync
      exact hloyal.attendu hsync.reception.1
  serveur := by
    intro i hi ha q reste hq
    have hsync := (h.joueurs i hi).sync
    rw [hq] at hsync
    have hc : Convient g₀ s.serveur.verdicts i (s.clients i) (s.serveur.moment i) q := hsync.lecture.1.convient
    cases hp : s.serveur.point with
    | accuse b k =>
      rw [hp] at ha
      obtain rfl : k = i := ha
      simp only [Serveur.Poste.moment, hp, passage_pendant] at hc
      cases b <;> exact hc
    | collecte j n envois =>
      rw [hp] at ha
      obtain rfl : j = (i : Int) := ha
      simp only [Serveur.Poste.moment, hp, Int.toNat_natCast, passage_pendant] at hc
      have hb : BateauChoisi g₀ (s.clients i) q := hc
      refine ⟨?_, _, _, _, hb.requete, hb.valide⟩
      rw [hb.requete]
      rfl
    | tir k =>
      rw [hp] at ha
      obtain rfl : k = i := ha
      simp only [Serveur.Poste.moment, hp, passage_pendant] at hc
      have ht : TirDe g₀.taillePlateau s.serveur.verdicts k s.serveur.manche q := hc
      rcases ht with ⟨-, x, y, hd, rfl⟩ | ⟨-, -, -, rfl⟩
      · exact ⟨rfl, .inr ⟨x, y, hd, rfl⟩⟩
      · exact ⟨rfl, .inl rfl⟩
    | _ => simp [hp, Point.attend] at ha
  progres := h.progres hg₀

theorem protocole_conforme (g₀ : Serveur.GameT) (hg₀ : Lancement g₀) (s : Etat) (h : Atteignable g₀ s)
    (hd : s.serveur.depasse = false) : Conforme g₀ s :=
  ((h.invariant hg₀).accord hd).conforme hg₀

theorem protocole_conforme_manche : ∃ s f k, Atteignable (GameT.depart 2 4 2) s ∧
    s.serveur.point = .envoi (.etat f) k ∧ Conforme (GameT.depart 2 4 2) s := by
  obtain ⟨s, f, k, ha, h, hp, -⟩ := manche_accessible depart_deux
  exact ⟨s, f, k, ha, hp, protocole_conforme _ depart_deux s ha h.depasse⟩

end Bnbr
