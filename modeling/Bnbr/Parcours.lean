import Bnbr.Progres

namespace Bnbr

open CString Sessions Serveur

variable {g₀ : Serveur.GameT} {s : Etat} {i : Nat}

def Client.Poste.depart : Client.Poste where
  point := .inscription
  game := ⟨0, fun _ _ => .empty, 0, ⟨fun _ => ⟨0, 0, .empty⟩⟩, 0, 0, .enJeu⟩
  x := 0
  y := 0
  direction := 'd'
  apercu := ⟨'d', fun _ _ => .empty, []⟩
  manche := 0

def Etat.depart (g₀ : Serveur.GameT) : Etat where
  serveur := ⟨.envoi .infos 0, g₀, 0, [], false, false⟩
  clients := fun _ => .depart
  versClient := fun _ => [accuseOk]
  versServeur := fun _ => []

theorem depart_lancement {n p t : Int} (hn : 1 ≤ n ∧ n ≤ 100) (hp : p ≤ 50) (ht : 2 ≤ t ∧ t ≤ 10)
    (hpt : 2 * t ≤ p) : Lancement (GameT.depart n p t) where
  registres := GameT.depart_registres hn hp (by omega)
  bateau := ht.1
  place := hpt
  nbBateau := rfl
  vide := fun _ _ _ => rfl
  timeout := (by decide : Decimal.InInt 15)
  etat := (by decide : (0 : Int) ≠ 2)

theorem depart_deux : Lancement (GameT.depart 2 4 2) :=
  depart_lancement (by decide) (by decide) (by decide) (by decide)

theorem Etat.depart_debut (g₀ : Serveur.GameT) : Debut g₀ (.depart g₀) :=
  ⟨rfl, fun _ => rfl, fun _ _ => ⟨rfl, .inl ⟨rfl, rfl⟩⟩⟩

theorem Etat.depart_atteignable (g₀ : Serveur.GameT) : Atteignable g₀ (.depart g₀) := ⟨_, depart_debut g₀, .refl⟩

theorem Atteignable.run (h : Atteignable g₀ s) {s' : Etat} (hr : Run g₀.nbJoueur s s') : Atteignable g₀ s' := by
  obtain ⟨s₀, h₀, h⟩ := h
  exact ⟨s₀, h₀, h.trans hr⟩

-- a loop of the server over the players, by induction on the number of players it has still to serve
theorem Accord.sert (hg₀ : Lancement g₀) (h : Accord g₀ s) {b : Boucle} (hp : s.serveur.point = .envoi b i) :
    ∃ s' k, Run g₀.nbJoueur s s' ∧ Accord g₀ s' ∧ s'.serveur.point = .envoi b k ∧ ¬ (k : Int) < g₀.nbJoueur ∧
      s'.serveur.manche = s.serveur.manche := by
  induction hk : (g₀.nbJoueur - i).toNat generalizing s i with
  | zero => exact ⟨s, i, .refl, h, hp, by omega, rfl⟩
  | succ d ih =>
    have hi : (i : Int) < g₀.nbJoueur := by omega
    obtain ⟨q, -, hq⟩ := h.emet hp hi
    have henvoi : Etape g₀.nbJoueur s _ _ := .serveurEnvoie hq
    have h₁ := h.run hg₀ henvoi.run h.depasse
    obtain ⟨s₁, q', s₂, hr, he, hs₂⟩ := h₁.prend hg₀ hi
      (by simp only [Serveur.Poste.moment, passage_pendant, b.pendant_sens]) fun q => .accuse q rfl
    have hrun := (henvoi.run.trans hr).trans he.run
    obtain ⟨s', k, hr', hs', hpk, hk', hm⟩ := ih (h.run hg₀ hrun (by rw [hs₂]; exact h.depasse)) (by rw [hs₂])
      (by omega)
    exact ⟨s', k, hrun.trans hr', hs', hpk, hk', hm.trans (by rw [hs₂])⟩

theorem Accord.demandes (hg₀ : Lancement g₀) (h : Accord g₀ s) (hp : s.serveur.point = .demande i) :
    ∃ s' k, Run g₀.nbJoueur s s' ∧ Accord g₀ s' ∧ s'.serveur.point = .demande k ∧ ¬ (k : Int) < g₀.nbJoueur := by
  induction hk : (g₀.nbJoueur - i).toNat generalizing s i with
  | zero => exact ⟨s, i, .refl, h, hp, by omega⟩
  | succ d ih =>
    have hi : (i : Int) < g₀.nbJoueur := by omega
    have hr := h.serveur
    simp only [Regulier, hp] at hr
    have henvoi : Etape g₀.nbJoueur s _ _ := .serveurEnvoie (.demande hp (hr.1.game ▸ hi))
    obtain ⟨s', k, hr', hs', hpk, hk'⟩ := ih (h.run hg₀ henvoi.run h.depasse) rfl (by omega)
    exact ⟨s', k, henvoi.run.trans hr', hs', hpk, hk'⟩

theorem Accord.collecte_finie (hg₀ : Lancement g₀) (h : Accord g₀ s) {j n : Int} {envois : List (Int × List Char)}
    (hp : s.serveur.point = .collecte j n envois) :
    ∃ s' j' n' envois', Run g₀.nbJoueur s s' ∧ Accord g₀ s' ∧ s'.serveur.point = .collecte j' n' envois' ∧
      (s'.serveur.collecte j' n' envois').fini := by
  induction hk : (g₀.nbJoueur - j).toNat generalizing s j n envois with
  | zero =>
    have hr := h.serveur
    simp only [Regulier, hp] at hr
    by_cases hf : (s.serveur.collecte j n envois).fini
    · exact ⟨s, j, n, envois, .refl, h, hp, hf⟩
    · have := hr.joueur hf
      omega
  | succ d ih =>
    have hr := h.serveur
    simp only [Regulier, hp] at hr
    by_cases hf : (s.serveur.collecte j n envois).fini
    · exact ⟨s, j, n, envois, .refl, h, hp, hf⟩
    · obtain ⟨h0, hj⟩ := hr.joueur hf
      have hij : j = ((j.toNat : Nat) : Int) := by omega
      obtain ⟨s₁, q, s₂, hr₁, he, hs₂⟩ := h.prend hg₀ (i := j.toNat) (by omega)
        (by simp only [Serveur.Poste.moment, hp, passage_pendant]; rfl) fun q => .bateau q hp hf hij
      have h₂ := h.run hg₀ (hr₁.trans he.run) (by rw [hs₂]; exact h.depasse)
      obtain ⟨c, hcj, hpas⟩ := h₂.bateau hg₀ (by rw [hs₂]) hij
      have hplace : Etape g₀.nbJoueur s₂ _ _ := .serveurEnvoie hpas
      have hrun := (hr₁.trans he.run).trans hplace.run
      obtain ⟨s', j', n', envois', hr', hs', hp', hf'⟩ := ih (h.run hg₀ hrun h₂.depasse) rfl (by omega)
      exact ⟨s', j', n', envois', hrun.trans hr', hs', hp', hf'⟩

theorem collecte_accessible (hg₀ : Lancement g₀) :
    ∃ s j n envois, Atteignable g₀ s ∧ Accord g₀ s ∧ s.serveur.point = .collecte j n envois ∧
      (s.serveur.collecte j n envois).fini := by
  have h₀ := (Etat.depart_debut g₀).accord hg₀
  obtain ⟨s₁, k, hr₁, h₁, hp₁, hk₁, -⟩ := h₀.sert hg₀ (b := .infos) rfl
  have hsuite := Etape.serveurInterne (n := g₀.nbJoueur) (h₁.finEnvoi hp₁ hk₁)
  obtain ⟨s₂, k', hr₂, h₂, hp₂, hk₂⟩ := (h₁.run hg₀ hsuite.run h₁.depasse).demandes hg₀ rfl
  have hreg₂ := h₂.serveur
  simp only [Regulier, hp₂] at hreg₂
  have hcol : Etape g₀.nbJoueur s₂ _ _ := .serveurInterne (.collecter hp₂ (by rw [hreg₂.1.game]; exact hk₂))
  obtain ⟨s', j, n, envois, hr', hs', hp', hf'⟩ := (h₂.run hg₀ hcol.run h₂.depasse).collecte_finie hg₀ rfl
  exact ⟨s', j, n, envois, (Etat.depart_atteignable g₀).run
    ((((hr₁.trans hsuite.run).trans hr₂).trans hcol.run).trans hr'), hs', hp', hf'⟩

theorem Accord.tirs (hg₀ : Lancement g₀) (h : Accord g₀ s) (hp : s.serveur.point = .tir i) :
    ∃ s' k, Run g₀.nbJoueur s s' ∧ Accord g₀ s' ∧ s'.serveur.point = .tir k ∧ ¬ (k : Int) < g₀.nbJoueur := by
  induction hk : (g₀.nbJoueur - i).toNat generalizing s i with
  | zero => exact ⟨s, i, .refl, h, hp, by omega⟩
  | succ d ih =>
    have hi : (i : Int) < g₀.nbJoueur := by omega
    have hr := h.serveur
    simp only [Regulier, hp] at hr
    obtain ⟨s₁, q, s₂, hr₁, he, hs₂⟩ := h.prend hg₀ hi
      (by simp only [Serveur.Poste.moment, hp, passage_pendant]; rfl) fun q => .tir q hp (hr.1.regles.nbJoueur ▸ hi)
    have h₂ := h.run hg₀ (hr₁.trans he.run) (by rw [hs₂]; exact h.depasse)
    obtain ⟨g, hpas⟩ := h₂.tirRecu hg₀ (by rw [hs₂])
    have hjoue : Etape g₀.nbJoueur s₂ _ _ := .serveurEnvoie hpas
    have hrun := (hr₁.trans he.run).trans hjoue.run
    obtain ⟨s', k, hr', hs', hpk, hk'⟩ := ih (h.run hg₀ hrun h₂.depasse) rfl (by omega)
    exact ⟨s', k, hrun.trans hr', hs', hpk, hk'⟩

theorem Accord.manche_complete (hg₀ : Lancement g₀) (h : Accord g₀ s) (hp : s.serveur.point = .boucle)
    (hf : s.serveur.finEnvoyee = false) :
    ∃ s' f k, Run g₀.nbJoueur s s' ∧ Accord g₀ s' ∧ s'.serveur.point = .envoi (.etat f) k ∧
      ¬ (k : Int) < g₀.nbJoueur := by
  obtain ⟨t, hmanche⟩ := h.debutManche hg₀ hp hf
  have h₁ := h.run hg₀ (Etape.serveurInterne hmanche).run (by rw [h.depasse, hf]; rfl)
  obtain ⟨s₂, k₂, hr₂, h₂, hp₂, hk₂, -⟩ := h₁.sert hg₀ rfl
  have hplateau := Etape.serveurInterne (n := g₀.nbJoueur) (h₂.finEnvoi hp₂ hk₂)
  obtain ⟨s₃, k₃, hr₃, h₃, hp₃, hk₃, -⟩ := (h₂.run hg₀ hplateau.run h₂.depasse).sert hg₀ rfl
  have hgo := Etape.serveurInterne (n := g₀.nbJoueur) (h₃.finEnvoi hp₃ hk₃)
  obtain ⟨s₄, k₄, hr₄, h₄, hp₄, hk₄⟩ := (h₃.run hg₀ hgo.run h₃.depasse).tirs hg₀ rfl
  obtain ⟨g, f, hverdict⟩ := h₄.verdict hp₄ hk₄
  have hv := Etape.serveurInterne (n := g₀.nbJoueur) hverdict
  obtain ⟨s₅, k₅, hr₅, h₅, hp₅, hk₅, -⟩ := (h₄.run hg₀ hv.run h₄.depasse).sert hg₀ rfl
  exact ⟨s₅, f, k₅, (((((((Etape.serveurInterne hmanche).run.trans hr₂).trans hplateau.run).trans hr₃).trans
    hgo.run).trans hr₄).trans hv.run).trans hr₅, h₅, hp₅, hk₅⟩

def Client.Poste.Traite (c : Client.Poste) (m : Nat) (e : EtatPartie) : Prop :=
  c.manche = m + 1 ∧ c.game.etat = e ∨ c.manche = m ∧ c.point = .accuseEtat e

theorem Accord.traite (h : Accord g₀ s) {f : Nat → Option Requete} {k : Nat}
    (hp : s.serveur.point = .envoi (.etat f) k) (hk : ¬ (k : Int) < g₀.nbJoueur) (hi : (i : Int) < g₀.nbJoueur) :
    (s.clients i).Traite s.serveur.manche (s.clients i).game.etat := by
  have hsync := (h.joueurs i hi).sync
  have hm : s.serveur.moment i = .plateau (s.serveur.manche + 1) := by
    simp only [Serveur.Poste.moment, hp]
    exact passage_apres (by omega)
  rw [hm] at hsync
  obtain ⟨hc, -⟩ := hsync.rattrape rfl fun _ => plateau_precede
  refine .inl ⟨?_, rfl⟩
  unfold Client.Poste.moment at hc
  split at hc <;> simp_all

theorem manche_accessible (hg₀ : Lancement g₀) :
    ∃ s f k, Atteignable g₀ s ∧ Accord g₀ s ∧ s.serveur.point = .envoi (.etat f) k ∧ ¬ (k : Int) < g₀.nbJoueur := by
  obtain ⟨s, j, n, envois, ha, h, hp, hf⟩ := collecte_accessible hg₀
  have hsortie : Etape g₀.nbJoueur s _ _ := .serveurInterne (.sortie hp hf)
  have h₁ := h.run hg₀ hsortie.run h.depasse
  have htouche : Etape g₀.nbJoueur { s with serveur := { s.serveur with point := .touche } } _ _ :=
    .serveurInterne (.touche rfl)
  have hr := h₁.serveur
  simp only [Regulier] at hr
  obtain ⟨s', f, k, hr', h', hp', hk'⟩ :=
    (h₁.run hg₀ htouche.run h.depasse).manche_complete hg₀ rfl hr.finEnvoyee
  exact ⟨s', f, k, ha.run ((hsortie.run.trans htouche.run).trans hr'), h', hp', hk'⟩

end Bnbr
