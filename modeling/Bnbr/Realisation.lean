import Bnbr.Parcours
import Bnbr.Reference

namespace Bnbr

open CArray CString Sessions Serveur

namespace Client

variable {g₀ : Serveur.GameT} {c : Poste}

def Fleche (n : Int) (a b : Int × Int) : Prop := ∃ t : Touche, t ≠ .entree ∧ b = deplacer n t a.1 a.2

theorem fleches {n : Int} {a b : Int × Int} (ha : Dans n a) (hb : Dans n b) :
    Relation.ReflTransGen (Fleche n) a b := by
  obtain ⟨bx, bY⟩ := b
  induction hm : (bx - a.1).natAbs + (bY - a.2).natAbs generalizing a with
  | zero =>
    have he : a = (bx, bY) := Prod.ext (by simp only; omega) (by simp only; omega)
    rw [he]
  | succ d ih =>
    obtain ⟨ax, aY⟩ := a
    simp only [Dans] at ha hb hm
    have hstep {x y : Int} (t : Touche) (ht : t ≠ .entree) (hxy : deplacer n t ax aY = (x, y))
        (hd : Dans n (x, y)) (hlt : (bx - x).natAbs + (bY - y).natAbs = d) :
        Relation.ReflTransGen (Fleche n) (ax, aY) (bx, bY) :=
      .head ⟨t, ht, hxy.symm⟩ (ih hd hlt)
    rcases Int.lt_trichotomy ax bx with hx | hx | hx
    · refine hstep (x := ax + 1) (y := aY) .droite (by decide) ?_ (by simp only [Dans]; omega) (by omega)
      rw [deplacer, if_pos (by omega)]
    · rcases Int.lt_trichotomy aY bY with hy | hy | hy
      · refine hstep (x := ax) (y := aY + 1) .bas (by decide) ?_ (by simp only [Dans]; omega) (by omega)
        rw [deplacer, if_pos (by omega)]
      · omega
      · refine hstep (x := ax) (y := aY - 1) .haut (by decide) ?_ (by simp only [Dans]; omega) (by omega)
        rw [deplacer, if_pos (by omega)]
    · refine hstep (x := ax - 1) (y := aY) .gauche (by decide) ?_ (by simp only [Dans]; omega) (by omega)
      rw [deplacer, if_pos (by omega)]

abbrev Internes : Poste → Poste → Prop := Relation.ReflTransGen fun c c' => Pas c .interne c'

theorem choix_fleches (hp : c.point = .choix) {p : Int × Int}
    (h : Relation.ReflTransGen (Fleche c.game.taillePlateau) (c.x, c.y) p) :
    Internes c { c with x := p.1, y := p.2 } := by
  induction h with
  | refl => exact .refl
  | tail _ hs ih =>
    obtain ⟨t, ht, rfl⟩ := hs
    exact ih.tail (.choix t hp ht)

theorem viser_fleches {x y : Int} (hp : c.point = .viser x y) {p : Int × Int}
    (h : Relation.ReflTransGen (Fleche c.game.taillePlateau) (x, y) p) :
    Internes c { c with point := .viser p.1 p.2 } := by
  induction h with
  | refl =>
    rw [← hp]
  | tail _ hs ih =>
    obtain ⟨t, -, rfl⟩ := hs
    exact ih.tail (.viser t rfl)

theorem touche_direction {direction : Char} {v : Int × Int} (h : pas direction = some v) :
    ∃ t : Touche, (t ≠ .entree ∧ t ≠ .q) ∧ ∀ d, orienter t d = direction := by
  rcases pas_cases h with ⟨rfl, -⟩ | ⟨rfl, -⟩ | ⟨rfl, -⟩ | ⟨rfl, -⟩
  · exact ⟨.haut, by decide, fun _ => rfl⟩
  · exact ⟨.bas, by decide, fun _ => rfl⟩
  · exact ⟨.gauche, by decide, fun _ => rfl⟩
  · exact ⟨.droite, by decide, fun _ => rfl⟩

theorem choisir (hg₀ : Lancement g₀) (hp : c.point = .choix) (hr : Reglee g₀ c.game)
    (hc : Dans g₀.taillePlateau (c.x, c.y)) {P : Placement} (hP : P.Valide g₀.taillePlateau g₀.tailleBateau) :
    ∃ c', Internes c c' ∧ c'.point = .menu ∧ c'.x = P.x ∧ c'.y = P.y ∧ c'.direction = P.direction ∧
      c'.game = c.game := by
  have ht := hg₀.registres.bateau
  obtain ⟨v, hv⟩ := Option.isSome_iff_exists.mp hP.direction
  have hdans (k : Nat) (hk : (k : Int) < g₀.tailleBateau) : Dans g₀.taillePlateau (kieme P.x P.y v k) := by
    have := hP.dans k hk
    rwa [Placement.case_pas hv] at this
  have hcase : Dans g₀.taillePlateau (P.x, P.y) := by simpa [kieme] using hdans 0 (by omega)
  let pile : Cells := fun _ _ => .empty
  have hmenu := choix_fleches hp (hr.taillePlateau.symm ▸ fleches hc hcase)
  obtain ⟨a, -, ha, -⟩ := afficherPlateauPlacerBateau_spec (hr.regle hg₀) pile
    (hr.taillePlateau.symm ▸ hcase) (by decide : (pas 'd').isSome = true)
  obtain ⟨t, hne, hor⟩ := touche_direction hv
  obtain ⟨a', -, ha', -⟩ := afficherPlateauPlacerBateau_spec (hr.regle hg₀) pile
    (hr.taillePlateau.symm ▸ hcase) hP.direction
  have hdir := afficherPlateauPlacerBateau_direction (hr.tailleBateau.symm ▸ ht) ha' hv
    (by rw [hr.tailleBateau, hr.taillePlateau]; exact hdans)
  refine ⟨_, (hmenu.tail (.entrer pile hp ha)).tail (.menu pile t rfl hne (a := a') ?_), rfl, rfl, rfl, hdir, rfl⟩
  rw [hor]
  exact ha'

end Client

def Repos (p : Serveur.Poste) (cl : Nat → Client.Poste) : Etat := ⟨p, cl, fun _ => [], fun _ => []⟩

variable {g₀ : Serveur.GameT} {n : Int} {p p' : Serveur.Poste} {cl : Nat → Client.Poste} {i : Nat} {q : Requete}
  {c : Client.Poste}

theorem Repos.demande (hs : Serveur.Pas p (.envoie i q) p') (hi : (i : Int) < n)
    (hc : Client.Pas (cl i) (.prend q) c) : Run n (Repos p cl) (Repos p' (Function.update cl i c)) := by
  have h1 : Etape n (Repos p cl) _ _ := .serveurEnvoie hs
  have h2 : Etape n ⟨p', cl, Function.update (fun _ => []) i ([] ++ [q]), fun _ => []⟩ _ _ :=
    .clientPrend hi hc (show Function.update (fun _ => []) i ([] ++ [q]) i = q :: [] from Function.update_self _ _ _)
  have h3 : (⟨p', Function.update cl i c, Function.update (Function.update (fun _ => []) i ([] ++ [q])) i [],
      fun _ => []⟩ : Etat) = Repos p' (Function.update cl i c) := by
    rw [Function.update_idem, Function.update_eq_self_iff.mpr rfl]
    rfl
  exact h3 ▸ h1.run.trans h2.run

theorem Repos.reponse (hi : (i : Int) < n) (hc : Client.Pas (cl i) (.envoie q) c)
    (hs : Serveur.Pas p (.prend i q) p') : Run n (Repos p cl) (Repos p' (Function.update cl i c)) := by
  have h1 : Etape n (Repos p cl) _ _ := .clientEnvoie hi hc
  have h2 : Etape n ⟨p, Function.update cl i c, fun _ => [], Function.update (fun _ => []) i ([] ++ [q])⟩ _ _ :=
    .serveurPrend hs (show Function.update (fun _ => []) i ([] ++ [q]) i = q :: [] from Function.update_self _ _ _)
  have h3 : (⟨p', Function.update cl i c, fun _ => [], Function.update (Function.update (fun _ => []) i ([] ++ [q])) i
      []⟩ : Etat) = Repos p' (Function.update cl i c) := by
    rw [Function.update_idem, Function.update_eq_self_iff.mpr rfl]
    rfl
  exact h3 ▸ h1.run.trans h2.run

theorem Repos.internes (hi : (i : Int) < n) (hc : Client.Internes (cl i) c) :
    Run n (Repos p cl) (Repos p (Function.update cl i c)) := run_client (s := Repos p cl) hi hc

theorem Repos.interne (hs : Serveur.Pas p .interne p') : Run n (Repos p cl) (Repos p' cl) :=
  (Etape.serveurInterne (s := Repos p cl) hs).run

theorem Repos.tour {J : Nat → Serveur.Poste → Prop} {P Q : Nat → Client.Poste → Prop}
    (hJd : ∀ i p, J i p → p.depasse = false)
    (h : ∀ (i : Nat) p cl, Accord g₀ (Repos p cl) → (i : Int) < g₀.nbJoueur → J i p → P i (cl i) →
      ∃ p' c, J (i + 1) p' ∧ Q i c ∧ Run g₀.nbJoueur (Repos p cl) (Repos p' (Function.update cl i c)))
    (hg₀ : Lancement g₀) (ha : Accord g₀ (Repos p cl)) (hJ : J 0 p)
    (hP : ∀ i : Nat, (i : Int) < g₀.nbJoueur → P i (cl i)) {k : Nat} (hk : (k : Int) ≤ g₀.nbJoueur) :
    ∃ p' cl', Run g₀.nbJoueur (Repos p cl) (Repos p' cl') ∧ Accord g₀ (Repos p' cl') ∧ J k p' ∧
      (∀ i, i < k → Q i (cl' i)) ∧ ∀ i, k ≤ i → cl' i = cl i := by
  induction k with
  | zero => exact ⟨p, cl, .refl, ha, hJ, fun i hi => absurd hi (Nat.not_lt_zero i), fun _ _ => rfl⟩
  | succ k ih =>
    obtain ⟨p₁, cl₁, hr, ha₁, hJ₁, hQ, hautres⟩ := ih (by omega)
    have hPk := hP k (by omega)
    rw [← hautres k (Nat.le_refl k)] at hPk
    obtain ⟨p₂, c, hJ₂, hQc, hr₂⟩ := h k p₁ cl₁ ha₁ (by omega) hJ₁ hPk
    refine ⟨p₂, _, hr.trans hr₂, ha₁.run hg₀ hr₂ (hJd _ _ hJ₂), hJ₂, fun i hi => ?_, fun i hi => ?_⟩
    · rcases Nat.lt_succ_iff_lt_or_eq.mp hi with hlt | rfl
      · rw [Function.update_of_ne (by omega)]
        exact hQ i hlt
      · rw [Function.update_self]
        exact hQc
    · rw [Function.update_of_ne (by omega)]
      exact hautres i (by omega)

structure Serveur.Poste.Meme (p p' : Serveur.Poste) : Prop where
  game : p'.game = p.game
  verdicts : p'.verdicts = p.verdicts
  depasse : p'.depasse = p.depasse

def Client.Repond (g₀ : Serveur.GameT) (hist : List Serveur.GameT) (q : Requete) (P Q : Client.Poste → Prop) : Prop :=
  ∀ (i : Nat) (c : Client.Poste), Client.Loyal g₀ hist i c → P c → ∃ c₁, Client.Pas c (.prend q) c₁ ∧
    (Client.Loyal g₀ hist i c₁ → ∃ q' c₂, Client.Pas c₁ (.envoie q') c₂ ∧ Q c₂)

theorem Repos.loyal (ha : Accord g₀ (Repos p (Function.update cl i c))) (hi : (i : Int) < g₀.nbJoueur) :
    Client.Loyal g₀ p.verdicts i c := by
  have := (ha.joueurs i hi).loyal
  simp only [Repos, Function.update_self] at this
  exact this

theorem Repos.boucle (hg₀ : Lancement g₀) {b : Boucle} {P Q : Client.Poste → Prop} (ha : Accord g₀ (Repos p cl))
    (hp : p.point = .envoi b 0)
    (hc : ∀ i q, b.requete p.game i = some q → Client.Repond g₀ p.verdicts q P Q)
    (hP : ∀ i : Nat, (i : Int) < g₀.nbJoueur → P (cl i)) :
    ∃ p' cl', Run g₀.nbJoueur (Repos p cl) (Repos p' cl') ∧ Accord g₀ (Repos p' cl') ∧ p'.point = b.suite ∧
      p.Meme p' ∧ ∀ i : Nat, (i : Int) < g₀.nbJoueur → Q (cl' i) := by
  have h1 := hg₀.registres.joueurs
  let J (i : Nat) (p' : Serveur.Poste) : Prop := p'.point = .envoi b i ∧ p.Meme p'
  have hJd (i : Nat) (p' : Serveur.Poste) (hJ : J i p') : p'.depasse = false := hJ.2.depasse.trans ha.depasse
  have htour (i : Nat) (p' : Serveur.Poste) (cl' : Nat → Client.Poste) (ha' : Accord g₀ (Repos p' cl'))
      (hi : (i : Int) < g₀.nbJoueur) (hJ : J i p') (hPi : P (cl' i)) : ∃ p'' c, J (i + 1) p'' ∧ Q c ∧
        Run g₀.nbJoueur (Repos p' cl') (Repos p'' (Function.update cl' i c)) := by
    obtain ⟨hp', hm⟩ := hJ
    obtain ⟨q, hq, hs⟩ := ha'.emet hp' hi
    have hl := (ha'.joueurs i hi).loyal
    obtain ⟨c₁, hc₁, hrep⟩ := hc i q (hm.game ▸ hq) i (cl' i) (hm.verdicts ▸ hl) hPi
    let p₁ : Serveur.Poste := { p' with point := .accuse b i, finEnvoyee := p'.finEnvoyee || estFin q }
    have hr₁ : Run g₀.nbJoueur (Repos p' cl') (Repos p₁ (Function.update cl' i c₁)) := Repos.demande hs hi hc₁
    have hl₁ : Client.Loyal g₀ p'.verdicts i c₁ := Repos.loyal (p := p₁) (ha'.run hg₀ hr₁ ha'.depasse) hi
    obtain ⟨q', c₂, hc₂, hQ⟩ := hrep (hm.verdicts ▸ hl₁)
    have hr₂ : Run g₀.nbJoueur (Repos p₁ (Function.update cl' i c₁)) _ :=
      Repos.reponse hi (by rw [Function.update_self]; exact hc₂) (.accuse q' rfl)
    rw [Function.update_idem] at hr₂
    exact ⟨{ p₁ with point := .envoi b (i + 1) }, c₂, ⟨rfl, hm.game, hm.verdicts, hm.depasse⟩, hQ, hr₁.trans hr₂⟩
  obtain ⟨p₁, cl₁, hr₁, ha₁, ⟨hp₁, hm₁⟩, hQ, -⟩ := Repos.tour (P := fun _ => P) (Q := fun _ => Q) hJd htour hg₀ ha
    ⟨hp, rfl, rfl, rfl⟩ hP (k := g₀.nbJoueur.toNat) (by omega)
  have hsuite : Run g₀.nbJoueur (Repos p₁ cl₁) _ := Repos.interne (ha₁.finEnvoi hp₁ (by omega))
  exact ⟨_, cl₁, hr₁.trans hsuite, ha₁.run hg₀ hsuite ha₁.depasse, rfl, ⟨hm₁.game, hm₁.verdicts, hm₁.depasse⟩,
    fun i hi => hQ i (by omega)⟩

theorem Client.repond_infos (hg₀ : Lancement g₀) (hist : List Serveur.GameT) :
    Client.Repond g₀ hist (requeteInfos g₀) (fun c => c.point = .attentePartie) fun c => c.point = .attenteBateaux := by
  intro i c _ hp
  obtain ⟨r, hr⟩ := Client.Lire.existe (requeteInfos g₀)
  refine ⟨_, .attentePartie hp hr hr.id, fun hl => ?_⟩
  obtain ⟨-, s, hs, hregle⟩ := hl
  obtain ⟨g, hg, -⟩ := Client.initPlateau_spec (hregle c.game) hg₀
  exact ⟨_, _, .accuseInfos rfl hs hg, rfl⟩

theorem Client.repond_plateau (hist : List Serveur.GameT) (t : List Char) :
    Client.Repond g₀ hist (requetePlateau t) (fun c => c.point = .plateau) fun c => c.point = .go := by
  intro i c _ hp
  obtain ⟨r, hr⟩ := Client.Lire.existe (requetePlateau t)
  refine ⟨_, .plateau hp hr hr.id, fun _ => ?_⟩
  obtain ⟨cells, hstep⟩ := Client.peut_accuser (c := { c with point := .accusePlateau r }) rfl
  exact ⟨_, _, hstep, rfl⟩

theorem Statut.vide {i m : Nat} {e : EtatPartie} (h : Statut [] i m e) : e = .enJeu := by
  rcases h with ⟨-, he⟩ | ⟨k, g, -, hk, -⟩
  · exact he
  · simp at hk

theorem Client.repond_go :
    Client.Repond g₀ [] requeteGo (fun c => c.point = .go) fun c => c.point = .viser 0 0 := by
  intro i c hl hp
  obtain ⟨r, hr⟩ := Client.Lire.existe requeteGo
  simp only [Client.Loyal, hp] at hl
  have he := hl.1.statut.vide
  exact ⟨_, .go hp he hr hr.id, fun _ => ⟨_, _, .accuseGo rfl he, rfl⟩⟩

theorem Repos.demandes (hg₀ : Lancement g₀) (ha : Accord g₀ (Repos p cl)) (hp : p.point = .demande 0)
    (hP : ∀ i : Nat, (i : Int) < g₀.nbJoueur → (cl i).point = .attenteBateaux) :
    ∃ p' cl', Run g₀.nbJoueur (Repos p cl) (Repos p' cl') ∧ Accord g₀ (Repos p' cl') ∧ p'.point = .collecte 0 0 [] ∧
      ∀ i : Nat, (i : Int) < g₀.nbJoueur → (cl' i).point = .choix := by
  have h1 := hg₀.registres.joueurs
  let J (i : Nat) (p' : Serveur.Poste) : Prop := p'.point = .demande i ∧ p'.depasse = false
  have htour (i : Nat) (p' : Serveur.Poste) (cl' : Nat → Client.Poste) (ha' : Accord g₀ (Repos p' cl'))
      (hi : (i : Int) < g₀.nbJoueur) (hJ : J i p') (hPi : (cl' i).point = .attenteBateaux) :
      ∃ p'' c, J (i + 1) p'' ∧ c.point = .choix ∧
        Run g₀.nbJoueur (Repos p' cl') (Repos p'' (Function.update cl' i c)) := by
    have hr : Serveur.Regulier g₀ cl' p' := ha'.serveur
    simp only [Regulier, hJ.1] at hr
    obtain ⟨r, hl⟩ := Client.Lire.existe demandeBateaux
    exact ⟨{ p' with point := .demande (i + 1) }, { cl' i with point := .choix, x := 0, y := 0 }, ⟨rfl, hJ.2⟩, rfl,
      Repos.demande (.demande hJ.1 (hr.1.game ▸ hi)) hi (.attenteBateaux hPi hl hl.id)⟩
  obtain ⟨p₁, cl₁, hr₁, ha₁, hJ₁, hQ, -⟩ := Repos.tour (P := fun _ c => c.point = .attenteBateaux)
    (Q := fun _ c => c.point = .choix) (fun _ _ hJ => hJ.2) htour hg₀ ha ⟨hp, ha.depasse⟩ hP
    (k := g₀.nbJoueur.toNat) (by omega)
  have hr : Serveur.Regulier g₀ cl₁ p₁ := ha₁.serveur
  simp only [Regulier, hJ₁.1] at hr
  have hcol : Run g₀.nbJoueur (Repos p₁ cl₁) _ := Repos.interne (.collecter hJ₁.1 (by rw [hr.1.game]; omega))
  exact ⟨_, cl₁, hr₁.trans hcol, ha₁.run hg₀ hcol hJ₁.2, rfl, fun i hi => hQ i (by omega)⟩

structure Client.Poste.APlace (P : Placement) (c : Client.Poste) : Prop where
  point : c.point = .plateau
  placement : c.placement P.id = P

theorem Repos.bateau (hg₀ : Lancement g₀) {P : Placement} (hP : P.Valide g₀.taillePlateau g₀.tailleBateau)
    (ha : Accord g₀ (Repos p cl)) (hi : (i : Int) < g₀.nbJoueur) {n : Int} {envois : List (Int × List Char)}
    (hp : p.point = .collecte i n envois) (hc : (cl i).point = .choix) :
    ∃ p' c n' envois', p'.point = .collecte ((i + 1 : Nat) : Int) n' envois' ∧ p'.depasse = false ∧ c.APlace P ∧
      Run g₀.nbJoueur (Repos p cl) (Repos p' (Function.update cl i c)) := by
  have hr : Serveur.Regulier g₀ cl p := ha.serveur
  simp only [Regulier, hp] at hr
  have hl : Client.Loyal g₀ p.verdicts i (cl i) := (ha.joueurs i hi).loyal
  simp only [Client.Loyal, hc] at hl
  obtain ⟨c₁, hint, hp₁, hx, hy, hd, hgame⟩ := Client.choisir hg₀ hc hl.2.1 hl.2.2 hP
  obtain ⟨v, hv⟩ := Option.isSome_iff_exists.mp hP.direction
  obtain ⟨bateau, hb, -⟩ := Client.enregistrer_spec (g := c₁.game)
    (by rw [hgame, hl.2.1.tailleBateau]; exact hg₀.registres.bateau_le) c₁.x c₁.y (hd ▸ hv : pas c₁.direction = some v)
  let c₂ : Client.Poste := { c₁ with point := .attenteAccuse, game := { c₁.game with bateau := bateau } }
  let c₃ : Client.Poste := { c₂ with point := .plateau, game := { c₂.game with etat := .enJeu } }
  have hplacer : Client.Pas c₁ _ c₂ := .placer hp₁ hb
  have hr₁ : Run g₀.nbJoueur (Repos p cl) (Repos p (Function.update cl i c₁)) := Repos.internes hi hint
  let p₂ : Serveur.Poste := { p with point := .bateau i n envois (requeteBateau c₁.x c₁.y c₁.direction) }
  have hr₂ : Run g₀.nbJoueur (Repos p (Function.update cl i c₁)) (Repos p₂ (Function.update _ i c₂)) :=
    Repos.reponse hi (by rw [Function.update_self]; exact hplacer) (.bateau _ hp (hr.encore hi) rfl)
  rw [Function.update_idem] at hr₂
  have ha₂ := ha.run hg₀ (hr₁.trans hr₂) ha.depasse
  obtain ⟨col, hcj, hs⟩ := ha₂.bateau hg₀ (i := i) rfl rfl
  obtain ⟨r, hlire⟩ := Client.Lire.existe accuseOk
  let p₃ : Serveur.Poste := { p with point := .collecte col.j col.nbBateauxRecu col.envois, game := col.game }
  have hr₃ : Run g₀.nbJoueur (Repos p₂ (Function.update cl i c₂)) (Repos p₃ (Function.update _ i c₃)) :=
    Repos.demande hs hi (by rw [Function.update_self]; exact .attenteAccuse rfl hlire hlire.id)
  rw [Function.update_idem] at hr₃
  refine ⟨p₃, c₃, col.nbBateauxRecu, col.envois, ?_, ha.depasse, ⟨rfl, ?_⟩, (hr₁.trans hr₂).trans hr₃⟩
  · simp only [p₃, hcj, Nat.cast_add, Nat.cast_one]
  · show Placement.mk P.id c₁.x c₁.y c₁.direction = P
    rw [hx, hy, hd]

theorem Repos.collecte (hg₀ : Lancement g₀) {P : Nat → Placement}
    (hP : ∀ i : Nat, (i : Int) < g₀.nbJoueur → (P i).Valide g₀.taillePlateau g₀.tailleBateau)
    (ha : Accord g₀ (Repos p cl)) (hp : p.point = .collecte 0 0 [])
    (hc : ∀ i : Nat, (i : Int) < g₀.nbJoueur → (cl i).point = .choix) :
    ∃ p' cl' j n envois, Run g₀.nbJoueur (Repos p cl) (Repos p' cl') ∧ Accord g₀ (Repos p' cl') ∧
      p'.point = .collecte j n envois ∧ (p'.collecte j n envois).fini ∧
      ∀ i : Nat, (i : Int) < g₀.nbJoueur → (cl' i).APlace (P i) := by
  have h1 := hg₀.registres.joueurs
  let J (i : Nat) (p' : Serveur.Poste) : Prop :=
    (∃ n envois, p'.point = .collecte (i : Int) n envois) ∧ p'.depasse = false
  have htour (i : Nat) (p' : Serveur.Poste) (cl' : Nat → Client.Poste) (ha' : Accord g₀ (Repos p' cl'))
      (hi : (i : Int) < g₀.nbJoueur) (hJ : J i p') (hPi : (cl' i).point = .choix) :
      ∃ p'' c, J (i + 1) p'' ∧ c.APlace (P i) ∧
        Run g₀.nbJoueur (Repos p' cl') (Repos p'' (Function.update cl' i c)) := by
    obtain ⟨⟨n, envois, hp'⟩, -⟩ := hJ
    obtain ⟨p'', c, n', envois', hp'', hd, hplace, hr⟩ := Repos.bateau hg₀ (hP i hi) ha' hi hp' hPi
    exact ⟨p'', c, ⟨⟨n', envois', hp''⟩, hd⟩, hplace, hr⟩
  obtain ⟨p₁, cl₁, hr₁, ha₁, ⟨⟨n, envois, hp₁⟩, -⟩, hQ, -⟩ := Repos.tour (P := fun _ c => c.point = .choix)
    (Q := fun i c => c.APlace (P i)) (fun _ _ hJ => hJ.2) htour hg₀ ha ⟨⟨0, [], hp⟩, ha.depasse⟩ hc
    (k := g₀.nbJoueur.toNat) (by omega)
  have hr : Serveur.Regulier g₀ cl₁ p₁ := ha₁.serveur
  simp only [Regulier, hp₁] at hr
  refine ⟨p₁, cl₁, _, n, envois, hr₁, ha₁, hp₁, ?_, fun i hi => hQ i (by omega)⟩
  by_contra hf
  have := hr.joueur hf
  omega

theorem Repos.tir (hg₀ : Lancement g₀) {tir : Int × Int} (ht : Dans g₀.taillePlateau tir)
    (ha : Accord g₀ (Repos p cl)) (hi : (i : Int) < g₀.nbJoueur) (hp : p.point = .tir i)
    (hc : (cl i).point = .viser 0 0) :
    ∃ c, Run g₀.nbJoueur (Repos p cl) (Repos { p with point := .tir (i + 1), game := p.game.apresCoup (some tir) }
      (Function.update cl i c)) := by
  have hn := hg₀.registres.plateau
  have hr : Serveur.Regulier g₀ cl p := ha.serveur
  simp only [Regulier, hp] at hr
  have hl : Client.Loyal g₀ p.verdicts i (cl i) := (ha.joueurs i hi).loyal
  simp only [Client.Loyal, hc] at hl
  obtain ⟨hx, hy⟩ := Dans.inInt hn ht
  let c₁ : Client.Poste := { cl i with point := .viser tir.1 tir.2 }
  let c₂ : Client.Poste := { c₁ with point := .attenteTir }
  let c₃ : Client.Poste := { c₂ with point := .etat }
  have hint : Client.Internes (cl i) c₁ :=
    Client.viser_fleches hc (hl.1.regles.taillePlateau.symm ▸ Client.fleches hl.2.2 ht)
  have hr₁ : Run g₀.nbJoueur (Repos p cl) (Repos p (Function.update cl i c₁)) := Repos.internes hi hint
  let p₂ : Serveur.Poste := { p with point := .tirRecu i (requeteTir tir.1 tir.2) }
  have htirer : Client.Pas c₁ (.envoie (requeteTir tir.1 tir.2)) c₂ := .tirer rfl
  have hr₂ : Run g₀.nbJoueur (Repos p (Function.update cl i c₁)) (Repos p₂ (Function.update _ i c₂)) :=
    Repos.reponse hi (by rw [Function.update_self]; exact htirer) (.tir _ hp (hr.1.regles.nbJoueur ▸ hi))
  rw [Function.update_idem] at hr₂
  let pile : PileTir := ⟨pileBateau.reponse, pileBateau.requete, pileBateau.buff, (0, 0)⟩
  have hs : Serveur.Pas p₂ (.envoie i accuseOk) _ := .tirRecu pile rfl (requeteTir_valide hx hy)
    (recevoirTir_requeteTir hr.1.flottille (by rw [hr.1.regles.taillePlateau]; exact hn) hx hy pile)
  have hetat : Client.Pas c₂ (.prend accuseOk) c₃ := .attenteTir rfl
  have hr₃ : Run g₀.nbJoueur (Repos p₂ (Function.update cl i c₂)) (Repos _ (Function.update _ i c₃)) :=
    Repos.demande hs hi (by rw [Function.update_self]; exact hetat)
  rw [Function.update_idem] at hr₃
  exact ⟨c₃, (hr₁.trans hr₂).trans hr₃⟩

theorem Repos.tirs (hg₀ : Lancement g₀) {tir : Nat → Int × Int} {g₁ : Serveur.GameT}
    (ht : ∀ i : Nat, (i : Int) < g₀.nbJoueur → Dans g₀.taillePlateau (tir i)) (ha : Accord g₀ (Repos p cl))
    (hp : p.point = .tir 0) (hc : ∀ i : Nat, (i : Int) < g₀.nbJoueur → (cl i).point = .viser 0 0)
    (hn : g₁.taillePlateau = g₀.taillePlateau) (hs : Suite g₁ p.game ∅) :
    ∃ p' cl', Run g₀.nbJoueur (Repos p cl) (Repos p' cl') ∧ Accord g₀ (Repos p' cl') ∧
      p'.point = .tir g₀.nbJoueur.toNat ∧ p'.verdicts = p.verdicts ∧
      Suite g₁ p'.game {q | ∃ k : Nat, (k : Int) < g₀.nbJoueur ∧ tir k = q} := by
  have h1 := hg₀.registres.joueurs
  let J (i : Nat) (p' : Serveur.Poste) : Prop := p'.point = .tir i ∧ p'.depasse = false ∧ p'.verdicts = p.verdicts ∧
    Suite g₁ p'.game {q | ∃ k < i, tir k = q}
  have htour (i : Nat) (p' : Serveur.Poste) (cl' : Nat → Client.Poste) (ha' : Accord g₀ (Repos p' cl'))
      (hi : (i : Int) < g₀.nbJoueur) (hJ : J i p') (hPi : (cl' i).point = .viser 0 0) :
      ∃ p'' c, J (i + 1) p'' ∧ True ∧ Run g₀.nbJoueur (Repos p' cl') (Repos p'' (Function.update cl' i c)) := by
    obtain ⟨hp', hd, hv, hsuite⟩ := hJ
    obtain ⟨c, hr⟩ := Repos.tir hg₀ (ht i hi) ha' hi hp' hPi
    have hS : {q | ∃ k < i, tir k = q} ∪ {q | Dans g₁.taillePlateau q ∧ some (tir i) = some q} =
        {q | ∃ k < i + 1, tir k = q} := by
      ext q
      simp only [Set.mem_union, Set.mem_ofPred_eq, Option.some.injEq, Nat.lt_succ_iff_lt_or_eq]
      constructor
      · rintro (⟨k, hk, he⟩ | ⟨-, he⟩)
        · exact ⟨k, .inl hk, he⟩
        · exact ⟨i, .inr rfl, he⟩
      · rintro ⟨k, hk | rfl, he⟩
        · exact .inl ⟨k, hk, he⟩
        · exact .inr ⟨by rw [← he, hn]; exact ht k hi, he⟩
    refine ⟨{ p' with point := .tir (i + 1), game := p'.game.apresCoup (some (tir i)) }, c, ⟨rfl, hd, hv, ?_⟩,
      trivial, hr⟩
    rw [← hS]
    exact hsuite.apresCoup (by rw [hn]; exact hg₀.registres.plateau) (some (tir i))
  have h0 : {q | ∃ k < 0, tir k = q} = (∅ : Set (Int × Int)) := by simp
  obtain ⟨p₁, cl₁, hr₁, ha₁, ⟨hp₁, -, hv₁, hs₁⟩, -⟩ := Repos.tour (P := fun _ c => c.point = .viser 0 0)
    (Q := fun _ _ => True) (fun _ _ hJ => hJ.2.1) htour hg₀ ha ⟨hp, ha.depasse, rfl, h0 ▸ hs⟩ hc
    (k := g₀.nbJoueur.toNat) (by omega)
  refine ⟨p₁, cl₁, hr₁, ha₁, hp₁, hv₁, ?_⟩
  simp only [Int.lt_toNat] at hs₁
  exact hs₁

theorem aFlot_survivants {g : Serveur.GameT} {n : Int} {S : Set (Int × Int)} (hf : Flottille g)
    (h : g.plateau.Represente n S) {i : Fin 100} (hi : (i.val : Int) < g.nbJoueur) :
    AFlot g i.val ↔ i ∈ Bataille.survivants (fun k => (g.plateau.bateaux k).cases) S := by
  have hj := hf.joueurs
  have hib : (i.val : Int) < g.plateau.nbBateau := hf.nbBateau.symm ▸ hi
  have hcoule : g.plateau.coule g.tailleBateau i.val ↔ Bataille.coule (fun k => (g.plateau.bateaux k).cases) S i := by
    rw [BoardT.coule_fin]
    constructor
    · rintro hc q ⟨j, hj, rfl⟩
      have hs := hc j (by rw [← hf.taille i hi]; exact hj)
      rw [h.bateau i j hib hj] at hs
      exact (Bataille.statut_hitShot.mp hs).2
    · intro hc j hj
      have hj' : (j.val : Int) < (g.plateau.bateaux i).taille := by rwa [hf.taille i hi]
      rw [h.bateau i j hib hj']
      exact Bataille.statut_hitShot.mpr ⟨BoardT.case_mem_flotte hib hj', hc ⟨j, hj', rfl⟩⟩
  rw [AFlot, hcoule]
  exact and_iff_right (by omega)

theorem Serveur.EnCollecte.suite (hg₀ : Lancement g₀) {j n : Int} {envois : List (Int × List Char)}
    (h : EnCollecte g₀ cl p j n envois) (hf : (p.collecte j n envois).fini) {P : Nat → Placement}
    (hP : ∀ i : Nat, (i : Int) < g₀.nbJoueur → (P i).id.val = i ∧ (cl i).APlace (P i)) :
    Suite p.game p.game ∅ ∧ ∀ i : Fin 100, (i.val : Int) < g₀.nbJoueur →
      (p.game.plateau.bateaux i).cases = (P i.val).cases g₀.tailleBateau := by
  obtain ⟨-, ps, hb, hc, hps⟩ := h.complet hg₀ hf
  have hr := hg₀.registres
  have h1 := hr.joueurs
  have htp : p.game.taillePlateau = g₀.taillePlateau := hb.game.taillePlateau
  refine ⟨⟨?_, hb.places.borne hr.bateau_le hg₀.nbBateau hc (by omega) hr.joueurs_le, rfl, rfl, rfl, fun _ => rfl,
    fun _ _ => rfl⟩, fun i hi => ?_⟩
  · rw [htp]
    exact hb.places.represente hr.bateau_le hg₀.nbBateau hc (by omega) hg₀.vide
  · obtain ⟨Q, hQ, rfl⟩ := hc.mem.mp hi
    obtain ⟨hid, hplace⟩ := hP Q.id.val hi
    have hQP : Q = P Q.id.val := by
      have hpl := hplace.placement
      rw [Fin.ext hid, (hps Q hQ).2] at hpl
      exact hpl
    rw [hb.places.cases hr.bateau_le hQ, ← hQP]

structure Pret (g₀ : Serveur.GameT) (P : Nat → Placement) (p : Serveur.Poste) (cl : Nat → Client.Poste) : Prop where
  point : p.point = .boucle
  finEnvoyee : p.finEnvoyee = false
  verdicts : p.verdicts = []
  taillePlateau : p.game.taillePlateau = g₀.taillePlateau
  suite : Suite p.game p.game ∅
  cases : ∀ i : Fin 100, (i.val : Int) < g₀.nbJoueur →
    (p.game.plateau.bateaux i).cases = (P i.val).cases g₀.tailleBateau
  clients : ∀ i : Nat, (i : Int) < g₀.nbJoueur → (cl i).point = .plateau

theorem Repos.preparation (hg₀ : Lancement g₀) {P : Nat → Placement}
    (hP : ∀ i : Nat, (i : Int) < g₀.nbJoueur → (P i).id.val = i ∧ (P i).Valide g₀.taillePlateau g₀.tailleBateau) :
    ∃ p cl, Atteignable g₀ (Repos p cl) ∧ Accord g₀ (Repos p cl) ∧ Pret g₀ P p cl := by
  let p₀ : Serveur.Poste := ⟨.envoi .infos 0, g₀, 0, [], false, false⟩
  let cl₀ : Nat → Client.Poste := fun _ => { Client.Poste.depart with point := .attentePartie }
  have hdebut : Debut g₀ (Repos p₀ cl₀) := ⟨rfl, fun _ => rfl, fun _ _ => ⟨rfl, .inr ⟨rfl, rfl⟩⟩⟩
  obtain ⟨p₁, cl₁, hr₁, ha₁, hp₁, -, hc₁⟩ := Repos.boucle hg₀ (hdebut.accord hg₀) (b := .infos) rfl
    (fun i q hq => Option.some.inj hq ▸ Client.repond_infos hg₀ _) fun _ _ => rfl
  obtain ⟨p₂, cl₂, hr₂, ha₂, hp₂, hc₂⟩ := Repos.demandes hg₀ ha₁ hp₁ hc₁
  obtain ⟨p₃, cl₃, j, n, envois, hr₃, ha₃, hp₃, hf, hc₃⟩ := Repos.collecte hg₀ (fun i hi => (hP i hi).2) ha₂ hp₂ hc₂
  have hcol : Serveur.Regulier g₀ cl₃ p₃ := ha₃.serveur
  simp only [Regulier, hp₃] at hcol
  obtain ⟨hsuite, hcases⟩ := hcol.suite hg₀ hf fun i hi => ⟨(hP i hi).1, hc₃ i hi⟩
  have hman := hcol.enManche hg₀ hf
  have hsortie : Run g₀.nbJoueur (Repos p₃ cl₃) (Repos { p₃ with point := .touche } cl₃) :=
    Repos.interne (.sortie hp₃ hf)
  have htouche : Run g₀.nbJoueur (Repos { p₃ with point := .touche } cl₃) (Repos { p₃ with point := .boucle } cl₃) :=
    Repos.interne (.touche rfl)
  exact ⟨_, cl₃, ⟨_, hdebut, (((hr₁.trans hr₂).trans hr₃).trans hsortie).trans htouche⟩,
    ha₃.run hg₀ (hsortie.trans htouche) ha₃.depasse, rfl, hman.finEnvoyee, hcol.verdicts, hman.regles.taillePlateau,
    hsuite, hcases, fun i hi => (hc₃ i hi).point⟩

theorem Repos.premiersTirs (hg₀ : Lancement g₀) {P : Nat → Placement} {tir : Nat → Int × Int}
    (ht : ∀ i : Nat, (i : Int) < g₀.nbJoueur → Dans g₀.taillePlateau (tir i)) (ha : Accord g₀ (Repos p cl))
    (h : Pret g₀ P p cl) :
    ∃ p' cl', Run g₀.nbJoueur (Repos p cl) (Repos p' cl') ∧ Accord g₀ (Repos p' cl') ∧
      p'.point = .tir g₀.nbJoueur.toNat ∧ p'.verdicts = [] ∧
      Suite p.game p'.game {q | ∃ k : Nat, (k : Int) < g₀.nbJoueur ∧ tir k = q} := by
  obtain ⟨t, hs⟩ := ha.debutManche hg₀ h.point h.finEnvoyee
  let p₁ : Serveur.Poste := { p with point := .envoi (.plateau t) 0, depasse := p.depasse || p.finEnvoyee }
  have hmanche : Run g₀.nbJoueur (Repos p cl) (Repos p₁ cl) := Repos.interne hs
  have hdep : p₁.depasse = false := by
    have hd : p.depasse = false := ha.depasse
    simp only [p₁, hd, h.finEnvoyee, Bool.or_self]
  obtain ⟨p₂, cl₂, hr₂, ha₂, hp₂, hm₂, hc₂⟩ := Repos.boucle hg₀ (ha.run hg₀ hmanche hdep) (b := .plateau t) rfl
    (fun i q hq => Option.some.inj hq ▸ Client.repond_plateau _ t) h.clients
  have hv₂ : p₂.verdicts = [] := hm₂.verdicts.trans h.verdicts
  obtain ⟨p₃, cl₃, hr₃, ha₃, hp₃, hm₃, hc₃⟩ := Repos.boucle hg₀ ha₂ (b := .go) hp₂
    (fun i q hq => by rw [hv₂, ← Option.some.inj hq]; exact Client.repond_go) hc₂
  have hgame : p₃.game = p.game := hm₃.game.trans hm₂.game
  obtain ⟨p₄, cl₄, hr₄, ha₄, hp₄, hv₄, hsuite⟩ := Repos.tirs hg₀ ht ha₃ hp₃ hc₃ h.taillePlateau (hgame ▸ h.suite)
  exact ⟨p₄, cl₄, ((hmanche.trans hr₂).trans hr₃).trans hr₄, ha₄, hp₄, hv₄.trans (hm₃.verdicts.trans hv₂), hsuite⟩

theorem premiere_manche (hg₀ : Lancement g₀) {P : Nat → Placement} {tir : Nat → Int × Int}
    (hP : ∀ i : Nat, (i : Int) < g₀.nbJoueur → (P i).id.val = i ∧ (P i).Valide g₀.taillePlateau g₀.tailleBateau)
    (ht : ∀ i : Nat, (i : Int) < g₀.nbJoueur → Dans g₀.taillePlateau (tir i)) :
    ∃ s g, Atteignable g₀ s ∧ s.serveur.verdicts[0]? = some g ∧
      (∀ i : Nat, (i : Int) < g₀.nbJoueur → (s.clients i).Traite 0 (s.clients i).game.etat) ∧
      ∀ i : Fin 100, (i.val : Int) < g₀.nbJoueur → (AFlot g i.val ↔
        i ∈ Bataille.survivants (fun k : Fin 100 => (P k.val).cases g₀.tailleBateau)
          {q | ∃ k : Nat, (k : Int) < g₀.nbJoueur ∧ tir k = q}) := by
  obtain ⟨p, cl, hat, ha, hpret⟩ := Repos.preparation hg₀ hP
  obtain ⟨p', cl', hr, ha', hp', hv, hsuite⟩ := Repos.premiersTirs hg₀ ht ha hpret
  have hreg : Serveur.Regulier g₀ cl' p' := ha'.serveur
  simp only [Regulier, hp'] at hreg
  obtain ⟨g, f, hs⟩ := ha'.verdict hp' (by omega)
  have hverdict := Etape.serveurInterne (n := g₀.nbJoueur) hs
  obtain ⟨s, k, hrs, has, hps, hk, hm⟩ := (ha'.run hg₀ hverdict.run ha'.depasse).sert hg₀ (b := .etat f) rfl
  have hm₀ : s.serveur.manche = 0 := by
    have hlen := hreg.1.verdicts
    rw [hv] at hlen
    exact hm.trans hlen.symm
  refine ⟨s, p'.game, hat.run ((hr.trans hverdict.run).trans hrs), hrs.verdicts 0 p'.game ?_,
    fun i hi => hm₀ ▸ has.traite hps hk hi, fun i hi => ?_⟩
  · show (p'.verdicts ++ [p'.game])[0]? = some p'.game
    rw [hv]
    rfl
  · have hi' : (i.val : Int) < p'.game.nbJoueur := by rw [hreg.1.regles.nbJoueur]; exact hi
    have hcase : (p'.game.plateau.bateaux i).cases = (P i.val).cases g₀.tailleBateau :=
      (hsuite.cases i).trans (hpret.cases i hi)
    rw [aFlot_survivants hreg.1.flottille hsuite.represente hi', Bataille.survivants_iff, Bataille.survivants_iff,
      hcase]

end Bnbr
