import Bnbr.Protocole

namespace Bnbr

open CString Decimal Scanf Sessions Serveur

structure Lancement (g₀ : Serveur.GameT) : Prop where
  registres : Registres g₀
  bateau : 2 ≤ g₀.tailleBateau
  place : 2 * g₀.tailleBateau ≤ g₀.taillePlateau
  nbBateau : g₀.plateau.nbBateau = 0
  vide : ∀ y x : Fin 50, Dans g₀.taillePlateau (coord y x) → g₀.plateau.cell y x = .empty
  timeout : InInt g₀.timeout
  etat : g₀.etat ≠ 2

theorem Lancement.entiers {g₀ : Serveur.GameT} (h : Lancement g₀) : g₀.Entiers := by
  have h1 := h.registres.joueurs
  have h2 := h.registres.joueurs_le
  have h3 := h.registres.plateau
  have h4 := h.registres.bateau_le
  have h5 := h.bateau
  have h6 := h.place
  exact ⟨by simp only [InInt]; omega, by simp only [InInt]; omega, by simp only [InInt]; omega, h.timeout⟩

theorem isspace_infos {g : Serveur.GameT} {c : Char} (h : c ∈ (requeteInfos g).infos) : isspace c = false := by
  simp only [requeteInfos, List.mem_append, List.mem_cons] at h
  rcases h with h | rfl | h | rfl | h | rfl | h
  · exact mem_print_not_space h
  · decide
  · exact mem_print_not_space h
  · decide
  · exact mem_print_not_space h
  · decide
  · exact mem_print_not_space h

namespace Client

variable {g₀ : Serveur.GameT} {hist : List Serveur.GameT} {i : Nat} {c c' : Poste} {q : Requete}

structure Reglee (g₀ : Serveur.GameT) (g : GameT) : Prop where
  nbJoueur : g.nbJoueur = g₀.nbJoueur
  taillePlateau : g.taillePlateau = g₀.taillePlateau
  tailleBateau : g.tailleBateau = g₀.tailleBateau

theorem Reglee.regle {g : GameT} (h : Reglee g₀ g) (hg : Lancement g₀) : g.Regle where
  plateau := h.taillePlateau ▸ hg.registres.plateau
  bateau := h.tailleBateau ▸ hg.registres.bateau
  bateau_le := h.tailleBateau ▸ hg.registres.bateau_le
  place := by
    rw [h.taillePlateau, h.tailleBateau]
    exact hg.place

theorem lireInfos_print {a b d e : Int} (ha : InInt a) (hb : InInt b) (hd : InInt d) (g : GameT) :
    lireInfos (print a ++ ';' :: (print b ++ ';' :: (print d ++ ';' :: print e))) g =
      { g with nbJoueur := a, taillePlateau := b, tailleBateau := d, timeout := toInt e } := by
  have he : print e = print e ++ [] := (List.append_nil _).symm
  rw [lireInfos, sscanf_int_print _ _ _ (by simp), sscanf_lit, sscanf_int_print _ _ _ (by simp), sscanf_lit,
    sscanf_int_print _ _ _ (by simp), sscanf_lit, he, sscanf_int_print _ _ _ (by simp)]
  simp only [sscanf, toInt_of_inInt ha, toInt_of_inInt hb, toInt_of_inInt hd]

theorem Lire.infos {r : ReqT} (h : Lire (requeteInfos g₀) r) (hg : Lancement g₀) :
    ∃ s, r.infos.str = some s ∧ ∀ g, Reglee g₀ (lireInfos s g) := by
  obtain ⟨avant, rfl⟩ := h.contenu (requeteInfos_valide hg.entiers)
  have hl := requeteInfos_length hg.entiers
  have hlu : lu 99 (requeteInfos g₀).infos = (requeteInfos g₀).infos :=
    lu_of_all (fun c hc => isspace_infos hc) (by omega)
  have hne : lu 99 (requeteInfos g₀).infos ≠ [] := by rw [hlu]; simp [requeteInfos]
  refine ⟨_, livrer_infos _ (requeteInfos_valide hg.entiers) avant hne, fun g => ?_⟩
  obtain ⟨h1, h2, h3, -⟩ := hg.entiers
  rw [hlu, requeteInfos, lireInfos_print h1 h2 h3]
  exact ⟨rfl, rfl, rfl⟩

theorem initPlateau_spec {g : GameT} (h : Reglee g₀ g) (hg : Lancement g₀) :
    ∃ g', initPlateau g = some g' ∧ Reglee g₀ g' := by
  have hn := hg.registres.plateau
  obtain ⟨p, hp, -⟩ := vider_spec (n := g.taillePlateau.toNat) (by rw [h.taillePlateau]; omega) g.plateau
  exact ⟨{ g with plateau := p }, by simp only [initPlateau, hp, Option.bind_eq_bind, Option.bind_some],
    h.nbJoueur, h.taillePlateau, h.tailleBateau⟩

structure AuMenu (g₀ : Serveur.GameT) (c : Poste) : Prop where
  regles : Reglee g₀ c.game
  curseur : Dans g₀.taillePlateau (c.x, c.y)
  direction : c.apercu.direction = c.direction
  apercu : ∃ v, c.apercu.Montre g₀.taillePlateau g₀.tailleBateau c.x c.y v

structure Placee (g₀ : Serveur.GameT) (c : Poste) : Prop extends AuMenu g₀ c where
  bateau : ∀ v, pas c.direction = some v → c.game.bateau.suit g₀.tailleBateau c.x c.y v

structure EnManche (g₀ : Serveur.GameT) (hist : List Serveur.GameT) (i : Nat) (c : Poste) : Prop extends
    Placee g₀ c where
  statut : Statut hist i c.manche c.game.etat

def Loyal (g₀ : Serveur.GameT) (hist : List Serveur.GameT) (i : Nat) (c : Poste) : Prop :=
  match c.point with
  | .inscription => c.manche = 0
  | .attentePartie => c.manche = 0
  | .accuseInfos r => c.manche = 0 ∧ ∃ s, r.infos.str = some s ∧ ∀ g, Reglee g₀ (lireInfos s g)
  | .attenteBateaux => c.manche = 0 ∧ Reglee g₀ c.game
  | .choix => c.manche = 0 ∧ Reglee g₀ c.game ∧ Dans g₀.taillePlateau (c.x, c.y)
  | .menu => c.manche = 0 ∧ AuMenu g₀ c
  | .attenteAccuse => c.manche = 0 ∧ Placee g₀ c
  | .viser x y => EnManche g₀ hist i c ∧ c.game.etat = .enJeu ∧ Dans g₀.taillePlateau (x, y)
  | .mort => EnManche g₀ hist i c ∧ ¬ Termine c.game.etat ∧ c.game.etat ≠ .enJeu
  | .accuseEtat e => EnManche g₀ hist i c ∧ ∃ g, hist[c.manche]? = some g ∧ e = classe g i
  | .fini => EnManche g₀ hist i c ∧ Termine c.game.etat
  | .erreur => False
  | _ => EnManche g₀ hist i c ∧ ¬ Termine c.game.etat

def Point.attendus : Point → List Int
  | .inscription => [0]
  | .attentePartie => [4]
  | .attenteBateaux => [3]
  | .attenteAccuse => [0]
  | .plateau => [2]
  | .go => [5]
  | .attenteTir => [0]
  | .etat => [7, 8, 9, 10]
  | _ => []

theorem apresEtat_verdictDe {g : Serveur.GameT} {i : Nat} {e : EtatPartie}
    (h : 2 ≤ nbAFlot g → AFlot g i → e = .enJeu) : apresEtat e (verdictDe g i).id = some (classe g i) := by
  unfold verdictDe classe
  by_cases h0 : nbAFlot g = 0
  · simp only [h0, if_true]
    rfl
  · by_cases h1 : nbAFlot g = 1
    · by_cases ha : AFlot g i
      · simp only [h1, one_ne_zero, ha, if_true, if_false]
        rfl
      · simp only [h1, one_ne_zero, ha, if_true, if_false]
        rfl
    · by_cases ha : AFlot g i
      · simp only [h0, h1, ha, if_true, if_false]
        exact congrArg some (h (by omega) ha)
      · simp only [h0, h1, ha, if_false]
        rfl

theorem Loyal.attendu (h : Loyal g₀ hist i c) (hq : (contrat g₀ hist i c).Permis .aller c.moment q) :
    q.id ∈ c.point.attendus := by
  have hs : c.moment.sens = .aller := hq.sens
  have hc : Convient g₀ hist i c c.moment q := hq.convient
  cases hp : c.point with
  | inscription =>
    simp only [Poste.moment, hp, Convient] at hc
    simp [Point.attendus, hc]
  | attentePartie =>
    simp only [Poste.moment, hp, Convient] at hc
    rw [hc]
    exact List.mem_singleton.mpr rfl
  | attenteBateaux =>
    simp only [Poste.moment, hp, Convient] at hc
    simp [Point.attendus, hc]
  | attenteAccuse =>
    simp only [Poste.moment, hp, Convient] at hc
    simp [Point.attendus, hc]
  | plateau =>
    simp only [Poste.moment, hp, Convient] at hc
    simp [Point.attendus, hc]
  | go =>
    simp only [Poste.moment, hp, Convient] at hc
    simp [Point.attendus, hc]
  | attenteTir =>
    simp only [Poste.moment, hp, Convient] at hc
    simp [Point.attendus, hc]
  | etat =>
    simp only [Poste.moment, hp, Convient] at hc
    obtain ⟨g, -, rfl⟩ := hc
    exact verdictDe_id g i
  | fini =>
    -- a board is sent only while no verdict has ended the game
    simp only [Poste.moment, hp, Convient] at hc
    simp only [Loyal, hp] at h
    exact absurd h.2 (hc.2.statut h.1.statut)
  | erreur =>
    simp only [Loyal, hp] at h
  | _ => simp [Poste.moment, hp, Moment.sens] at hs

theorem Loyal.accepte (h : Loyal g₀ hist i c) (hd : Descend hist) (hr : c.point.recoit = true)
    (hq : (contrat g₀ hist i c).Permis .aller c.moment q) : c.accepte q.id := by
  have ha := h.attendu hq
  have hc : Convient g₀ hist i c c.moment q := hq.convient
  cases hp : c.point with
  | etat =>
    simp only [Poste.moment, hp, Convient] at hc
    simp only [Loyal, hp] at h
    obtain ⟨g, hg, rfl⟩ := hc
    simp only [Poste.accepte, hp]
    rw [apresEtat_verdictDe fun _ hi => h.1.statut.enJeu hd h.2 hg hi]
    rfl
  | inscription => simpa [Poste.accepte, hp, Point.attendus] using ha
  | attentePartie => simpa [Poste.accepte, hp, Point.attendus] using ha
  | attenteBateaux => simpa [Poste.accepte, hp, Point.attendus] using ha
  | attenteAccuse => simpa [Poste.accepte, hp, Point.attendus] using ha
  | plateau => simpa [Poste.accepte, hp, Point.attendus] using ha
  | go =>
    simp only [hp, Point.attendus, List.mem_singleton] at ha
    simp only [Poste.accepte, hp, ha, implies_true]
  | attenteTir => simp only [Poste.accepte, hp]
  | _ => simp [hp, Point.recoit] at hr

theorem EnManche.prolonge {hist' : List Serveur.GameT} (h : EnManche g₀ hist i c) (hh : Prolonge hist hist') :
    EnManche g₀ hist' i c := ⟨h.toPlacee, h.statut.prolonge hh⟩

theorem Loyal.prolonge {hist' : List Serveur.GameT} (h : Loyal g₀ hist i c) (hh : Prolonge hist hist') :
    Loyal g₀ hist' i c := by
  unfold Loyal at h ⊢
  split at h
  · exact h
  · exact h
  · exact h
  · exact h
  · exact h
  · exact h
  · exact h
  · exact ⟨h.1.prolonge hh, h.2⟩
  · exact ⟨h.1.prolonge hh, h.2⟩
  · obtain ⟨hm, g, hg, he⟩ := h
    exact ⟨hm.prolonge hh, g, hh _ g hg, he⟩
  · exact ⟨h.1.prolonge hh, h.2⟩
  · exact h
  · exact ⟨h.1.prolonge hh, h.2⟩

theorem AuMenu.suite (h : AuMenu g₀ c) (hg : Reglee g₀ c'.game) (hx : c'.x = c.x) (hy : c'.y = c.y)
    (hd : c'.direction = c.direction) (ha : c'.apercu = c.apercu) : AuMenu g₀ c' where
  regles := hg
  curseur := by rw [hx, hy]; exact h.curseur
  direction := by rw [ha, hd]; exact h.direction
  apercu := by rw [ha, hx, hy]; exact h.apercu

theorem Placee.suite (h : Placee g₀ c) (hg : Reglee g₀ c'.game) (hb : c'.game.bateau = c.game.bateau)
    (hx : c'.x = c.x) (hy : c'.y = c.y) (hd : c'.direction = c.direction) (ha : c'.apercu = c.apercu) :
    Placee g₀ c' where
  toAuMenu := h.toAuMenu.suite hg hx hy hd ha
  bateau := by rw [hb, hx, hy, hd]; exact h.bateau

theorem EnManche.point (h : EnManche g₀ hist i c) (p : Point) : EnManche g₀ hist i { c with point := p } where
  toPlacee := h.toPlacee.suite h.regles rfl rfl rfl rfl rfl
  statut := h.statut

theorem garde_de_rang (h : c.point.rang < 6) (c' : Poste) : c.Garde c' where
  rang := fun h6 => by omega
  placement := fun h6 => by omega

theorem garde_point {c : Poste} {p : Point} (g : GameT) (m : Nat) (h : 6 ≤ p.rang) :
    c.Garde { c with point := p, game := g, manche := m } := ⟨fun _ => h, fun _ _ => rfl⟩

theorem Pas.prend_loyal (hg₀ : Lancement g₀) (hd : Descend hist) (h : Loyal g₀ hist i c) (hs : Pas c (.prend q) c')
    (hq : (contrat g₀ hist i c).Permis .aller c.moment q) :
    Loyal g₀ hist i c' ∧ c'.moment = c.moment.suivant ∧ c.Garde c' := by
  have hc : Convient g₀ hist i c c.moment q := hq.convient
  cases hs with
  | inscription hp hl hid =>
    simp only [Loyal, hp] at h
    exact ⟨h, by simp only [Poste.moment, hp]; rfl, garde_de_rang (by rw [hp]; decide) _⟩
  | attentePartie hp hl hid =>
    simp only [Loyal, hp] at h
    simp only [Poste.moment, hp, Convient] at hc
    subst hc
    exact ⟨⟨h, hl.infos hg₀⟩, by simp only [Poste.moment, hp]; rfl, garde_de_rang (by rw [hp]; decide) _⟩
  | attenteBateaux hp hl hid =>
    simp only [Loyal, hp] at h
    have h1 := hg₀.bateau
    have h2 := hg₀.place
    exact ⟨⟨h.1, h.2, by simp only [Dans]; omega⟩, by simp only [Poste.moment, hp]; rfl,
      garde_de_rang (by rw [hp]; decide) _⟩
  | attenteAccuse hp hl hid =>
    simp only [Loyal, hp] at h
    refine ⟨⟨⟨h.2.suite ⟨h.2.regles.1, h.2.regles.2, h.2.regles.3⟩ rfl rfl rfl rfl rfl, .inl ⟨h.1, rfl⟩⟩,
      by simp [Termine]⟩, ?_, garde_point _ _ (by decide)⟩
    simp only [Poste.moment, hp, h.1]
    rfl
  | plateau hp hl hid =>
    simp only [Loyal, hp] at h
    exact ⟨⟨h.1.point _, h.2⟩, by simp only [Poste.moment, hp]; rfl, garde_point _ _ (by simp [Point.rang])⟩
  | go hp he hl hid =>
    simp only [Loyal, hp] at h
    exact ⟨⟨h.1.point _, h.2⟩, by simp only [Poste.moment, hp]; rfl, garde_point _ _ (by decide)⟩
  | goMort hp he =>
    simp only [Loyal, hp] at h
    exact ⟨⟨h.1.point _, h.2⟩, by simp only [Poste.moment, hp]; rfl, garde_point _ _ (by decide)⟩
  | attenteTir hp =>
    simp only [Loyal, hp] at h
    exact ⟨⟨h.1.point _, h.2⟩, by simp only [Poste.moment, hp]; rfl, garde_point _ _ (by decide)⟩
  | etat hp hl he =>
    simp only [Loyal, hp] at h
    simp only [Poste.moment, hp, Convient] at hc
    obtain ⟨g, hg, rfl⟩ := hc
    rw [hl.id, apresEtat_verdictDe fun _ hi => h.1.statut.enJeu hd h.2 hg hi, Option.some.injEq] at he
    exact ⟨⟨h.1.point _, g, hg, he.symm⟩, by simp only [Poste.moment, hp]; rfl,
      garde_point _ _ (by simp [Point.rang])⟩
  | erreur hr hl ha => exact absurd (hl.id ▸ h.accepte hd hr hq) ha

theorem apercu_menu (hg₀ : Lancement g₀) (hr : Reglee g₀ c.game) (hc : Dans g₀.taillePlateau (c.x, c.y))
    {direction : Char} (hd : (pas direction).isSome = true) {pile : Cells} {a : Apercu}
    (ha : afficherPlateauPlacerBateau c.game pile c.x c.y direction = some a) :
    AuMenu g₀ { c with point := .menu, direction := a.direction, apercu := a } := by
  obtain ⟨a', v, ha', hv⟩ := afficherPlateauPlacerBateau_spec (hr.regle hg₀) pile
    (hr.taillePlateau.symm ▸ hc) hd
  rw [ha, Option.some.injEq] at ha'
  subst ha'
  rw [hr.taillePlateau, hr.tailleBateau] at hv
  exact ⟨hr, hc, rfl, v, hv⟩

theorem AuMenu.pas (h : AuMenu g₀ c) : (pas c.direction).isSome = true := by
  obtain ⟨v, hv⟩ := h.apercu
  rw [← h.direction, hv.direction]
  rfl

theorem Pas.interne_loyal (hg₀ : Lancement g₀) (h : Loyal g₀ hist i c) (hs : Pas c .interne c') :
    Loyal g₀ hist i c' ∧ c'.moment = c.moment ∧ c.Garde c' := by
  cases hs with
  | choix t hp ht =>
    simp only [Loyal, hp] at h
    refine ⟨?_, by simp only [Poste.moment, hp], garde_de_rang (by rw [hp]; decide) _⟩
    simp only [Loyal, hp]
    exact ⟨h.1, h.2.1, by rw [h.2.1.taillePlateau]; exact deplacer_dans h.2.2 t⟩
  | entrer pile hp ha =>
    simp only [Loyal, hp] at h
    exact ⟨⟨h.1, apercu_menu hg₀ h.2.1 h.2.2 rfl ha⟩, by simp only [Poste.moment, hp],
      garde_de_rang (by rw [hp]; decide) _⟩
  | menu pile t hp ht ha =>
    simp only [Loyal, hp] at h
    have hm := apercu_menu hg₀ h.2.regles h.2.curseur (orienter_pas h.2.pas t) ha
    refine ⟨?_, by simp only [Poste.moment, hp], garde_de_rang (by rw [hp]; decide) _⟩
    simp only [Loyal, hp]
    exact ⟨h.1, hm.suite hm.regles rfl rfl rfl rfl⟩
  | quitter pile hp ha =>
    simp only [Loyal, hp] at h
    exact ⟨⟨h.1, h.2.regles, h.2.curseur⟩, by simp only [Poste.moment, hp],
      garde_de_rang (by rw [hp]; decide) _⟩
  | viser t hp =>
    simp only [Loyal, hp] at h
    refine ⟨⟨h.1.point _, h.2.1, ?_⟩, by simp only [Poste.moment, hp], garde_point _ _ (by simp [Point.rang])⟩
    rw [h.1.regles.taillePlateau]
    exact deplacer_dans h.2.2 t

theorem Montre_placement {a : Apercu} {n taille x y : Int} {v : Int × Int} (h : a.Montre n taille x y v)
    (id : Fin 100) : (Placement.mk id x y a.direction).Valide n taille := by
  refine ⟨by simp only [h.direction]; rfl, fun k hk => ?_⟩
  rw [Placement.case_pas h.direction]
  exact h.dans k hk

theorem AuMenu.valide (h : AuMenu g₀ c) (id : Fin 100) :
    (c.placement id).Valide g₀.taillePlateau g₀.tailleBateau := by
  obtain ⟨v, hv⟩ := h.apercu
  have := Montre_placement hv id
  rw [h.direction] at this
  exact this

theorem AuMenu.placer {g : GameT} (hg₀ : Lancement g₀) (h : AuMenu g₀ c)
    (hg : enregistrer c.game c.x c.y c.direction = some g) :
    Placee g₀ { c with point := .attenteAccuse, game := g } := by
  obtain ⟨v, hv⟩ := h.apercu
  have hdir : Serveur.pas c.direction = some v := by rw [← h.direction, hv.direction]
  obtain ⟨bateau, hb, hsuit⟩ := enregistrer_spec (g := c.game)
    (by rw [h.regles.tailleBateau]; exact hg₀.registres.bateau_le) c.x c.y hdir
  rw [hg, Option.some.injEq] at hb
  subst hb
  rw [h.regles.tailleBateau] at hsuit
  refine ⟨h.suite ⟨h.regles.1, h.regles.2, h.regles.3⟩ rfl rfl rfl rfl, fun w hw => ?_⟩
  have hvw : v = w := Option.some.inj (hdir.symm.trans hw)
  exact hvw ▸ hsuit

theorem EnManche.etatRecu {g : Serveur.GameT} {e : EtatPartie} (h : EnManche g₀ hist i c)
    (hg : hist[c.manche]? = some g) (he : e = classe g i) :
    Loyal g₀ hist i { c with point := suite e, game := { c.game with etat := e }, manche := c.manche + 1 } := by
  have hr := h.regles
  have hm : EnManche g₀ hist i { c with
      point := suite e, game := { c.game with etat := e }, manche := c.manche + 1 } :=
    ⟨h.toPlacee.suite ⟨hr.1, hr.2, hr.3⟩ rfl rfl rfl rfl rfl, .inr ⟨c.manche, g, rfl, hg, he⟩⟩
  by_cases ht : Termine e
  · have hf : suite e = .fini := if_pos ht
    rw [hf] at hm ⊢
    exact ⟨hm, ht⟩
  · have hf : suite e = .plateau := if_neg ht
    rw [hf] at hm ⊢
    exact ⟨hm, ht⟩

theorem Pas.envoie_loyal (hg₀ : Lancement g₀) (h : Loyal g₀ hist i c) (hs : Pas c (.envoie q) c') :
    Loyal g₀ hist i c' ∧ c'.moment = c.moment.suivant ∧ c.Garde c' ∧
      (contrat g₀ hist i c').Permis .retour c.moment q := by
  cases hs with
  | accuseInfos hp hi hg =>
    simp only [Loyal, hp] at h
    obtain ⟨hm, s, hs, hr⟩ := h
    rw [hi, Option.some.injEq] at hs
    subst hs
    obtain ⟨g', hg', hr'⟩ := initPlateau_spec (hr c.game) hg₀
    rw [hg, Option.some.injEq] at hg'
    subst hg'
    refine ⟨⟨hm, hr'⟩, by simp only [Poste.moment, hp]; rfl, garde_de_rang (by rw [hp]; simp [Point.rang]) _, ?_⟩
    simp only [Poste.moment, hp]
    exact ⟨rfl, rfl⟩
  | placer hp hg =>
    simp only [Loyal, hp] at h
    refine ⟨⟨h.1, h.2.placer hg₀ hg⟩, by simp only [Poste.moment, hp]; rfl, garde_de_rang (by rw [hp]; decide) _, ?_⟩
    simp only [Poste.moment, hp]
    exact ⟨rfl, by simp [Point.rang], rfl, h.2.valide⟩
  | accusePlateau pile cells hp hd =>
    simp only [Loyal, hp] at h
    have hr := h.1.regles
    refine ⟨⟨⟨h.1.toPlacee.suite ⟨hr.1, hr.2, hr.3⟩ rfl rfl rfl rfl rfl, h.1.statut⟩, h.2⟩,
      by simp only [Poste.moment, hp]; rfl, garde_point _ _ (by decide), ?_⟩
    simp only [Poste.moment, hp]
    exact ⟨rfl, rfl⟩
  | accuseGo hp he =>
    simp only [Loyal, hp] at h
    have h1 := hg₀.bateau
    have h2 := hg₀.place
    refine ⟨⟨h.1.point _, he, by simp only [Dans]; omega⟩, by simp only [Poste.moment, hp]; rfl,
      garde_point _ _ (by decide), ?_⟩
    simp only [Poste.moment, hp]
    exact ⟨rfl, rfl⟩
  | accuseGoMort hp he =>
    simp only [Loyal, hp] at h
    refine ⟨⟨h.1.point _, h.2, he⟩, by simp only [Poste.moment, hp]; rfl, garde_point _ _ (by decide), ?_⟩
    simp only [Poste.moment, hp]
    exact ⟨rfl, rfl⟩
  | tirer hp =>
    simp only [Loyal, hp] at h
    refine ⟨⟨h.1.point _, by rw [h.2.1]; simp [Termine]⟩, by simp only [Poste.moment, hp]; rfl,
      garde_point _ _ (by decide), ?_⟩
    simp only [Poste.moment, hp]
    exact ⟨rfl, .inl ⟨h.2.1 ▸ h.1.statut, _, _, h.2.2, rfl⟩⟩
  | mort hp =>
    simp only [Loyal, hp] at h
    refine ⟨⟨h.1.point _, h.2.1⟩, by simp only [Poste.moment, hp]; rfl, garde_point _ _ (by decide), ?_⟩
    simp only [Poste.moment, hp]
    exact ⟨rfl, .inr ⟨_, h.1.statut, h.2.2, rfl⟩⟩
  | @accuseEtat e hp =>
    simp only [Loyal, hp] at h
    obtain ⟨hm, g, hg, he⟩ := h
    refine ⟨hm.etatRecu hg he, ?_, garde_point _ _ ?_, ?_⟩
    · simp only [Poste.moment, hp, suite]
      by_cases ht : e = .finWin ∨ e = .finLose
      · simp only [ht, if_true]
        rfl
      · simp only [ht, if_false]
        rfl
    · unfold suite
      split <;> decide
    · simp only [Poste.moment, hp]
      exact ⟨rfl, rfl⟩

end Client

end Bnbr
