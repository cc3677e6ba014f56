import Bnbr.Systeme

namespace Bnbr

open CString Decimal Sessions Serveur

namespace Client

variable {g₀ : Serveur.GameT} {hist : List Serveur.GameT} {i : Nat} {c : Poste} {q : Requete}

theorem Lire.existe (q : Requete) : ∃ r, Lire q r := by
  let avant : ReqT := ⟨q.id, Buf.fill 100 nul, Buf.fill 1000 nul⟩
  by_cases h : q.Valide
  · exact ⟨Client.livrer q h avant, livrer_id _ _ _ _ _, fun _ => ⟨avant, rfl⟩⟩
  · exact ⟨avant, rfl, fun hv => absurd hv h⟩

theorem Loyal.peut_prendre (h : Loyal g₀ hist i c) (hd : Descend hist)
    (hq : (contrat g₀ hist i c).Permis .aller c.moment q) : ∃ c', Pas c (.prend q) c' := by
  have ha := h.attendu hq
  obtain ⟨r, hr⟩ := Lire.existe q
  have hid := hr.id
  cases hp : c.point with
  | inscription =>
    simp only [hp, Point.attendus, List.mem_singleton] at ha
    exact ⟨_, .inscription hp hr (hid.trans ha)⟩
  | attentePartie =>
    simp only [hp, Point.attendus, List.mem_singleton] at ha
    exact ⟨_, .attentePartie hp hr (hid.trans ha)⟩
  | attenteBateaux =>
    simp only [hp, Point.attendus, List.mem_singleton] at ha
    exact ⟨_, .attenteBateaux hp hr (hid.trans ha)⟩
  | attenteAccuse =>
    simp only [hp, Point.attendus, List.mem_singleton] at ha
    exact ⟨_, .attenteAccuse hp hr (hid.trans ha)⟩
  | plateau =>
    simp only [hp, Point.attendus, List.mem_singleton] at ha
    exact ⟨_, .plateau hp hr (hid.trans ha)⟩
  | go =>
    simp only [hp, Point.attendus, List.mem_singleton] at ha
    by_cases he : c.game.etat = .enJeu
    · exact ⟨_, .go hp he hr (hid.trans ha)⟩
    · exact ⟨_, .goMort hp he⟩
  | attenteTir => exact ⟨_, .attenteTir hp⟩
  | etat =>
    have hc := h.accepte hd (by rw [hp]; rfl) hq
    simp only [Poste.accepte, hp] at hc
    obtain ⟨e, he⟩ := Option.isSome_iff_exists.mp hc
    exact ⟨_, .etat hp hr (hid ▸ he)⟩
  | _ => simp [hp, Point.attendus] at ha

theorem peut_accuser {r : ReqT} (hp : c.point = .accusePlateau r) : ∃ cells, Pas c (.envoie accuse)
    { c with point := .go, game := { c.game with plateau := cells } } := by
  let pile : Cells := fun _ _ => .empty
  cases hg : decodePlateau c.game pile r.infos with
  | none => exact ⟨pile, .accusePlateau pile pile hp fun g h => by rw [hg] at h; cases h⟩
  | some g => exact ⟨g.plateau, .accusePlateau pile g.plateau hp fun g' h => by
      rw [hg, Option.some.injEq] at h
      rw [h]⟩

theorem Loyal.peut_emettre (hg₀ : Lancement g₀) (h : Loyal g₀ hist i c) (hs : c.moment.sens = .retour) :
    ∃ c₁ q c₂, Relation.ReflTransGen (fun c c' => Pas c .interne c') c c₁ ∧ Pas c₁ (.envoie q) c₂ := by
  have hplacer {d : Poste} (hp : d.point = .menu) (hm : AuMenu g₀ d) :
      ∃ q c₂, Pas d (.envoie q) c₂ := by
    obtain ⟨v, hv⟩ := hm.apercu
    obtain ⟨b, hb, -⟩ := enregistrer_spec (g := d.game)
      (by rw [hm.regles.tailleBateau]; exact hg₀.registres.bateau_le) d.x d.y (hm.direction ▸ hv.direction)
    exact ⟨_, _, .placer hp hb⟩
  cases hp : c.point with
  | accuseInfos r =>
    simp only [Loyal, hp] at h
    obtain ⟨-, s, hs, hr⟩ := h
    obtain ⟨g, hg, -⟩ := initPlateau_spec (hr c.game) hg₀
    exact ⟨c, _, _, .refl, .accuseInfos hp hs hg⟩
  | choix =>
    simp only [Loyal, hp] at h
    let pile : Cells := fun _ _ => .empty
    obtain ⟨a, v, ha, -⟩ := afficherPlateauPlacerBateau_spec (h.2.1.regle hg₀) pile
      (h.2.1.taillePlateau.symm ▸ h.2.2) (by decide : (pas 'd').isSome = true)
    obtain ⟨q, c₂, h₂⟩ := hplacer rfl (apercu_menu hg₀ h.2.1 h.2.2 rfl ha)
    exact ⟨_, q, c₂, .single (.entrer pile hp ha), h₂⟩
  | menu =>
    simp only [Loyal, hp] at h
    obtain ⟨q, c₂, h₂⟩ := hplacer hp h.2
    exact ⟨c, q, c₂, .refl, h₂⟩
  | accusePlateau r =>
    obtain ⟨cells, hstep⟩ := peut_accuser hp
    exact ⟨c, _, _, .refl, hstep⟩
  | accuseGo =>
    by_cases he : c.game.etat = .enJeu
    · exact ⟨c, _, _, .refl, .accuseGo hp he⟩
    · exact ⟨c, _, _, .refl, .accuseGoMort hp he⟩
  | viser x y => exact ⟨c, _, _, .refl, .tirer hp⟩
  | mort => exact ⟨c, _, _, .refl, .mort hp⟩
  | accuseEtat e => exact ⟨c, _, _, .refl, .accuseEtat hp⟩
  | _ => simp [Poste.moment, hp, Moment.sens] at hs

end Client

namespace Serveur

theorem Dans.inInt {n x y : Int} (hn : n ≤ 50) (h : Dans n (x, y)) : InInt x ∧ InInt y := by
  simp only [Dans] at h
  simp only [InInt]
  omega

theorem recevoirTir_requeteTir {g : GameT} (hf : Flottille g) (hn : g.taillePlateau ≤ 50) {x y : Int} (hx : InInt x)
    (hy : InInt y) (pile : PileTir) :
    recevoirTir g pile (Lecture.entiere (requeteTir x y) (requeteTir_valide hx hy)) =
      some (g.apresCoup (some (x, y)), accuseOk.texte ++ [nul]) := by
  rw [recevoirTir_bienForme hn hf.borne (Serveur.recevoir_livrer (requeteTir_valide hx hy) pile.buff pile.reponse)
    (bienForme_requeteTir hx hy pile.reponse), coup_requeteTir hx hy]

end Serveur

variable {g₀ : Serveur.GameT} {s s' : Etat} {i m : Nat} {hist : List Serveur.GameT} {q : Requete}

theorem TirDe.valide {n : Int} (hn : n ≤ 50) (h : TirDe n hist i m q) : q.Valide := by
  rcases h with ⟨-, x, y, hd, rfl⟩ | ⟨-, -, -, rfl⟩
  · obtain ⟨hx, hy⟩ := Dans.inInt hn hd
    exact requeteTir_valide hx hy
  · exact requeteMort_valide

theorem TirDe.recevoirTir {g : GameT} {n : Int} (hn : n ≤ 50) (h : TirDe n hist i m q) (hf : Flottille g)
    (hg : g.taillePlateau ≤ 50) (hq : q.Valide) (pile : PileTir) :
    ∃ g', Serveur.recevoirTir g pile (Lecture.entiere q hq) = some (g', accuseOk.texte ++ [nul]) := by
  rcases h with ⟨-, x, y, hd, rfl⟩ | ⟨-, -, -, rfl⟩
  · obtain ⟨hx, hy⟩ := Dans.inInt hn hd
    exact ⟨_, recevoirTir_requeteTir hf hg hx hy pile⟩
  · exact ⟨g, recevoirTir_mort hg hf.borne pile⟩

theorem BateauChoisi.bateau_valide {c : Client.Poste} (hg₀ : Lancement g₀) (h : BateauChoisi g₀ c q) : q.Valide := by
  obtain ⟨v, hv⟩ := Option.isSome_iff_exists.mp (h.valide ⟨0, by decide⟩).direction
  have hv' : pas c.direction = some v := hv
  obtain ⟨hx, hy⟩ := (h.valide ⟨0, by decide⟩).inInt hg₀.registres.plateau hg₀.registres.bateau
  rw [h.requete]
  refine requeteBateau_valide hx hy ?_
  rcases pas_cases hv' with ⟨he, -⟩ | ⟨he, -⟩ | ⟨he, -⟩ | ⟨he, -⟩ <;> rw [he] <;> decide

def Avance (n : Int) (s : Etat) : Prop :=
  ∃ s₁ a s₂, Run n s s₁ ∧ Etape n s₁ (.serveur a) s₂ ∧ a ≠ .interne

theorem Avance.run {n : Int} (hr : Run n s s') (h : Avance n s') : Avance n s := by
  obtain ⟨s₁, a, s₂, hr', he, ha⟩ := h
  exact ⟨s₁, a, s₂, hr.trans hr', he, ha⟩

theorem Avance.envoie {n : Int} (hs : Etape n s (.serveur (.envoie i q)) s') : Avance n s :=
  ⟨s, _, s', .refl, hs, by simp⟩

theorem Avance.prend {n : Int} (hs : Etape n s (.serveur (.prend i q)) s') : Avance n s :=
  ⟨s, _, s', .refl, hs, by simp⟩

theorem Etape.run {n : Int} {a : Action} (hs : Etape n s a s') : Run n s s' := .single ⟨a, hs⟩

theorem run_client {n : Int} (hi : (i : Int) < n) {c : Client.Poste}
    (h : Relation.ReflTransGen (fun c c' => Client.Pas c .interne c') (s.clients i) c) :
    Run n s { s with clients := Function.update s.clients i c } := by
  induction h with
  | refl =>
    rw [Function.update_eq_self]
    exact .refl
  | @tail d e _ hde ih =>
    have hstep : Etape n { s with clients := Function.update s.clients i d } (.client i .interne)
        { s with clients := Function.update (Function.update s.clients i d) i e } :=
      .clientInterne hi (by simp only [Function.update_self]; exact hde)
    rw [Function.update_idem] at hstep
    exact ih.tail ⟨_, hstep⟩

theorem Invariant.accord (h : Invariant g₀ s) (hd : s.serveur.depasse = false) : Accord g₀ s := by
  rcases h with h | h
  · exact h
  · rw [h.depasse] at hd
    cases hd

theorem Accord.run (hg₀ : Lancement g₀) (h : Accord g₀ s) (hr : Run g₀.nbJoueur s s')
    (hd : s'.serveur.depasse = false) : Accord g₀ s' :=
  (Invariant.run hg₀ (.inl h) hr).accord hd

-- the server waits for player i: the answer is there, or player i can move, by induction on what it still has to take
theorem Accord.reponse (hg₀ : Lancement g₀) (h : Accord g₀ s) (hi : (i : Int) < g₀.nbJoueur)
    (hs : (s.serveur.moment i).sens = .retour) :
    ∃ s' q reste, Run g₀.nbJoueur s s' ∧ s'.serveur = s.serveur ∧ s'.versServeur i = q :: reste := by
  induction hl : s.versClient i generalizing s with
  | nil =>
    obtain ⟨hsync, hloyal⟩ := h.joueurs i hi
    cases hb : s.versServeur i with
    | cons q reste => exact ⟨s, q, reste, .refl, rfl, hb⟩
    | nil =>
      rw [hb] at hsync
      rcases hsync.blocage with he | ⟨q, reste, ha, -⟩
      · rw [he] at hs
        obtain ⟨c₁, q, c₂, hc, hstep⟩ := hloyal.peut_emettre hg₀ hs
        have hemet : Etape g₀.nbJoueur { s with clients := Function.update s.clients i c₁ } (.client i (.envoie q)) _ :=
          .clientEnvoie hi (by simp only [Function.update_self]; exact hstep)
        exact ⟨_, q, [], (run_client hi hc).trans hemet.run, rfl, by simp [hb]⟩
      · rw [hl] at ha
        cases ha
  | cons q reste ih =>
    obtain ⟨hsync, hloyal⟩ := h.joueurs i hi
    rw [hl] at hsync
    obtain ⟨c, hc⟩ := hloyal.peut_prendre h.serveur.descend hsync.reception.1
    have hprend : Etape g₀.nbJoueur s _ _ := .clientPrend hi hc hl
    obtain ⟨s', q', reste', hr, hs', hq⟩ := ih (h.run hg₀ hprend.run h.depasse) hs (by simp only [Function.update_self])
    exact ⟨s', q', reste', hprend.run.trans hr, hs', hq⟩

theorem Accord.prend (hg₀ : Lancement g₀) (h : Accord g₀ s) (hi : (i : Int) < g₀.nbJoueur)
    (hs : (s.serveur.moment i).sens = .retour) {f : Requete → Serveur.Poste}
    (hpas : ∀ q, Serveur.Pas s.serveur (.prend i q) (f q)) :
    ∃ s₁ q s₂, Run g₀.nbJoueur s s₁ ∧ Etape g₀.nbJoueur s₁ (.serveur (.prend i q)) s₂ ∧ s₂.serveur = f q := by
  obtain ⟨s', q, reste, hr, hs', hq⟩ := h.reponse hg₀ hi hs
  exact ⟨s', q, _, hr, .serveurPrend (by rw [hs']; exact hpas q) hq, rfl⟩

theorem Accord.recoit (hg₀ : Lancement g₀) (h : Accord g₀ s) (hi : (i : Int) < g₀.nbJoueur)
    (hs : (s.serveur.moment i).sens = .retour) {f : Requete → Serveur.Poste}
    (hpas : ∀ q, Serveur.Pas s.serveur (.prend i q) (f q)) : Avance g₀.nbJoueur s := by
  obtain ⟨s₁, q, s₂, hr, he, -⟩ := h.prend hg₀ hi hs hpas
  exact .run hr (.prend he)

theorem Accord.emet (h : Accord g₀ s) {b : Boucle} (hp : s.serveur.point = .envoi b i)
    (hi : (i : Int) < g₀.nbJoueur) :
    ∃ q, b.requete s.serveur.game i = some q ∧ Serveur.Pas s.serveur (.envoie i q)
      { s.serveur with point := .accuse b i, finEnvoyee := s.serveur.finEnvoyee || estFin q } := by
  have hr := h.serveur
  simp only [Regulier, hp] at hr
  have hi' : (i : Int) < s.serveur.game.nbJoueur := hr.1.nbJoueur ▸ hi
  cases b with
  | infos => exact ⟨_, rfl, .envoi hp hi' rfl⟩
  | plateau t => exact ⟨_, rfl, .envoi hp hi' rfl⟩
  | go => exact ⟨_, rfl, .envoi hp hi' rfl⟩
  | etat f =>
    have hv : EnVerdict g₀ s.serveur f _ := hr.1
    obtain ⟨g, -, hf, -⟩ := hv.verdict
    exact ⟨_, hf i hi, .envoi hp hi' (hf i hi)⟩

theorem Accord.tirRecu (hg₀ : Lancement g₀) (h : Accord g₀ s) (hp : s.serveur.point = .tirRecu i q) :
    ∃ g, Serveur.Pas s.serveur (.envoie i accuseOk) { s.serveur with point := .tir (i + 1), game := g } := by
  have hr := h.serveur
  simp only [Regulier, hp] at hr
  have hn := hg₀.registres.plateau
  have hv := hr.2.2.valide hn
  let pile : PileTir := ⟨pileBateau.reponse, pileBateau.requete, pileBateau.buff, (0, 0)⟩
  obtain ⟨g, hg⟩ := hr.2.2.recevoirTir hn hr.1.flottille (by rw [hr.1.regles.taillePlateau]; exact hn) hv pile
  exact ⟨g, .tirRecu pile hp hv hg⟩

theorem Accord.bateau (hg₀ : Lancement g₀) (h : Accord g₀ s) {j n : Int} {envois : List (Int × List Char)}
    (hp : s.serveur.point = .bateau j n envois q) (hj : j = (i : Int)) :
    ∃ c : Collecte, c.j = j + 1 ∧ Serveur.Pas s.serveur (.envoie i accuseOk)
      { s.serveur with point := .collecte c.j c.nbBateauxRecu c.envois, game := c.game } := by
  have hr := h.serveur
  simp only [Regulier, hp] at hr
  have hv := hr.2.2.bateau_valide hg₀
  obtain ⟨c, hc, hcj, -⟩ := hr.1.placer hg₀ pileBateau hr.2.1 hr.2.2 hv
  exact ⟨c, hcj, .placer pileBateau hp hj hv hc⟩

theorem Accord.finEnvoi (h : Accord g₀ s) {b : Boucle} (hp : s.serveur.point = .envoi b i)
    (hi : ¬ (i : Int) < g₀.nbJoueur) :
    Serveur.Pas s.serveur .interne
      { s.serveur with point := b.suite, manche := s.serveur.manche + b.termine } := by
  have hr := h.serveur
  simp only [Regulier, hp] at hr
  exact .suite hp (by rw [hr.1.nbJoueur]; exact hi)

theorem Accord.debutManche (hg₀ : Lancement g₀) (h : Accord g₀ s) (hp : s.serveur.point = .boucle)
    (hf : s.serveur.finEnvoyee = false) :
    ∃ t, Serveur.Pas s.serveur .interne
      { s.serveur with point := .envoi (.plateau t) 0, depasse := s.serveur.depasse || s.serveur.finEnvoyee } := by
  have hr := h.serveur
  simp only [Regulier, hp] at hr
  have hn : s.serveur.game.taillePlateau ≤ 50 := by
    rw [hr.regles.taillePlateau]
    exact hg₀.registres.plateau
  exact ⟨_, .manche hp (hr.suite hf).2 (textePlateau_spec hn)⟩

theorem Accord.verdict (h : Accord g₀ s) (hp : s.serveur.point = .tir i) (hi : ¬ (i : Int) < g₀.nbJoueur) :
    ∃ g f, Serveur.Pas s.serveur .interne
      { s.serveur with
        point := .envoi (.etat f) 0, game := g, verdicts := s.serveur.verdicts ++ [s.serveur.game] } := by
  have hr := h.serveur
  simp only [Regulier, hp] at hr
  obtain ⟨f, hf, -⟩ := choisirFin_spec hr.1.flottille
  exact ⟨_, f, .verdict hp (by rw [hr.1.regles.nbJoueur]; exact hi) hf⟩

end Bnbr
