import Bnbr.Service

namespace Bnbr.Serveur

open CArray CString Decimal Scanf

variable {g : GameT} {avant : ReqT} {tours : Nat → Tour}

def DecritBateau (n taille : Int) (recu : List Char) : Prop :=
  ∃ x y direction, Decrit recu x y direction ∧ ∀ id, (Placement.mk id x y direction).Valide n taille

-- the boats of ps are written one after the other in the memory, in the board or not
structure Depot (g : GameT) (c : Collecte) (ps : List Placement) : Prop where
  ids : ps.map (fun p => p.id.val) = List.range ps.length
  recus : c.nbBateauxRecu = ps.length
  j : c.j = ps.length
  borne : (ps.length : Int) ≤ g.nbJoueur
  places : Places g.tailleBateau g.plateau c.game.plateau ps
  game : g.SaufPlateau c.game

structure Bilan (g : GameT) (c : Collecte) (ps : List Placement) : Prop extends Depot g c ps where
  valide : ∀ p ∈ ps, p.Valide g.taillePlateau g.tailleBateau

theorem Depot.zero (hg : Registres g) (envois : List (Int × List Char)) : Depot g ⟨g, 0, 0, envois⟩ [] where
  ids := rfl
  recus := rfl
  j := rfl
  borne := by have := hg.joueurs; simp only [List.length_nil]; omega
  places := by constructor <;> simp
  game := .refl g

theorem Bilan.zero (hg : Registres g) (envois : List (Int × List Char)) : Bilan g ⟨g, 0, 0, envois⟩ [] :=
  ⟨Depot.zero hg envois, by simp⟩

theorem Depot.joueur (hg : Registres g) {c : Collecte} {ps : List Placement} (h : Depot g c ps)
    (hf : ¬ c.fini) : ∃ i : Fin 100, i.val = ps.length ∧ (i.val : Int) < g.nbJoueur ∧
      get c.game.players c.j = some (g.players i) := by
  have h1 := h.borne
  have h2 := h.recus
  have h3 : c.nbBateauxRecu ≠ c.game.nbJoueur := hf
  have h4 := h.game.nbJoueur
  have h5 := h.game.players
  have h6 := hg.joueurs_le
  obtain ⟨i, hi⟩ := exists_fin (n := 100) (i := (ps.length : Int)) (by omega) (by omega)
  refine ⟨i, by omega, by omega, ?_⟩
  rw [h.j, hi, h5, get_fin]

theorem Depot.etape_rien (hg : Registres g) {c : Collecte} {ps : List Placement} (h : Depot g c ps)
    (hf : ¬ c.fini) {t : Tour}
    (ht : recevoirNonBlock unserialReq t.sondage t.pile.buff t.pile.reponse = some none) :
    etape c t = some c := by
  obtain ⟨i, -, -, hi⟩ := h.joueur hg hf
  simp only [etape, hf, if_false, iteration, hi, ht, Option.bind_eq_bind, Option.bind_some]

theorem etape_decrit {c : Collecte} (hf : ¬ c.fini) {joueur : ClientT}
    (hj : get c.game.players c.j = some joueur) {t : Tour} {l : Lecture} (hl : t.sondage = .lecture l)
    {x y : Int} {direction : Char} (hd : Decrit l.recu x y direction) :
    etape c t = (placerBateau c.game.plateau joueur.id c.game.tailleBateau (toInt x) (toInt y) direction).map fun b =>
      ⟨{ c.game with plateau := b }, c.suivant, c.nbBateauxRecu + 1,
        c.envois ++ [(c.j, accuseOk.texte ++ [nul])]⟩ := by
  obtain ⟨r, hr, hid, infos, hinfos, hlire⟩ := hd.recu t.pile
  simp only [etape, hf, if_false, iteration, hj, hl, hr, envoyer_accuseOk, Collecte.placer, hid, if_true,
    hinfos, hlire, Option.bind_eq_bind, Option.bind_some]
  cases placerBateau c.game.plateau joueur.id c.game.tailleBateau (toInt x) (toInt y) direction <;> rfl

theorem Placement.Valide.inInt {n taille x y : Int} {direction : Char} {id : Fin 100} (hn : n ≤ 50) (ht : 1 ≤ taille)
    (hv : (Placement.mk id x y direction).Valide n taille) : InInt x ∧ InInt y := by
  have h0 := hv.dans 0 (by omega)
  simp only [Placement.case, kieme, Nat.cast_zero, zero_mul, add_zero, Dans] at h0
  simp only [InInt]
  omega

theorem Depot.etape_bateau (hg : Registres g) {c : Collecte} {ps : List Placement} (h : Depot g c ps)
    (hf : ¬ c.fini) {t : Tour} {l : Lecture} (hl : t.sondage = .lecture l) {x y : Int} {direction : Char}
    (hd : Decrit l.recu x y direction)
    (hv : ∀ id, (Placement.mk id (toInt x) (toInt y) direction).Valide 50 g.tailleBateau) :
    ∃ c' i, i.val = ps.length ∧ etape c t = some c' ∧
      Depot g c' (ps ++ [⟨i, toInt x, toInt y, direction⟩]) ∧
      c'.envois = c.envois ++ [(c.j, accuseOk.texte ++ [nul])] := by
  obtain ⟨i, hi, hlt, hget⟩ := h.joueur hg hf
  have ht := h.game.tailleBateau
  have hnb := h.game.nbJoueur
  obtain ⟨b, hb, hpb⟩ := placerBateau_valide (le_refl 50) hg.bateau hg.bateau_le (hv i) c.game.plateau
  have hstep := etape_decrit hf hget hl hd
  rw [hg.id i hlt, ht, hb, Option.map_some] at hstep
  refine ⟨_, i, hi, hstep, ?_, rfl⟩
  have hrecus := h.recus
  have hj := h.j
  constructor
  · rw [List.map_append, h.ids, List.length_append, List.length_singleton, List.range_succ, List.map_singleton, hi]
  · simp only [hrecus, List.length_append, List.length_singleton]
    omega
  · rw [Collecte.suivant, if_neg (by omega)]
    simp only [hj, List.length_append, List.length_singleton]
    omega
  · simp only [List.length_append, List.length_singleton]
    omega
  · refine h.places.append hpb fun p hp q hq he => ?_
    have hm : p.id.val ∈ List.range ps.length := h.ids ▸ List.mem_map_of_mem hp
    rw [List.mem_singleton.mp hq] at he
    have hpi := List.mem_range.mp hm
    have := congrArg Fin.val he
    simp only at this
    omega
  · have hgame := h.game
    rw [GameT.SaufPlateau] at hgame ⊢
    rw [hgame]

theorem Bilan.etape_bateau (hg : Registres g) {c : Collecte} {ps : List Placement} (h : Bilan g c ps)
    (hf : ¬ c.fini) {t : Tour} {l : Lecture} (hl : t.sondage = .lecture l) {x y : Int} {direction : Char}
    (hd : Decrit l.recu x y direction)
    (hv : ∀ id, (Placement.mk id x y direction).Valide g.taillePlateau g.tailleBateau) :
    ∃ c' i, i.val = ps.length ∧ etape c t = some c' ∧ Bilan g c' (ps ++ [⟨i, x, y, direction⟩]) ∧
      c'.envois = c.envois ++ [(c.j, accuseOk.texte ++ [nul])] := by
  have hxy := (hv 0).inInt hg.plateau hg.bateau
  have hx := toInt_of_inInt hxy.1
  have hy := toInt_of_inInt hxy.2
  obtain ⟨c', i, hi, hc', hdep, he⟩ := h.toDepot.etape_bateau hg hf hl hd fun id => by
    rw [hx, hy]
    exact (hv id).mono hg.plateau
  rw [hx, hy] at hdep
  refine ⟨c', i, hi, hc', ⟨hdep, fun p hp => ?_⟩, he⟩
  rcases List.mem_append.mp hp with hp | hp
  · exact h.valide p hp
  · exact List.mem_singleton.mp hp ▸ hv i

theorem Decrit.octets {l : Lecture} {x y : Int} {direction : Char} (h : Decrit l.recu x y direction) :
    l ≠ .erreur := by
  rintro rfl
  obtain ⟨s, -, hs, -⟩ := h
  cases hs

def Tour.Accepte (g : GameT) (t : Tour) : Prop :=
  ∀ l, t.sondage = .lecture l → l ≠ .erreur → DecritBateau g.taillePlateau g.tailleBateau l.recu

theorem Tour.Accepte.cas {t : Tour} (h : t.Accepte g) :
    recevoirNonBlock unserialReq t.sondage t.pile.buff t.pile.reponse = some none ∨
    ∃ l x y direction, t.sondage = .lecture l ∧ Decrit l.recu x y direction ∧
      ∀ id, (Placement.mk id x y direction).Valide g.taillePlateau g.tailleBateau := by
  cases hs : t.sondage with
  | rien => exact .inl rfl
  | erreur => exact .inl rfl
  | lecture l =>
    by_cases hl : l = .erreur
    · subst hl
      exact .inl rfl
    · obtain ⟨x, y, direction, hd, hv⟩ := h l hs hl
      exact .inr ⟨l, x, y, direction, rfl, hd, hv⟩

theorem Bilan.etape (hg : Registres g) {c : Collecte} {ps : List Placement} (h : Bilan g c ps) {t : Tour}
    (ht : ¬ c.fini → t.Accepte g) : ∃ c' ps', etape c t = some c' ∧ Bilan g c' ps' := by
  by_cases hf : c.fini
  · exact ⟨c, ps, if_pos hf, h⟩
  · rcases (ht hf).cas with hr | ⟨l, x, y, direction, hl, hd, hv⟩
    · exact ⟨c, ps, h.toDepot.etape_rien hg hf hr, h⟩
    · obtain ⟨c', i, -, hc', hb, -⟩ := h.etape_bateau hg hf hl hd hv
      exact ⟨c', _, hc', hb⟩

theorem recevoirBateaux_bilan (hg : Registres g)
    (ht : ∀ k c, recevoirBateaux g avant tours k = some c → ¬ c.fini → (tours k).Accepte g) (k : Nat) :
    ∃ c ps, recevoirBateaux g avant tours k = some c ∧ Bilan g c ps := by
  induction k with
  | zero => exact ⟨_, [], recevoirBateaux_debut hg.joueurs_le avant tours, Bilan.zero hg _⟩
  | succ k ih =>
    obtain ⟨c, ps, hc, hb⟩ := ih
    obtain ⟨c', ps', hc', hb'⟩ := hb.etape hg (ht k c hc)
    exact ⟨c', ps', by rw [recevoirBateaux_succ, hc]; exact hc', hb'⟩

def BoardT.Place (b : BoardT) (n taille : Int) (i : Fin 100) : Prop :=
  (b.bateaux i).taille = taille ∧ ∀ j : Fin 10, (j.val : Int) < taille → Dans n ((b.bateaux i).case j)

theorem Bilan.place {c : Collecte} {ps : List Placement} (h : Bilan g c ps) {i : Fin 100}
    (hi : (i.val : Int) < c.j) : c.game.plateau.Place g.taillePlateau g.tailleBateau i := by
  have hj := h.j
  have hm : i.val ∈ ps.map (fun p => p.id.val) := by
    rw [h.ids]
    exact List.mem_range.mpr (by omega)
  obtain ⟨p, hp, he⟩ := List.mem_map.mp hm
  have hip : p.id = i := Fin.ext he
  refine ⟨hip ▸ h.places.taille p hp, fun j hjt => ?_⟩
  rw [BateauT.case, ← hip, h.places.bateau p hp j hjt]
  exact (h.valide p hp).dans j hjt

structure Validation (g : GameT) (avant : ReqT) (tours : Nat → Tour) : Prop where
  compte : ∀ k m c (i : Fin 100), recevoirBateaux g avant tours k = some c → m < k →
    BateauDe g avant tours m i → c.game.plateau.Place g.taillePlateau g.tailleBateau i
  ecrit : ∀ k, ∃ c, recevoirBateaux g avant tours k = some c ∧
    ∀ y x : Fin 50, ¬ Dans g.taillePlateau (coord y x) → c.game.plateau.cell y x = g.plateau.cell y x
  sortie : ∀ k c, recevoirBateaux g avant tours k = some c → c.fini →
    c.game.plateau.nbBateau = g.nbJoueur ∧
      ∀ i : Fin 100, (i.val : Int) < g.nbJoueur → c.game.plateau.Place g.taillePlateau g.tailleBateau i
  rejet : ∀ k c l, recevoirBateaux g avant tours k = some c → ¬ c.fini → (tours k).sondage = .lecture l →
    l ≠ .erreur → ¬ DecritBateau g.taillePlateau g.tailleBateau l.recu →
    ∃ c', recevoirBateaux g avant tours (k + 1) = some c' ∧ c'.game.plateau = c.game.plateau ∧
      c'.nbBateauxRecu = c.nbBateauxRecu

theorem Bilan.hors {c : Collecte} {ps : List Placement} (h : Bilan g c ps) {y x : Fin 50}
    (hd : ¬ Dans g.taillePlateau (coord y x)) : c.game.plateau.cell y x = g.plateau.cell y x := by
  refine h.places.vide y x ?_
  rintro ⟨p, hp, k, hk, he⟩
  exact hd (he ▸ (h.valide p hp).dans k hk)

theorem Validation.accepte (h : Validation g avant tours)
    (hboat : ∀ k c, recevoirBateaux g avant tours k = some c → ¬ c.fini → ∀ r, (tours k).pris = some r → r.id = 3)
    (k : Nat) (c : Collecte) (hc : recevoirBateaux g avant tours k = some c) (hf : ¬ c.fini) :
    (tours k).Accepte g := by
  intro l hl hle
  by_contra hd
  obtain ⟨c', hc', -, hn⟩ := h.rejet k c l hc hf hl hle hd
  rw [recevoirBateaux_succ, hc, Option.bind_some] at hc'
  rcases etape_cases hc' with ⟨hcas, -⟩ | ⟨-, r, hp, ha⟩
  · rcases hcas with hcas | hcas
    · exact hf hcas
    · rw [etape, if_neg hf] at hc'
      simp only [iteration, hl, Option.bind_eq_bind, Option.bind_eq_some_iff] at hc'
      obtain ⟨-, -, recu, hr, -⟩ := hc'
      simp only [Tour.pris, hl, hr, Option.join_some] at hcas
      subst hcas
      cases l with
      | erreur => exact hle rfl
      | fin => simp [recevoirNonBlock] at hr
      | octets s hs => simp [recevoirNonBlock] at hr
  · rw [ha.recus, if_pos (hboat k c hc hf r hp)] at hn
    omega

theorem Bilan.sortie {c : Collecte} {ps : List Placement} (h : Bilan g c ps) (hf : c.fini) :
    c.game.plateau.nbBateau = g.plateau.nbBateau + g.nbJoueur ∧
      ∀ i : Fin 100, (i.val : Int) < g.nbJoueur → c.game.plateau.Place g.taillePlateau g.tailleBateau i := by
  have h1 := h.recus
  have h2 : c.nbBateauxRecu = c.game.nbJoueur := hf
  have h3 := h.game.nbJoueur
  have h4 := h.j
  have h5 := h.places.nbBateau
  exact ⟨by omega, fun i hi => h.place (by omega)⟩

theorem bilan_of_recevoirBateaux (hg : Registres g)
    (ht : ∀ k c, recevoirBateaux g avant tours k = some c → ¬ c.fini → (tours k).Accepte g) {k : Nat} {c : Collecte}
    (hc : recevoirBateaux g avant tours k = some c) : ∃ ps, Bilan g c ps := by
  obtain ⟨d, ps, hd, hb⟩ := recevoirBateaux_bilan hg ht k
  rw [hc, Option.some.injEq] at hd
  exact ⟨ps, hd ▸ hb⟩

theorem validation_of_accepte (hg : Registres g)
    (hboat : ∀ k c, recevoirBateaux g avant tours k = some c → ¬ c.fini → ∀ r, (tours k).pris = some r → r.id = 3)
    (hacc : ∀ k c, recevoirBateaux g avant tours k = some c → ¬ c.fini → (tours k).Accepte g)
    (h0 : g.plateau.nbBateau = 0 ∨ ∀ k c, recevoirBateaux g avant tours k = some c → ¬ c.fini) :
    Validation g avant tours where
  compte := by
    intro k m c i hc hm hi
    obtain ⟨ps, hb⟩ := bilan_of_recevoirBateaux hg hacc hc
    have hcompte := recevoirBateaux_compte (by have := hg.joueurs; omega) hboat hc
    refine hb.place ?_
    by_contra hlt
    exact hcompte.attendus i m (by omega) hm hi
  ecrit := by
    intro k
    obtain ⟨c, ps, hc, hb⟩ := recevoirBateaux_bilan hg hacc k
    exact ⟨c, hc, fun y x hd => hb.hors hd⟩
  sortie := by
    intro k c hc hf
    obtain ⟨ps, hb⟩ := bilan_of_recevoirBateaux hg hacc hc
    rcases h0 with h0 | h0
    · have := hb.sortie hf
      rwa [h0, zero_add] at this
    · exact absurd hf (h0 k c hc)
  rejet := fun k c l hc hf hl hle hd => absurd (hacc k c hc hf l hl hle) hd

theorem validation_bateaux_iff (g : GameT) (hg : Registres g) (avant : ReqT) (tours : Nat → Tour)
    (hboat : ∀ k c, recevoirBateaux g avant tours k = some c → ¬ c.fini →
      ∀ r, (tours k).pris = some r → r.id = 3) :
    Validation g avant tours ↔
      (∀ k c, recevoirBateaux g avant tours k = some c → ¬ c.fini → (tours k).Accepte g) ∧
      (g.plateau.nbBateau = 0 ∨ ∀ k c, recevoirBateaux g avant tours k = some c → ¬ c.fini) := by
  constructor
  · intro h
    have hacc := h.accepte hboat
    refine ⟨hacc, ?_⟩
    by_contra hn
    simp only [not_or, not_forall, not_not] at hn
    obtain ⟨h0, k, c, hc, hf⟩ := hn
    obtain ⟨ps, hb⟩ := bilan_of_recevoirBateaux hg hacc hc
    have h1 := (h.sortie k c hc hf).1
    have h2 := (hb.sortie hf).1
    omega
  · rintro ⟨hacc, h0⟩
    exact validation_of_accepte hg hboat hacc h0

theorem Decrit.unique {recu : List Char} {x y x' y' : Int} {direction direction' : Char}
    (h : Decrit recu x y direction) (h' : Decrit recu x' y' direction') :
    x = x' ∧ y = y' ∧ direction = direction' := by
  obtain ⟨s, infos, hs, -, hi, ht⟩ := h
  obtain ⟨s', infos', hs', -, hi', ht'⟩ := h'
  rw [hs, Option.some.injEq] at hs'
  subst hs'
  rw [hi, Option.some.injEq] at hi'
  subst hi'
  rw [ht] at ht'
  simpa using ht'

theorem bateau_hors_plateau :
    ∃ c h, recevoirBateaux (GameT.depart 2 4 2) pileBateau.requete
        (fun _ => Tour.message (requeteBateau 3 0 'd') h pileBateau) 1 = some c ∧
      ¬ DecritBateau 4 2 (Lecture.entiere (requeteBateau 3 0 'd') h).recu ∧ c.nbBateauxRecu = 1 ∧
      (GameT.depart 2 4 2).plateau.cell 0 4 = .empty ∧ c.game.plateau.cell 0 4 = .boat := by
  have hv : (requeteBateau 3 0 'd').Valide := requeteBateau_valide (by decide) (by decide) (by decide)
  have hd := decrit_requeteBateau hv (by decide) (by decide) (by decide)
  have h1 := recevoirBateaux_succ (GameT.depart 2 4 2) pileBateau.requete
    (fun _ => Tour.message (requeteBateau 3 0 'd') hv pileBateau) 0
  have hplace : placerBateau BoardT.vide ((0 : Fin 100).val : Int) 2 3 0 'd' =
      some (BoardT.vide.avecBateau 0 2 3 0 (1, 0)) :=
    placerBateau_spec BoardT.vide 0 rfl (by decide) fun i hi => by
      simp only [Dans, kieme]
      omega
  rw [recevoirBateaux_debut (by decide), Option.bind_some,
    etape_decrit (show (0 : Int) ≠ 2 by decide) rfl rfl hd, toInt_of_inInt (by decide), toInt_of_inInt (by decide)]
    at h1
  refine ⟨_, hv, h1.trans (congrArg _ hplace), ?_, rfl, rfl, by decide⟩
  rintro ⟨x, y, direction, hd', hv'⟩
  obtain ⟨rfl, rfl, rfl⟩ := hd.unique hd'
  exact absurd ((hv' 0).dans 1 (by decide)) (by decide)

theorem validation_deux :
    Validation (GameT.depart 2 4 2) pileBateau.requete
      fun _ => Tour.message (requeteBateau 0 0 'd') requeteBateau_coin pileBateau := by
  have hd := decrit_requeteBateau requeteBateau_coin (by decide) (by decide) (by decide)
  have hg : Registres (GameT.depart 2 4 2) := GameT.depart_registres (by decide) (by decide) (by decide)
  refine (validation_bateaux_iff _ hg pileBateau.requete _ fun k c _ _ r hr => ?_).mpr
    ⟨fun k c _ _ l hl _ => ?_, .inl rfl⟩
  · rw [Tour.message_pris, Option.some.injEq] at hr
    rw [← hr, livrer_id]
    rfl
  · simp only [Tour.message, Sondage.lecture.injEq] at hl
    exact ⟨0, 0, 'd', hl ▸ hd, fun id => Placement.valide_droite id (by decide) (by decide) (by decide) (by decide)⟩

end Bnbr.Serveur
