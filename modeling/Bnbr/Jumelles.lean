import Bnbr.Secret

namespace Bnbr.Serveur

open CArray CString Decimal

structure Jumelles (g₁ g₂ : GameT) : Prop where
  flottes : Flottille g₁ ∧ Flottille g₂
  plateau_le : g₁.taillePlateau ≤ 50
  nbJoueur : g₁.nbJoueur = g₂.nbJoueur
  taillePlateau : g₁.taillePlateau = g₂.taillePlateau
  tailleBateau : g₁.tailleBateau = g₂.tailleBateau
  etat : g₁.etat = g₂.etat
  cell : ∀ y x : Fin 50, Dans g₁.taillePlateau (coord y x) → g₁.plateau.cell y x = g₂.plateau.cell y x
  bateaux : ∀ (i : Fin 100) (j : Fin 10), (i.val : Int) < g₁.nbJoueur → (j.val : Int) < g₁.tailleBateau →
    (g₁.plateau.bateaux i).cell j = (g₂.plateau.bateaux i).cell j

variable {g₁ g₂ : GameT}

theorem Jumelles.plateau_le' (h : Jumelles g₁ g₂) : g₂.taillePlateau ≤ 50 := h.taillePlateau ▸ h.plateau_le

theorem Jumelles.aFlot (h : Jumelles g₁ g₂) (i : Nat) : AFlot g₁ i ↔ AFlot g₂ i := by
  have hcoule : i < g₁.nbJoueur.toNat → (g₁.plateau.coule g₁.tailleBateau i ↔ g₂.plateau.coule g₂.tailleBateau i) := by
    intro hi
    simp only [BoardT.coule, BateauT.Coule, ← h.tailleBateau]
    refine forall_congr' fun k => forall_congr' fun hk => forall_congr' fun j => forall_congr' fun hj => ?_
    rw [h.bateaux k j (by omega) hj]
  simp only [AFlot, ← h.nbJoueur]
  exact and_congr_right fun hi => not_congr (hcoule hi)

theorem Jumelles.nbAFlot (h : Jumelles g₁ g₂) : Serveur.nbAFlot g₁ = Serveur.nbAFlot g₂ := by
  simp only [Serveur.nbAFlot, ← h.nbJoueur]
  apply le_antisymm
  · exact Nat.count_mono_left fun i _ => (h.aFlot i).mp
  · exact Nat.count_mono_left fun i _ => (h.aFlot i).mpr

theorem Jumelles.verdicts (h : Jumelles g₁ g₂) : Serveur.verdicts g₁ = Serveur.verdicts g₂ := by
  simp only [Serveur.verdicts, verdictDe, h.nbAFlot, h.aFlot, h.nbJoueur]

theorem Jumelles.apresVerdict (h : Jumelles g₁ g₂) : Jumelles g₁.apresVerdict g₂.apresVerdict :=
  { h with
    flottes := ⟨h.flottes.1.apresVerdict, h.flottes.2.apresVerdict⟩
    etat := by simp only [h.nbAFlot, h.etat] }

theorem Jumelles.texte (h : Jumelles g₁ g₂) : textePlateau g₁ = textePlateau g₂ :=
  MemePublic.texte h.plateau_le h.taillePlateau
    ⟨fun y x hd => by rw [h.cell y x hd], fun y x hd => by rw [h.cell y x hd]⟩

theorem Jumelles.toucher (h : Jumelles g₁ g₂) (x y : Int) {i : Fin 100} {j : Fin 10} (hi : (i.val : Int) < g₁.nbJoueur)
    (hj : (j.val : Int) < g₁.tailleBateau) :
    (((g₁.plateau.toucher x y).bateaux i).cell j) = ((g₂.plateau.toucher x y).bateaux i).cell j := by
  have hi₁ : (i.val : Int) < g₁.plateau.nbBateau := h.flottes.1.nbBateau ▸ hi
  have hi₂ : (i.val : Int) < g₂.plateau.nbBateau := by
    rw [h.flottes.2.nbBateau, ← h.nbJoueur]
    exact hi
  have ht₁ := h.flottes.1.taille i hi
  have ht₂ := h.flottes.2.taille i (h.nbJoueur ▸ hi)
  simp only [BoardT.toucher, hi₁, hi₂, if_true, BateauT.toucher, ht₁, ht₂, ← h.tailleBateau, h.bateaux i j hi hj]

theorem Jumelles.apresTir {y x : Fin 50} (h : Jumelles g₁ g₂) (hd : Dans g₁.taillePlateau (coord y x)) :
    (∀ r c : Fin 50, Dans g₁.taillePlateau (coord r c) →
      (g₁.plateau.apresTir y x).cell r c = (g₂.plateau.apresTir y x).cell r c) ∧
    ∀ (i : Fin 100) (j : Fin 10), (i.val : Int) < g₁.nbJoueur → (j.val : Int) < g₁.tailleBateau →
      ((g₁.plateau.apresTir y x).bateaux i).cell j = ((g₂.plateau.apresTir y x).bateaux i).cell j := by
  have hcell (s : Status) (r c : Fin 50) (hrc : Dans g₁.taillePlateau (coord r c)) :
      g₁.plateau.cell.update y x s r c = g₂.plateau.cell.update y x s r c := by
    simp only [Cells.update, h.cell r c hrc]
  have hyx := h.cell y x hd
  unfold BoardT.apresTir
  rw [← hyx]
  cases hs : g₁.plateau.cell y x with
  | boat => exact ⟨hcell .hitShot, fun i j hi hj => h.toucher x.val y.val hi hj⟩
  | hitShot => exact ⟨h.cell, h.bateaux⟩
  | empty => exact ⟨hcell .missedShot, h.bateaux⟩
  | missedShot => exact ⟨hcell .missedShot, h.bateaux⟩

theorem Jumelles.apresCoup (h : Jumelles g₁ g₂) (c : Option (Int × Int)) :
    Jumelles (g₁.apresCoup c) (g₂.apresCoup c) := by
  obtain ⟨p₁, t₁, n₁, -, -, -, -, e₁⟩ := g₁.apresCoup_regles c
  obtain ⟨p₂, t₂, n₂, -, -, -, -, e₂⟩ := g₂.apresCoup_regles c
  have hplateau : (∀ y x : Fin 50, Dans g₁.taillePlateau (coord y x) →
      (g₁.apresCoup c).plateau.cell y x = (g₂.apresCoup c).plateau.cell y x) ∧
      ∀ (i : Fin 100) (j : Fin 10), (i.val : Int) < g₁.nbJoueur → (j.val : Int) < g₁.tailleBateau →
        ((g₁.apresCoup c).plateau.bateaux i).cell j = ((g₂.apresCoup c).plateau.bateaux i).cell j := by
    cases c with
    | none => exact ⟨h.cell, h.bateaux⟩
    | some p =>
      by_cases hd : Dans g₁.taillePlateau p
      · obtain ⟨y, x, rfl⟩ := hd.fin h.plateau_le
        simp only [GameT.apresCoup, GameT.apresTir_dans hd, GameT.apresTir_dans (h.taillePlateau ▸ hd)]
        exact h.apresTir hd
      · simp only [GameT.apresCoup, GameT.apresTir_hors hd, GameT.apresTir_hors (h.taillePlateau ▸ hd)]
        exact ⟨h.cell, h.bateaux⟩
  refine ⟨⟨h.flottes.1.apresCoup c, h.flottes.2.apresCoup c⟩, by rw [p₁]; exact h.plateau_le, ?_, ?_, ?_, ?_, ?_, ?_⟩
  · rw [n₁, n₂, h.nbJoueur]
  · rw [p₁, p₂, h.taillePlateau]
  · rw [t₁, t₂, h.tailleBateau]
  · rw [e₁, e₂, h.etat]
  · rw [p₁]
    exact hplateau.1
  · rw [n₁, t₁]
    exact hplateau.2

-- the same message, over any old contents when it leaves nothing to them
def MemeLecture (a b : Echange) : Prop := a.lecture = b.lecture ∧ (a.Lu ∨ (a.buff = b.buff ∧ a.quoi = b.quoi))

def TirEntier (l : Lecture) : Prop :=
  ∃ s c, text l.recu = some s ∧ ∀ avant, TirBienForme (unserialReq s avant) ∧ coup (unserialReq s avant) = c

def MemeTir (a b : PileTir × Lecture) : Prop := a = b ∨ (a.2 = b.2 ∧ TirEntier a.2)

structure MemesMessages (e₁ e₂ : EntreesManche) : Prop where
  plateau : ∀ i, MemeLecture (e₁.plateau i) (e₂.plateau i)
  go : ∀ i, MemeLecture (e₁.go i) (e₂.go i)
  tir : ∀ i, MemeTir (e₁.tir i) (e₂.tir i)
  fin : ∀ i, MemeLecture (e₁.fin i) (e₂.fin i)

theorem MemeLecture.lisible {a b : Echange} (h : MemeLecture a b) (ha : a.Lisible) : b.Lisible := by
  obtain ⟨hl, ⟨s, hs⟩ | ⟨hb, hq⟩⟩ := h
  · exact Echange.Lu.lisible ⟨s, hl ▸ hs⟩
  · obtain ⟨r, hr⟩ := ha
    exact ⟨r, by rw [← hl, ← hb, ← hq, hr]⟩

theorem MemeLecture.echanger {a b : Echange} (h : MemeLecture a b) {q : Requete} (hq : q.Valide)
    (ha : echanger a q = some ()) : Serveur.echanger b q = some () :=
  echanger_lisible (h.lisible (Echange.lisible_of_echanger ha)) hq

theorem MemeTir.recu {a b : PileTir × Lecture} (h : MemeTir a b) {g g' : GameT} (hn : g.taillePlateau ≤ 50)
    (hb : g.plateau.Borne) {ack : List Char} (hr : recevoirTir g a.1 a.2 = some (g', ack)) :
    ∃ c, g' = g.apresCoup c ∧ ∀ g₂ : GameT, g₂.taillePlateau ≤ 50 → g₂.plateau.Borne →
      ∃ ack', recevoirTir g₂ b.1 b.2 = some (g₂.apresCoup c, ack') := by
  rcases h with rfl | ⟨hl, s, c, hs, hc⟩
  · obtain ⟨c, hg, hall⟩ := recevoirTir_coup hn hb hr
    exact ⟨c, hg, fun g₂ hn₂ hb₂ => ⟨ack, hall g₂ hn₂ hb₂⟩⟩
  · have hrecu {g : GameT} (hn : g.taillePlateau ≤ 50) (hb : g.plateau.Borne) {pile : PileTir} {l : Lecture}
        (hs : text l.recu = some s) :
        recevoirTir g pile l = some (g.apresCoup c, accuseOk.texte ++ [nul]) := by
      rw [recevoirTir_bienForme hn hb (recevoir_texte hs _ pile.buff pile.reponse) (hc pile.reponse).1,
        (hc pile.reponse).2]
    obtain ⟨rfl, -⟩ := Prod.mk.inj (Option.some.inj ((hrecu hn hb hs).symm.trans hr))
    exact ⟨c, rfl, fun g₂ hn₂ hb₂ => ⟨_, hrecu hn₂ hb₂ (hl ▸ hs)⟩⟩

theorem Jumelles.tirs (h : Jumelles g₁ g₂) {e₁ e₂ : Nat → PileTir × Lecture} (he : ∀ i, MemeTir (e₁ i) (e₂ i))
    {journal : Journal} {s : GameT × Journal} (hs : tirs g₁ e₁ journal = some s) :
    ∃ t : GameT × Journal, Serveur.tirs g₂ e₂ journal = some t ∧ Jumelles s.1 t.1 ∧ s.2 = t.2 := by
  have hj := h.flottes.1.joueurs_le
  rw [Serveur.tirs] at hs
  rw [Serveur.tirs, ← h.nbJoueur]
  refine Loop.run_simulation (fun s t : GameT × Journal => Jumelles s.1 t.1 ∧ s.2 = t.2) ?_
    (s := (g₁, journal)) ⟨h, rfl⟩ hs
  rintro i ⟨a, j⟩ ⟨b, j'⟩ v hi ⟨hab, rfl⟩ hv
  simp only [Option.bind_eq_bind, Option.bind_eq_some_iff, Option.some.injEq] at hv
  obtain ⟨-, -, ⟨a', ack⟩, hr, rfl⟩ := hv
  obtain ⟨c, rfl, hall⟩ := (he i).recu hab.plateau_le hab.flottes.1.borne hr
  obtain ⟨ack', hr'⟩ := hall b hab.plateau_le' hab.flottes.2.borne
  obtain ⟨k, hk⟩ := exists_fin (n := 100) (i := (i : Int)) (by omega) (by omega)
  refine ⟨(b.apresCoup c, j ++ [((i : Int), accuseOk)]), ?_, hab.apresCoup c, rfl⟩
  simp only [hk, get_fin, hr', Option.bind_eq_bind, Option.bind_some]

theorem aTous_meme (hj : g₁.nbJoueur = g₂.nbJoueur) (hle : g₁.nbJoueur ≤ 100) {q : Requete} {e₁ e₂ : Nat → Echange}
    (he : ∀ i, MemeLecture (e₁ i) (e₂ i)) (hq : q.Valide) {journal journal' : Journal}
    (h : aTous g₁ (fun _ => some q) e₁ journal = some journal') :
    aTous g₂ (fun _ => some q) e₂ journal = some journal' := by
  rw [aTous] at h
  rw [aTous, ← hj]
  refine (Loop.run_simulation Eq ?_ rfl h).elim fun v hv => hv.2 ▸ hv.1
  rintro i a b a' hi rfl ha
  obtain ⟨k, hk⟩ := exists_fin (n := 100) (i := (i : Int)) (by omega) (by omega)
  simp only [Option.bind_eq_bind, Option.bind_eq_some_iff, Option.some.injEq] at ha
  obtain ⟨_, _, r, hr, u, hu, rfl⟩ := ha
  subst hr
  refine ⟨_, ?_, rfl⟩
  simp only [hk, get_fin, (he i).echanger hq hu, Option.bind_eq_bind, Option.bind_some]

theorem Jumelles.manche (h : Jumelles g₁ g₂) (hn : g₁.taillePlateau ≤ 31) {e₁ e₂ : EntreesManche}
    (he : MemesMessages e₁ e₂) {journal : Journal} {s : GameT × Journal} (hs : manche g₁ e₁ journal = some s) :
    ∃ t, Serveur.manche g₂ e₂ journal = some t ∧ Jumelles s.1 t.1 ∧ s.2 = t.2 := by
  simp only [Serveur.manche, Option.bind_eq_bind, Option.bind_eq_some_iff] at hs
  obtain ⟨⟨a, j⟩, ha, hv⟩ := hs
  simp only [avantVerdict, Option.bind_eq_bind, Option.bind_eq_some_iff] at ha
  obtain ⟨texte, ht, j₁, h₁, j₂, h₂, h₃⟩ := ha
  obtain ⟨⟨b, j'⟩, hb, hab, rfl⟩ := h.tirs he.tir h₃
  obtain ⟨hs, hj, hlis⟩ := verifierFinPartie_journal hab.flottes.1 hv
  have hb' := verifierFinPartie_lisible hab.flottes.2 (e := e₂.fin)
    (fun i hi => (he.fin i).lisible (hlis i (hab.nbJoueur ▸ hi))) j
  have hle := h.flottes.1.joueurs_le
  have h₁' := aTous_meme h.nbJoueur hle he.plateau (requetePlateau_valide ht hn) h₁
  have h₂' := aTous_meme h.nbJoueur hle he.go requeteGo_valide h₂
  refine ⟨(b.apresVerdict, j ++ Serveur.verdicts b), ?_, hs ▸ hab.apresVerdict, hj.trans (by rw [hab.verdicts])⟩
  simp only [Serveur.manche, avantVerdict, ← h.texte, ht, h₁', h₂', hb, hb', Option.bind_eq_bind, Option.bind_some]

theorem Jumelles.boucleJeu (h : Jumelles g₁ g₂) (hn : g₁.taillePlateau ≤ 31) {e₁ e₂ : Nat → EntreesManche}
    (he : ∀ m, MemesMessages (e₁ m) (e₂ m)) {k : Nat} {s : GameT × Journal}
    (hs : boucleJeu g₁ e₁ k = some s) : ∃ t, Serveur.boucleJeu g₂ e₂ k = some t ∧ Jumelles s.1 t.1 ∧ s.2 = t.2 := by
  rw [Serveur.boucleJeu] at hs ⊢
  refine (Loop.run_simulation
    (fun s t : GameT × Journal => s.1.taillePlateau = g₁.taillePlateau ∧ Jumelles s.1 t.1 ∧ s.2 = t.2) ?_
    (s := (g₁, [])) (t := (g₂, [])) ⟨rfl, h, rfl⟩ hs).imp fun t ht => ⟨ht.1, ht.2.2⟩
  rintro m ⟨a, j⟩ ⟨b, j'⟩ v - ⟨hp, hab, rfl⟩ hv
  by_cases hf : a.etat = 2
  · rw [if_pos hf] at hv
    obtain rfl := Option.some.inj hv
    exact ⟨_, if_pos (hab.etat ▸ hf), hp, hab, rfl⟩
  · rw [if_neg hf] at hv
    rw [if_neg (hab.etat ▸ hf)]
    obtain ⟨t, ht, hj⟩ := hab.manche (hp.symm ▸ hn) (he m) hv
    obtain ⟨a', ha', hm⟩ := manche_spec hab.flottes.1 hab.plateau_le hv
    refine ⟨t, ht, ?_, hj⟩
    rw [ha']
    exact hm.regles.1.trans hp

def Tour.Dirige (t : Tour) : Prop :=
  ∀ l, t.sondage = .lecture l → l ≠ .erreur → ∃ x y direction, Decrit l.recu x y direction ∧
    (pas direction).isSome = true

theorem Tour.Dirige.cas {t : Tour} (h : t.Dirige) :
    (∀ pile : PileBateau, recevoirNonBlock unserialReq t.sondage pile.buff pile.reponse = some none) ∨
    ∃ l x y direction, t.sondage = .lecture l ∧ Decrit l.recu x y direction ∧ (pas direction).isSome = true := by
  cases hs : t.sondage with
  | rien => exact .inl fun _ => rfl
  | erreur => exact .inl fun _ => rfl
  | lecture l =>
    by_cases hl : l = .erreur
    · subst hl
      exact .inl fun _ => rfl
    · obtain ⟨x, y, direction, hd, hp⟩ := h l hs hl
      exact .inr ⟨l, x, y, direction, rfl, hd, hp⟩

structure Appariees (g₁ g₂ : GameT) (c₁ c₂ : Collecte) (ps : List Placement) : Prop where
  premier : Depot g₁ c₁ ps
  second : Depot g₂ c₂ ps
  envois : c₁.envois = c₂.envois

theorem Appariees.fini (hr : MemesReglages g₁ g₂) {c₁ c₂ : Collecte} {ps : List Placement}
    (h : Appariees g₁ g₂ c₁ c₂ ps) : c₁.fini ↔ c₂.fini := by
  simp only [Collecte.fini, h.premier.recus, h.second.recus, h.premier.game.nbJoueur, h.second.game.nbJoueur,
    hr.nbJoueur]

-- the placement was defined in the first run, so its cells are in the array
theorem Depot.valide_of_etape (hg : Registres g₁) {c c' : Collecte} {ps : List Placement} (h : Depot g₁ c ps)
    (hf : ¬ c.fini) {t : Tour} {l : Lecture} (hl : t.sondage = .lecture l) {x y : Int} {direction : Char}
    (hd : Decrit l.recu x y direction) (hp : (pas direction).isSome = true) (hc : etape c t = some c') (id : Fin 100) :
    (Placement.mk id (toInt x) (toInt y) direction).Valide 50 g₁.tailleBateau := by
  obtain ⟨i, -, -, hget⟩ := h.joueur hg hf
  obtain ⟨v, hv⟩ := Option.isSome_iff_exists.mp hp
  rw [etape_decrit hf hget hl hd, Option.map_eq_some_iff, placerBateau_pas _ _ _ _ _ hv, h.regles.2.1] at hc
  obtain ⟨b, hb, -⟩ := hc
  refine ⟨hp, fun k hk => ?_⟩
  rw [Placement.case_pas hv]
  exact placerCellules_dans hb k hk

theorem Appariees.etape (hg₁ : Registres g₁) (hg₂ : Registres g₂) (hr : MemesReglages g₁ g₂) {c₁ c₂ c : Collecte}
    {ps : List Placement} (h : Appariees g₁ g₂ c₁ c₂ ps) {t₁ t₂ : Tour} (hs : t₁.sondage = t₂.sondage)
    (hd : ¬ c₁.fini → t₁.Dirige) (hc : etape c₁ t₁ = some c) :
    ∃ d ps', Serveur.etape c₂ t₂ = some d ∧ Appariees g₁ g₂ c d ps' := by
  by_cases hf : c₁.fini
  · rw [Serveur.etape, if_pos hf, Option.some.injEq] at hc
    exact ⟨c₂, ps, if_pos ((h.fini hr).mp hf), hc ▸ h⟩
  · have hf₂ : ¬ c₂.fini := fun hf₂ => hf ((h.fini hr).mpr hf₂)
    rcases (hd hf).cas with hrien | ⟨l, x, y, direction, hl, hdec, hp⟩
    · rw [h.premier.etape_rien hg₁ hf (hrien _), Option.some.injEq] at hc
      exact ⟨c₂, ps, h.second.etape_rien hg₂ hf₂ (hs ▸ hrien t₂.pile), hc ▸ h⟩
    · have hv := h.premier.valide_of_etape hg₁ hf hl hdec hp hc
      obtain ⟨c', i, hi, hc', hdep, he⟩ := h.premier.etape_bateau hg₁ hf hl hdec hv
      obtain rfl := Option.some.inj (hc.symm.trans hc')
      obtain ⟨d, j, hj, hd', hdep', he'⟩ := h.second.etape_bateau hg₂ hf₂ (hs ▸ hl) hdec (hr.tailleBateau ▸ hv)
      obtain rfl : i = j := Fin.ext (hi.trans hj.symm)
      exact ⟨d, _, hd', hdep, hdep', by rw [he, he', h.envois, h.premier.j, h.second.j]⟩

end Bnbr.Serveur
