import Bnbr.Champs
import Bnbr.Tir

namespace Bnbr.Serveur

open CArray CString Decimal Scanf

def coords (s : List Char) : Option Int × Option Int :=
  sscanf [.int (fun v c => (some v, c.2)), .lit ';', .int (fun v c => (c.1, some v))] s (none, none)

theorem lireCoup_coords (s : List Char) (xy : Int × Int) :
    lireCoup s xy = (((coords s).1.map toInt).getD xy.1, ((coords s).2.map toInt).getD xy.2) := by
  refine sscanf_rel (p := fun _ => True)
    (R := fun q (c : Option Int × Option Int) => q = ((c.1.map toInt).getD xy.1, (c.2.map toInt).getD xy.2))
    ?_ (fun _ _ => trivial) rfl
  refine .cons (.int ?_) (.cons (.lit _) (.cons (.int ?_) .nil))
  · rintro v _ c rfl
    rfl
  · rintro v _ c rfl
    rfl

def TirComplet (n : Int) (recu : List Char) : Prop :=
  ∃ nom infos x y, (champs (recu.takeWhile (· ≠ nul))).id = some 6 ∧
    (champs (recu.takeWhile (· ≠ nul))).nom = some nom ∧ nom.1 = txtCoup ∧
    (champs (recu.takeWhile (· ≠ nul))).infos = some infos ∧ coords infos.1 = (some x, some y) ∧ Dans n (x, y)

def Compatible (c : Option Int × Option Int) (p : Int × Int) : Prop :=
  (∀ a, c.1 = some a → p.1 = toInt a) ∧ (∀ b, c.2 = some b → p.2 = toInt b)

def Regle (g : GameT) (c : Champs) : Prop :=
  ∃ v, c.id = some v ∧ (toInt v = 6 → ∃ nom, c.nom = some nom ∧ (nom.1 = txtCoup →
    ∃ infos, c.infos = some infos ∧ ∀ y x : Fin 50, Dans g.taillePlateau (coord y x) →
      Compatible (coords infos.1) (coord y x) →
      g.plateau.cell y x = .hitShot ∨ g.plateau.cell y x = .missedShot))

def Inchange (g : GameT) (l : Lecture) : Prop :=
  ∀ pile, ∃ g' ack, recevoirTir g pile l = some (g', ack) ∧ g'.plateau = g.plateau

theorem recevoirTir_texte (g : GameT) (pile : PileTir) {l : Lecture} {s : List Char}
    (hs : text l.recu = some s) :
    recevoirTir g pile l = (traiterTir g (unserialReq s pile.reponse) pile.xy).map
      fun g' => (g', accuseOk.texte ++ [nul]) := by
  simp only [recevoirTir, recevoir_texte hs, envoyer_accuseOk, Option.bind_eq_bind, Option.bind_some]
  cases traiterTir g (unserialReq s pile.reponse) pile.xy <;> rfl

def pileTir (reponse : ReqT) (xy : Int × Int) : PileTir :=
  ⟨reponse, reponse, Buf.fill maxBuffer 'x', xy⟩

def reqSansFin (id : Int) : ReqT := ⟨id, Buf.fill 100 'x', Buf.fill 1000 'x'⟩

theorem Inchange.fin {g : GameT} {l : Lecture} (h : Inchange g l) : nul ∈ l.recu := by
  by_contra hn
  obtain ⟨g', ack, hr, -⟩ := h (pileTir (reqSansFin 0) (0, 0))
  simp [recevoirTir, pileTir, recevoir_sansFin hn] at hr

theorem Inchange.traiter {g : GameT} {l : Lecture} (h : Inchange g l) {s : List Char}
    (hs : text l.recu = some s) (reponse : ReqT) (xy : Int × Int) :
    ∃ g', traiterTir g (unserialReq s reponse) xy = some g' ∧ g'.plateau = g.plateau := by
  obtain ⟨g', ack, hr, hg⟩ := h (pileTir reponse xy)
  rw [recevoirTir_texte g _ hs] at hr
  simp only [pileTir, Option.map_eq_some_iff, Prod.mk.injEq] at hr
  obtain ⟨g'', hr, rfl, -⟩ := hr
  exact ⟨g'', hr, hg⟩

theorem traiterTir_six {g : GameT} {r : ReqT} (hid : r.id = 6) {xy : Int × Int} {g' : GameT}
    (h : traiterTir g r xy = some g') :
    ∃ nom, r.nom.str = some nom ∧ (nom = txtCoup → ∃ infos, r.infos.str = some infos ∧
      tirer g (lireCoup infos xy).1 (lireCoup infos xy).2 = some g') := by
  simp only [traiterTir, hid, if_true, Option.bind_eq_bind, Option.bind_eq_some_iff] at h
  obtain ⟨nom, hnom, h⟩ := h
  refine ⟨nom, hnom, ?_⟩
  rintro rfl
  simpa only [if_true, Option.bind_eq_some_iff] using h

theorem apresTir_change (b : BoardT) (y x : Fin 50) (h : b.apresTir y x = b) :
    b.cell y x = .hitShot ∨ b.cell y x = .missedShot := by
  have hc : (b.apresTir y x).cell y x = b.cell y x := by rw [h]
  cases hs : b.cell y x with
  | hitShot => exact .inl rfl
  | missedShot => exact .inr rfl
  | empty => simp [BoardT.apresTir, hs, Cells.update] at hc
  | boat => simp [BoardT.apresTir, hs, Cells.update, BoardT.toucher] at hc

theorem apresTir_deja {b : BoardT} {y x : Fin 50} (h : b.cell y x = .hitShot ∨ b.cell y x = .missedShot) :
    b.apresTir y x = b := by
  rcases h with h | h
  · simp [BoardT.apresTir, h]
  · have hu : b.cell.update y x .missedShot = b.cell := by
      funext r c
      by_cases hrc : r = y ∧ c = x
      · obtain ⟨rfl, rfl⟩ := hrc
        simp [Cells.update, h]
      · simp [Cells.update, hrc]
    simp [BoardT.apresTir, h, hu]

-- an unassigned id or nom leaves the comparison to an unterminated leftover
theorem Inchange.nom {g : GameT} {l : Lecture} (h : Inchange g l) {s : List Char} (hs : text l.recu = some s)
    (hid : ((champs s).id.map toInt).getD 6 = 6) : ∃ nom, (champs s).nom = some nom := by
  have hsuit := unserialReq_suit (text_nul_notMem hs) (reqSansFin 6)
  have hstr : (Buf.fill 100 'x').str = none := Buf.str_fill (by decide)
  obtain ⟨g', hr, -⟩ := h.traiter hs (reqSansFin 6) (0, 0)
  obtain ⟨nom, hnom, -⟩ := traiterTir_six (hsuit.id.trans hid) hr
  rw [hsuit.nom] at hnom
  cases hc : (champs s).nom with
  | none => simp [hc, reqSansFin, hstr] at hnom
  | some nom => exact ⟨nom, rfl⟩

theorem Inchange.id {g : GameT} {l : Lecture} (h : Inchange g l) {s : List Char} (hs : text l.recu = some s) :
    ∃ v, (champs s).id = some v := by
  cases hc : (champs s).id with
  | some v => exact ⟨v, rfl⟩
  | none =>
    obtain ⟨nom, hn⟩ := h.nom hs (by simp [hc])
    rw [champs_sans_id hc] at hn
    cases hn

theorem Inchange.coup {g : GameT} {l : Lecture} (h : Inchange g l) {s : List Char} (hs : text l.recu = some s)
    (hid : ∀ avant, (unserialReq s avant).id = 6) (hnom : ∀ avant, (unserialReq s avant).nom.str = some txtCoup) :
    ∃ infos, (champs s).infos = some infos ∧ ∀ xy, ∃ g',
      tirer g (lireCoup infos.1 xy).1 (lireCoup infos.1 xy).2 = some g' ∧ g'.plateau = g.plateau := by
  have hsuit := unserialReq_suit (text_nul_notMem hs) (reqSansFin 6)
  have hstr : (Buf.fill 1000 'x').str = none := Buf.str_fill (by decide)
  have htirer (xy : Int × Int) : ∃ infos, (unserialReq s (reqSansFin 6)).infos.str = some infos ∧ ∃ g',
      tirer g (lireCoup infos xy).1 (lireCoup infos xy).2 = some g' ∧ g'.plateau = g.plateau := by
    obtain ⟨g', hr, hg⟩ := h.traiter hs (reqSansFin 6) xy
    obtain ⟨nom, hn, ht⟩ := traiterTir_six (hid _) hr
    obtain ⟨infos, hi, ht⟩ := ht (Option.some.inj (hn.symm.trans (hnom _)))
    exact ⟨infos, hi, g', ht, hg⟩
  rw [hsuit.infos] at htirer
  cases hc : (champs s).infos with
  | none =>
    obtain ⟨infos, hi, -⟩ := htirer (0, 0)
    simp [hc, reqSansFin, hstr] at hi
  | some infos =>
    refine ⟨infos, rfl, fun xy => ?_⟩
    obtain ⟨infos', hi, ht⟩ := htirer xy
    rw [hc] at hi
    rwa [← Option.some.inj hi] at ht

theorem lireCoup_compatible {infos : List Char} {p : Int × Int} (h : Compatible (coords infos) p) :
    lireCoup infos p = p := by
  rw [lireCoup_coords]
  apply Prod.ext
  · cases h1 : (coords infos).1 with
    | none => rfl
    | some a => exact (h.1 a h1).symm
  · cases h2 : (coords infos).2 with
    | none => rfl
    | some b => exact (h.2 b h2).symm

theorem Inchange.regle {g : GameT} (hn : g.taillePlateau ≤ 50) (hb : g.plateau.Borne) {l : Lecture}
    (h : Inchange g l) {s : List Char} (hs : text l.recu = some s) : Regle g (champs s) := by
  have hsuit := unserialReq_suit (text_nul_notMem hs)
  obtain ⟨v, hv⟩ := h.id hs
  refine ⟨v, hv, fun h6 => ?_⟩
  obtain ⟨nom, hnom⟩ := h.nom hs (by simpa [hv] using h6)
  refine ⟨nom, hnom, fun hcoup => ?_⟩
  obtain ⟨infos, hi, htir⟩ := h.coup hs (fun avant => by rw [(hsuit avant).id, hv]; exact h6)
    fun avant => by rw [(hsuit avant).nom, hnom, ← hcoup]; rfl
  refine ⟨infos, hi, fun y x hd hcomp => ?_⟩
  obtain ⟨g', ht, hg⟩ := htir (coord y x)
  rw [lireCoup_compatible hcomp, tirer_spec hn hb, GameT.apresTir_dans hd] at ht
  exact apresTir_change _ _ _ ((congrArg GameT.plateau (Option.some.inj ht)).trans hg)

theorem Regle.inchange {g : GameT} (hn : g.taillePlateau ≤ 50) (hb : g.plateau.Borne) {l : Lecture}
    {s : List Char} (hs : text l.recu = some s) (h : Regle g (champs s)) : Inchange g l := by
  intro pile
  have hsuit := unserialReq_suit (text_nul_notMem hs) pile.reponse
  suffices ∃ g', traiterTir g (unserialReq s pile.reponse) pile.xy = some g' ∧ g'.plateau = g.plateau by
    obtain ⟨g', ht, hg⟩ := this
    exact ⟨g', _, by rw [recevoirTir_texte g pile hs, ht]; rfl, hg⟩
  obtain ⟨v, hv, h6⟩ := h
  have hid : (unserialReq s pile.reponse).id = toInt v := by rw [hsuit.id, hv]; rfl
  by_cases hv6 : toInt v = 6
  · obtain ⟨nom, hnom, hcoup⟩ := h6 hv6
    have hstr : (unserialReq s pile.reponse).nom.str = some nom.1 := by rw [hsuit.nom, hnom]; rfl
    by_cases hc : nom.1 = txtCoup
    · obtain ⟨infos, hi, hcells⟩ := hcoup hc
      have histr : (unserialReq s pile.reponse).infos.str = some infos.1 := by rw [hsuit.infos, hi]; rfl
      refine ⟨g.apresTir (lireCoup infos.1 pile.xy).1 (lireCoup infos.1 pile.xy).2, ?_, ?_⟩
      · simp only [traiterTir, hid, hv6, if_true, hstr, hc, histr, Option.bind_eq_bind, Option.bind_some,
          tirer_spec hn hb]
      · by_cases hd : Dans g.taillePlateau (lireCoup infos.1 pile.xy)
        · obtain ⟨y, x, hyx⟩ := hd.fin hn
          have hcomp : Compatible (coords infos.1) (coord y x) := by
            rw [← hyx, lireCoup_coords]
            exact ⟨fun a ha => by simp [ha], fun b hb => by simp [hb]⟩
          have hdeja := hcells y x (hyx ▸ hd) hcomp
          rw [hyx, GameT.apresTir_dans (hyx ▸ hd)]
          exact apresTir_deja hdeja
        · exact congrArg GameT.plateau (GameT.apresTir_hors (x := (lireCoup infos.1 pile.xy).1) hd)
    · exact ⟨g, by simp [traiterTir, hid, hv6, hstr, hc], rfl⟩
  · exact ⟨g, by simp [traiterTir, hid, hv6], rfl⟩

theorem tir_atomique_iff (g : GameT) (hn : g.taillePlateau ≤ 50) (hb : g.plateau.Borne) (l : Lecture) :
    (¬ TirComplet g.taillePlateau l.recu → Inchange g l) ↔
      (TirComplet g.taillePlateau l.recu ∨ ∃ s, text l.recu = some s ∧ Regle g (champs s)) := by
  constructor
  · intro h
    by_cases hc : TirComplet g.taillePlateau l.recu
    · exact .inl hc
    · right
      have hI := h hc
      cases hs : text l.recu with
      | none => exact absurd hI.fin (text_eq_none.mp hs)
      | some s => exact ⟨s, rfl, hI.regle hn hb hs⟩
  · rintro (hc | ⟨s, hs, hr⟩) hnc
    · exact absurd hc hnc
    · exact hr.inchange hn hb hs

theorem tir_atomique_mort :
    Inchange (GameT.depart 2 4 2) (Lecture.entiere requeteMort requeteMort_valide) := by
  have hs : text (Lecture.entiere requeteMort requeteMort_valide).recu = some requeteMort.texte :=
    text_append _ requeteMort_valide.texte_nul
  have hc : champs requeteMort.texte = ⟨some 6, some ⟨txtMort, by decide⟩, none⟩ := by decide
  have hnc : ¬ TirComplet 4 (Lecture.entiere requeteMort requeteMort_valide).recu := by
    rintro ⟨nom, infos, x, y, -, -, -, hi, -⟩
    rw [text_takeWhile hs, hc] at hi
    cases hi
  refine (tir_atomique_iff (GameT.depart 2 4 2) (by decide) BoardT.vide_borne _).mpr
    (.inr ⟨_, hs, ?_⟩) hnc
  rw [hc]
  exact ⟨6, rfl, fun _ => ⟨_, rfl, fun h => absurd h (by decide)⟩⟩

def pileDeconnexion : PileTir where
  reponse := reqSansFin 0
  requete := reqSansFin 0
  buff := (Buf.fill maxBuffer nul).write (requeteTir 0 0).texte (by decide)
  xy := (0, 0)

theorem tir_deconnexion :
    ¬ TirComplet 4 Lecture.fin.recu ∧
      ∃ g' ack, recevoirTir (GameT.depart 2 4 2) pileDeconnexion .fin = some (g', ack) ∧
        (GameT.depart 2 4 2).plateau.cell 0 0 = .empty ∧ g'.plateau.cell 0 0 = .missedShot := by
  have hv : (requeteTir 0 0).Valide := requeteTir_valide (by decide) (by decide)
  have hbuff : pileDeconnexion.buff.str = some (requeteTir 0 0).texte :=
    text_append (List.replicate 1013 nul) hv.texte_nul
  have hrecu : recevoir unserialReq .fin pileDeconnexion.buff pileDeconnexion.reponse =
      some (livrer (requeteTir 0 0) hv pileDeconnexion.reponse) := by
    have hw : (pileDeconnexion.buff.write Lecture.fin.recu Lecture.fin.recu_length) = pileDeconnexion.buff :=
      Subtype.ext rfl
    rw [recevoir, hw, hbuff]
    exact congrArg some (unserialReq_texte hv (by omega) _)
  have hcoup := coup_requeteTir (x := 0) (y := 0) (by decide) (by decide) pileDeconnexion.reponse
  refine ⟨?_, _, _, recevoirTir_bienForme (by decide) BoardT.vide_borne hrecu
    (bienForme_requeteTir (by decide) (by decide) _), rfl, ?_⟩
  · rintro ⟨nom, infos, x, y, hid, -⟩
    exact absurd hid (by decide)
  · rw [hcoup]
    rfl

end Bnbr.Serveur
