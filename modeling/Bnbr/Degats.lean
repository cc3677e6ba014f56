import Bnbr.Clib.Accesses
import Bnbr.Permutation

namespace Bnbr.Serveur

open CArray CString Logged Bataille

inductive Acces
  | case (y x : Int)
  | bateau (i : Int)
  | cellule (i j : Int)
deriving DecidableEq, Repr

-- tirer_bateau and recevoir_tir, each index they use on the board and its boats being noted
def tirerCelluleNote (x y : Int) (i j : Nat) (b : BoardT) : Logged Acces BoardT := do
  let bateau ← use (.bateau i) (get b.bateaux i)
  let c ← use (.cellule i j) (get bateau.cell j)
  if c.x = y ∧ c.y = x then do
    let cell ← use (.cellule i j) (set bateau.cell j { c with status := .hitShot })
    let bateaux ← use (.bateau i) (set b.bateaux i { bateau with cell := cell })
    pure { b with bateaux := bateaux }
  else pure b

def tirerBateauNote (x y : Int) (b : BoardT) (nbBateau : Int) : Logged Acces BoardT :=
  loop nbBateau.toNat (fun i b => do
    let bateau ← use (.bateau i) (get b.bateaux i)
    loop bateau.taille.toNat (fun j b => tirerCelluleNote x y i j b) b) b

def tirerNote (g : GameT) (x y : Int) : Logged Acces GameT :=
  if 0 ≤ x ∧ x < g.taillePlateau ∧ 0 ≤ y ∧ y < g.taillePlateau then do
    let s ← use (.case y x) (g.plateau.cell.get y x)
    if s = .boat then do
      let cell ← use (.case y x) (g.plateau.cell.set y x .hitShot)
      let plateau ← tirerBateauNote y x { g.plateau with cell := cell } g.plateau.nbBateau
      pure { g with plateau := plateau }
    else if s = .hitShot then pure g
    else do
      let cell ← use (.case y x) (g.plateau.cell.set y x .missedShot)
      pure { g with plateau := { g.plateau with cell := cell } }
  else pure g

def traiterTirNote (g : GameT) (reponse : ReqT) (xy : Int × Int) : Logged Acces GameT :=
  if reponse.id = 6 then do
    let nom ← lift reponse.nom.str
    if nom = txtCoup then do
      let infos ← lift reponse.infos.str
      tirerNote g (lireCoup infos xy).1 (lireCoup infos xy).2
    else pure g
  else pure g

def recevoirTirNote (g : GameT) (pile : PileTir) (l : Lecture) : Logged Acces (GameT × List Char) := do
  let reponse ← lift (recevoir unserialReq l pile.buff pile.reponse)
  let ack ← lift (envoyer (formatReq pile.requete accuseOk))
  let g' ← traiterTirNote g reponse pile.xy
  pure (g', ack)

theorem tirerCelluleNote_value (x y : Int) (i j : Nat) (b : BoardT) :
    (tirerCelluleNote x y i j b).value = tirerCellule x y i j b := by
  simp only [tirerCelluleNote, tirerCellule, value_bind, value_use, value_ite, value_pure, Option.bind_eq_bind]

theorem tirerBateauNote_value (x y : Int) (b : BoardT) (nbBateau : Int) :
    (tirerBateauNote x y b nbBateau).value = tirerBateau x y b nbBateau := by
  simp only [tirerBateauNote, tirerBateau, value_loop, value_bind, value_use, tirerCelluleNote_value,
    Option.bind_eq_bind]

theorem tirerNote_value (g : GameT) (x y : Int) : (tirerNote g x y).value = tirer g x y := by
  simp only [tirerNote, tirer, value_ite, value_bind, value_use, value_pure, tirerBateauNote_value,
    Option.bind_eq_bind]

theorem recevoirTirNote_value (g : GameT) (pile : PileTir) (l : Lecture) :
    (recevoirTirNote g pile l).value = recevoirTir g pile l := by
  simp only [recevoirTirNote, recevoirTir, traiterTirNote, traiterTir, value_bind, value_lift, value_ite, value_pure,
    tirerNote_value, Option.bind_eq_bind]

def Acces.Permis (g : GameT) : Acces → Prop
  | .case y x => Dans g.taillePlateau (x, y)
  | .bateau i => 0 ≤ i ∧ i < g.plateau.nbBateau
  | .cellule i j => 0 ≤ i ∧ i < g.plateau.nbBateau ∧ 0 ≤ j ∧ j < g.tailleBateau

theorem tirerCellule_taille {x y : Int} {i j : Nat} {b b' : BoardT} (h : tirerCellule x y i j b = some b')
    (k : Fin 100) : (b'.bateaux k).taille = (b.bateaux k).taille := by
  simp only [tirerCellule, Option.bind_eq_bind, Option.bind_eq_some_iff] at h
  obtain ⟨bateau, hb, c, -, h⟩ := h
  split at h
  · simp only [Option.bind_eq_some_iff, Option.some.injEq] at h
    obtain ⟨cell, -, bateaux, hs, rfl⟩ := h
    obtain ⟨m, hm, rfl⟩ := CArray.set_eq_some.mp hs
    obtain ⟨m', hm', rfl⟩ := CArray.get_eq_some.mp hb
    obtain rfl : m = m' := Fin.ext (by omega)
    by_cases hk : k = m
    · subst hk
      simp only [Function.update_self]
    · simp only [Function.update_of_ne hk]
  · rw [Option.some.inj h]

theorem tirerBateauNote_within {g : GameT} {b : BoardT}
    (ht : ∀ k : Fin 100, (k.val : Int) < g.plateau.nbBateau → (b.bateaux k).taille ≤ g.tailleBateau) (x y : Int) :
    Within (Acces.Permis g) (tirerBateauNote x y b g.plateau.nbBateau) := by
  have hcell (i j : Nat) (hi : (i : Int) < g.plateau.nbBateau) (hj : (j : Int) < g.tailleBateau) (c : BoardT) :
      Within (Acces.Permis g) (tirerCelluleNote x y i j c) := by
    have hb : (Acces.bateau i).Permis g := ⟨by omega, hi⟩
    have hc : (Acces.cellule i j).Permis g := ⟨by omega, hi, by omega, hj⟩
    refine (Within.use hb _).bind fun bateau _ => (Within.use hc _).bind fun c _ => ?_
    split
    · exact (Within.use hc _).bind fun _ _ => (Within.use hb _).bind fun _ _ => Within.pure _
    · exact Within.pure _
  have hcell' {i j : Nat} {c d : BoardT} (hc : ∀ k, (c.bateaux k).taille = (b.bateaux k).taille)
      (h : (tirerCelluleNote x y i j c).value = some d) (k : Fin 100) :
      (d.bateaux k).taille = (b.bateaux k).taille := by
    rw [tirerCelluleNote_value] at h
    exact (tirerCellule_taille h k).trans (hc k)
  refine Within.loop (fun _ c => ∀ k, (c.bateaux k).taille = (b.bateaux k).taille) (fun _ => rfl) ?_
  intro i c hi hc
  constructor
  · refine (Within.use (i := Acces.bateau i) ⟨by omega, by omega⟩ _).bind fun bateau hb => ?_
    obtain ⟨k, hk, rfl⟩ := CArray.get_eq_some.mp hb
    have hle := ht k (by omega)
    rw [hc k]
    refine Within.loop (fun _ d => ∀ k, (d.bateaux k).taille = (b.bateaux k).taille) hc fun j d hj hd => ?_
    exact ⟨hcell i j (by omega) (by omega) d, fun u hu => hcell' hd hu⟩
  · intro u hu
    obtain ⟨bateau, -, hu⟩ := Option.bind_eq_some_iff.mp hu
    rw [value_loop] at hu
    exact Loop.run_invariant (fun _ d => ∀ k, (d.bateaux k).taille = (b.bateaux k).taille) hc
      (fun j d e _ hd he => hcell' hd he) hu

theorem tirerNote_within {g : GameT}
    (ht : ∀ k : Fin 100, (k.val : Int) < g.plateau.nbBateau → (g.plateau.bateaux k).taille ≤ g.tailleBateau)
    (x y : Int) : Within (Acces.Permis g) (tirerNote g x y) := by
  unfold tirerNote
  split
  · rename_i hd
    have hc : (Acces.case y x).Permis g := hd
    refine (Within.use hc _).bind fun s _ => ?_
    split
    · refine (Within.use hc _).bind fun cell _ => Within.bind ?_ fun _ _ => Within.pure _
      exact tirerBateauNote_within (b := { g.plateau with cell := cell }) ht y x
    · split
      · exact Within.pure _
      · exact (Within.use hc _).bind fun _ _ => Within.pure _
  · exact Within.pure _

theorem recevoirTirNote_within {g : GameT}
    (ht : ∀ k : Fin 100, (k.val : Int) < g.plateau.nbBateau → (g.plateau.bateaux k).taille ≤ g.tailleBateau)
    (pile : PileTir) (l : Lecture) : Within (Acces.Permis g) (recevoirTirNote g pile l) := by
  refine (Within.lift _).bind fun r _ => (Within.lift _).bind fun ack _ => Within.bind ?_ fun _ _ => Within.pure _
  unfold traiterTirNote
  split
  · refine (Within.lift _).bind fun nom _ => ?_
    split
    · exact (Within.lift _).bind fun infos _ => tirerNote_within ht _ _
    · exact Within.pure _
  · exact Within.pure _

def nommee (pile : PileTir) (l : Lecture) : Option (Int × Int) := do
  let reponse ← recevoir unserialReq l pile.buff pile.reponse
  if reponse.id = 6 then do
    let nom ← reponse.nom.str
    if nom = txtCoup then do
      let infos ← reponse.infos.str
      some (lireCoup infos pile.xy)
    else none
  else none

theorem recevoirTir_nommee {g g' : GameT} (hn : g.taillePlateau ≤ 50) (hb : g.plateau.Borne) {pile : PileTir}
    {l : Lecture} {ack : List Char} (h : recevoirTir g pile l = some (g', ack)) : g' = g.apresCoup (nommee pile l) := by
  simp only [recevoirTir, Option.bind_eq_bind, Option.bind_eq_some_iff, Option.some.injEq, Prod.mk.injEq] at h
  obtain ⟨r, hr, -, -, g'', ht, rfl, -⟩ := h
  simp only [nommee, hr, Option.bind_eq_bind, Option.bind_some]
  simp only [traiterTir] at ht
  split at ht
  · obtain ⟨nom, hnom, ht⟩ := Option.bind_eq_some_iff.mp ht
    rw [if_pos ‹_›, hnom, Option.bind_some]
    split at ht
    · obtain ⟨infos, hinfos, ht⟩ := Option.bind_eq_some_iff.mp ht
      rw [tirer_spec hn hb] at ht
      rw [if_pos ‹_›, hinfos]
      exact (Option.some.inj ht).symm
    · rw [if_neg ‹_›]
      exact (Option.some.inj ht).symm
  · rw [if_neg ‹_›]
    exact (Option.some.inj ht).symm

-- what the reception left must end, or strcmp and sscanf run past the arrays
def Termine (r : ReqT) : Prop :=
  r.id = 6 → ∃ nom, r.nom.str = some nom ∧ (nom = txtCoup → ∃ infos, r.infos.str = some infos)

theorem recevoirTir_defini {g : GameT} (hn : g.taillePlateau ≤ 50) (hb : g.plateau.Borne) {pile : PileTir}
    {l : Lecture} {r : ReqT} (hr : recevoir unserialReq l pile.buff pile.reponse = some r) (ht : Termine r) :
    ∃ g' ack, recevoirTir g pile l = some (g', ack) := by
  simp only [recevoirTir, hr, envoyer_accuseOk, Option.bind_eq_bind, Option.bind_some]
  suffices h : ∃ g', traiterTir g r pile.xy = some g' by
    obtain ⟨g', h⟩ := h
    exact ⟨g', _, by rw [h]; rfl⟩
  simp only [traiterTir]
  split
  · rename_i hid
    obtain ⟨nom, hnom, hinfos⟩ := ht hid
    rw [hnom, Option.bind_eq_bind, Option.bind_some]
    split
    · rename_i hc
      obtain ⟨infos, hi⟩ := hinfos hc
      rw [hi, Option.bind_some, tirer_spec hn hb]
      exact ⟨_, rfl⟩
    · exact ⟨_, rfl⟩
  · exact ⟨_, rfl⟩

structure Honnete (g : GameT) : Prop where
  plateau : g.taillePlateau ≤ 50
  flottille : Flottille g
  represente : ∃ S, g.plateau.Represente g.taillePlateau S
  dans : ∀ p ∈ g.plateau.flotte, Dans g.taillePlateau p

theorem Honnete.apresCoup {g : GameT} (h : Honnete g) (c : Option (Int × Int)) : Honnete (g.apresCoup c) := by
  have hf := h.flottille.apresCoup c
  cases c with
  | none => exact h
  | some p =>
    by_cases hd : Dans g.taillePlateau p
    · obtain ⟨y, x, rfl⟩ := hd.fin h.plateau
      obtain ⟨S, hS⟩ := h.represente
      simp only [GameT.apresCoup, GameT.apresTir_dans hd] at hf ⊢
      exact ⟨h.plateau, hf, ⟨_, hS.apresTir hd⟩, by rw [BoardT.apresTir_flotte]; exact h.dans⟩
    · rw [GameT.apresCoup, GameT.apresTir_hors hd]
      exact h

theorem Honnete.suiteTirs {g g' : GameT} (h : Honnete g) {es : List (PileTir × Lecture)}
    (hs : suiteTirs g es = some g') : Honnete g' := by
  refine Loop.foldlM_invariant Honnete (fun t e u ht hu => ?_) h hs
  obtain ⟨⟨u, ack⟩, hrecu, rfl⟩ := Option.map_eq_some_iff.mp hu
  rw [recevoirTir_nommee ht.plateau ht.flottille.borne hrecu]
  exact ht.apresCoup _

abbrev BoardT.statutDe (b : BoardT) (i : Fin 100) (j : Fin 10) : Status := ((b.bateaux i).cell j).status

structure TirLocal (g g' : GameT) (p : Option (Int × Int)) : Prop where
  reste : g.SaufPlateau g'
  nbBateau : g'.plateau.nbBateau = g.plateau.nbBateau
  taille : ∀ i, (g'.plateau.bateaux i).taille = (g.plateau.bateaux i).taille
  coordonnees : ∀ i j, (g'.plateau.bateaux i).case j = (g.plateau.bateaux i).case j
  cases : ∀ y x, g'.plateau.cell y x ≠ g.plateau.cell y x → p = some (coord y x) ∧ Dans g.taillePlateau (coord y x) ∧
    ((g.plateau.cell y x = .empty ∧ g'.plateau.cell y x = .missedShot) ∨
      (g.plateau.cell y x = .boat ∧ g'.plateau.cell y x = .hitShot))
  cellules : ∀ i j, g'.plateau.statutDe i j ≠ g.plateau.statutDe i j →
    (i.val : Int) < g.plateau.nbBateau ∧ (j.val : Int) < (g.plateau.bateaux i).taille ∧
      p = some ((g.plateau.bateaux i).case j) ∧ g.plateau.statutDe i j = .boat ∧ g'.plateau.statutDe i j = .hitShot
  ensemble : ∀ i j y x, (i.val : Int) < g.plateau.nbBateau → (j.val : Int) < (g.plateau.bateaux i).taille →
    (g.plateau.bateaux i).case j = coord y x →
      (g'.plateau.statutDe i j ≠ g.plateau.statutDe i j ↔ g'.plateau.cell y x ≠ g.plateau.cell y x)

theorem TirLocal.refl (g : GameT) (p : Option (Int × Int)) : TirLocal g g p where
  reste := .refl g
  nbBateau := rfl
  taille := fun _ => rfl
  coordonnees := fun _ _ => rfl
  cases := fun _ _ h => absurd rfl h
  cellules := fun _ _ h => absurd rfl h
  ensemble := fun _ _ _ _ _ _ _ => ⟨fun h => absurd rfl h, fun h => absurd rfl h⟩

theorem Honnete.statut {g : GameT} (h : Honnete g) {i : Fin 100} {j : Fin 10} {y x : Fin 50}
    (hi : (i.val : Int) < g.plateau.nbBateau) (hj : (j.val : Int) < (g.plateau.bateaux i).taille)
    (hc : (g.plateau.bateaux i).case j = coord y x) : g.plateau.statutDe i j = g.plateau.cell y x := by
  obtain ⟨S, hS⟩ := h.represente
  have hm := BoardT.case_mem_flotte hi hj
  rw [hc] at hm
  rw [BoardT.statutDe, hS.bateau i j hi hj, hc, hS.cell y x (h.dans _ hm)]

theorem statutTire_ne {s : Status} (h : statutTire s ≠ s) :
    (s = .empty ∧ statutTire s = .missedShot) ∨ (s = .boat ∧ statutTire s = .hitShot) := by
  cases s with
  | empty => exact .inl ⟨rfl, rfl⟩
  | boat => exact .inr ⟨rfl, rfl⟩
  | missedShot => exact absurd rfl h
  | hitShot => exact absurd rfl h

theorem BoardT.apresTir_statutDe (b : BoardT) (y x : Fin 50) (i : Fin 100) (j : Fin 10) :
    (b.apresTir y x).statutDe i j = if b.cell y x = .boat ∧ (i.val : Int) < b.nbBateau ∧
      (j.val : Int) < (b.bateaux i).taille ∧ (b.bateaux i).case j = coord y x then .hitShot else b.statutDe i j := by
  simp only [BoardT.statutDe, BoardT.apresTir_bateau, BateauT.case, Prod.mk.injEq]
  by_cases h : b.cell y x = .boat ∧ (i.val : Int) < b.nbBateau
  · simp only [h, and_self, if_true, true_and, BateauT.toucher_cell]
  · have h' : ¬ (b.cell y x = .boat ∧ (i.val : Int) < b.nbBateau ∧ (j.val : Int) < (b.bateaux i).taille ∧
        ((b.bateaux i).cell j).x = (x.val : Int) ∧ ((b.bateaux i).cell j).y = (y.val : Int)) :=
      fun hc => h ⟨hc.1, hc.2.1⟩
    rw [if_neg h, if_neg h']

theorem Honnete.apresTir_local {g : GameT} (h : Honnete g) {y x : Fin 50} (hd : Dans g.taillePlateau (coord y x)) :
    TirLocal g { g with plateau := g.plateau.apresTir y x } (some (coord y x)) where
  reste := rfl
  nbBateau := BoardT.apresTir_nbBateau _ _ _
  taille := BoardT.apresTir_taille _ _ _
  coordonnees := BoardT.apresTir_case _ _ _
  cases := by
    intro r c hne
    by_cases hrc : r = y ∧ c = x
    · obtain ⟨rfl, rfl⟩ := hrc
      rw [BoardT.apresTir_ici] at hne ⊢
      exact ⟨rfl, hd, statutTire_ne hne⟩
    · exact absurd (BoardT.apresTir_ailleurs _ hrc) hne
  cellules := by
    intro i j hne
    simp only [BoardT.apresTir_statutDe] at hne ⊢
    split at hne
    · rename_i hc
      obtain ⟨hboat, hi, hj, hcase⟩ := hc
      exact ⟨hi, hj, by rw [hcase], (h.statut hi hj hcase).trans hboat, if_pos ⟨hboat, hi, hj, hcase⟩⟩
    · exact absurd rfl hne
  ensemble := by
    intro i j r c hi hj hcase
    have hafter : (g.plateau.apresTir y x).statutDe i j = (g.plateau.apresTir y x).cell r c := by
      have h' : Honnete ({ g with plateau := g.plateau.apresTir y x } : GameT) := by
        have := h.apresCoup (some (coord y x))
        rwa [GameT.apresCoup, GameT.apresTir_dans hd] at this
      refine h'.statut ?_ ?_ ?_
      · rwa [BoardT.apresTir_nbBateau]
      · rwa [BoardT.apresTir_taille]
      · rwa [BoardT.apresTir_case]
    simp only [hafter, h.statut hi hj hcase]

theorem Honnete.tirLocal {g : GameT} (h : Honnete g) (p : Option (Int × Int)) : TirLocal g (g.apresCoup p) p := by
  cases p with
  | none => exact TirLocal.refl g none
  | some p =>
    by_cases hd : Dans g.taillePlateau p
    · obtain ⟨y, x, rfl⟩ := hd.fin h.plateau
      rw [GameT.apresCoup, GameT.apresTir_dans hd]
      exact h.apresTir_local hd
    · rw [GameT.apresCoup, GameT.apresTir_hors hd]
      exact TirLocal.refl g (some p)

theorem Places.honnete {g : GameT} (hn : g.taillePlateau ≤ 50) (ht' : g.tailleBateau ≤ 10) (hj : 0 ≤ g.nbJoueur)
    (hj' : g.nbJoueur ≤ 100) (h0 : g.plateau.nbBateau = 0)
    (hvide : ∀ y x : Fin 50, Dans g.taillePlateau (coord y x) → g.plateau.cell y x = .empty) {ps : List Placement}
    (hids : Complet g.nbJoueur ps) (hps : ∀ p ∈ ps, p.Valide g.taillePlateau g.tailleBateau) {plateau : BoardT}
    (h : Places g.tailleBateau g.plateau plateau ps) : Honnete { g with plateau := plateau } := by
  obtain ⟨hnb, hflotte⟩ := h.flotte ht' h0 hids hj
  refine ⟨hn, ⟨hj, hj', ht', hnb, fun i hi => ?_⟩, ⟨∅, h.represente ht' h0 hids hj hvide⟩, fun q hq => ?_⟩
  · obtain ⟨p, hp, rfl⟩ := hids.mem.mp hi
    exact h.taille p hp
  · simp only [hflotte, union, Placement.cases, Set.mem_ofPred_eq] at hq
    obtain ⟨p, hp, k, hk, rfl⟩ := hq
    exact (hps p hp).dans k hk

theorem tir_local (g : GameT) (hn : g.taillePlateau ≤ 50) (ht : 1 ≤ g.tailleBateau) (ht' : g.tailleBateau ≤ 10)
    (hj : 0 ≤ g.nbJoueur) (hj' : g.nbJoueur ≤ 100) (h0 : g.plateau.nbBateau = 0)
    (hvide : ∀ y x : Fin 50, Dans g.taillePlateau (coord y x) → g.plateau.cell y x = .empty) (ps : List Placement)
    (hids : Complet g.nbJoueur ps) (hps : ∀ p ∈ ps, p.Valide g.taillePlateau g.tailleBateau) :
    ∃ plateau, placer g.tailleBateau ps g.plateau = some plateau ∧
      ∀ (es : List (PileTir × Lecture)) (g₁ : GameT), suiteTirs { g with plateau := plateau } es = some g₁ →
        ∀ (pile : PileTir) (l : Lecture), Within (Acces.Permis g₁) (recevoirTirNote g₁ pile l) ∧
          (∀ g₂ ack, recevoirTir g₁ pile l = some (g₂, ack) → TirLocal g₁ g₂ (nommee pile l)) ∧
          ∀ r, recevoir unserialReq l pile.buff pile.reponse = some r → Termine r →
            ∃ g₂ ack, recevoirTir g₁ pile l = some (g₂, ack) := by
  obtain ⟨plateau, hb, hplaces⟩ := placer_spec hn ht ht' hids.nodup hps g.plateau
  refine ⟨plateau, hb, fun es g₁ hs pile l => ?_⟩
  have h := (hplaces.honnete hn ht' hj hj' h0 hvide hids hps).suiteTirs hs
  have hf := h.flottille
  refine ⟨recevoirTirNote_within (fun k hk => ?_) pile l, fun g₂ ack hr => ?_,
    fun r hr hterm => recevoirTir_defini h.plateau hf.borne hr hterm⟩
  · rw [hf.taille k (hf.nbBateau ▸ hk)]
  · rw [recevoirTir_nommee h.plateau hf.borne hr]
    exact h.tirLocal _

theorem tir_local_touche : ∃ (g₂ : GameT) (ack : List Char),
    recevoirTir deuxBateaux (mancheTouche.tir 1).1 (mancheTouche.tir 1).2 = some (g₂, ack) ∧
      TirLocal deuxBateaux g₂ (nommee (mancheTouche.tir 1).1 (mancheTouche.tir 1).2) := by
  obtain ⟨plateau, hp, hall⟩ := tir_local (GameT.depart 2 4 2) (by decide) (by decide) (by decide) (by decide)
    (by decide) rfl (fun _ _ _ => rfl) [⟨0, 0, 0, 'd'⟩, ⟨1, 0, 3, 'd'⟩] (by unfold Complet; decide) (by
      intro p hp
      rcases List.mem_pair.mp hp with rfl | rfl
      · exact Placement.valide_droite 0 (by decide) (by decide) (by decide) (by decide)
      · exact Placement.valide_droite 1 (by decide) (by decide) (by decide) (by decide))
  obtain rfl : deuxBateaux.plateau = plateau := Option.some.inj (placer_deuxBateaux.symm.trans hp)
  obtain ⟨-, hloc, hdef⟩ := hall [] deuxBateaux rfl (mancheTouche.tir 1).1 (mancheTouche.tir 1).2
  obtain ⟨hc, hi⟩ := coup_eq_some (tirRecu_coup 1)
  obtain ⟨g₂, ack, hr⟩ := hdef (tirRecu 1) (tirRecu_recu 1).1 fun _ => ⟨_, hc.2, fun _ => hi⟩
  exact ⟨g₂, ack, hr, hloc g₂ ack hr⟩

end Bnbr.Serveur
