import Bnbr.Clib.Loops
import Bnbr.Requete

namespace Bnbr.Serveur

open CArray CString Decimal Scanf

def placerCellule (b : BoardT) (id taille : Int) (i : Nat) (x y : Int) : Option BoardT := do
  let bateau ← get b.bateaux id
  let cell ← set bateau.cell i ⟨x, y, .boat⟩
  let bateaux ← set b.bateaux id ⟨cell, taille⟩
  let plateau ← b.cell.set y x .boat
  some { b with cell := plateau, bateaux := bateaux }

def placerCellules (b : BoardT) (id taille : Int) (x y : Nat → Int) : Option BoardT := do
  let b' ← Loop.run taille.toNat (fun i b => placerCellule b id taille i (x i) (y i)) b
  some { b' with nbBateau := b'.nbBateau + 1 }

def placerBateau (b : BoardT) (id taille x y : Int) (direction : Char) : Option BoardT :=
  if direction = 'h' then placerCellules b id taille (fun _ => x) (fun i => y - i)
  else if direction = 'b' then placerCellules b id taille (fun _ => x) (fun i => y + i)
  else if direction = 'g' then placerCellules b id taille (fun i => x - i) (fun _ => y)
  else if direction = 'd' then placerCellules b id taille (fun i => x + i) (fun _ => y)
  else some b

def tirerCellule (x y : Int) (i j : Nat) (b : BoardT) : Option BoardT := do
  let bateau ← get b.bateaux i
  let c ← get bateau.cell j
  if c.x = y ∧ c.y = x then do
    let cell ← set bateau.cell j { c with status := .hitShot }
    let bateaux ← set b.bateaux i { bateau with cell := cell }
    some { b with bateaux := bateaux }
  else some b

def tirerBateau (x y : Int) (b : BoardT) (nbBateau : Int) : Option BoardT :=
  Loop.run nbBateau.toNat (fun i b => do
    let bateau ← get b.bateaux i
    Loop.run bateau.taille.toNat (fun j b => tirerCellule x y i j b) b) b

def lireCoup (infos : List Char) (xy : Int × Int) : Int × Int :=
  sscanf [.int (fun v p => (toInt v, p.2)), .lit ';', .int (fun v p => (p.1, toInt v))] infos xy

def tirer (g : GameT) (x y : Int) : Option GameT :=
  if 0 ≤ x ∧ x < g.taillePlateau ∧ 0 ≤ y ∧ y < g.taillePlateau then do
    let s ← g.plateau.cell.get y x
    if s = .boat then do
      let cell ← g.plateau.cell.set y x .hitShot
      let plateau ← tirerBateau y x { g.plateau with cell := cell } g.plateau.nbBateau
      some { g with plateau := plateau }
    else if s = .hitShot then some g
    else do
      let cell ← g.plateau.cell.set y x .missedShot
      some { g with plateau := { g.plateau with cell := cell } }
  else some g

def txtOk : List Char := ['o', 'k']

def txtBlanc : List Char := [' ']

def txtCoup : List Char := ['c', 'o', 'u', 'p']

def accuseOk : Requete := ⟨0, txtOk, txtBlanc⟩

def traiterTir (g : GameT) (reponse : ReqT) (xy : Int × Int) : Option GameT :=
  if reponse.id = 6 then do
    let nom ← reponse.nom.str
    if nom = txtCoup then do
      let infos ← reponse.infos.str
      tirer g (lireCoup infos xy).1 (lireCoup infos xy).2
    else some g
  else some g

structure PileTir where
  reponse : ReqT
  requete : ReqT
  buff : Buf maxBuffer
  xy : Int × Int

def recevoirTir (g : GameT) (pile : PileTir) (l : Lecture) : Option (GameT × List Char) := do
  let reponse ← recevoir unserialReq l pile.buff pile.reponse
  let ack ← envoyer (formatReq pile.requete accuseOk)
  let g' ← traiterTir g reponse pile.xy
  some (g', ack)

def apresPlacement (b : BoardT) (id : Fin 100) (taille : Int) (x y : Nat → Int) (k : Nat) : BoardT where
  cell := fun r c => if ∃ i < k, x i = (c.val : Int) ∧ y i = (r.val : Int) then .boat else b.cell r c
  bateaux := fun m => if m = id ∧ 0 < k then
      ⟨fun j => if j.val < k then ⟨x j, y j, .boat⟩ else (b.bateaux id).cell j, taille⟩ else b.bateaux m
  nbBateau := b.nbBateau

theorem exists_lt_succ_case {x y : Nat → Int} {k : Nat} {cx cy r c : Fin 50} (hx : x k = (cx.val : Int))
    (hy : y k = (cy.val : Int)) : (∃ i < k + 1, x i = (c.val : Int) ∧ y i = (r.val : Int)) ↔
      (r = cy ∧ c = cx) ∨ ∃ i < k, x i = (c.val : Int) ∧ y i = (r.val : Int) := by
  constructor
  · rintro ⟨i, hi, h1, h2⟩
    rcases Nat.lt_succ_iff_lt_or_eq.mp hi with h | rfl
    · exact .inr ⟨i, h, h1, h2⟩
    · refine .inl ⟨Fin.ext ?_, Fin.ext ?_⟩ <;> omega
  · rintro (⟨rfl, rfl⟩ | ⟨i, hi, h⟩)
    · exact ⟨k, by omega, hx, hy⟩
    · exact ⟨i, by omega, h⟩

theorem apresPlacement_cell_succ (b : BoardT) (id : Fin 100) (taille : Int) {x y : Nat → Int} {k : Nat}
    {cx cy : Fin 50} (hx : x k = (cx.val : Int)) (hy : y k = (cy.val : Int)) :
    (apresPlacement b id taille x y k).cell.update cy cx .boat = (apresPlacement b id taille x y (k + 1)).cell := by
  funext r c
  simp only [Cells.update, apresPlacement, exists_lt_succ_case hx hy]
  by_cases h1 : r = cy ∧ c = cx
  · rw [if_pos h1, if_pos (.inl h1)]
  · simp only [h1, if_false, false_or]

theorem apresPlacement_bateau_succ (b : BoardT) (id : Fin 100) (taille : Int) (x y : Nat → Int) (k : Fin 10) :
    Function.update ((apresPlacement b id taille x y k).bateaux id).cell k ⟨x k, y k, .boat⟩ =
      fun j => if j.val < k.val + 1 then ⟨x j, y j, .boat⟩ else (b.bateaux id).cell j := by
  funext j
  by_cases hj : j = k
  · subst hj
    simp
  · have hjk : j.val ≠ k.val := fun h => hj (Fin.ext h)
    rw [Function.update_of_ne hj]
    have hlt : j.val < k.val + 1 ↔ j.val < k.val := by omega
    by_cases h0 : 0 < k.val
    · simp only [apresPlacement, h0, hlt, and_self, if_true]
    · have hk : ¬ j.val < k.val := by omega
      simp only [apresPlacement, h0, hlt, hk, and_false, if_false]

theorem apresPlacement_bateaux_succ (b : BoardT) (id : Fin 100) (taille : Int) (x y : Nat → Int) (k : Fin 10) :
    Function.update (apresPlacement b id taille x y k).bateaux id
        ⟨Function.update ((apresPlacement b id taille x y k).bateaux id).cell k ⟨x k, y k, .boat⟩, taille⟩ =
      (apresPlacement b id taille x y (k + 1)).bateaux := by
  rw [apresPlacement_bateau_succ]
  funext m
  by_cases hm : m = id
  · subst hm
    rw [Function.update_self]
    simp [apresPlacement]
  · rw [Function.update_of_ne hm]
    simp [apresPlacement, hm]

theorem placerCellule_spec (b : BoardT) (id : Fin 100) (taille : Int) (x y : Nat → Int) (k : Fin 10)
    (cx cy : Fin 50) (hx : x k = (cx.val : Int)) (hy : y k = (cy.val : Int)) :
    placerCellule (apresPlacement b id taille x y k) id taille k (x k) (y k) =
      some (apresPlacement b id taille x y (k + 1)) := by
  have hcell := apresPlacement_cell_succ b id taille hx hy
  have hbat := apresPlacement_bateaux_succ b id taille x y k
  simp only [placerCellule, hx, hy, get_fin, set_fin, Cells.set_fin, Option.bind_eq_bind, Option.bind_some]
  rw [← hx, ← hy, hcell, hbat]
  rfl

theorem apresPlacement_zero (b : BoardT) (id : Fin 100) (taille : Int) (x y : Nat → Int) :
    apresPlacement b id taille x y 0 = b := by
  cases b
  simp [apresPlacement]

abbrev coord (y x : Fin 50) : Int × Int := ((x.val : Int), (y.val : Int))

def Dans (n : Int) (p : Int × Int) : Prop := 0 ≤ p.1 ∧ p.1 < n ∧ 0 ≤ p.2 ∧ p.2 < n

instance (n : Int) (p : Int × Int) : Decidable (Dans n p) := inferInstanceAs (Decidable (_ ∧ _))

theorem Dans.fin {n : Int} {p : Int × Int} (h : Dans n p) (hn : n ≤ 50) :
    ∃ y x : Fin 50, p = coord y x := by
  obtain ⟨h0, h1, h2, h3⟩ := h
  obtain ⟨x, hx⟩ := exists_fin (n := 50) h0 (by omega)
  obtain ⟨y, hy⟩ := exists_fin (n := 50) h2 (by omega)
  exact ⟨y, x, Prod.ext hx hy⟩

theorem placerCellules_spec (b : BoardT) (id : Fin 100) {taille : Int} (ht : taille ≤ 10) {x y : Nat → Int}
    (h : ∀ i : Nat, (i : Int) < taille → Dans 50 (x i, y i)) :
    placerCellules b id taille x y =
      some { apresPlacement b id taille x y taille.toNat with nbBateau := b.nbBateau + 1 } := by
  have hrun := Loop.run_states (n := taille.toNat)
    (f := fun i b => placerCellule b id taille i (x i) (y i)) (apresPlacement b id taille x y) (by
      intro i hi
      obtain ⟨r, c, hp⟩ := (h i (by omega)).fin (le_refl _)
      simp only [Prod.mk.injEq] at hp
      exact placerCellule_spec b id taille x y ⟨i, by omega⟩ c r hp.1 hp.2)
  rw [apresPlacement_zero] at hrun
  simp only [placerCellules, hrun, Option.bind_eq_bind, Option.bind_some]
  rfl

theorem placerCellule_dans {b b' : BoardT} {id taille : Int} {i : Nat} {x y : Int}
    (h : placerCellule b id taille i x y = some b') : Dans 50 (x, y) := by
  simp only [placerCellule, Option.bind_eq_bind, Option.bind_eq_some_iff] at h
  obtain ⟨-, -, -, -, -, -, plateau, hp, -⟩ := h
  obtain ⟨r, c, rfl, rfl, -⟩ := Cells.set_eq_some.mp hp
  simp only [Dans]
  omega

theorem placerCellules_dans {b b' : BoardT} {id taille : Int} {x y : Nat → Int}
    (h : placerCellules b id taille x y = some b') (i : Nat) (hi : (i : Int) < taille) : Dans 50 (x i, y i) := by
  simp only [placerCellules, Option.bind_eq_bind, Option.bind_eq_some_iff] at h
  obtain ⟨c, hc, -⟩ := h
  have hall := Loop.run_invariant (fun k _ => ∀ i < k, Dans 50 (x i, y i)) (fun i hi => absurd hi (Nat.not_lt_zero i))
    (fun k t v _ ht hv i hi => by
      rcases Nat.lt_succ_iff_lt_or_eq.mp hi with hi | rfl
      · exact ht i hi
      · exact placerCellule_dans hv) hc
  exact hall i (by omega)

def pas (direction : Char) : Option (Int × Int) :=
  if direction = 'h' then some (0, -1)
  else if direction = 'b' then some (0, 1)
  else if direction = 'g' then some (-1, 0)
  else if direction = 'd' then some (1, 0)
  else none

def kieme (x y : Int) (v : Int × Int) (k : Nat) : Int × Int := (x + k * v.1, y + k * v.2)

theorem pas_cases {direction : Char} {v : Int × Int} (h : pas direction = some v) :
    (direction = 'h' ∧ v = (0, -1)) ∨ (direction = 'b' ∧ v = (0, 1)) ∨
    (direction = 'g' ∧ v = (-1, 0)) ∨ (direction = 'd' ∧ v = (1, 0)) := by
  simp only [pas] at h
  split_ifs at h with h1 h2 h3 h4
  · exact .inl ⟨h1, (Option.some.inj h).symm⟩
  · exact .inr (.inl ⟨h2, (Option.some.inj h).symm⟩)
  · exact .inr (.inr (.inl ⟨h3, (Option.some.inj h).symm⟩))
  · exact .inr (.inr (.inr ⟨h4, (Option.some.inj h).symm⟩))

theorem placerBateau_pas (b : BoardT) (id taille x y : Int) {direction : Char} {v : Int × Int}
    (h : pas direction = some v) :
    placerBateau b id taille x y direction =
      placerCellules b id taille (fun i => (kieme x y v i).1) (fun i => (kieme x y v i).2) := by
  rcases pas_cases h with ⟨rfl, rfl⟩ | ⟨rfl, rfl⟩ | ⟨rfl, rfl⟩ | ⟨rfl, rfl⟩ <;>
    simp [placerBateau, kieme, Int.sub_eq_add_neg]

theorem placerBateau_inconnu (b : BoardT) (id taille x y : Int) {direction : Char}
    (h : pas direction = none) : placerBateau b id taille x y direction = some b := by
  simp only [pas] at h
  split_ifs at h with h1 h2 h3 h4
  simp [placerBateau, h1, h2, h3, h4]

def BoardT.avecBateau (b : BoardT) (id : Fin 100) (taille x y : Int) (v : Int × Int) : BoardT :=
  { apresPlacement b id taille (fun i => (kieme x y v i).1) (fun i => (kieme x y v i).2) taille.toNat with
    nbBateau := b.nbBateau + 1 }

theorem placerBateau_spec (b : BoardT) (id : Fin 100) {taille x y : Int} {direction : Char} {v : Int × Int}
    (hv : pas direction = some v) (ht : taille ≤ 10)
    (h : ∀ i : Nat, (i : Int) < taille → Dans 50 (kieme x y v i)) :
    placerBateau b id taille x y direction = some (b.avecBateau id taille x y v) := by
  rw [placerBateau_pas b _ _ _ _ hv]
  exact placerCellules_spec b id ht h

def BateauT.toucher (bateau : BateauT) (x y : Int) : BateauT where
  cell := fun j =>
    if (j.val : Int) < bateau.taille ∧ (bateau.cell j).x = x ∧ (bateau.cell j).y = y then
      { bateau.cell j with status := .hitShot }
    else bateau.cell j
  taille := bateau.taille

def BoardT.toucher (b : BoardT) (x y : Int) : BoardT :=
  { b with bateaux := fun i => if (i.val : Int) < b.nbBateau then (b.bateaux i).toucher x y else b.bateaux i }

structure BoardT.Borne (b : BoardT) : Prop where
  nbBateau : b.nbBateau ≤ 100
  taille : ∀ i : Fin 100, (i.val : Int) < b.nbBateau → (b.bateaux i).taille ≤ 10

def toucherJusque (bateau : BateauT) (x y : Int) (k : Nat) : BateauT where
  cell := fun j =>
    if j.val < k ∧ (bateau.cell j).x = x ∧ (bateau.cell j).y = y then
      { bateau.cell j with status := .hitShot }
    else bateau.cell j
  taille := bateau.taille

theorem toucherJusque_zero (bateau : BateauT) (x y : Int) : toucherJusque bateau x y 0 = bateau := by
  cases bateau
  simp [toucherJusque]

theorem toucherJusque_taille (bateau : BateauT) (x y : Int) :
    toucherJusque bateau x y bateau.taille.toNat = bateau.toucher x y := by
  simp only [toucherJusque, BateauT.toucher, Int.lt_toNat]

theorem tirerCellule_spec (b : BoardT) (bateau : BateauT) (x y : Int) (i : Fin 100) (j : Fin 10) :
    tirerCellule y x i j { b with bateaux := Function.update b.bateaux i (toucherJusque bateau x y j) } =
      some { b with bateaux := Function.update b.bateaux i (toucherJusque bateau x y (j + 1)) } := by
  have hj : (toucherJusque bateau x y j).cell j = bateau.cell j := by simp [toucherJusque]
  have hstep : ∀ c : CellBateauT, (c = if (bateau.cell j).x = x ∧ (bateau.cell j).y = y then
      { bateau.cell j with status := .hitShot } else bateau.cell j) →
      (⟨Function.update (toucherJusque bateau x y j).cell j c, bateau.taille⟩ : BateauT) =
        toucherJusque bateau x y (j + 1) := by
    rintro c rfl
    simp only [toucherJusque, BateauT.mk.injEq, and_true]
    funext m
    by_cases hm : m = j
    · subst hm
      simp
    · have hmj : m.val ≠ j.val := fun h => hm (Fin.ext h)
      rw [Function.update_of_ne hm]
      simp only [show (m.val < j.val + 1) = (m.val < j.val) from propext (by omega)]
  simp only [tirerCellule, get_fin, Option.bind_eq_bind, Option.bind_some, Function.update_self, hj]
  by_cases hc : (bateau.cell j).x = x ∧ (bateau.cell j).y = y
  · rw [if_pos hc]
    simp only [set_fin, Option.bind_some, Function.update_idem, Option.some.injEq, BoardT.mk.injEq,
      true_and, and_true]
    congr 1
    exact hstep _ (by rw [if_pos hc])
  · rw [if_neg hc]
    simp only [Option.some.injEq, BoardT.mk.injEq, true_and, and_true]
    congr 1
    have := hstep (bateau.cell j) (by rw [if_neg hc])
    rwa [← hj, Function.update_eq_self] at this

theorem tirerCellules_spec (b : BoardT) (x y : Int) (i : Fin 100) (ht : (b.bateaux i).taille ≤ 10) :
    Loop.run (b.bateaux i).taille.toNat (fun j b => tirerCellule y x i j b) b =
      some { b with bateaux := Function.update b.bateaux i ((b.bateaux i).toucher x y) } := by
  have hrun := Loop.run_states (n := (b.bateaux i).taille.toNat) (f := fun j b => tirerCellule y x i j b)
    (fun k => { b with bateaux := Function.update b.bateaux i (toucherJusque (b.bateaux i) x y k) }) (by
      intro j hj
      exact tirerCellule_spec b (b.bateaux i) x y i ⟨j, by omega⟩)
  simpa only [toucherJusque_zero, Function.update_eq_self, toucherJusque_taille] using hrun

def toucherBateaux (b : BoardT) (x y : Int) (k : Nat) : BoardT :=
  { b with bateaux := fun i => if i.val < k then (b.bateaux i).toucher x y else b.bateaux i }

theorem tirerBateau_spec {b : BoardT} (hb : b.Borne) (x y : Int) :
    tirerBateau y x b b.nbBateau = some (b.toucher x y) := by
  have hrun := Loop.run_states (n := b.nbBateau.toNat)
    (f := fun i b => do
      let bateau ← get b.bateaux i
      Loop.run bateau.taille.toNat (fun j b => tirerCellule y x i j b) b) (toucherBateaux b x y) (by
      intro i hi
      have hn := hb.nbBateau
      obtain ⟨k, hk⟩ := exists_fin (n := 100) (i := (i : Int)) (by omega) (by omega)
      have hki : k.val = i := by omega
      have ht : ((toucherBateaux b x y i).bateaux k).taille ≤ 10 := by
        simp only [toucherBateaux, hki, Nat.lt_irrefl, if_false]
        exact hb.taille k (by omega)
      rw [hk]
      simp only [get_fin, Option.bind_eq_bind, Option.bind_some]
      rw [← hk, show (i : Nat) = k.val from hki.symm] at *
      rw [tirerCellules_spec _ x y k ht]
      simp only [toucherBateaux, Nat.lt_irrefl, if_false, Option.some.injEq, BoardT.mk.injEq, true_and,
        and_true]
      funext m
      by_cases hm : m = k
      · subst hm
        simp
      · have hmk : m.val ≠ k.val := fun h => hm (Fin.ext h)
        rw [Function.update_of_ne hm]
        simp only [show (m.val < k.val + 1) = (m.val < k.val) from propext (by omega)])
  have h0 : toucherBateaux b x y 0 = b := by
    cases b
    simp [toucherBateaux]
  rw [h0] at hrun
  rw [tirerBateau, hrun]
  simp only [toucherBateaux, BoardT.toucher, Int.lt_toNat]

def BoardT.apresTir (b : BoardT) (y x : Fin 50) : BoardT :=
  match b.cell y x with
  | .boat => { b with cell := b.cell.update y x .hitShot }.toucher x.val y.val
  | .hitShot => b
  | _ => { b with cell := b.cell.update y x .missedShot }

def GameT.apresTir (g : GameT) (x y : Int) : GameT :=
  if Dans g.taillePlateau (x, y) then
    match index 50 y, index 50 x with
    | some r, some c => { g with plateau := g.plateau.apresTir r c }
    | _, _ => g
  else g

theorem tirer_spec {g : GameT} (hn : g.taillePlateau ≤ 50) (hb : g.plateau.Borne) (x y : Int) :
    tirer g x y = some (g.apresTir x y) := by
  by_cases hd : Dans g.taillePlateau (x, y)
  · obtain ⟨r, c, hp⟩ := hd.fin hn
    simp only [Prod.mk.injEq] at hp
    obtain ⟨rfl, rfl⟩ := hp
    have hg : 0 ≤ (c.val : Int) ∧ (c.val : Int) < g.taillePlateau ∧ 0 ≤ (r.val : Int) ∧
        (r.val : Int) < g.taillePlateau := hd
    simp only [tirer, if_pos hg, Cells.get_fin, Cells.set_fin, Option.bind_eq_bind, Option.bind_some,
      GameT.apresTir, if_pos hd, index_fin, BoardT.apresTir]
    have ht := tirerBateau_spec (b := { g.plateau with cell := g.plateau.cell.update r c .hitShot })
      ⟨hb.nbBateau, hb.taille⟩ c.val r.val
    cases hs : g.plateau.cell r c with
    | boat => simp only [if_true, ht, Option.bind_some]
    | hitShot => simp
    | empty => simp
    | missedShot => simp
  · have hg : ¬ (0 ≤ x ∧ x < g.taillePlateau ∧ 0 ≤ y ∧ y < g.taillePlateau) := hd
    simp [tirer, hg, GameT.apresTir, hd]

def BoardT.vide : BoardT := ⟨fun _ _ => .empty, fun _ => ⟨fun _ => ⟨0, 0, .empty⟩, 0⟩, 0⟩

theorem BoardT.vide_borne : BoardT.vide.Borne := ⟨by decide, fun _ _ => by simp [BoardT.vide]⟩

def GameT.depart (nbJoueur taillePlateau tailleBateau : Int) : GameT where
  players := fun i => ⟨i.val, Buf.fill 100 nul, ⟨i.val, 1⟩⟩
  nbJoueur := nbJoueur
  maxJoueur := nbJoueur
  plateau := BoardT.vide
  taillePlateau := taillePlateau
  tailleBateau := tailleBateau
  timeout := 15
  affchageBateau := true
  etat := 0

theorem GameT.apresTir_dans {g : GameT} {y x : Fin 50} (h : Dans g.taillePlateau (coord y x)) :
    g.apresTir x.val y.val = { g with plateau := g.plateau.apresTir y x } := by
  simp [GameT.apresTir, h]

theorem GameT.apresTir_hors {g : GameT} {x y : Int} (h : ¬ Dans g.taillePlateau (x, y)) :
    g.apresTir x y = g := by
  simp [GameT.apresTir, h]

end Bnbr.Serveur
