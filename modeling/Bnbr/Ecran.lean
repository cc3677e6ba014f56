import Bnbr.Clib.Loops
import Bnbr.Plateau

namespace Bnbr.Client

open CArray Serveur

def deplacer (taillePlateau : Int) (t : Touche) (x y : Int) : Int × Int :=
  match t with
  | .haut => (x, if y > 0 then y - 1 else y)
  | .bas => (x, if y < taillePlateau - 1 then y + 1 else y)
  | .gauche => (if x > 0 then x - 1 else x, y)
  | .droite => (if x < taillePlateau - 1 then x + 1 else x, y)
  | _ => (x, y)

def vider (n : Nat) (plateau : Cells) : Option Cells :=
  Loop.run n (fun i => Loop.run n (fun j plateau => plateau.set i j .empty)) plateau

structure Apercu where
  direction : Char
  plateau : Cells
  dessin : List (Int × Int)

def dessiner (taille : Int) (x y : Nat → Int) (a : Apercu) : Option Apercu :=
  Loop.run taille.toNat (fun i a => do
    let plateau ← a.plateau.set (y i) (x i) .boat
    some { a with plateau := plateau, dessin := a.dessin ++ [(x i, y i)] }) a

def afficherPlateauPlacerBateau (g : GameT) (plateau : Cells) (x y : Int) (direction : Char) :
    Option Apercu := do
  let plateau ← vider g.taillePlateau.toNat plateau
  if direction = 'h' then
    if y ≥ g.tailleBateau - 1 then dessiner g.tailleBateau (fun _ => x) (fun i => y - i) ⟨'h', plateau, []⟩
    else dessiner g.tailleBateau (fun _ => x) (fun i => y + i) ⟨'b', plateau, []⟩
  else if direction = 'b' then
    if y ≤ g.taillePlateau - g.tailleBateau then
      dessiner g.tailleBateau (fun _ => x) (fun i => y + i) ⟨'b', plateau, []⟩
    else dessiner g.tailleBateau (fun _ => x) (fun i => y - i) ⟨'h', plateau, []⟩
  else if direction = 'g' then
    if x ≥ g.tailleBateau - 1 then dessiner g.tailleBateau (fun i => x - i) (fun _ => y) ⟨'g', plateau, []⟩
    else dessiner g.tailleBateau (fun i => x + i) (fun _ => y) ⟨'d', plateau, []⟩
  else if direction = 'd' then
    if x ≤ g.taillePlateau - g.tailleBateau then
      dessiner g.tailleBateau (fun i => x + i) (fun _ => y) ⟨'d', plateau, []⟩
    else dessiner g.tailleBateau (fun i => x - i) (fun _ => y) ⟨'g', plateau, []⟩
  else some ⟨direction, plateau, []⟩

def orienter (t : Touche) (direction : Char) : Char :=
  match t with
  | .haut => 'h'
  | .bas => 'b'
  | .gauche => 'g'
  | .droite => 'd'
  | _ => direction

def enregistrerCases (g : GameT) (x y : Nat → Int) : Option GameT := do
  let cell ← Loop.run g.tailleBateau.toNat (fun i cell => do
    let c ← get cell i
    set cell i { c with x := x i, y := y i }) g.bateau.cell
  some { g with bateau := ⟨cell⟩ }

def enregistrer (g : GameT) (x y : Int) (direction : Char) : Option GameT :=
  if direction = 'h' then enregistrerCases g (fun _ => x) (fun i => y - i)
  else if direction = 'b' then enregistrerCases g (fun _ => x) (fun i => y + i)
  else if direction = 'g' then enregistrerCases g (fun i => x - i) (fun _ => y)
  else if direction = 'd' then enregistrerCases g (fun i => x + i) (fun _ => y)
  else some g

theorem deplacer_dans {n x y : Int} (h : Dans n (x, y)) (t : Touche) : Dans n (deplacer n t x y) := by
  simp only [Dans] at h
  cases t with
  | haut => simp only [deplacer, Dans]; split <;> omega
  | bas => simp only [deplacer, Dans]; split <;> omega
  | gauche => simp only [deplacer, Dans]; split <;> omega
  | droite => simp only [deplacer, Dans]; split <;> omega
  | entree => exact h
  | q => exact h
  | autre => exact h

theorem vider_nested (n : Nat) (plateau : Cells) :
    vider n plateau =
      Loop.run (n * n) (fun m plateau => plateau.set ((m / n : Nat) : Int) ((m % n : Nat) : Int) .empty) plateau := by
  rw [vider, Loop.run_nested]

theorem vider_spec {n : Nat} (hn : n ≤ 50) (plateau : Cells) :
    ∃ plateau', vider n plateau = some plateau' ∧ ∀ y x : Fin 50, y.val < n → x.val < n → plateau' y x = .empty := by
  rw [vider_nested]
  obtain ⟨p, hp, hI⟩ := Loop.run_total (n := n * n)
    (f := fun m (plateau : Cells) => plateau.set ((m / n : Nat) : Int) ((m % n : Nat) : Int) .empty) (s := plateau)
    (fun m p => ∀ y x : Fin 50, y.val < n → x.val < n → y.val * n + x.val < m → p y x = .empty)
    (fun _ _ _ _ h => absurd h (Nat.not_lt_zero _)) (by
      intro m p hm hI
      have hpos : 0 < n := Nat.pos_of_ne_zero fun h0 => by subst h0; omega
      have hi : m / n < n := Nat.div_lt_of_lt_mul hm
      have hj : m % n < n := Nat.mod_lt m hpos
      refine ⟨_, Cells.set_fin p ⟨m / n, by omega⟩ ⟨m % n, by omega⟩ .empty, fun y x hy hx hlt => ?_⟩
      by_cases hyx : y.val = m / n ∧ x.val = m % n
      · exact if_pos ⟨Fin.ext hyx.1, Fin.ext hyx.2⟩
      · rw [Cells.update, if_neg fun h => hyx ⟨congrArg Fin.val h.1, congrArg Fin.val h.2⟩]
        refine hI y x hy hx (Nat.lt_of_le_of_ne (Nat.le_of_lt_succ hlt) fun he => hyx ?_)
        subst he
        exact ⟨by rw [Nat.mul_comm, Nat.mul_add_div hpos, Nat.div_eq_of_lt hx, Nat.add_zero],
          by rw [Nat.mul_comm, Nat.mul_add_mod, Nat.mod_eq_of_lt hx]⟩)
  refine ⟨p, hp, fun y x hy hx => hI y x hy hx ?_⟩
  calc y.val * n + x.val < y.val * n + n := by omega
    _ = (y.val + 1) * n := by rw [Nat.add_mul, Nat.one_mul]
    _ ≤ n * n := Nat.mul_le_mul_right n hy

def tracer (a : Apercu) (x y : Nat → Int) (k : Nat) : Apercu where
  direction := a.direction
  plateau := fun r c => if ∃ i < k, x i = (c.val : Int) ∧ y i = (r.val : Int) then .boat else a.plateau r c
  dessin := a.dessin ++ (List.range k).map fun i => (x i, y i)

theorem tracer_zero (a : Apercu) (x y : Nat → Int) : tracer a x y 0 = a := by
  cases a
  simp [tracer]

theorem tracer_succ (a : Apercu) {x y : Nat → Int} {k : Nat} {r c : Fin 50} (hx : x k = (c.val : Int))
    (hy : y k = (r.val : Int)) :
    ({ tracer a x y k with
        plateau := (tracer a x y k).plateau.update r c .boat
        dessin := (tracer a x y k).dessin ++ [(x k, y k)] } : Apercu) = tracer a x y (k + 1) := by
  have hplateau : (tracer a x y k).plateau.update r c .boat = (tracer a x y (k + 1)).plateau := by
    funext r' c'
    have hiff : (∃ i < k + 1, x i = (c'.val : Int) ∧ y i = (r'.val : Int)) ↔
        (r' = r ∧ c' = c) ∨ ∃ i < k, x i = (c'.val : Int) ∧ y i = (r'.val : Int) := by
      constructor
      · rintro ⟨i, hi, h1, h2⟩
        rcases Nat.lt_succ_iff_lt_or_eq.mp hi with h | rfl
        · exact .inr ⟨i, h, h1, h2⟩
        · exact .inl ⟨Fin.ext (by omega), Fin.ext (by omega)⟩
      · rintro (⟨rfl, rfl⟩ | ⟨i, hi, h⟩)
        · exact ⟨k, by omega, hx, hy⟩
        · exact ⟨i, by omega, h⟩
    by_cases h1 : r' = r ∧ c' = c
    · simp only [Cells.update, tracer, if_pos h1, if_pos (hiff.mpr (.inl h1))]
    · simp only [Cells.update, tracer, hiff, h1, false_or, if_false]
  rw [hplateau]
  simp only [tracer, List.range_succ, List.map_append, List.map_singleton, List.append_assoc]

theorem dessiner_spec {taille : Int} {x y : Nat → Int} (h : ∀ i : Nat, (i : Int) < taille → Dans 50 (x i, y i))
    (a : Apercu) : dessiner taille x y a = some (tracer a x y taille.toNat) := by
  have hrun := Loop.run_states (n := taille.toNat)
    (f := fun i (a : Apercu) => do
      let plateau ← a.plateau.set (y i) (x i) .boat
      some { a with plateau := plateau, dessin := a.dessin ++ [(x i, y i)] })
    (tracer a x y) (by
      intro i hi
      obtain ⟨r, c, hp⟩ := (h i (by omega)).fin (le_refl _)
      simp only [Prod.mk.injEq] at hp
      rw [← tracer_succ a hp.1 hp.2]
      simp only [hp.1, hp.2, Cells.set_fin, Option.bind_eq_bind, Option.bind_some])
  rw [tracer_zero] at hrun
  exact hrun

structure Apercu.Montre (a : Apercu) (n taille x y : Int) (v : Int × Int) : Prop where
  direction : pas a.direction = some v
  dans : ∀ k : Nat, (k : Int) < taille → Dans n (kieme x y v k)
  dessin : a.dessin = (List.range taille.toNat).map (kieme x y v)
  plateau : ∀ r c : Fin 50, Dans n (coord r c) → a.plateau r c = if coord r c ∈ a.dessin then .boat else .empty

theorem dessiner_montre {n taille x y : Int} (hn : n ≤ 50) {plateau : Cells}
    (hvide : ∀ r c : Fin 50, Dans n (coord r c) → plateau r c = .empty) {direction : Char} {v : Int × Int}
    (hv : pas direction = some v) {fx fy : Nat → Int} (hf : ∀ k, (fx k, fy k) = kieme x y v k)
    (hd : ∀ k : Nat, (k : Int) < taille → Dans n (kieme x y v k)) :
    ∃ a, dessiner taille fx fy ⟨direction, plateau, []⟩ = some a ∧ a.Montre n taille x y v := by
  refine ⟨_, dessiner_spec (fun i hi => ?_) _, hv, hd, ?_, fun r c hrc => ?_⟩
  · obtain ⟨h0, h1, h2, h3⟩ := hd i hi
    rw [hf]
    exact ⟨h0, by omega, h2, by omega⟩
  · simp only [tracer, hf, List.nil_append]
  · have hmem : coord r c ∈ (tracer ⟨direction, plateau, []⟩ fx fy taille.toNat).dessin ↔
        ∃ i < taille.toNat, fx i = (c.val : Int) ∧ fy i = (r.val : Int) := by
      simp only [tracer, List.nil_append, List.mem_map, List.mem_range, Prod.mk.injEq]
    by_cases hm : ∃ i < taille.toNat, fx i = (c.val : Int) ∧ fy i = (r.val : Int)
    · rw [if_pos (hmem.mpr hm)]
      exact if_pos hm
    · rw [if_neg fun h => hm (hmem.mp h)]
      exact (if_neg hm).trans (hvide r c hrc)

structure GameT.Regle (g : GameT) : Prop where
  plateau : g.taillePlateau ≤ 50
  bateau : 1 ≤ g.tailleBateau
  bateau_le : g.tailleBateau ≤ 10
  place : 2 * g.tailleBateau ≤ g.taillePlateau

-- each arm draws along its own direction when the boat fits from the cursor, else along the opposite one
theorem choisir_sens {β : Type} {n taille x y : Int} (hp : 2 * taille ≤ n) (hd : Dans n (x, y))
    {direction : Char} (hv : (pas direction).isSome = true) (dessine : Char → (Nat → Int) → (Nat → Int) → β)
    (autre : β) : ∃ d v fx fy, pas d = some v ∧ (∀ k : Nat, (fx k, fy k) = kieme x y v k) ∧
      (∀ k : Nat, (k : Int) < taille → Dans n (kieme x y v k)) ∧
      (if direction = 'h' then
        if y ≥ taille - 1 then dessine 'h' (fun _ => x) (fun i => y - i)
        else dessine 'b' (fun _ => x) (fun i => y + i)
      else if direction = 'b' then
        if y ≤ n - taille then dessine 'b' (fun _ => x) (fun i => y + i)
        else dessine 'h' (fun _ => x) (fun i => y - i)
      else if direction = 'g' then
        if x ≥ taille - 1 then dessine 'g' (fun i => x - i) (fun _ => y)
        else dessine 'd' (fun i => x + i) (fun _ => y)
      else if direction = 'd' then
        if x ≤ n - taille then dessine 'd' (fun i => x + i) (fun _ => y)
        else dessine 'g' (fun i => x - i) (fun _ => y)
      else autre) = dessine d fx fy := by
  simp only [Dans] at hd
  obtain ⟨w, hw⟩ := Option.isSome_iff_exists.mp hv
  have up (hy : y ≥ taille - 1) : ∀ k : Nat, (k : Int) < taille → Dans n (kieme x y (0, -1) k) :=
    fun k hk => by simp only [Dans, kieme]; omega
  have down (hy : y ≤ n - taille) : ∀ k : Nat, (k : Int) < taille → Dans n (kieme x y (0, 1) k) :=
    fun k hk => by simp only [Dans, kieme]; omega
  have left (hx : x ≥ taille - 1) : ∀ k : Nat, (k : Int) < taille → Dans n (kieme x y (-1, 0) k) :=
    fun k hk => by simp only [Dans, kieme]; omega
  have right (hx : x ≤ n - taille) : ∀ k : Nat, (k : Int) < taille → Dans n (kieme x y (1, 0) k) :=
    fun k hk => by simp only [Dans, kieme]; omega
  have fup (k : Nat) : (x, y - (k : Int)) = kieme x y (0, -1) k := by simp [kieme, Int.sub_eq_add_neg]
  have fdown (k : Nat) : (x, y + (k : Int)) = kieme x y (0, 1) k := by simp [kieme]
  have fleft (k : Nat) : (x - (k : Int), y) = kieme x y (-1, 0) k := by simp [kieme, Int.sub_eq_add_neg]
  have fright (k : Nat) : (x + (k : Int), y) = kieme x y (1, 0) k := by simp [kieme]
  rcases pas_cases hw with ⟨rfl, -⟩ | ⟨rfl, -⟩ | ⟨rfl, -⟩ | ⟨rfl, -⟩
  · rw [if_pos rfl]
    split
    · rename_i hy
      exact ⟨'h', _, _, _, rfl, fup, up hy, rfl⟩
    · exact ⟨'b', _, _, _, rfl, fdown, down (by omega), rfl⟩
  · rw [if_neg (by decide), if_pos rfl]
    split
    · rename_i hy
      exact ⟨'b', _, _, _, rfl, fdown, down hy, rfl⟩
    · exact ⟨'h', _, _, _, rfl, fup, up (by omega), rfl⟩
  · rw [if_neg (by decide), if_neg (by decide), if_pos rfl]
    split
    · rename_i hx
      exact ⟨'g', _, _, _, rfl, fleft, left hx, rfl⟩
    · exact ⟨'d', _, _, _, rfl, fright, right (by omega), rfl⟩
  · rw [if_neg (by decide), if_neg (by decide), if_neg (by decide), if_pos rfl]
    split
    · rename_i hx
      exact ⟨'d', _, _, _, rfl, fright, right hx, rfl⟩
    · exact ⟨'g', _, _, _, rfl, fleft, left (by omega), rfl⟩

theorem afficherPlateauPlacerBateau_spec {g : GameT} (hg : g.Regle) (plateau : Cells) {x y : Int}
    (hd : Dans g.taillePlateau (x, y)) {direction : Char} (hv : (pas direction).isSome = true) :
    ∃ a v, afficherPlateauPlacerBateau g plateau x y direction = some a ∧
      a.Montre g.taillePlateau g.tailleBateau x y v := by
  have h1 := hg.plateau
  obtain ⟨p, hp, hvide⟩ := vider_spec (n := g.taillePlateau.toNat) (by omega) plateau
  have hvide' (r c : Fin 50) (hrc : Dans g.taillePlateau (coord r c)) : p r c = .empty := by
    simp only [Dans] at hrc
    exact hvide r c (by omega) (by omega)
  obtain ⟨d, v, fx, fy, hd, hf, hin, he⟩ := choisir_sens hg.place hd hv
    (fun d fx fy => dessiner g.tailleBateau fx fy ⟨d, p, []⟩) (some ⟨direction, p, []⟩)
  obtain ⟨a, ha, hm⟩ := dessiner_montre h1 hvide' hd hf hin
  refine ⟨a, v, ?_, hm⟩
  simp only [afficherPlateauPlacerBateau, hp, Option.bind_eq_bind, Option.bind_some]
  exact he.trans ha

theorem dessiner_direction {taille : Int} {x y : Nat → Int} {a a' : Apercu} (h : dessiner taille x y a = some a') :
    a'.direction = a.direction := by
  refine Loop.run_invariant (fun _ b => b.direction = a.direction) rfl ?_ h
  intro m b b' hm hb hstep
  obtain ⟨c, -, hc⟩ := Option.bind_eq_some_iff.mp hstep
  rw [← Option.some.inj hc]
  exact hb

theorem afficherPlateauPlacerBateau_direction {g : GameT} (hg : 1 ≤ g.tailleBateau) {plateau : Cells} {x y : Int}
    {direction : Char} {a : Apercu} {v : Int × Int} (h : afficherPlateauPlacerBateau g plateau x y direction = some a)
    (hv : pas direction = some v) (hd : ∀ k : Nat, (k : Int) < g.tailleBateau → Dans g.taillePlateau (kieme x y v k)) :
    a.direction = direction := by
  obtain ⟨p, -, h⟩ := Option.bind_eq_some_iff.mp h
  have hk : (((g.tailleBateau - 1).toNat : Nat) : Int) = g.tailleBateau - 1 := by omega
  have hfin := hd (g.tailleBateau - 1).toNat (by omega)
  simp only [Dans, kieme, hk] at hfin
  rcases pas_cases hv with ⟨rfl, rfl⟩ | ⟨rfl, rfl⟩ | ⟨rfl, rfl⟩ | ⟨rfl, rfl⟩
  · rw [if_pos rfl, if_pos (by omega)] at h
    exact dessiner_direction h
  · rw [if_neg (by decide), if_pos rfl, if_pos (by omega)] at h
    exact dessiner_direction h
  · rw [if_neg (by decide), if_neg (by decide), if_pos rfl, if_pos (by omega)] at h
    exact dessiner_direction h
  · rw [if_neg (by decide), if_neg (by decide), if_neg (by decide), if_pos rfl, if_pos (by omega)] at h
    exact dessiner_direction h

theorem orienter_pas {direction : Char} (h : (pas direction).isSome = true) (t : Touche) :
    (pas (orienter t direction)).isSome = true := by
  cases t with
  | haut => rfl
  | bas => rfl
  | gauche => rfl
  | droite => rfl
  | entree => exact h
  | q => exact h
  | autre => exact h

def BateauT.suit (bateau : BateauT) (taille x y : Int) (v : Int × Int) : Prop :=
  ∀ j : Fin 10, (j.val : Int) < taille → (bateau.cell j).x = (kieme x y v j).1 ∧ (bateau.cell j).y = (kieme x y v j).2

theorem enregistrerCases_spec {g : GameT} (ht : g.tailleBateau ≤ 10) {x y : Int} {v : Int × Int}
    {fx fy : Nat → Int} (hf : ∀ k, (fx k, fy k) = kieme x y v k) :
    ∃ bateau, enregistrerCases g fx fy = some { g with bateau := bateau } ∧
      BateauT.suit bateau g.tailleBateau x y v := by
  obtain ⟨cell, hcell, hI⟩ := Loop.run_total (n := g.tailleBateau.toNat)
    (f := fun i (cell : Arr 10 CellBateauT) => do
      let c ← get cell i
      set cell i { c with x := fx i, y := fy i })
    (fun k cell => ∀ j : Fin 10, j.val < k → (cell j).x = fx j ∧ (cell j).y = fy j) (s := g.bateau.cell)
    (fun _ hj => absurd hj (Nat.not_lt_zero _)) (by
      intro i cell hi hI
      obtain ⟨k, hk⟩ := exists_fin (n := 10) (i := (i : Int)) (by omega) (by omega)
      have hki : i = k.val := by omega
      subst hki
      simp only [get_fin, set_fin, Option.bind_eq_bind, Option.bind_some, Option.some.injEq, exists_eq_left']
      intro j hj
      by_cases hjk : j = k
      · rw [hjk, Function.update_self]
        exact ⟨rfl, rfl⟩
      · rw [Function.update_of_ne hjk]
        exact hI j (Nat.lt_of_le_of_ne (Nat.le_of_lt_succ hj) fun he => hjk (Fin.ext he)))
  simp only [Option.bind_eq_bind] at hcell
  refine ⟨⟨cell⟩, by simp only [enregistrerCases, Option.bind_eq_bind, hcell, Option.bind_some], fun j hj => ?_⟩
  rw [← hf]
  exact hI j (by omega)

theorem enregistrer_spec {g : GameT} (ht : g.tailleBateau ≤ 10) (x y : Int) {direction : Char}
    {v : Int × Int} (hv : pas direction = some v) :
    ∃ bateau, enregistrer g x y direction = some { g with bateau := bateau } ∧
      BateauT.suit bateau g.tailleBateau x y v := by
  rcases pas_cases hv with ⟨rfl, rfl⟩ | ⟨rfl, rfl⟩ | ⟨rfl, rfl⟩ | ⟨rfl, rfl⟩
  · exact enregistrerCases_spec ht fun k => by simp [kieme, Int.sub_eq_add_neg]
  · exact enregistrerCases_spec ht fun k => by simp [kieme]
  · exact enregistrerCases_spec ht fun k => by simp [kieme, Int.sub_eq_add_neg]
  · exact enregistrerCases_spec ht fun k => by simp [kieme]

end Bnbr.Client
