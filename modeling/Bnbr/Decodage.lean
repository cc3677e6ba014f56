import Bnbr.Clib.Loops
import Bnbr.Requete

namespace Bnbr.Client

open CArray CString

def dechiffrer (c : Char) : Status :=
  if c.toNat = 48 then .empty
  else if c.toNat = 49 then .missedShot
  else if c.toNat = 50 then .hitShot
  else if c.toNat = 51 then .boat
  else .empty

def decoder (n : Nat) (infos : List Char) (plateau : Cells) : Option Cells :=
  Loop.run n (fun i => Loop.run n (fun j plateau => do
    let c ← infos[i * n + j]?
    plateau.set j i (dechiffrer c))) plateau

def superposer (bateau : BateauT) (tailleBateau : Int) (plateau : Cells) : Option Cells :=
  Loop.run tailleBateau.toNat (fun i plateau => do
    let c ← get bateau.cell i
    let s ← plateau.get c.y c.x
    if s = .empty then plateau.set c.y c.x .boat else some plateau) plateau

def decodePlateau (g : GameT) (plateau : Cells) (infos : Buf 1000) : Option GameT := do
  let plateau ← decoder g.taillePlateau.toNat infos.val plateau
  let plateau ← superposer g.bateau g.tailleBateau plateau
  some { g with plateau := plateau }

-- decode_plateau on the memory its argument points to
def decodePlateauTexte (g : GameT) (plateau : Cells) (infos : List Char) : Option GameT := do
  let plateau ← decoder g.taillePlateau.toNat infos plateau
  let plateau ← superposer g.bateau g.tailleBateau plateau
  some { g with plateau := plateau }

theorem decodePlateau_texte (g : GameT) (plateau : Cells) (infos : Buf 1000) :
    decodePlateau g plateau infos = decodePlateauTexte g plateau infos.val := rfl

def accuse : Requete :=
  ⟨0, ['o', 'k'], ['r', 'e', 'c', 'e', 'p', ' ', 'O', 'K', '\n']⟩

structure PilePlateau where
  reception : ReqT
  requete : ReqT
  buff : Buf maxBuffer
  plateau : Cells

def recevoirPlateau (g : GameT) (pile : PilePlateau) (l : Lecture) : Option (GameT × Option (List Char)) := do
  let reception ← recevoir unserialReq l pile.buff pile.reception
  if reception.id = 2 then do
    let ack ← envoyer (formatReq pile.requete accuse)
    let g' ← decodePlateau g pile.plateau reception.infos
    some (g', some ack)
  else some (g, none)

theorem accuse_valide : accuse.Valide := by
  constructor <;> decide

def Decode (n : Nat) (infos : List Char) (k : Nat) (plateau : Cells) : Prop :=
  ∀ m, m < k → ∃ c, infos[m]? = some c ∧ Cells.lire plateau (m % n) (m / n) = dechiffrer c

theorem Cells.lire_update (p : Cells) (y x : Fin 50) (s : Status) (r c : Nat) :
    Cells.lire (p.update y x s) r c = if r = y.val ∧ c = x.val then s else Cells.lire p r c := by
  by_cases h : r < 50 ∧ c < 50
  · simp only [Cells.lire, h, and_self, dif_pos, Cells.update, Fin.ext_iff]
  · have hne : ¬ (r = y.val ∧ c = x.val) := by
      rintro ⟨rfl, rfl⟩
      exact h ⟨y.isLt, x.isLt⟩
    simp only [Cells.lire, h, dif_neg, not_false_iff, hne, if_false]

theorem Decode.succ {n m : Nat} {infos : List Char} {plateau : Cells} {c : Char} (hn : n ≤ 50) (hm : m < n * n)
    (h : Decode n infos m plateau) (hc : infos[m]? = some c) :
    ∃ plateau', plateau.set ((m % n : Nat) : Int) ((m / n : Nat) : Int) (dechiffrer c) = some plateau' ∧
      Decode n infos (m + 1) plateau' := by
  have hpos : 0 < n := Nat.pos_of_ne_zero fun h0 => by subst h0; omega
  have hj : m % n < 50 := (Nat.mod_lt m hpos).trans_le hn
  have hi : m / n < 50 := (Nat.div_lt_of_lt_mul hm).trans_le hn
  refine ⟨_, Cells.set_fin plateau ⟨m % n, hj⟩ ⟨m / n, hi⟩ _, fun k hk => ?_⟩
  rw [Cells.lire_update]
  by_cases hkm : k % n = m % n ∧ k / n = m / n
  · have hkm' : k = m := by rw [← Nat.div_add_mod k n, ← Nat.div_add_mod m n, hkm.1, hkm.2]
    subst hkm'
    exact ⟨c, hc, if_pos ⟨rfl, rfl⟩⟩
  · have hlt : k < m := by
      rcases Nat.lt_succ_iff_lt_or_eq.mp hk with hlt | rfl
      · exact hlt
      · exact absurd ⟨rfl, rfl⟩ hkm
    obtain ⟨d, hd, hl⟩ := h k hlt
    exact ⟨d, hd, by rw [if_neg hkm, hl]⟩

theorem decoder_nested (n : Nat) (infos : List Char) (plateau : Cells) :
    decoder n infos plateau = Loop.run (n * n) (fun m plateau => do
      let c ← infos[m]?
      plateau.set ((m % n : Nat) : Int) ((m / n : Nat) : Int) (dechiffrer c)) plateau := by
  rw [decoder, Loop.run_nested]
  simp only [Nat.div_add_mod']

theorem decoder_spec {n : Nat} {infos : List Char} (hn : n ≤ 50) (hl : n * n ≤ infos.length) (plateau : Cells) :
    ∃ plateau', decoder n infos plateau = some plateau' ∧ Decode n infos (n * n) plateau' := by
  rw [decoder_nested]
  refine Loop.run_total (Decode n infos) (fun m hm => absurd hm (Nat.not_lt_zero m)) fun m p hm hI => ?_
  have hc : infos[m]? = some infos[m] := List.getElem?_eq_getElem (by omega)
  obtain ⟨q, hq, hI'⟩ := hI.succ hn hm hc
  exact ⟨q, by rw [hc]; exact hq, hI'⟩

def BateauT.Occupe (bateau : BateauT) (taille : Int) (y x : Fin 50) : Prop :=
  ∃ i : Fin 10, (i.val : Int) < taille ∧ (bateau.cell i).x = (x.val : Int) ∧ (bateau.cell i).y = (y.val : Int)

instance (bateau : BateauT) (taille : Int) (y x : Fin 50) : Decidable (bateau.Occupe taille y x) :=
  inferInstanceAs (Decidable (∃ _ : Fin 10, _))

def superpose (bateau : BateauT) (taille : Int) (plateau : Cells) : Cells := fun y x =>
  if plateau y x = .empty ∧ bateau.Occupe taille y x then .boat else plateau y x

theorem BateauT.Occupe.succ {bateau : BateauT} {j : Fin 10} {y x : Fin 50} (hx : (bateau.cell j).x = (x.val : Int))
    (hy : (bateau.cell j).y = (y.val : Int)) (r c : Fin 50) :
    bateau.Occupe ((j.val + 1 : Nat) : Int) r c ↔ bateau.Occupe j.val r c ∨ (r = y ∧ c = x) := by
  constructor
  · rintro ⟨m, hm, h1, h2⟩
    rcases (show (m.val : Int) < j.val ∨ m.val = j.val by omega) with hlt | he
    · exact .inl ⟨m, hlt, h1, h2⟩
    · rw [Fin.ext he] at h1 h2
      exact .inr ⟨Fin.ext (by omega), Fin.ext (by omega)⟩
  · rintro (⟨m, hm, h⟩ | ⟨rfl, rfl⟩)
    · exact ⟨m, by omega, h⟩
    · exact ⟨j, by omega, hx, hy⟩

theorem BateauT.occupe_toNat {bateau : BateauT} {taille : Int} {y x : Fin 50} :
    bateau.Occupe (taille.toNat : Int) y x ↔ bateau.Occupe taille y x := by
  constructor
  · rintro ⟨m, hm, h⟩
    exact ⟨m, by omega, h⟩
  · rintro ⟨m, hm, h⟩
    exact ⟨m, by omega, h⟩

theorem superpose_zero (bateau : BateauT) (plateau : Cells) : superpose bateau ((0 : Nat) : Int) plateau = plateau := by
  funext y x
  refine if_neg ?_
  rintro ⟨-, m, hm, -⟩
  omega

theorem superpose_succ {bateau : BateauT} {j : Fin 10} {y x : Fin 50} (hx : (bateau.cell j).x = (x.val : Int))
    (hy : (bateau.cell j).y = (y.val : Int)) (plateau : Cells) :
    superpose bateau ((j.val + 1 : Nat) : Int) plateau =
      if superpose bateau j.val plateau y x = .empty then (superpose bateau j.val plateau).update y x .boat
      else superpose bateau j.val plateau := by
  funext r c
  by_cases hrc : r = y ∧ c = x
  · obtain ⟨rfl, rfl⟩ := hrc
    have hsucc : bateau.Occupe ((j.val : Int) + 1) r c := (BateauT.Occupe.succ hx hy r c).mpr (.inr ⟨rfl, rfl⟩)
    by_cases he : plateau r c = .empty
    · by_cases ho : bateau.Occupe j.val r c
      · simp [superpose, he, ho, hsucc]
      · simp [superpose, he, ho, hsucc, Cells.update]
    · simp [superpose, he]
  · split <;> simp only [superpose, BateauT.Occupe.succ hx hy, hrc, or_false, Cells.update, if_false]

theorem superposer_spec {bateau : BateauT} {taille : Int} (ht : taille ≤ 10)
    (hd : ∀ i : Fin 10, (i.val : Int) < taille → ∃ y x : Fin 50,
      (bateau.cell i).x = (x.val : Int) ∧ (bateau.cell i).y = (y.val : Int)) (plateau : Cells) :
    superposer bateau taille plateau = some (superpose bateau taille plateau) := by
  have hrun := Loop.run_states (n := taille.toNat)
    (f := fun i (plateau : Cells) => do
      let c ← get bateau.cell i
      let s ← plateau.get c.y c.x
      if s = .empty then plateau.set c.y c.x .boat else some plateau)
    (fun k => superpose bateau k plateau) (by
      intro i hi
      obtain ⟨j, hj⟩ := exists_fin (n := 10) (i := (i : Int)) (by omega) (by omega)
      obtain ⟨y, x, hx, hy⟩ := hd j (by omega)
      have hij : i = j.val := by omega
      subst hij
      simp only [get_fin, hx, hy, Cells.get_fin, Cells.set_fin, Option.bind_eq_bind, Option.bind_some,
        superpose_succ hx hy]
      split <;> rfl)
  have hn : superpose bateau (taille.toNat : Int) plateau = superpose bateau taille plateau := by
    funext y x
    simp only [superpose, BateauT.occupe_toNat]
  rw [superpose_zero, hn] at hrun
  exact hrun

end Bnbr.Client
