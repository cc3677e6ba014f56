import Bnbr.Plateau

namespace Bnbr.Serveur

open CArray

def chiffre : Status → Char
  | .missedShot => '1'
  | .hitShot => '2'
  | .empty => '0'
  | .boat => '0'

def textePlateau (g : GameT) : Option (List Char) :=
  Loop.run g.taillePlateau.toNat (fun i s =>
    Loop.run g.taillePlateau.toNat (fun j s => do
      let c ← g.plateau.cell.get j i
      some (s ++ [chiffre c])) s) []

def txtPlateau : List Char := ['p', 'l', 'a', 't', 'e', 'a', 'u']

def requetePlateau (s : List Char) : Requete := ⟨2, txtPlateau, s⟩

theorem square_index {n m : Nat} (h : m < n * n) : m % n < n ∧ m / n < n :=
  ⟨Nat.mod_lt m (Nat.pos_of_ne_zero fun h0 => by subst h0; omega), Nat.div_lt_of_lt_mul h⟩

theorem textePlateau_spec {g : GameT} (hn : g.taillePlateau ≤ 50) :
    textePlateau g = some ((List.range (g.taillePlateau.toNat * g.taillePlateau.toNat)).map fun k =>
      chiffre (Cells.lire g.plateau.cell (k % g.taillePlateau.toNat) (k / g.taillePlateau.toNat))) := by
  rw [textePlateau, Loop.run_nested]
  exact Loop.run_states (fun m => (List.range m).map fun k =>
    chiffre (Cells.lire g.plateau.cell (k % g.taillePlateau.toNat) (k / g.taillePlateau.toNat))) (by
    intro m hm
    obtain ⟨hj, hi⟩ := square_index hm
    rw [Cells.get_lire _ (by omega) (by omega)]
    simp only [Option.bind_eq_bind, Option.bind_some, List.range_succ, List.map_append, List.map_singleton])

theorem chiffre_cases (s : Status) : chiffre s = '0' ∨ chiffre s = '1' ∨ chiffre s = '2' := by
  cases s <;> simp [chiffre]

theorem textePlateau_mem {g : GameT} (hn : g.taillePlateau ≤ 50) {s : List Char} (hs : textePlateau g = some s)
    {c : Char} (hc : c ∈ s) : c = '0' ∨ c = '1' ∨ c = '2' := by
  rw [textePlateau_spec hn, Option.some.injEq] at hs
  subst hs
  obtain ⟨k, -, rfl⟩ := List.mem_map.mp hc
  exact chiffre_cases _

theorem textePlateau_length {g : GameT} (hn : g.taillePlateau ≤ 50) {s : List Char} (hs : textePlateau g = some s) :
    s.length = g.taillePlateau.toNat * g.taillePlateau.toNat := by
  rw [textePlateau_spec hn, Option.some.injEq] at hs
  rw [← hs, List.length_map, List.length_range]

theorem textePlateau_index {g : GameT} (hn : g.taillePlateau ≤ 50) {s : List Char} (hs : textePlateau g = some s)
    {m : Nat} (hm : m < g.taillePlateau.toNat * g.taillePlateau.toNat) :
    s[m]? = some (chiffre (Cells.lire g.plateau.cell (m % g.taillePlateau.toNat) (m / g.taillePlateau.toNat))) := by
  rw [textePlateau_spec hn, Option.some.injEq] at hs
  rw [← hs, List.getElem?_map, List.getElem?_range hm, Option.map_some]

theorem textePlateau_nul {g : GameT} (hn : g.taillePlateau ≤ 50) {s : List Char} (hs : textePlateau g = some s) :
    CString.nul ∉ s := by
  intro h
  rcases textePlateau_mem hn hs h with h | h | h <;> exact absurd h (by decide)

theorem requetePlateau_valide {g : GameT} {s : List Char} (hs : textePlateau g = some s)
    (hp : g.taillePlateau ≤ 31) : (requetePlateau s).Valide := by
  have hnul := textePlateau_nul (by omega) hs
  have hlen : s.length ≤ 961 := by
    rw [textePlateau_length (by omega) hs]
    calc g.taillePlateau.toNat * g.taillePlateau.toNat ≤ 31 * 31 := Nat.mul_le_mul (by omega) (by omega)
      _ = 961 := by decide
  refine ⟨by simp only [requetePlateau]; decide, by simp only [requetePlateau]; decide,
    by simp only [requetePlateau]; decide, by simp only [requetePlateau]; decide,
    by simp only [requetePlateau]; decide, hnul, by simp only [requetePlateau]; omega, ?_⟩
  have h2 : (Decimal.print 2).length = 1 := by decide
  simp only [Requete.texte, requetePlateau, txtPlateau, List.length_append, List.length_cons, List.length_nil, h2,
    maxBuffer]
  omega

end Bnbr.Serveur
