import Bnbr.Inscription
import Bnbr.Joueur
import Bnbr.Hote

namespace Bnbr

open CString Decimal Serveur Client

def Serveur.txtNok : List Char := ['n', 'o', 'k']

def Serveur.requeteRefus : Requete :=
  ⟨-1, txtNok, ['E', 'r', 'r', 'e', 'u', 'r', ' ', 'd', 'e', ' ', 'c', 'o', 'n', 'n', 'e', 'x', 'i', 'o', 'n', '\n']⟩

-- the calls of format_req in both programs
inductive Emission
  | accuseOk
  | refus
  | infos (g : Serveur.GameT)
  | bateaux
  | plateau (g : Serveur.GameT) (texte : List Char)
  | go
  | gagne
  | perdu
  | poursuite
  | arret
  | identification (pseudo : List Char)
  | accuse
  | accuseMort
  | mort
  | coup (x y : Int)
  | bateau (x y : Int) (direction : Char)

def Emission.requete : Emission → Requete
  | .accuseOk => Serveur.accuseOk
  | .refus => requeteRefus
  | .infos g => requeteInfos g
  | .bateaux => demandeBateaux
  | .plateau _ s => requetePlateau s
  | .go => requeteGo
  | .gagne => requeteGagne
  | .perdu => requetePerdu
  | .poursuite => requeteContinue
  | .arret => requeteStop
  | .identification pseudo => requeteIdentification pseudo
  | .accuse => Client.accuse
  | .accuseMort => Client.accuseMort
  | .mort => requeteMort
  | .coup x y => requeteTir x y
  | .bateau x y direction => requeteBateau x y direction

def Emission.Possible : Emission → Prop
  | .infos g => g.Entiers
  | .plateau g s => 4 ≤ g.taillePlateau ∧ g.taillePlateau ≤ 50 ∧ textePlateau g = some s
  | .identification pseudo => Saisi pseudo
  | .coup x y => InInt x ∧ InInt y
  | .bateau x y direction => InInt x ∧ InInt y ∧ direction ∈ ['h', 'b', 'g', 'd']
  | _ => True

def Emission.Petite : Emission → Prop
  | .plateau g _ => g.taillePlateau ≤ 31
  | _ => True

structure BienFormee (avant : ReqT) (q : Requete) : Prop where
  nom : ∃ nom, (formatReq avant q).nom.str = some nom
  infos : (formatReq avant q).infos.str = some q.infos
  texte : ∃ s, serialReq (formatReq avant q) = some s ∧ s.length + 1 ≤ maxBuffer

theorem Requete.Valide.bienFormee {q : Requete} (h : q.Valide) (avant : ReqT) : BienFormee avant q where
  nom := ⟨_, formatReq_nom h avant⟩
  infos := formatReq_infos h avant
  texte := ⟨_, serialReq_formatReq h avant, h.texte_len⟩

theorem Emission.valide {e : Emission} (h : e.Possible) (hp : e.Petite) : e.requete.Valide := by
  cases e with
  | accuseOk => exact accuseOk_valide
  | infos g => exact requeteInfos_valide h
  | bateaux => exact demandeBateaux_valide
  | plateau g s => exact requetePlateau_valide h.2.2 hp
  | go => exact requeteGo_valide
  | identification pseudo => exact Saisi.valide h
  | accuse => exact accuse_valide
  | mort => exact requeteMort_valide
  | coup x y => exact requeteTir_valide h.1 h.2
  | bateau x y direction =>
    refine requeteBateau_valide h.1 h.2.1 fun hd => ?_
    have hm := h.2.2
    rw [hd] at hm
    exact absurd hm (by decide)
  | refus | gagne | perdu | poursuite | arret | accuseMort => constructor <;> decide

-- strncpy fills the array from 999 characters on, and its last byte stays as it was
theorem infos_sansFin {q : Requete} (hnul : nul ∉ q.infos) (hl : 999 ≤ q.infos.length) (id : Int) (nom : Buf 100) :
    (formatReq ⟨id, nom, Buf.fill 1000 'x'⟩ q).infos.str = none := by
  apply text_eq_none.mpr
  rw [formatReq, Buf.strncpy_val_of_le _ _ hl]
  intro hm
  rcases List.mem_append.mp hm with hm | hm
  · exact hnul (List.mem_of_mem_take hm)
  · exact absurd (List.eq_of_mem_replicate (List.mem_of_mem_drop hm)) (by decide)

theorem Emission.petite {e : Emission} (h : e.Possible) (hb : ∀ avant, BienFormee avant e.requete) : e.Petite := by
  cases e with
  | plateau g s =>
    obtain ⟨h4, h50, hs⟩ := h
    by_contra hp
    have hp' : 32 ≤ g.taillePlateau.toNat := by
      simp only [Emission.Petite] at hp
      omega
    have hl : 999 ≤ s.length := by
      rw [textePlateau_length h50 hs]
      calc 999 ≤ 32 * 32 := by decide
        _ ≤ g.taillePlateau.toNat * g.taillePlateau.toNat := Nat.mul_le_mul hp' hp'
    have := (hb ⟨0, Buf.fill 100 'x', Buf.fill 1000 'x'⟩).infos
    rw [infos_sansFin (textePlateau_nul h50 hs) hl] at this
    cases this
  | _ => trivial

theorem requetes_formees_iff (e : Emission) (h : e.Possible) :
    (∀ avant, BienFormee avant e.requete) ↔ e.Petite :=
  ⟨Emission.petite h, fun hp avant => (Emission.valide h hp).bienFormee avant⟩

theorem requetes_formees_onze :
    ∃ s, textePlateau (.depart 2 11 5) = some s ∧
      ∀ avant, BienFormee avant (Emission.plateau (.depart 2 11 5) s).requete := by
  have hs := textePlateau_spec (g := .depart 2 11 5) (by decide)
  have hp : (Emission.plateau (.depart 2 11 5) _).Possible := ⟨by decide, by decide, hs⟩
  exact ⟨_, hs, (requetes_formees_iff _ hp).mpr (show (11 : Int) ≤ 31 by decide)⟩

theorem requetes_tronquees : ¬ ∀ e : Emission, e.Possible → ∀ avant, BienFormee avant e.requete := by
  intro h
  have hs := textePlateau_spec (g := .depart 2 32 5) (by decide)
  have hp : (Emission.plateau (.depart 2 32 5) _).Possible := ⟨by decide, by decide, hs⟩
  exact absurd (Emission.petite hp (h _ hp)) (show ¬ (32 : Int) ≤ 31 by decide)

end Bnbr
