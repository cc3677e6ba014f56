import Bnbr.Clib.Sessions
import Bnbr.Hote
import Bnbr.Joueur

namespace Bnbr

open Sessions Serveur

inductive Moment
  | inscription
  | infos
  | accuseInfos
  | demande
  | bateau
  | accuseBateau
  | plateau (m : Nat)
  | accusePlateau (m : Nat)
  | go (m : Nat)
  | accuseGo (m : Nat)
  | tir (m : Nat)
  | accuseTir (m : Nat)
  | etat (m : Nat)
  | accuseEtat (m : Nat)
deriving DecidableEq

def Moment.suivant : Moment → Moment
  | .inscription => .infos
  | .infos => .accuseInfos
  | .accuseInfos => .demande
  | .demande => .bateau
  | .bateau => .accuseBateau
  | .accuseBateau => .plateau 0
  | .plateau m => .accusePlateau m
  | .accusePlateau m => .go m
  | .go m => .accuseGo m
  | .accuseGo m => .tir m
  | .tir m => .accuseTir m
  | .accuseTir m => .etat m
  | .etat m => .accuseEtat m
  | .accuseEtat m => .plateau (m + 1)

def Moment.sens : Moment → Sens
  | .accuseInfos => .retour
  | .bateau => .retour
  | .accusePlateau _ => .retour
  | .accuseGo _ => .retour
  | .tir _ => .retour
  | .accuseEtat _ => .retour
  | _ => .aller

def Client.Poste.moment (c : Client.Poste) : Moment :=
  match c.point with
  | .inscription => .inscription
  | .attentePartie => .infos
  | .accuseInfos _ => .accuseInfos
  | .attenteBateaux => .demande
  | .choix => .bateau
  | .menu => .bateau
  | .attenteAccuse => .accuseBateau
  | .plateau => .plateau c.manche
  | .accusePlateau _ => .accusePlateau c.manche
  | .go => .go c.manche
  | .accuseGo => .accuseGo c.manche
  | .viser _ _ => .tir c.manche
  | .mort => .tir c.manche
  | .attenteTir => .accuseTir c.manche
  | .etat => .etat c.manche
  | .accuseEtat _ => .accuseEtat c.manche
  | .fini => .plateau c.manche
  | .erreur => .inscription

def Serveur.Boucle.avant (m : Nat) : Boucle → Moment
  | .infos => .infos
  | .plateau _ => .plateau m
  | .go => .go m
  | .etat _ => .etat m

def Serveur.Boucle.pendant (m : Nat) : Boucle → Moment
  | .infos => .accuseInfos
  | .plateau _ => .accusePlateau m
  | .go => .accuseGo m
  | .etat _ => .accuseEtat m

def Serveur.Boucle.apres (m : Nat) : Boucle → Moment
  | .infos => .demande
  | .plateau _ => .go m
  | .go => .tir m
  | .etat _ => .plateau (m + 1)

-- a loop has served the players before its index k
def passage (i k : Nat) (avant pendant apres : Moment) : Moment :=
  if i < k then apres else if i = k then pendant else avant

def Serveur.Poste.moment (p : Serveur.Poste) (i : Nat) : Moment :=
  match p.point with
  | .envoi b k => passage i k (b.avant p.manche) (b.avant p.manche) (b.apres p.manche)
  | .accuse b k => passage i k (b.avant p.manche) (b.pendant p.manche) (b.apres p.manche)
  | .demande k => passage i k .demande .demande .bateau
  | .collecte j _ _ => passage i j.toNat .bateau .bateau (.plateau 0)
  | .bateau j _ _ _ => passage i j.toNat .bateau .accuseBateau (.plateau 0)
  | .touche => .plateau p.manche
  | .boucle => .plateau p.manche
  | .tir k => passage i k (.tir p.manche) (.tir p.manche) (.etat p.manche)
  | .tirRecu k _ => passage i k (.tir p.manche) (.accuseTir p.manche) (.etat p.manche)
  | .fini => .plateau p.manche

def classe (g : Serveur.GameT) (i : Nat) : EtatPartie :=
  if nbAFlot g = 0 then .finLose
  else if nbAFlot g = 1 then (if AFlot g i then .finWin else .finLose)
  else (if AFlot g i then .enJeu else .dead)

variable {hist hist' : List Serveur.GameT} {i m : Nat} {e : EtatPartie}

def Statut (hist : List Serveur.GameT) (i m : Nat) (e : EtatPartie) : Prop :=
  (m = 0 ∧ e = .enJeu) ∨ ∃ k g, m = k + 1 ∧ hist[k]? = some g ∧ e = classe g i

def Ouvertes (hist : List Serveur.GameT) (m : Nat) : Prop :=
  ∀ k, k < m → ∃ g, hist[k]? = some g ∧ 2 ≤ nbAFlot g

def TirDe (n : Int) (hist : List Serveur.GameT) (i m : Nat) (q : Requete) : Prop :=
  (Statut hist i m .enJeu ∧ ∃ x y, Dans n (x, y) ∧ q = requeteTir x y) ∨
  (∃ e, Statut hist i m e ∧ e ≠ .enJeu ∧ q = requeteMort)

def Client.Poste.placement (c : Client.Poste) (id : Fin 100) : Placement := ⟨id, c.x, c.y, c.direction⟩

structure BateauChoisi (g₀ : Serveur.GameT) (c : Client.Poste) (q : Requete) : Prop where
  envoye : 6 ≤ c.point.rang
  requete : q = requeteBateau c.x c.y c.direction
  valide : ∀ id, (c.placement id).Valide g₀.taillePlateau g₀.tailleBateau

def Convient (g₀ : Serveur.GameT) (hist : List Serveur.GameT) (i : Nat) (c : Client.Poste) :
    Moment → Requete → Prop
  | .infos, q => q = requeteInfos g₀
  | .demande, q => q.id = 3
  | .bateau, q => BateauChoisi g₀ c q
  | .plateau m, q => q.id = 2 ∧ Ouvertes hist m
  | .go _, q => q.id = 5
  | .tir m, q => TirDe g₀.taillePlateau hist i m q
  | .etat m, q => ∃ g, hist[m]? = some g ∧ q = verdictDe g i
  | _, q => q.id = 0

def contrat (g₀ : Serveur.GameT) (hist : List Serveur.GameT) (i : Nat) (c : Client.Poste) :
    Contrat Moment Requete where
  suivant := Moment.suivant
  sens := Moment.sens
  convient := Convient g₀ hist i c

def Prolonge (hist hist' : List Serveur.GameT) : Prop :=
  ∀ (k : Nat) (g : Serveur.GameT), hist[k]? = some g → hist'[k]? = some g

theorem Prolonge.refl (hist : List Serveur.GameT) : Prolonge hist hist := fun _ _ h => h

theorem Prolonge.append (hist fin : List Serveur.GameT) : Prolonge hist (hist ++ fin) := by
  intro k g h
  rw [List.getElem?_append_left (List.getElem?_eq_some_iff.mp h).1, h]

theorem Statut.prolonge (h : Statut hist i m e) (hh : Prolonge hist hist') :
    Statut hist' i m e := by
  rcases h with h | ⟨k, g, hm, hk, he⟩
  · exact .inl h
  · exact .inr ⟨k, g, hm, hh k g hk, he⟩

theorem Statut.unique {e' : EtatPartie} (h : Statut hist i m e) (h' : Statut hist i m e') : e = e' := by
  rcases h with ⟨rfl, rfl⟩ | ⟨k, g, rfl, hk, rfl⟩
  · rcases h' with ⟨-, rfl⟩ | ⟨k, g, hm, -⟩
    · rfl
    · omega
  · rcases h' with ⟨hm, -⟩ | ⟨k', g', hm, hk', rfl⟩
    · omega
    · obtain rfl : k = k' := by omega
      rw [Option.some.inj (hk.symm.trans hk')]

theorem Ouvertes.prolonge (h : Ouvertes hist m) (hh : Prolonge hist hist') : Ouvertes hist' m := by
  intro k hk
  obtain ⟨g, hg, h2⟩ := h k hk
  exact ⟨g, hh k g hg, h2⟩

theorem TirDe.prolonge {n : Int} {q : Requete} (h : TirDe n hist i m q) (hh : Prolonge hist hist') :
    TirDe n hist' i m q := by
  rcases h with ⟨hs, h⟩ | ⟨e, hs, h⟩
  · exact .inl ⟨hs.prolonge hh, h⟩
  · exact .inr ⟨e, hs.prolonge hh, h⟩

def Termine (e : EtatPartie) : Prop := e = .finWin ∨ e = .finLose

def Descend (hist : List Serveur.GameT) : Prop :=
  ∀ (k l : Nat) (g g' : Serveur.GameT), k ≤ l → hist[k]? = some g → hist[l]? = some g' →
    ∀ i, AFlot g' i → AFlot g i

theorem classe_termine {g : Serveur.GameT} (h : 2 ≤ nbAFlot g) (i : Nat) : ¬ Termine (classe g i) := by
  have h0 : nbAFlot g ≠ 0 := by omega
  have h1 : nbAFlot g ≠ 1 := by omega
  simp only [classe, h0, h1, if_false, Termine]
  split <;> decide

theorem classe_enJeu {g : Serveur.GameT} (h : 2 ≤ nbAFlot g) {i : Nat} (hi : AFlot g i) : classe g i = .enJeu := by
  have h0 : nbAFlot g ≠ 0 := by omega
  have h1 : nbAFlot g ≠ 1 := by omega
  simp only [classe, h0, h1, if_false, hi, if_true]

theorem verdictDe_id (g : Serveur.GameT) (i : Nat) : (verdictDe g i).id ∈ [7, 8, 9, 10] := by
  unfold verdictDe
  split_ifs <;> decide

theorem Ouvertes.statut (h : Ouvertes hist m) (hs : Statut hist i m e) : ¬ Termine e := by
  rcases hs with ⟨-, rfl⟩ | ⟨k, g, rfl, hg, rfl⟩
  · simp [Termine]
  · obtain ⟨g', hg', h2⟩ := h k (Nat.lt_succ_self k)
    rw [hg, Option.some.injEq] at hg'
    exact hg' ▸ classe_termine h2 i

theorem Statut.enJeu {g : Serveur.GameT} (hd : Descend hist) (hs : Statut hist i m e)
    (he : ¬ Termine e) (hg : hist[m]? = some g) (hi : AFlot g i) : e = .enJeu := by
  rcases hs with ⟨-, rfl⟩ | ⟨k, g', rfl, hg', rfl⟩
  · rfl
  · have hi' := hd k (k + 1) g' g (Nat.le_succ k) hg' hg i hi
    by_cases h1 : nbAFlot g' = 1
    · refine absurd (.inl ?_) he
      simp only [classe, h1, one_ne_zero, if_false, if_true, hi']
    · by_cases h0 : nbAFlot g' = 0
      · refine absurd (.inr ?_) he
        simp only [classe, h0, if_true]
      · exact classe_enJeu (by omega) hi'

theorem Descend.init {g : Serveur.GameT} (h : Descend (hist ++ [g])) : Descend hist :=
  fun k l a b hkl ha hb => h k l a b hkl (Prolonge.append hist [g] k a ha) (Prolonge.append hist [g] l b hb)

theorem Descend.dernier {g a : Serveur.GameT} {k : Nat} (h : Descend (hist ++ [g])) (ha : (hist ++ [g])[k]? = some a)
    {i : Nat} (hi : AFlot g i) : AFlot a i := by
  have hk := (List.getElem?_eq_some_iff.mp ha).1
  rw [List.length_append, List.length_singleton] at hk
  refine h k hist.length a g (by omega) ha ?_ i hi
  rw [List.getElem?_append_right (Nat.le_refl _), Nat.sub_self]
  rfl

theorem Descend.snoc {g : Serveur.GameT} (h : Descend hist)
    (hg : ∀ (k : Nat) (a : Serveur.GameT), hist[k]? = some a → ∀ i, AFlot g i → AFlot a i) :
    Descend (hist ++ [g]) := by
  intro k l a b hkl ha hb i hi
  rcases Nat.lt_or_ge l hist.length with hl | hl
  · rw [List.getElem?_append_left hl] at hb
    rw [List.getElem?_append_left (by omega)] at ha
    exact h k l a b hkl ha hb i hi
  · rw [List.getElem?_append_right hl] at hb
    obtain rfl : b = g := (List.mem_singleton.mp (List.mem_of_getElem? hb))
    rcases Nat.lt_or_ge k hist.length with hk | hk
    · rw [List.getElem?_append_left hk] at ha
      exact hg k a ha i hi
    · rw [List.getElem?_append_right hk] at ha
      obtain rfl : a = b := (List.mem_singleton.mp (List.mem_of_getElem? ha))
      exact hi

theorem Descend.remplace {g g' : Serveur.GameT} (h : Descend (hist ++ [g])) (hg : ∀ i, AFlot g' i → AFlot g i) :
    Descend (hist ++ [g']) :=
  h.init.snoc fun k a ha i hi => h.dernier (Prolonge.append hist [g] k a ha) (hg i hi)

theorem Descend.ajoute {g g' : Serveur.GameT} (h : Descend (hist ++ [g])) (hg : ∀ i, AFlot g' i → AFlot g i) :
    Descend (hist ++ [g] ++ [g']) :=
  h.snoc fun _ _ ha i hi => h.dernier ha (hg i hi)

structure Client.Poste.Garde (c c' : Client.Poste) : Prop where
  rang : 6 ≤ c.point.rang → 6 ≤ c'.point.rang
  placement : 6 ≤ c.point.rang → ∀ id, c'.placement id = c.placement id

theorem Client.Poste.Garde.refl (c : Client.Poste) : c.Garde c := ⟨id, fun _ _ => rfl⟩

theorem BateauChoisi.garde {g₀ : Serveur.GameT} {c c' : Client.Poste} {q : Requete} (h : BateauChoisi g₀ c q)
    (hc : c.Garde c') : BateauChoisi g₀ c' q := by
  have hp := hc.placement h.envoye
  have h0 := hp ⟨0, by decide⟩
  simp only [Client.Poste.placement, Placement.mk.injEq, true_and] at h0
  exact ⟨hc.rang h.envoye, by rw [h.requete, h0.1, h0.2.1, h0.2.2], fun id => hp id ▸ h.valide id⟩

theorem Convient.mono {g₀ : Serveur.GameT} {c c' : Client.Poste} {k : Moment} {q : Requete}
    (h : Convient g₀ hist i c k q) (hh : Prolonge hist hist') (hc : c.Garde c') : Convient g₀ hist' i c' k q := by
  cases k with
  | inscription => exact h
  | infos => exact h
  | accuseInfos => exact h
  | demande => exact h
  | bateau => exact h.garde hc
  | accuseBateau => exact h
  | plateau m => exact ⟨h.1, h.2.prolonge hh⟩
  | accusePlateau m => exact h
  | go m => exact h
  | accuseGo m => exact h
  | tir m => exact h.prolonge hh
  | accuseTir m => exact h
  | etat m =>
    obtain ⟨g, hg, hq⟩ := h
    exact ⟨g, hh m g hg, hq⟩
  | accuseEtat m => exact h

theorem contrat_mono {g₀ : Serveur.GameT} {c c' : Client.Poste} {p q : Moment} {a b : List Requete}
    (h : (contrat g₀ hist i c).Sync p q a b) (hh : Prolonge hist hist') (hc : c.Garde c') :
    (contrat g₀ hist' i c').Sync p q a b := by
  refine h.mono rfl fun d k m hm => ⟨hm.sens, ?_⟩
  have hk : Convient g₀ hist i c k m := hm.convient
  exact hk.mono hh hc

end Bnbr
