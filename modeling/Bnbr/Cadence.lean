import Mathlib.Algebra.Order.BigOperators.Group.Finset
import Bnbr.Issue

namespace Bnbr

open Sessions Runs

namespace Serveur

-- the steps of a round for n players
def tour (n : Nat) : Nat := 8 * n + 5

def Boucle.debut (n m : Nat) : Boucle → Nat
  | .infos => 0
  | .plateau _ => 5 * n + 5 + m * tour n
  | .go => 7 * n + 6 + m * tour n
  | .etat _ => 11 * n + 8 + m * tour n

-- the steps of the server since the launch, as told by where it stands
def Poste.parcouru (n : Nat) (p : Poste) : Nat :=
  match p.point with
  | .envoi b i => b.debut n p.manche + 2 * i
  | .accuse b i => b.debut n p.manche + 2 * i + 1
  | .demande i => 2 * n + 1 + i
  | .collecte _ k _ => 3 * n + 2 + 2 * k.toNat
  | .bateau _ k _ _ => 3 * n + 3 + 2 * k.toNat
  | .touche => 5 * n + 3 + p.manche * tour n
  | .boucle => 5 * n + 4 + p.manche * tour n
  | .tir i => 9 * n + 7 + p.manche * tour n + 2 * i
  | .tirRecu i _ => 9 * n + 8 + p.manche * tour n + 2 * i
  | .fini => 5 * n + 5 + p.manche * tour n

variable {g₀ : GameT} {cl : Nat → Client.Poste} {p p' : Poste} {a : Action} {i : Nat}

theorem EnCollecte.recus {j n : Int} {envois : List (Int × List Char)} (h : EnCollecte g₀ cl p j n envois) :
    n = j ∧ 0 ≤ j ∧ p.game.nbJoueur = g₀.nbJoueur := by
  obtain ⟨ps, hb, -⟩ := h.bilan
  have hn : n = ps.length := hb.recus
  have hj : j = ps.length := hb.j
  have hg : p.game.nbJoueur = g₀.nbJoueur := hb.game.nbJoueur
  exact ⟨by omega, by omega, hg⟩

theorem EnCollecte.recus_le {j n : Int} {envois : List (Int × List Char)} (h : EnCollecte g₀ cl p j n envois) :
    n ≤ g₀.nbJoueur := by
  obtain ⟨ps, hb, -⟩ := h.bilan
  have hn : n = ps.length := hb.recus
  exact hn ▸ hb.borne

theorem Pas.parcouru (hg₀ : Lancement g₀) (h : Regulier g₀ cl p) (hs : Pas p a p') :
    a = .interne ∧ p' = p ∨ p'.parcouru g₀.nbJoueur.toNat = p.parcouru g₀.nbJoueur.toNat + 1 := by
  have htour : tour g₀.nbJoueur.toNat = 8 * g₀.nbJoueur.toNat + 5 := rfl
  cases hs with
  | sonder hp hf ht hc => exact .inl ⟨rfl, Suit.sonder hg₀ (.inl ⟨cl, h⟩) hp hf ht hc⟩
  | envoi hp => exact .inr (by simp only [Poste.parcouru, hp])
  | accuse _ hp =>
    refine .inr ?_
    simp only [Poste.parcouru, hp]
    omega
  | @suite b i hp hi =>
    refine .inr ?_
    simp only [Regulier, hp] at h
    have hn := h.1.nbJoueur
    obtain rfl : i = g₀.nbJoueur.toNat := by omega
    cases b with
    | etat _ =>
      simp only [Poste.parcouru, Boucle.debut, Boucle.suite, Boucle.termine, hp, Nat.succ_mul]
      omega
    | _ =>
      simp only [Poste.parcouru, Boucle.debut, Boucle.suite, Boucle.termine, hp, Nat.add_zero]
      omega
  | demande hp =>
    refine .inr ?_
    simp only [Poste.parcouru, hp]
    omega
  | collecter hp hi =>
    refine .inr ?_
    simp only [Regulier, hp] at h
    rw [h.1.game] at hi
    simp only [Poste.parcouru, hp, Int.toNat_zero]
    omega
  | bateau _ hp =>
    refine .inr ?_
    simp only [Poste.parcouru, hp]
    omega
  | placer pile hp hi hq hc =>
    refine .inr ?_
    simp only [Regulier, hp] at h
    obtain ⟨c', hc', hj, hj0, -, hcol⟩ := h.1.placer hg₀ pile h.2.1 h.2.2 hq
    rw [hc, Option.some.injEq] at hc'
    subst hc'
    have h1 := h.1.recus
    have h2 := hcol.recus
    simp only [Poste.parcouru, hp]
    omega
  | @sortie j n envois hp hf =>
    refine .inr ?_
    simp only [Regulier, hp] at h
    obtain ⟨hj, hj0, hn⟩ := h.recus
    have hf' : n = p.game.nbJoueur := hf
    simp only [Poste.parcouru, hp, h.manche, Nat.zero_mul]
    omega
  | touche hp => exact .inr (by simp only [Poste.parcouru, hp]; omega)
  | manche hp =>
    refine .inr ?_
    simp only [Poste.parcouru, Boucle.debut, hp]
    omega
  | fin hp => exact .inr (by simp only [Poste.parcouru, hp]; omega)
  | tir _ hp =>
    refine .inr ?_
    simp only [Poste.parcouru, hp]
    omega
  | tirRecu _ hp =>
    refine .inr ?_
    simp only [Poste.parcouru, hp]
    omega
  | verdict hp hi =>
    refine .inr ?_
    simp only [Regulier, hp] at h
    have hn := h.1.regles.nbJoueur
    simp only [Poste.parcouru, Boucle.debut, hp]
    omega

end Serveur

variable {g₀ : Serveur.GameT} {s₀ s s' : Etat} {a : Action} {i : Nat} {n : Int} {es : List (Action × Bool)}

theorem Epilogue.parcouru {p : Serveur.Poste} {b : Serveur.Action} (hg₀ : Lancement g₀) (h : Epilogue g₀ s)
    (hs : Serveur.Pas s.serveur b p) :
    p.parcouru g₀.nbJoueur.toNat = s.serveur.parcouru g₀.nbJoueur.toNat + 1 := by
  have h1 := hg₀.registres.joueurs
  have hn := h.nbJoueur
  obtain ⟨t, hp | hp⟩ := h.serveur
  · cases hs with
    | envoi hp' =>
      rw [hp, Serveur.Point.envoi.injEq] at hp'
      obtain ⟨rfl, rfl⟩ := hp'
      simp only [Serveur.Poste.parcouru, hp]
    | suite hp' hi =>
      rw [hp, Serveur.Point.envoi.injEq] at hp'
      obtain ⟨rfl, rfl⟩ := hp'
      omega
    | _ => simp_all
  · cases hs with
    | accuse _ hp' =>
      rw [hp, Serveur.Point.accuse.injEq] at hp'
      obtain ⟨rfl, rfl⟩ := hp'
      simp only [Serveur.Poste.parcouru, hp]
    | _ => simp_all

theorem Invariant.parcouru {p : Serveur.Poste} {b : Serveur.Action} (hg₀ : Lancement g₀) (h : Invariant g₀ s)
    (hs : Serveur.Pas s.serveur b p) : b = .interne ∧ p = s.serveur ∨
      p.parcouru g₀.nbJoueur.toNat = s.serveur.parcouru g₀.nbJoueur.toNat + 1 := by
  rcases h with h | h
  · exact hs.parcouru hg₀ h.serveur
  · exact .inr (h.parcouru hg₀ hs)

def Action.parServeur : Action → Bool
  | .serveur _ => true
  | .client _ _ => false

-- neither a poll that finds nothing nor a key pressed
def Utile (s : Etat) (t : Etat) : Action → Prop
  | .serveur _ => t.serveur ≠ s.serveur
  | .client _ .interne => False
  | .client _ _ => True

def Cadence (n : Int) (s : Etat) (e : Action × Bool) (t : Etat) : Prop := Etape n s e.1 t ∧ (e.2 = true ↔ Utile s t e.1)

theorem Cadence.trace (h : Trace (Cadence n) s es s') : Trace (Etape n) s (es.map Prod.fst) s' :=
  h.map id Prod.fst fun _ _ _ hs => hs.1

theorem Cadence.existe {as : List Action} (h : Trace (Etape n) s as s') :
    ∃ es, es.map Prod.fst = as ∧ Trace (Cadence n) s es s' := by
  induction h with
  | nil => exact ⟨[], rfl, .nil⟩
  | @snoc as t u a _ hs ih =>
    obtain ⟨es, rfl, h⟩ := ih
    obtain ⟨b, hb⟩ : ∃ b : Bool, b = true ↔ Utile t u a := by
      by_cases hu : Utile t u a
      · exact ⟨true, iff_of_true rfl hu⟩
      · exact ⟨false, iff_of_false Bool.false_ne_true hu⟩
    have hpas : Cadence n t (a, b) u := ⟨hs, hb⟩
    exact ⟨_, by simp only [List.map_append, List.map_cons, List.map_nil], h.snoc hpas⟩

def pasServeur (es : List (Action × Bool)) : Nat := es.countP fun e => e.1.parServeur && e.2

def pasUtiles (es : List (Action × Bool)) : Nat := es.countP Prod.snd

def echanges (f : Nat → Action → Option (Sens × Requete)) (k : Nat) (as : List Action) : Nat :=
  ∑ i ∈ Finset.range k, (as.filterMap (f i)).length

theorem echanges_snoc (f : Nat → Action → Option (Sens × Requete)) (k : Nat) (as : List Action) (a : Action) :
    echanges f k (as ++ [a]) = echanges f k as + ∑ i ∈ Finset.range k, (f i a).toList.length := by
  simp only [echanges, journal_snoc, List.length_append, Finset.sum_add_distrib]

theorem somme_un {α : Type} {f : Nat → Option α} {k j : Nat} (hf : ∀ i, i ≠ j → f i = none) :
    ∑ i ∈ Finset.range k, (f i).toList.length = if j < k then (f j).toList.length else 0 := by
  split
  · next hj =>
    refine Finset.sum_eq_single_of_mem j (Finset.mem_range.mpr hj) fun i _ hi => ?_
    rw [hf i hi]
    rfl
  · next hj =>
    refine Finset.sum_eq_zero fun i hi => ?_
    rw [hf i (by have := Finset.mem_range.mp hi; omega)]
    rfl

theorem Action.duServeur_un (a : Action) (k : Nat) :
    ∑ i ∈ Finset.range k, (a.duServeur i).toList.length ≤ if a.parServeur then 1 else 0 := by
  cases a with
  | client => simp [Action.duServeur]
  | serveur b =>
    cases b with
    | interne => simp [Action.duServeur]
    | prend j q | envoie j q =>
      refine (somme_un (j := j) fun i hi => if_neg (Ne.symm hi)).le.trans ?_
      simp only [if_true, Option.toList_some, List.length_singleton, Action.parServeur]
      split <;> omega

theorem Action.duClient_un {b : Client.Action} {j k : Nat} (hj : j < k) (hb : b ≠ .interne) :
    ∑ i ∈ Finset.range k, ((Action.client j b).duClient i).toList.length = 1 := by
  cases b with
  | interne => exact absurd rfl hb
  | prend q | envoie q =>
    refine (somme_un (j := j) fun i hi => if_neg (Ne.symm hi)).trans ?_
    simp only [if_true, Option.toList_some, List.length_singleton, if_pos hj]

theorem Action.duClient_zero {a : Action} {k : Nat} (ha : ∀ j b, a = .client j b → b = .interne) :
    ∑ i ∈ Finset.range k, (a.duClient i).toList.length = 0 := by
  refine Finset.sum_eq_zero fun i _ => ?_
  cases a with
  | serveur => rfl
  | client j b =>
    rw [ha j b rfl]
    rfl

structure Decompte (g₀ : Serveur.GameT) (es : List (Action × Bool)) (s : Etat) : Prop where
  serveur : pasServeur es = s.serveur.parcouru g₀.nbJoueur.toNat
  recus : echanges Action.duServeur g₀.nbJoueur.toNat (es.map Prod.fst) ≤ s.serveur.parcouru g₀.nbJoueur.toNat
  utiles : pasUtiles es = pasServeur es + echanges Action.duClient g₀.nbJoueur.toNat (es.map Prod.fst)

theorem pasServeur_snoc (es : List (Action × Bool)) (e : Action × Bool) :
    pasServeur (es ++ [e]) = pasServeur es + if e.1.parServeur && e.2 then 1 else 0 := by
  simp only [pasServeur, List.countP_append, List.countP_singleton]

theorem pasUtiles_snoc (es : List (Action × Bool)) (e : Action × Bool) :
    pasUtiles (es ++ [e]) = pasUtiles es + if e.2 then 1 else 0 := by
  simp only [pasUtiles, List.countP_append, List.countP_singleton]

theorem Decompte.snoc {b : Bool} (h : Decompte g₀ es s)
    (hp : s'.serveur.parcouru g₀.nbJoueur.toNat =
      s.serveur.parcouru g₀.nbJoueur.toNat + if a.parServeur && b then 1 else 0)
    (hr : ∑ i ∈ Finset.range g₀.nbJoueur.toNat, (a.duServeur i).toList.length ≤ if a.parServeur && b then 1 else 0)
    (hu : (if b then 1 else 0) = (if a.parServeur && b then 1 else 0) +
      ∑ i ∈ Finset.range g₀.nbJoueur.toNat, (a.duClient i).toList.length) : Decompte g₀ (es ++ [(a, b)]) s' := by
  obtain ⟨hserveur, hrecus, hutiles⟩ := h
  refine ⟨?_, ?_, ?_⟩
  · rw [pasServeur_snoc, hserveur, hp]
  · rw [List.map_append, List.map_singleton, echanges_snoc, hp]
    exact Nat.add_le_add hrecus hr
  · rw [List.map_append, List.map_singleton, echanges_snoc, pasUtiles_snoc, pasServeur_snoc, hutiles]
    simp only at hu ⊢
    omega

theorem Decompte.parServeur {c : Serveur.Action} {b : Bool} (hg₀ : Lancement g₀) (hinv : Invariant g₀ s)
    (h : Decompte g₀ es s) (hs : Serveur.Pas s.serveur c s'.serveur) (hb : b = true ↔ s'.serveur ≠ s.serveur) :
    Decompte g₀ (es ++ [(.serveur c, b)]) s' := by
  have hclient := Action.duClient_zero (a := .serveur c) (k := g₀.nbJoueur.toNat) fun _ _ he => by cases he
  rcases hinv.parcouru hg₀ hs with ⟨rfl, he⟩ | hplus
  · obtain rfl : b = false := Bool.eq_false_iff.mpr fun ht => hb.mp ht he
    refine h.snoc (by rw [he]; rfl) ?_ (by rw [hclient]; rfl)
    simp [Action.duServeur]
  · obtain rfl : b = true := hb.mpr fun he => by
      rw [he] at hplus
      omega
    exact h.snoc hplus (Action.duServeur_un _ _) (by rw [hclient]; rfl)

theorem Decompte.parClient {c : Client.Action} {b : Bool} (h : Decompte g₀ es s) (hi : (i : Int) < g₀.nbJoueur)
    (hs : s'.serveur = s.serveur) (hb : b = true ↔ Utile s s' (.client i c)) :
    Decompte g₀ (es ++ [(.client i c, b)]) s' := by
  have hserveur : ∑ k ∈ Finset.range g₀.nbJoueur.toNat, ((Action.client i c).duServeur k).toList.length ≤ 0 :=
    Action.duServeur_un _ _
  refine h.snoc (by rw [hs]; rfl) hserveur ?_
  by_cases hc : c = .interne
  · subst hc
    obtain rfl : b = false := Bool.eq_false_iff.mpr hb.mp
    rw [Action.duClient_zero fun j b he => by cases he; rfl]
    rfl
  · obtain rfl : b = true := by
      cases c with
      | interne => exact absurd rfl hc
      | _ => exact hb.mpr trivial
    rw [Action.duClient_un (by omega) hc]
    rfl

theorem Decompte.etape {e : Action × Bool} (hg₀ : Lancement g₀) (hinv : Invariant g₀ s) (h : Decompte g₀ es s)
    (hs : Cadence g₀.nbJoueur s e s') : Decompte g₀ (es ++ [e]) s' := by
  obtain ⟨a, b⟩ := e
  obtain ⟨hs, hb⟩ := hs
  cases hs with
  | serveurPrend hs | serveurEnvoie hs | serveurInterne hs => exact h.parServeur hg₀ hinv hs hb
  | clientPrend hi | clientEnvoie hi | clientInterne hi => exact h.parClient hi rfl hb

theorem Decompte.trace (hg₀ : Lancement g₀) (h₀ : Debut g₀ s₀) (h : Trace (Cadence g₀.nbJoueur) s₀ es s) :
    Invariant g₀ s ∧ Decompte g₀ es s := by
  refine h.invariant (fun es s => Invariant g₀ s ∧ Decompte g₀ es s) ⟨.inl (h₀.accord hg₀), ?_⟩
    fun es t e u _ ht hs => ⟨ht.1.etape hg₀ hs.1, ht.2.etape hg₀ ht.1 hs⟩
  refine ⟨?_, ?_, ?_⟩
  · simp [pasServeur, h₀.serveur, Serveur.Poste.parcouru, Serveur.Boucle.debut]
  · simp [echanges]
  · simp [pasUtiles, pasServeur, echanges]

-- a player is ahead of the server by what it has sent, at most two requests, and the registration ack
theorem echanges_le (hg₀ : Lancement g₀) (h₀ : Debut g₀ s₀) {as : List Action}
    (h : Trace (Etape g₀.nbJoueur) s₀ as s) :
    echanges Action.duClient g₀.nbJoueur.toNat as ≤
      echanges Action.duServeur g₀.nbJoueur.toNat as + 3 * g₀.nbJoueur.toNat := by
  have hjoueur (i : Nat) (hi : i ∈ Finset.range g₀.nbJoueur.toNat) :
      (journalClient i as).length ≤ (journalServeur i as).length + 3 := by
    have hi' : (i : Int) < g₀.nbJoueur := by
      have := Finset.mem_range.mp hi
      omega
    have hsuivie := (Suivie.trace hg₀ h₀ h).2 i hi'
    have hcommune := hsuivie.tenue.coherent.length_le
    have hretour := hsuivie.retour_le
    have hack : (s₀.versClient i).length ≤ 1 := by
      rcases (h₀.clients i hi').2 with ⟨-, hv⟩ | ⟨-, hv⟩ <;> simp [hv]
    rw [List.length_append, etiquette_length] at hcommune
    simp only [Etat.session] at hcommune
    omega
  calc echanges Action.duClient g₀.nbJoueur.toNat as
      ≤ ∑ i ∈ Finset.range g₀.nbJoueur.toNat, ((journalServeur i as).length + 3) := Finset.sum_le_sum hjoueur
    _ = echanges Action.duServeur g₀.nbJoueur.toNat as + 3 * g₀.nbJoueur.toNat := by
      rw [Finset.sum_add_distrib, Finset.sum_const_nat fun _ _ => rfl, Finset.card_range, Nat.mul_comm]
      rfl

theorem Serveur.Regulier.parcouru_le {cl : Nat → Client.Poste} {p : Serveur.Poste} (h : Serveur.Regulier g₀ cl p) :
    p.parcouru g₀.nbJoueur.toNat ≤
      5 * g₀.nbJoueur.toNat + 5 + (p.manche + 1) * Serveur.tour g₀.nbJoueur.toNat := by
  have htour : Serveur.tour g₀.nbJoueur.toNat = 8 * g₀.nbJoueur.toNat + 5 := rfl
  rw [Nat.add_one_mul p.manche]
  cases hp : p.point with
  | envoi b i | accuse b i =>
    simp only [Serveur.Regulier, hp] at h
    cases b <;> simp only [Serveur.Poste.parcouru, Serveur.Boucle.debut, hp] <;> omega
  | collecte j n envois =>
    simp only [Serveur.Regulier, hp] at h
    have hle := h.recus_le
    simp only [Serveur.Poste.parcouru, hp]
    omega
  | bateau j n envois q =>
    simp only [Serveur.Regulier, hp] at h
    have hle := h.1.recus_le
    simp only [Serveur.Poste.parcouru, hp]
    omega
  | demande | tir | tirRecu =>
    simp only [Serveur.Regulier, hp] at h
    simp only [Serveur.Poste.parcouru, hp]
    omega
  | touche | boucle | fini =>
    simp only [Serveur.Poste.parcouru, hp]
    omega

theorem Invariant.parcouru_le (h : Invariant g₀ s) : s.serveur.parcouru g₀.nbJoueur.toNat ≤
    5 * g₀.nbJoueur.toNat + 5 + (s.serveur.manche + 1) * Serveur.tour g₀.nbJoueur.toNat := by
  rcases h with h | h
  · exact h.serveur.parcouru_le
  · have htour : Serveur.tour g₀.nbJoueur.toNat = 8 * g₀.nbJoueur.toNat + 5 := rfl
    rw [Nat.add_one_mul s.serveur.manche]
    obtain ⟨t, hp | hp⟩ := h.serveur <;> simp only [Serveur.Poste.parcouru, Serveur.Boucle.debut, hp] <;> omega

theorem cadence (g₀ : Serveur.GameT) (hg₀ : Lancement g₀) (s₀ : Etat) (h₀ : Debut g₀ s₀) (es : List (Action × Bool))
    (s : Etat) (h : Trace (Cadence g₀.nbJoueur) s₀ es s) :
    pasServeur es = s.serveur.parcouru g₀.nbJoueur.toNat ∧
      pasUtiles es ≤ 2 * s.serveur.parcouru g₀.nbJoueur.toNat + 3 * g₀.nbJoueur.toNat ∧
      s.serveur.parcouru g₀.nbJoueur.toNat ≤
        5 * g₀.nbJoueur.toNat + 5 + (s.serveur.manche + 1) * Serveur.tour g₀.nbJoueur.toNat := by
  obtain ⟨hinv, hd⟩ := Decompte.trace hg₀ h₀ h
  have hclients := echanges_le hg₀ h₀ (Cadence.trace h)
  have hserveur := hd.serveur
  have hrecus := hd.recus
  refine ⟨hserveur, ?_, hinv.parcouru_le⟩
  rw [hd.utiles, hserveur]
  omega

theorem cadence_manche : ∃ s₀ es s f k, Trace (Cadence 2) s₀ es s ∧ s.serveur.point = .envoi (.etat f) k ∧
    pasServeur es = 30 + s.serveur.manche * 21 + 2 * k ∧ pasUtiles es ≤ 66 + s.serveur.manche * 42 + 4 * k := by
  obtain ⟨s, f, k, ⟨s₀, h₀, hr⟩, -, hp, -⟩ := manche_accessible depart_deux
  obtain ⟨as, h⟩ := Run.trace hr
  obtain ⟨es, -, h⟩ := Cadence.existe h
  obtain ⟨h1, h2, -⟩ := cadence _ depart_deux s₀ h₀ es s h
  have hn : (Serveur.GameT.depart 2 4 2).nbJoueur.toNat = 2 := rfl
  have htour : Serveur.tour 2 = 21 := rfl
  simp only [hn, Serveur.Poste.parcouru, Serveur.Boucle.debut, hp, htour] at h1 h2
  exact ⟨s₀, es, s, f, k, h, hp, by omega, by omega⟩

end Bnbr
