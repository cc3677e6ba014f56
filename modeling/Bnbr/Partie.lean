import Bnbr.Diffusion
import Bnbr.Verdict

namespace Bnbr.Serveur

open CArray CString

def txtGo : List Char := ['g', 'o']

def requeteGo : Requete := ⟨5, txtGo, txtGo⟩

structure EntreesManche where
  plateau : Nat → Echange
  go : Nat → Echange
  tir : Nat → PileTir × Lecture
  fin : Nat → Echange

def tirs (g : GameT) (e : Nat → PileTir × Lecture) (journal : Journal) : Option (GameT × Journal) :=
  Loop.run g.nbJoueur.toNat (fun i s => do
    let _ ← get s.1.players i
    let t ← recevoirTir s.1 (e i).1 (e i).2
    some (t.1, s.2 ++ [((i : Int), accuseOk)])) (g, journal)

def avantVerdict (g : GameT) (e : EntreesManche) (journal : Journal) : Option (GameT × Journal) := do
  let plateau ← textePlateau g
  let journal ← aTous g (fun _ => some (requetePlateau plateau)) e.plateau journal
  let journal ← aTous g (fun _ => some requeteGo) e.go journal
  tirs g e.tir journal

def manche (g : GameT) (e : EntreesManche) (journal : Journal) : Option (GameT × Journal) := do
  let s ← avantVerdict g e journal
  verifierFinPartie s.1 e.fin s.2

def boucleJeu (g : GameT) (entrees : Nat → EntreesManche) (k : Nat) : Option (GameT × Journal) :=
  Loop.run k (fun m s => if s.1.etat = 2 then some s else manche s.1 (entrees m) s.2) (g, [])

structure EnPartie (g : GameT) : Prop where
  plateau : g.taillePlateau ≤ 50
  bateau : g.tailleBateau ≤ 10
  joueurs : 1 ≤ g.nbJoueur
  nbBateau : 0 ≤ g.plateau.nbBateau
  borne : g.plateau.Borne

theorem GameT.apresCoup_borne {g : GameT} (hb : g.plateau.Borne) (c : Option (Int × Int)) :
    (g.apresCoup c).plateau.Borne ∧ (g.apresCoup c).plateau.nbBateau = g.plateau.nbBateau := by
  cases c with
  | none => exact ⟨hb, rfl⟩
  | some p =>
    simp only [GameT.apresCoup, GameT.apresTir]
    split
    · split
      · exact ⟨hb.apresTir _ _, BoardT.apresTir_nbBateau _ _ _⟩
      · exact ⟨hb, rfl⟩
    · exact ⟨hb, rfl⟩

theorem EnPartie.apresCoup {g : GameT} (h : EnPartie g) (c : Option (Int × Int)) : EnPartie (g.apresCoup c) := by
  obtain ⟨h1, h2, h3, -⟩ := g.apresCoup_regles c
  obtain ⟨hb, hnb⟩ := GameT.apresCoup_borne h.borne c
  exact ⟨h1 ▸ h.plateau, h2 ▸ h.bateau, h3 ▸ h.joueurs, hnb ▸ h.nbBateau, hb⟩

theorem BateauT.Coule.toucher {bateau : BateauT} {taille : Int} (h : bateau.Coule taille) (x y : Int) :
    (bateau.toucher x y).Coule taille := by
  intro j hj
  simp only [BateauT.toucher]
  split
  · rfl
  · exact h j hj

theorem BoardT.coule_toucher {b : BoardT} {taille : Int} {i : Nat} (h : b.coule taille i) (x y : Int) :
    (b.toucher x y).coule taille i := by
  intro k hk
  simp only [BoardT.toucher]
  split
  · exact (h k hk).toucher x y
  · exact h k hk

theorem BoardT.coule_apresTir {b : BoardT} {taille : Int} {i : Nat} (h : b.coule taille i) (y x : Fin 50) :
    (b.apresTir y x).coule taille i := by
  unfold BoardT.apresTir
  split
  · exact BoardT.coule_toucher (b := { b with cell := b.cell.update y x .hitShot }) h _ _
  · exact h
  · exact h

theorem AFlot.avantCoup {g : GameT} {c : Option (Int × Int)} {i : Nat} (h : AFlot (g.apresCoup c) i) : AFlot g i := by
  obtain ⟨-, h2, h3, -⟩ := g.apresCoup_regles c
  refine ⟨h3 ▸ h.1, fun hc => h.2 ?_⟩
  rw [h2]
  cases c with
  | none => exact hc
  | some p =>
    simp only [GameT.apresCoup, GameT.apresTir]
    split
    · split
      · exact BoardT.coule_apresTir hc _ _
      · exact hc
    · exact hc

theorem GameT.apresCoup_taille (g : GameT) (c : Option (Int × Int)) (i : Fin 100) :
    ((g.apresCoup c).plateau.bateaux i).taille = (g.plateau.bateaux i).taille := by
  cases c with
  | none => rfl
  | some p =>
    simp only [GameT.apresCoup, GameT.apresTir]
    split
    · split
      · exact BoardT.apresTir_taille _ _ _ _
      · rfl
    · rfl

theorem Flottille.borne {g : GameT} (h : Flottille g) : g.plateau.Borne where
  nbBateau := h.nbBateau ▸ h.joueurs_le
  taille := fun i hi => by
    rw [h.taille i (h.nbBateau ▸ hi)]
    exact h.bateau_le

theorem Flottille.apresCoup {g : GameT} (h : Flottille g) (c : Option (Int × Int)) : Flottille (g.apresCoup c) := by
  obtain ⟨-, h2, h3, -⟩ := g.apresCoup_regles c
  obtain ⟨-, hnb⟩ := GameT.apresCoup_borne h.borne c
  refine ⟨h3 ▸ h.joueurs, h3 ▸ h.joueurs_le, h2 ▸ h.bateau_le, by rw [hnb, h3]; exact h.nbBateau, fun i hi => ?_⟩
  rw [GameT.apresCoup_taille, h2]
  exact h.taille i (h3 ▸ hi)

def apresCoups (g : GameT) (cs : List (Option (Int × Int))) : GameT := cs.foldl GameT.apresCoup g

theorem apresCoups_append (g : GameT) (cs : List (Option (Int × Int))) (c : Option (Int × Int)) :
    apresCoups g (cs ++ [c]) = (apresCoups g cs).apresCoup c := by
  simp [apresCoups]

theorem apresCoups_regles (g : GameT) (cs : List (Option (Int × Int))) :
    (apresCoups g cs).taillePlateau = g.taillePlateau ∧ (apresCoups g cs).tailleBateau = g.tailleBateau ∧
    (apresCoups g cs).nbJoueur = g.nbJoueur ∧ (apresCoups g cs).players = g.players ∧
    (apresCoups g cs).etat = g.etat := by
  induction cs generalizing g with
  | nil => simp [apresCoups]
  | cons c cs ih =>
    obtain ⟨h1, h2, h3, h4, -, -, -, h5⟩ := g.apresCoup_regles c
    obtain ⟨i1, i2, i3, i4, i5⟩ := ih (g.apresCoup c)
    exact ⟨i1.trans h1, i2.trans h2, i3.trans h3, i4.trans h4, i5.trans h5⟩

theorem apresCoups_borne {g : GameT} (hb : g.plateau.Borne) (cs : List (Option (Int × Int))) :
    (apresCoups g cs).plateau.Borne := by
  induction cs generalizing g with
  | nil => exact hb
  | cons c cs ih => exact ih (GameT.apresCoup_borne hb c).1

theorem Flottille.apresCoups {g : GameT} (h : Flottille g) (cs : List (Option (Int × Int))) :
    Flottille (apresCoups g cs) := by
  induction cs generalizing g with
  | nil => exact h
  | cons c cs ih => exact ih (h.apresCoup c)

theorem AFlot.avantCoups {g : GameT} {cs : List (Option (Int × Int))} {i : Nat} (h : AFlot (apresCoups g cs) i) :
    AFlot g i := by
  induction cs generalizing g with
  | nil => exact h
  | cons c cs ih => exact AFlot.avantCoup (ih h)

theorem tirs_coups {g : GameT} (hn : g.taillePlateau ≤ 50) (hb : g.plateau.Borne) {e : Nat → PileTir × Lecture}
    {journal : Journal} {s : GameT × Journal} (hs : tirs g e journal = some s) :
    (∃ cs, s.1 = apresCoups g cs) ∧
      s.2 = journal ++ (List.range g.nbJoueur.toNat).map fun i : Nat => ((i : Int), accuseOk) := by
  refine Loop.run_invariant (fun k s => (∃ cs, s.1 = apresCoups g cs) ∧
    s.2 = journal ++ (List.range k).map fun i : Nat => ((i : Int), accuseOk)) ⟨⟨[], rfl⟩, by simp⟩ ?_ hs
  rintro i ⟨t, j⟩ v - ⟨⟨cs, rfl⟩, rfl⟩ hv
  simp only [Option.bind_eq_bind, Option.bind_eq_some_iff, Option.some.injEq] at hv
  obtain ⟨-, -, ⟨g', ack⟩, hr, rfl⟩ := hv
  obtain ⟨c, rfl⟩ := recevoirTir_cases ((apresCoups_regles g cs).1 ▸ hn) (apresCoups_borne hb cs) hr
  exact ⟨⟨cs ++ [c], (apresCoups_append g cs c).symm⟩, by simp [List.range_succ]⟩

theorem EnPartie.tirs {g : GameT} (h : EnPartie g) {e : Nat → PileTir × Lecture} {journal : Journal}
    {s : GameT × Journal} (hs : tirs g e journal = some s) : EnPartie s.1 ∧ s.1.etat = g.etat := by
  refine Loop.run_invariant (fun _ s => EnPartie s.1 ∧ s.1.etat = g.etat) ⟨h, rfl⟩ ?_ hs
  rintro i t v - ⟨ht, het⟩ hv
  simp only [Option.bind_eq_bind, Option.bind_eq_some_iff, Option.some.injEq] at hv
  obtain ⟨-, -, ⟨g', ack⟩, hr, rfl⟩ := hv
  obtain ⟨c, rfl⟩ := recevoirTir_cases ht.plateau ht.borne hr
  exact ⟨ht.apresCoup c, (t.1.apresCoup_regles c).2.2.2.2.2.2.2.trans het⟩

theorem EnPartie.avantVerdict {g : GameT} (h : EnPartie g) {e : EntreesManche} {journal : Journal}
    {s : GameT × Journal} (hs : avantVerdict g e journal = some s) : EnPartie s.1 ∧ s.1.etat = g.etat := by
  simp only [Serveur.avantVerdict, Option.bind_eq_bind, Option.bind_eq_some_iff] at hs
  obtain ⟨_, -, _, -, _, -, ht⟩ := hs
  exact h.tirs ht

theorem boucleJeu_succ (g : GameT) (entrees : Nat → EntreesManche) (m : Nat) :
    boucleJeu g entrees (m + 1) = (boucleJeu g entrees m).bind fun s =>
      if s.1.etat = 2 then some s else manche s.1 (entrees m) s.2 := Loop.run_succ _ _ _

theorem boucleJeu_enPartie {g : GameT} (h : EnPartie g) {entrees : Nat → EntreesManche} {m : Nat}
    {s : GameT × Journal} (hs : boucleJeu g entrees m = some s) : EnPartie s.1 := by
  refine Loop.run_invariant (fun _ s => EnPartie s.1) h ?_ hs
  intro i t v _ ht hv
  split at hv
  · exact Option.some.inj hv ▸ ht
  · simp only [manche, Option.bind_eq_bind, Option.bind_eq_some_iff] at hv
    obtain ⟨u, hu, hf⟩ := hv
    have hu' := (ht.avantVerdict hu).1
    simp only [verifierFinPartie, Option.bind_eq_bind, Option.bind_eq_some_iff, Option.some.injEq] at hf
    obtain ⟨⟨g₁, q⟩, hq, journal₁, -, rfl⟩ := hf
    simp only [choisirFin, Option.bind_eq_bind, Option.bind_eq_some_iff] at hq
    obtain ⟨n, -, hq⟩ := hq
    split at hq
    · simp only [Option.some.injEq, Prod.mk.injEq] at hq
      exact hq.1 ▸ ⟨hu'.plateau, hu'.bateau, hu'.joueurs, hu'.nbBateau, hu'.borne⟩
    · split at hq
      · simp only [Option.bind_eq_some_iff, Option.some.injEq, Prod.mk.injEq] at hq
        obtain ⟨_, -, rfl, -⟩ := hq
        exact hu'
      · simp only [Option.some.injEq, Prod.mk.injEq] at hq
        exact hq.1 ▸ hu'

theorem boucleJeu_arret {g : GameT} {entrees : Nat → EntreesManche} {m : Nat} {s : GameT × Journal}
    (hs : boucleJeu g entrees m = some s) (he : s.1.etat = 2) (d : Nat) :
    boucleJeu g entrees (m + d) = some s := by
  induction d with
  | zero => exact hs
  | succ d ih => rw [← Nat.add_assoc, boucleJeu_succ, ih, Option.bind_some, if_pos he]

theorem requeteGo_valide : requeteGo.Valide := by
  constructor <;> decide

theorem avantVerdict_echange {g : GameT} (hn : g.nbJoueur ≤ 100) {e : EntreesManche} {s : List Char}
    (hs : textePlateau g = some s)
    (hep : ∀ i, i < g.nbJoueur.toNat → echanger (e.plateau i) (requetePlateau s) = some ())
    (heg : ∀ i, i < g.nbJoueur.toNat → (e.go i).Lu) (journal : Journal) :
    ∃ journal', avantVerdict g e journal = tirs g e.tir journal' := by
  obtain ⟨j₁, h₁⟩ : ∃ j, aTous g (fun _ => some (requetePlateau s)) e.plateau journal = some j :=
    ⟨_, aTous_echange hn (fun i hi => ⟨_, rfl, hep i hi⟩) journal⟩
  obtain ⟨j₂, h₂⟩ : ∃ j, aTous g (fun _ => some requeteGo) e.go j₁ = some j :=
    ⟨_, aTous_spec hn (fun i _ => ⟨_, rfl, requeteGo_valide⟩) (fun i hi => (heg i hi).lisible) j₁⟩
  exact ⟨j₂, by simp only [avantVerdict, hs, h₁, h₂, Option.bind_eq_bind, Option.bind_some]⟩

theorem avantVerdict_spec {g : GameT} (hn : g.nbJoueur ≤ 100) (hp : g.taillePlateau ≤ 31)
    {e : EntreesManche} (hep : ∀ i, i < g.nbJoueur.toNat → (e.plateau i).Lu)
    (heg : ∀ i, i < g.nbJoueur.toNat → (e.go i).Lu) (journal : Journal) :
    ∃ journal', avantVerdict g e journal = tirs g e.tir journal' := by
  obtain ⟨s, hs⟩ : ∃ s, textePlateau g = some s := ⟨_, textePlateau_spec (by omega)⟩
  have hv := requetePlateau_valide hs hp
  exact avantVerdict_echange hn hs (fun i hi => echanger_lisible (hep i hi).lisible hv) heg journal

def apresTirs (g : GameT) (r : Nat → ReqT) (k : Nat) : GameT :=
  (List.range k).foldl (fun g i => g.apresCoup (coup (r i))) g

theorem apresTirs_succ (g : GameT) (r : Nat → ReqT) (k : Nat) :
    apresTirs g r (k + 1) = (apresTirs g r k).apresCoup (coup (r k)) := by
  simp only [apresTirs, List.range_succ, List.foldl_append, List.foldl_cons, List.foldl_nil]

theorem apresTirs_enPartie {g : GameT} (h : EnPartie g) (r : Nat → ReqT) (k : Nat) :
    EnPartie (apresTirs g r k) ∧ (apresTirs g r k).players = g.players := by
  induction k with
  | zero => exact ⟨h, rfl⟩
  | succ k ih =>
    rw [apresTirs_succ]
    exact ⟨ih.1.apresCoup _, (GameT.apresCoup_regles _ _).2.2.2.1.trans ih.2⟩

theorem tirs_spec {g : GameT} (h : EnPartie g) (hn : g.nbJoueur ≤ 100) {e : Nat → PileTir × Lecture} {r : Nat → ReqT}
    (hr : ∀ i, i < g.nbJoueur.toNat →
      recevoir unserialReq (e i).2 (e i).1.buff (e i).1.reponse = some (r i) ∧ TirBienForme (r i))
    (journal : Journal) :
    tirs g e journal = some (apresTirs g r g.nbJoueur.toNat,
      journal ++ (List.range g.nbJoueur.toNat).map fun i : Nat => ((i : Int), accuseOk)) := by
  have hrun := Loop.run_states (n := g.nbJoueur.toNat)
    (f := fun i (s : GameT × Journal) => do
      let _ ← get s.1.players i
      let t ← recevoirTir s.1 (e i).1 (e i).2
      some (t.1, s.2 ++ [((i : Int), accuseOk)]))
    (fun k => (apresTirs g r k, journal ++ (List.range k).map fun i : Nat => ((i : Int), accuseOk))) (by
      intro i hi
      obtain ⟨k, hk⟩ := exists_fin (n := 100) (i := (i : Int)) (by omega) (by omega)
      obtain ⟨hp, hpl⟩ := apresTirs_enPartie h r i
      have ht := recevoirTir_bienForme hp.plateau hp.borne (hr i hi).1 (hr i hi).2
      simp only [hk, get_fin, ht, apresTirs_succ, Option.bind_eq_bind, Option.bind_some, List.range_succ,
        List.map_append, List.map_singleton, List.append_assoc])
  simp only [List.range_zero, List.map_nil, List.append_nil] at hrun
  exact hrun

end Bnbr.Serveur
