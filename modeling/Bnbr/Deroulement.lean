import Bnbr.Hote
import Bnbr.Vainqueur

namespace Bnbr.Serveur

open CArray CString

structure EntreesPartie where
  infos : Nat → Echange
  avant : ReqT
  tours : Nat → Tour
  sondages : Nat
  manches : Nat → EntreesManche

structure Envois where
  infos : Journal
  bateaux : List (Int × List Char)
  jeu : Journal

-- envoyer_infos_partie, recevoir_bateaux and k rounds of the loop
def lancementPartie (g : GameT) (e : EntreesPartie) (k : Nat) : Option (GameT × Envois) := do
  let infos ← aTous g (fun _ => some (requeteInfos g)) e.infos []
  let c ← recevoirBateaux g e.avant e.tours e.sondages
  if c.fini then do
    let s ← boucleJeu c.game e.manches k
    some (s.1, ⟨infos, c.envois, s.2⟩)
  else none

theorem lancementPartie_eq_some {g f : GameT} {e : EntreesPartie} {k : Nat} {n : Envois}
    (h : lancementPartie g e k = some (f, n)) : ∃ c, recevoirBateaux g e.avant e.tours e.sondages = some c ∧ c.fini ∧
      boucleJeu c.game e.manches k = some (f, n.jeu) ∧
      aTous g (fun _ => some (requeteInfos g)) e.infos [] = some n.infos ∧ n.bateaux = c.envois := by
  simp only [lancementPartie, Option.bind_eq_bind, Option.bind_eq_some_iff] at h
  obtain ⟨infos, hi, c, hc, h⟩ := h
  split at h
  · rename_i hf
    simp only [Option.bind_eq_some_iff, Option.some.injEq, Prod.mk.injEq] at h
    obtain ⟨⟨f', jeu⟩, hj, rfl, rfl⟩ := h
    exact ⟨c, hc, hf, hj, hi, rfl⟩
  · cases h

def aChacun (nbJoueur : Int) (q : Requete) : Journal := (List.range nbJoueur.toNat).map fun i : Nat => ((i : Int), q)

theorem aTous_aChacun {g : GameT} {q : Requete} {e : Nat → Echange} {journal journal' : Journal}
    (h : aTous g (fun _ => some q) e journal = some journal') : journal' = journal ++ aChacun g.nbJoueur q :=
  (aTous_journal h).2

structure Propre (g : GameT) : Prop where
  nbBateau : g.plateau.nbBateau = 0
  vide : ∀ y x : Fin 50, Dans g.taillePlateau (coord y x) → g.plateau.cell y x = .empty

theorem Depot.complet {g : GameT} {c : Collecte} {ps : List Placement} (h : Depot g c ps) (hf : c.fini) :
    Complet g.nbJoueur ps := by
  have h1 := h.recus
  have h2 : c.nbBateauxRecu = c.game.nbJoueur := hf
  have h3 := h.game.nbJoueur
  rw [Complet, h.ids, show ps.length = g.nbJoueur.toNat by omega]

theorem Depot.regles {g : GameT} {c : Collecte} {ps : List Placement} (h : Depot g c ps) :
    c.game.taillePlateau = g.taillePlateau ∧ c.game.tailleBateau = g.tailleBateau ∧ c.game.nbJoueur = g.nbJoueur ∧
      c.game.etat = g.etat := by
  rw [h.game]
  simp

theorem Depot.flottille {g : GameT} {c : Collecte} {ps : List Placement} (hg : Registres g) (hp : Propre g)
    (h : Depot g c ps) (hf : c.fini) : Flottille c.game := by
  obtain ⟨-, h2, h3, -⟩ := h.regles
  have hj := hg.joueurs
  have hc := h.complet hf
  refine ⟨by omega, h3 ▸ hg.joueurs_le, h2 ▸ hg.bateau_le, ?_, fun i hi => ?_⟩
  · rw [h3]
    exact (h.places.flotte hg.bateau_le hp.nbBateau hc (by omega)).1
  · rw [h3] at hi
    obtain ⟨p, hm, rfl⟩ := hc.mem.mp hi
    rw [h2]
    exact h.places.taille p hm

def envoisBateaux (nbJoueur : Int) (places : Nat) : List (Int × List Char) :=
  ((List.range nbJoueur.toNat).map fun i : Nat => ((i : Int), demandeBateaux.texte ++ [nul])) ++
    (List.range places).map fun i : Nat => ((i : Int), accuseOk.texte ++ [nul])

def BateauxAcceptes (g : GameT) (e : EntreesPartie) : Prop :=
  ∀ k c, recevoirBateaux g e.avant e.tours k = some c → ¬ c.fini → (e.tours k).Accepte g

theorem recevoirBateaux_envois {g : GameT} (hg : Registres g) {e : EntreesPartie} (ht : BateauxAcceptes g e)
    (k : Nat) : ∃ c ps, recevoirBateaux g e.avant e.tours k = some c ∧ Bilan g c ps ∧
      c.envois = envoisBateaux g.nbJoueur ps.length := by
  induction k with
  | zero =>
    refine ⟨_, [], recevoirBateaux_debut hg.joueurs_le _ _, Bilan.zero hg _, ?_⟩
    simp only [envoisBateaux, List.length_nil, List.range_zero, List.map_nil, List.append_nil]
  | succ k ih =>
    obtain ⟨c, ps, hc, hb, he⟩ := ih
    by_cases hf : c.fini
    · exact ⟨c, ps, by rw [recevoirBateaux_succ, hc, Option.bind_some, etape, if_pos hf], hb, he⟩
    · rcases (ht k c hc hf).cas with hr | ⟨l, x, y, direction, hl, hd, hv⟩
      · exact ⟨c, ps, by rw [recevoirBateaux_succ, hc, Option.bind_some, hb.toDepot.etape_rien hg hf hr], hb, he⟩
      · obtain ⟨c', i, hi, hc', hb', he'⟩ := hb.etape_bateau hg hf hl hd hv
        refine ⟨c', _, by rw [recevoirBateaux_succ, hc, Option.bind_some, hc'], hb', ?_⟩
        simp only [he', he, hb.j, envoisBateaux, List.length_append, List.length_singleton, List.range_succ,
          List.map_append, List.map_singleton, List.append_assoc]

structure Manche (g a : GameT) (journal journal' : Journal) : Prop where
  flottille : Flottille a
  regles : a.taillePlateau = g.taillePlateau ∧ a.nbJoueur = g.nbJoueur ∧ a.etat = g.etat
  envois : ∃ s, textePlateau g = some s ∧ journal' = journal ++ aChacun g.nbJoueur (requetePlateau s) ++
    aChacun g.nbJoueur requeteGo ++ aChacun g.nbJoueur accuseOk ++ verdicts a

-- a is the game the verdict of the round is about
theorem manche_spec {g : GameT} (hf : Flottille g) (hn : g.taillePlateau ≤ 50) {e : EntreesManche} {journal : Journal}
    {s : GameT × Journal} (h : manche g e journal = some s) :
    ∃ a, s.1 = a.apresVerdict ∧ Manche g a journal s.2 := by
  simp only [manche, avantVerdict, Option.bind_eq_bind, Option.bind_eq_some_iff] at h
  obtain ⟨⟨a, j₃⟩, ⟨texte, ht, j₁, h₁, j₂, h₂, h₃⟩, hv⟩ := h
  obtain ⟨⟨cs, hcs⟩, hj₃⟩ := tirs_coups hn hf.borne h₃
  simp only at hcs hj₃ hv
  subst hcs
  obtain ⟨hp, -, hj, -, he⟩ := apresCoups_regles g cs
  have hfa := hf.apresCoups cs
  obtain ⟨hs, hjournal, -⟩ := verifierFinPartie_journal hfa hv
  refine ⟨_, hs, hfa, ⟨hp, hj, he⟩, texte, ht, ?_⟩
  rw [hjournal, hj₃, aTous_aChacun h₂, aTous_aChacun h₁]
  rfl

theorem tirer_sauf {g g' : GameT} {x y : Int} (h : tirer g x y = some g') : g.SaufPlateau g' := by
  simp only [tirer] at h
  split at h
  · obtain ⟨s, -, h⟩ := Option.bind_eq_some_iff.mp h
    split at h
    · simp only [Option.bind_eq_bind, Option.bind_eq_some_iff, Option.some.injEq] at h
      obtain ⟨-, -, plateau, -, rfl⟩ := h
      rfl
    · split at h
      · exact Option.some.inj h ▸ .refl g
      · simp only [Option.bind_eq_bind, Option.bind_eq_some_iff, Option.some.injEq] at h
        obtain ⟨cell, -, rfl⟩ := h
        rfl
  · exact Option.some.inj h ▸ .refl g

theorem recevoirTir_sauf {g g' : GameT} {pile : PileTir} {l : Lecture} {ack : List Char}
    (h : recevoirTir g pile l = some (g', ack)) : g.SaufPlateau g' := by
  simp only [recevoirTir, Option.bind_eq_bind, Option.bind_eq_some_iff, Option.some.injEq, Prod.mk.injEq] at h
  obtain ⟨r, -, -, -, g'', ht, rfl, -⟩ := h
  simp only [traiterTir] at ht
  split at ht
  · obtain ⟨nom, -, ht⟩ := Option.bind_eq_some_iff.mp ht
    split at ht
    · obtain ⟨infos, -, ht⟩ := Option.bind_eq_some_iff.mp ht
      exact tirer_sauf ht
    · exact Option.some.inj ht ▸ .refl g
  · exact Option.some.inj ht ▸ .refl g

theorem tirs_sauf {g : GameT} {e : Nat → PileTir × Lecture} {journal : Journal} {s : GameT × Journal}
    (h : tirs g e journal = some s) : g.SaufPlateau s.1 := by
  refine Loop.run_invariant (fun _ s => g.SaufPlateau s.1) (.refl g) ?_ h
  rintro i ⟨t, j⟩ v - ht hv
  simp only [Option.bind_eq_bind, Option.bind_eq_some_iff, Option.some.injEq] at hv
  obtain ⟨-, -, ⟨g', ack⟩, hr, rfl⟩ := hv
  exact ht.trans (recevoirTir_sauf hr)

theorem choisirFin_nbJoueur {g g' : GameT} {q : Nat → Option Requete} (h : choisirFin g = some (g', q)) :
    g'.nbJoueur = g.nbJoueur := by
  simp only [choisirFin, Option.bind_eq_bind, Option.bind_eq_some_iff] at h
  obtain ⟨n, -, h⟩ := h
  split at h
  · simp only [Option.some.injEq, Prod.mk.injEq] at h
    rw [← h.1]
  · split at h
    · simp only [Option.bind_eq_some_iff, Option.some.injEq, Prod.mk.injEq] at h
      obtain ⟨-, -, rfl, -⟩ := h
      rfl
    · simp only [Option.some.injEq, Prod.mk.injEq] at h
      rw [← h.1]

theorem avantVerdict_nbJoueur {g : GameT} {e : EntreesManche} {journal : Journal} {s : GameT × Journal}
    (h : avantVerdict g e journal = some s) : s.1.nbJoueur = g.nbJoueur := by
  simp only [avantVerdict, Option.bind_eq_bind, Option.bind_eq_some_iff] at h
  obtain ⟨_, -, _, -, _, -, ht⟩ := h
  exact (tirs_sauf ht).nbJoueur

theorem manche_nbJoueur {g : GameT} {e : EntreesManche} {journal : Journal} {s : GameT × Journal}
    (h : manche g e journal = some s) : s.1.nbJoueur = g.nbJoueur := by
  simp only [manche, verifierFinPartie, Option.bind_eq_bind, Option.bind_eq_some_iff] at h
  obtain ⟨a, ha, ⟨g', q⟩, hq, j', -, hs⟩ := h
  obtain rfl := Option.some.inj hs
  exact (choisirFin_nbJoueur hq).trans (avantVerdict_nbJoueur ha)

theorem lancementPartie_nbJoueur {g f : GameT} {e : EntreesPartie} {k : Nat} {n : Envois}
    (h : lancementPartie g e k = some (f, n)) : f.nbJoueur = g.nbJoueur := by
  obtain ⟨c, hc, -, hj, -, -⟩ := lancementPartie_eq_some h
  refine Loop.run_invariant (fun _ s => s.1.nbJoueur = g.nbJoueur) (recevoirBateaux_game hc).nbJoueur
    (fun m t v _ ht hv => ?_) hj
  split at hv
  · exact Option.some.inj hv ▸ ht
  · exact (manche_nbJoueur hv).trans ht

end Bnbr.Serveur
