import Bnbr.Permutation

namespace Bnbr.Serveur

open CArray CString Decimal Bataille

def pourJoueur {α : Type} (p : Nat) (journal : List (Int × α)) : List α :=
  (journal.filter fun m => m.1 = (p : Int)).map Prod.snd

@[simp] theorem pourJoueur_append {α : Type} (p : Nat) (a b : List (Int × α)) :
    pourJoueur p (a ++ b) = pourJoueur p a ++ pourJoueur p b := by
  simp [pourJoueur]

theorem pourJoueur_range {α : Type} (p n : Nat) (f : Nat → α) :
    pourJoueur p ((List.range n).map fun i : Nat => ((i : Int), f i)) = if p < n then [f p] else [] := by
  induction n with
  | zero => rfl
  | succ n ih =>
    rw [List.range_succ, List.map_append, pourJoueur_append, ih, List.map_singleton]
    rcases Nat.lt_trichotomy p n with h | rfl | h
    · have hne : ¬ (n : Int) = (p : Int) := by omega
      simp [pourJoueur, h, hne, Nat.lt_succ_of_lt h]
    · simp [pourJoueur]
    · have hne : ¬ (n : Int) = (p : Int) := by omega
      simp [pourJoueur, hne, show ¬ p < n by omega, show ¬ p < n + 1 by omega]

inductive Situation
  | aFlot
  | coule
  | seul
  | autreSeul
  | tousCoules
deriving DecidableEq, Repr

def situation (g : GameT) (p : Nat) : Situation :=
  if nbAFlot g = 0 then .tousCoules
  else if nbAFlot g = 1 then (if AFlot g p then .seul else .autreSeul)
  else (if AFlot g p then .aFlot else .coule)

def Situation.requete : Situation → Requete
  | .aFlot => requeteContinue
  | .coule => requeteStop
  | .seul => requeteGagne
  | .autreSeul => requetePerdu
  | .tousCoules => requetePerdu

theorem verdictDe_situation (g : GameT) (p : Nat) : verdictDe g p = (situation g p).requete := by
  unfold verdictDe situation
  split_ifs <;> rfl

theorem situation_tousCoules {g : GameT} {p : Nat} : situation g p = .tousCoules ↔ nbAFlot g = 0 := by
  unfold situation
  split_ifs <;> simp_all

structure MemePublic (n : Int) (a b : BoardT) : Prop where
  touches : ∀ y x : Fin 50, Dans n (coord y x) → (a.cell y x = .hitShot ↔ b.cell y x = .hitShot)
  manques : ∀ y x : Fin 50, Dans n (coord y x) → (a.cell y x = .missedShot ↔ b.cell y x = .missedShot)

structure MemesReglages (g₁ g₂ : GameT) : Prop where
  nbJoueur : g₁.nbJoueur = g₂.nbJoueur
  taillePlateau : g₁.taillePlateau = g₂.taillePlateau
  tailleBateau : g₁.tailleBateau = g₂.tailleBateau
  timeout : g₁.timeout = g₂.timeout
  etat : g₁.etat = g₂.etat

theorem chiffre_congr {s t : Status} (h2 : s = .hitShot ↔ t = .hitShot) (h1 : s = .missedShot ↔ t = .missedShot) :
    chiffre s = chiffre t := by
  cases s <;> cases t <;> simp_all [chiffre]

theorem MemePublic.texte {g₁ g₂ : GameT} (hn : g₁.taillePlateau ≤ 50) (ht : g₁.taillePlateau = g₂.taillePlateau)
    (h : MemePublic g₁.taillePlateau g₁.plateau g₂.plateau) : textePlateau g₁ = textePlateau g₂ := by
  rw [textePlateau_spec hn, textePlateau_spec (ht ▸ hn), ← ht, Option.some.injEq]
  apply List.map_congr_left
  intro m hm
  obtain ⟨hx, hy⟩ := square_index (List.mem_range.mp hm)
  generalize m % g₁.taillePlateau.toNat = y at hx
  generalize m / g₁.taillePlateau.toNat = x at hy
  have hd : Dans g₁.taillePlateau (coord ⟨y, by omega⟩ ⟨x, by omega⟩) := by
    simp only [Dans]
    omega
  have hlire (p : Cells) : Cells.lire p y x = p ⟨y, by omega⟩ ⟨x, by omega⟩ := Cells.lire_fin p ⟨y, _⟩ ⟨x, _⟩
  rw [hlire, hlire]
  exact chiffre_congr (h.touches _ _ hd) (h.manques _ _ hd)

theorem Bilan.nonTire {g : GameT} {c : Collecte} {ps : List Placement} (hp : Propre g) (h : Bilan g c ps)
    {y x : Fin 50} (hd : Dans g.taillePlateau (coord y x)) :
    c.game.plateau.cell y x ≠ .hitShot ∧ c.game.plateau.cell y x ≠ .missedShot := by
  by_cases hm : ∃ p ∈ ps, coord y x ∈ p.cases g.tailleBateau
  · rw [h.places.navire y x hm]
    decide
  · rw [h.places.vide y x hm, hp.vide y x hd]
    decide

-- the two runs after as many rounds, seen by player p
structure MemeVue (n : Int) (p : Nat) (s₁ s₂ : GameT × Journal) : Prop where
  flottes : Flottille s₁.1 ∧ Flottille s₂.1
  tailles : s₁.1.taillePlateau = n ∧ s₂.1.taillePlateau = n
  joueurs : s₁.1.nbJoueur = s₂.1.nbJoueur
  etats : s₁.1.etat = s₂.1.etat
  visible : MemePublic n s₁.1.plateau s₂.1.plateau
  recus : pourJoueur p s₁.2 = pourJoueur p s₂.2

theorem Manche.recus {g a : GameT} {journal journal' : Journal} (h : Manche g a journal journal') (p : Nat) :
    ∃ s, textePlateau g = some s ∧ pourJoueur p journal' = pourJoueur p journal ++
      if p < g.nbJoueur.toNat then [requetePlateau s, requeteGo, accuseOk, (situation a p).requete] else [] := by
  obtain ⟨s, hs, hj⟩ := h.envois
  refine ⟨s, hs, ?_⟩
  rw [hj]
  simp only [pourJoueur_append, aChacun, verdicts, pourJoueur_range, h.regles.2.1, verdictDe_situation]
  split <;> simp

theorem MemeVue.manche {n : Int} {p : Nat} {s₁ s₂ t₁ t₂ : GameT × Journal} (hn : n ≤ 50) (h : MemeVue n p s₁ s₂)
    {e₁ e₂ : EntreesManche} (h₁ : manche s₁.1 e₁ s₁.2 = some t₁) (h₂ : manche s₂.1 e₂ s₂.2 = some t₂)
    (hpub : MemePublic n t₁.1.plateau t₂.1.plateau) (hsit : situation t₁.1 p = situation t₂.1 p) :
    MemeVue n p t₁ t₂ := by
  have hn₁ := h.tailles.1
  have hn₂ := h.tailles.2
  obtain ⟨a₁, ha₁, hm₁⟩ := manche_spec h.flottes.1 (by omega) h₁
  obtain ⟨a₂, ha₂, hm₂⟩ := manche_spec h.flottes.2 (by omega) h₂
  have hsit' : situation a₁ p = situation a₂ p := by
    rw [ha₁, ha₂] at hsit
    exact hsit
  have hzero : nbAFlot a₁ = 0 ↔ nbAFlot a₂ = 0 := by
    rw [← situation_tousCoules (p := p), hsit', situation_tousCoules]
  have htexte := MemePublic.texte (by omega) (hn₁.trans hn₂.symm) (hn₁.symm ▸ h.visible)
  obtain ⟨s, hs₁, hj₁⟩ := hm₁.recus p
  obtain ⟨s', hs₂, hj₂⟩ := hm₂.recus p
  obtain rfl : s = s' := Option.some.inj (hs₁.symm.trans (htexte.trans hs₂))
  obtain ⟨ht₁, hnb₁, he₁⟩ := hm₁.regles
  obtain ⟨ht₂, hnb₂, he₂⟩ := hm₂.regles
  refine ⟨?_, ?_, ?_, ?_, hpub, ?_⟩
  · rw [ha₁, ha₂]
    exact ⟨hm₁.flottille.apresVerdict, hm₂.flottille.apresVerdict⟩
  · rw [ha₁, ha₂]
    exact ⟨ht₁.trans hn₁, ht₂.trans hn₂⟩
  · rw [ha₁, ha₂]
    exact hnb₁.trans (h.joueurs.trans hnb₂.symm)
  · rw [ha₁, ha₂]
    simp only [hzero, he₁, he₂, h.etats]
  · rw [hj₁, hj₂, h.recus, h.joueurs, hsit']

def ApresManches (g : GameT) (e : EntreesPartie) (m : Nat) (a : GameT) : Prop :=
  ∃ n, lancementPartie g e m = some (a, n)

def Envois.pour (n : Envois) (p : Nat) : List Requete × List (List Char) × List Requete :=
  (pourJoueur p n.infos, pourJoueur p n.bateaux, pourJoueur p n.jeu)

structure Depart (g : GameT) (e : EntreesPartie) : Prop where
  registres : Registres g
  propre : Propre g
  bateaux : BateauxAcceptes g e

def MemesManches (g₁ g₂ : GameT) (e₁ e₂ : EntreesPartie) (k p : Nat) : Prop :=
  ∀ m, 1 ≤ m → m ≤ k → ∀ a₁ a₂, ApresManches g₁ e₁ m a₁ → ApresManches g₂ e₂ m a₂ →
    MemePublic g₁.taillePlateau a₁.plateau a₂.plateau ∧ situation a₁ p = situation a₂ p

theorem lancementPartie_of_boucleJeu {g : GameT} {e : EntreesPartie} {infos : Journal} {c : Collecte}
    (hi : aTous g (fun _ => some (requeteInfos g)) e.infos [] = some infos)
    (hc : recevoirBateaux g e.avant e.tours e.sondages = some c) (hf : c.fini) {m : Nat} {s : GameT × Journal}
    (hs : boucleJeu c.game e.manches m = some s) : ApresManches g e m s.1 := by
  refine ⟨⟨infos, c.envois, s.2⟩, ?_⟩
  simp only [lancementPartie, hi, hc, hs, Option.bind_eq_bind, Option.bind_some]
  exact if_pos hf

theorem Depart.collecte {g : GameT} {e : EntreesPartie} (h : Depart g e) {k : Nat} {c : Collecte}
    (hc : recevoirBateaux g e.avant e.tours k = some c) :
    ∃ ps, Bilan g c ps ∧ c.envois = envoisBateaux g.nbJoueur ps.length := by
  obtain ⟨c', ps, hc', hb, he⟩ := recevoirBateaux_envois h.registres h.bateaux k
  obtain rfl : c = c' := Option.some.inj (hc.symm.trans hc')
  exact ⟨ps, hb, he⟩

theorem MemeVue.depart {g₁ g₂ : GameT} {e₁ e₂ : EntreesPartie} (h₁ : Depart g₁ e₁) (h₂ : Depart g₂ e₂)
    (hr : MemesReglages g₁ g₂) {c₁ c₂ : Collecte} {ps₁ ps₂ : List Placement} (hb₁ : Bilan g₁ c₁ ps₁)
    (hb₂ : Bilan g₂ c₂ ps₂) (hf₁ : c₁.fini) (hf₂ : c₂.fini) (p : Nat) :
    MemeVue g₁.taillePlateau p (c₁.game, []) (c₂.game, []) := by
  obtain ⟨t₁, -, j₁, i₁⟩ := hb₁.toDepot.regles
  obtain ⟨t₂, -, j₂, i₂⟩ := hb₂.toDepot.regles
  have ht := hr.taillePlateau
  refine ⟨⟨hb₁.toDepot.flottille h₁.registres h₁.propre hf₁, hb₂.toDepot.flottille h₂.registres h₂.propre hf₂⟩,
    ⟨t₁, t₂.trans ht.symm⟩, ?_, ?_, ⟨fun y x hd => ?_, fun y x hd => ?_⟩, rfl⟩
  · rw [j₁, j₂, hr.nbJoueur]
  · rw [i₁, i₂, hr.etat]
  · simp only [(hb₁.nonTire h₁.propre hd).1, (hb₂.nonTire h₂.propre (ht ▸ hd)).1]
  · simp only [(hb₁.nonTire h₁.propre hd).2, (hb₂.nonTire h₂.propre (ht ▸ hd)).2]

theorem boucleJeu_pareil {g₁ g₂ : GameT} {e₁ e₂ : Nat → EntreesManche} {n : Int} (hn : n ≤ 50) {p : Nat}
    (h0 : MemeVue n p (g₁, []) (g₂, [])) {k : Nat}
    (hpub : ∀ m, 1 ≤ m → m ≤ k → ∀ s₁ s₂, boucleJeu g₁ e₁ m = some s₁ → boucleJeu g₂ e₂ m = some s₂ →
      MemePublic n s₁.1.plateau s₂.1.plateau ∧ situation s₁.1 p = situation s₂.1 p) {s₁ s₂ : GameT × Journal}
    (h₁ : boucleJeu g₁ e₁ k = some s₁) (h₂ : boucleJeu g₂ e₂ k = some s₂) : MemeVue n p s₁ s₂ := by
  induction k generalizing s₁ s₂ with
  | zero =>
    obtain rfl := Option.some.inj h₁
    obtain rfl := Option.some.inj h₂
    exact h0
  | succ k ih =>
    obtain ⟨hv, hs⟩ := hpub (k + 1) (by omega) (le_refl _) s₁ s₂ h₁ h₂
    rw [boucleJeu_succ, Option.bind_eq_some_iff] at h₁ h₂
    obtain ⟨u₁, hu₁, h₁⟩ := h₁
    obtain ⟨u₂, hu₂, h₂⟩ := h₂
    have hp := ih (fun m h1 hm => hpub m h1 (by omega)) hu₁ hu₂
    by_cases he : u₁.1.etat = 2
    · rw [if_pos he] at h₁
      rw [if_pos (hp.etats ▸ he)] at h₂
      obtain rfl := Option.some.inj h₁
      obtain rfl := Option.some.inj h₂
      exact hp
    · rw [if_neg he] at h₁
      rw [if_neg (hp.etats ▸ he)] at h₂
      exact hp.manche hn h₁ h₂ hv hs

theorem MemePublic.apresTir {n : Int} {a b : BoardT} (h : MemePublic n a b) {y x : Fin 50}
    (hyx : a.cell y x = b.cell y x) : MemePublic n (a.apresTir y x) (b.apresTir y x) := by
  have hcell (s : Status) :
      MemePublic n { a with cell := a.cell.update y x s } { b with cell := b.cell.update y x s } := by
    refine ⟨fun r c hd => ?_, fun r c hd => ?_⟩
    · simp only [Cells.update]
      split
      · exact Iff.rfl
      · exact h.touches r c hd
    · simp only [Cells.update]
      split
      · exact Iff.rfl
      · exact h.manques r c hd
  unfold BoardT.apresTir
  rw [← hyx]
  cases a.cell y x with
  | boat => exact ⟨(hcell .hitShot).touches, (hcell .hitShot).manques⟩
  | hitShot => exact h
  | empty => exact hcell .missedShot
  | missedShot => exact hcell .missedShot

theorem BoardT.apresTir_case_autre {b : BoardT} {y x : Fin 50} {i : Fin 100} {j : Fin 10}
    (h : (b.bateaux i).case j ≠ coord y x) : ((b.apresTir y x).bateaux i).cell j = (b.bateaux i).cell j := by
  rw [BoardT.apresTir_bateau]
  split
  · rw [BateauT.toucher_cell, if_neg fun hc => h (Prod.ext hc.2.1 hc.2.2)]
  · rfl

theorem AFlot.of_case {g : GameT} {i : Fin 100} {j : Fin 10} (hi : (i.val : Int) < g.nbJoueur)
    (hj : (j.val : Int) < g.tailleBateau) (hs : ((g.plateau.bateaux i).cell j).status ≠ .hitShot) : AFlot g i.val :=
  ⟨by omega, fun hc => hs (hc i rfl j hj)⟩

theorem situation_aFlot {g : GameT} (h2 : 2 ≤ g.nbJoueur) (h : ∀ i, i < g.nbJoueur.toNat → AFlot g i) {p : Nat}
    (hp : p < g.nbJoueur.toNat) : situation g p = .aFlot := by
  have hcount : nbAFlot g = g.nbJoueur.toNat := by
    rw [nbAFlot, Nat.count_iff_forall]
    exact fun i hi => h i hi
  rw [situation, if_neg (by omega), if_neg (by omega), if_pos (h p hp)]

-- every player sends the same boat, and every round is the same
def partieDe (q : Requete) (h : q.Valide) (nbJoueur : Nat) (m : EntreesManche) : EntreesPartie where
  infos := fun _ => accuseRecu
  avant := reqVierge
  tours := fun _ => Tour.message q h pileBateau
  sondages := nbJoueur
  manches := fun _ => m

theorem partieDe_collecte {g : GameT} (hg : Registres g) {q : Requete} {h : q.Valide} {x y : Int} {direction : Char}
    (hd : Decrit (Lecture.entiere q h).recu x y direction)
    (hv : ∀ id, (Placement.mk id x y direction).Valide g.taillePlateau g.tailleBateau) (n : Nat) (m : EntreesManche)
    {k : Nat} (hk : k ≤ g.nbJoueur.toNat) :
    ∃ c ps, recevoirBateaux g (partieDe q h n m).avant (partieDe q h n m).tours k = some c ∧ Bilan g c ps ∧
      ps.length = k ∧ ∀ p ∈ ps, p = ⟨p.id, x, y, direction⟩ := by
  induction k with
  | zero => exact ⟨_, [], recevoirBateaux_debut hg.joueurs_le _ _, Bilan.zero hg _, rfl, by simp⟩
  | succ k ih =>
    obtain ⟨c, ps, hc, hb, hps, hmem⟩ := ih (by omega)
    have hf : ¬ c.fini := by
      have h1 := hb.recus
      have h2 := hb.toDepot.regles.2.2.1
      rw [Collecte.fini]
      omega
    obtain ⟨c', i, -, hc', hb', -⟩ := hb.etape_bateau hg hf (t := (partieDe q h n m).tours k) rfl hd hv
    refine ⟨c', _, ?_, hb', ?_, fun p hp => ?_⟩
    · rw [recevoirBateaux_succ, hc, Option.bind_some, hc']
    · rw [List.length_append, hps, List.length_singleton]
    · rcases List.mem_append.mp hp with hp | hp
      · exact hmem p hp
      · rw [List.mem_singleton.mp hp]

theorem partieDe_tour {g : GameT} (hg : Registres g) (hi : g.Entiers) (he : g.etat ≠ 2) {q : Requete} {h : q.Valide}
    {x y : Int} {direction : Char} (hd : Decrit (Lecture.entiere q h).recu x y direction)
    (hv : ∀ id, (Placement.mk id x y direction).Valide g.taillePlateau g.tailleBateau) (m : EntreesManche) :
    ∃ c ps, recevoirBateaux g (partieDe q h g.nbJoueur.toNat m).avant (partieDe q h g.nbJoueur.toNat m).tours
        g.nbJoueur.toNat = some c ∧ Bilan g c ps ∧ c.fini ∧ (∀ p ∈ ps, p = ⟨p.id, x, y, direction⟩) ∧
      ∀ f journal, manche c.game m [] = some (f, journal) →
        ∃ n, lancementPartie g (partieDe q h g.nbJoueur.toNat m) 1 = some (f, n) := by
  obtain ⟨c, ps, hc, hb, hps, hmem⟩ := partieDe_collecte hg hd hv g.nbJoueur.toNat m (le_refl _)
  obtain ⟨-, -, h3, h4⟩ := hb.toDepot.regles
  have h0 := hg.joueurs
  have hf : c.fini := by
    have hr := hb.recus
    rw [Collecte.fini]
    omega
  refine ⟨c, ps, hc, hb, hf, hmem, fun f journal hm => ?_⟩
  have hboucle : boucleJeu c.game (partieDe q h g.nbJoueur.toNat m).manches 1 = some (f, journal) := by
    rw [boucleJeu_succ, boucleJeu, Loop.run_zero, Option.bind_some, if_neg (h4 ▸ he)]
    exact hm
  have hinfos := aTous_spec (q := fun _ => some (requeteInfos g)) hg.joueurs_le
    (fun _ _ => ⟨_, rfl, requeteInfos_valide hi⟩) (fun _ _ => accuseRecu_lu.lisible) []
  exact lancementPartie_of_boucleJeu (e := partieDe q h g.nbJoueur.toNat m) hinfos hc hf hboucle

def viser (i : Nat) : Int := if i = 0 then 0 else 3

theorem viser_int (i : Nat) : InInt (viser i) := by
  unfold viser
  split <;> decide

def mancheTirs : EntreesManche where
  plateau := fun _ => accuseRecu
  go := fun _ => accuseRecu
  tir := fun i => (⟨reqVierge, reqVierge, Buf.fill maxBuffer 'x', (0, 0)⟩,
    Lecture.entiere (requeteTir (viser i) (viser i)) (requeteTir_valide (viser_int i) (viser_int i)))
  fin := fun _ => accuseRecu

def GameT.deuxTirs (g : GameT) : GameT := (g.apresCoup (some (0, 0))).apresCoup (some (3, 3))

theorem manche_tirs {g : GameT} (hf : Flottille g) (hp : EnPartie g) (h2 : g.nbJoueur = 2) (hn : g.taillePlateau ≤ 31) :
    ∃ journal, manche g mancheTirs [] = some (g.deuxTirs.apresVerdict, journal) := by
  obtain ⟨j, hj⟩ := avantVerdict_spec (e := mancheTirs) hf.joueurs_le hn (fun _ _ => accuseRecu_lu)
    (fun _ _ => accuseRecu_lu) []
  have ht := tirs_spec (e := mancheTirs.tir) hp hf.joueurs_le (fun i _ => ⟨recevoir_livrer
    (requeteTir_valide (viser_int i) (viser_int i)) _ _, bienForme_requeteTir (viser_int i) (viser_int i) reqVierge⟩) j
  simp only [h2, show (2 : Int).toNat = 1 + 1 from rfl, Serveur.apresTirs_succ,
    coup_requeteTir (viser_int _) (viser_int _)]
    at ht
  have hv := verifierFinPartie_lisible ((hf.apresCoup (some (0, 0))).apresCoup (some (3, 3))) (e := mancheTirs.fin)
    (fun _ _ => accuseRecu_lu.lisible)
  exact ⟨_, by rw [manche, hj, ht]; exact hv _⟩

theorem bateaux_caches (g₁ g₂ : GameT) (e₁ e₂ : EntreesPartie) (h₁ : Depart g₁ e₁) (h₂ : Depart g₂ e₂)
    (hr : MemesReglages g₁ g₂) (k p : Nat) (hpub : MemesManches g₁ g₂ e₁ e₂ k p) (f₁ f₂ : GameT) (n₁ n₂ : Envois)
    (hl₁ : lancementPartie g₁ e₁ k = some (f₁, n₁)) (hl₂ : lancementPartie g₂ e₂ k = some (f₂, n₂)) :
    n₁.pour p = n₂.pour p := by
  obtain ⟨c₁, hc₁, hf₁, hj₁, hi₁, hn₁⟩ := lancementPartie_eq_some hl₁
  obtain ⟨c₂, hc₂, hf₂, hj₂, hi₂, hn₂⟩ := lancementPartie_eq_some hl₂
  obtain ⟨ps₁, hb₁, he₁⟩ := h₁.collecte hc₁
  obtain ⟨ps₂, hb₂, he₂⟩ := h₂.collecte hc₂
  have hp := boucleJeu_pareil h₁.registres.plateau (MemeVue.depart h₁ h₂ hr hb₁ hb₂ hf₁ hf₂ p)
    (fun m h1 hm s₁ s₂ hs₁ hs₂ => hpub m h1 hm s₁.1 s₂.1 (lancementPartie_of_boucleJeu hi₁ hc₁ hf₁ hs₁)
      (lancementPartie_of_boucleJeu hi₂ hc₂ hf₂ hs₂)) hj₁ hj₂
  have hinfos : requeteInfos g₁ = requeteInfos g₂ := by
    simp only [requeteInfos, hr.nbJoueur, hr.taillePlateau, hr.tailleBateau, hr.timeout]
  have hlen : ps₁.length = ps₂.length := by
    rw [(hb₁.toDepot.complet hf₁).length, (hb₂.toDepot.complet hf₂).length, hr.nbJoueur]
  refine Prod.ext ?_ (Prod.ext ?_ hp.recus)
  · simp only [Envois.pour, aTous_aChacun hi₁, aTous_aChacun hi₂, hr.nbJoueur, hinfos]
  · simp only [Envois.pour, hn₁, hn₂, he₁, he₂, hr.nbJoueur, hlen]

structure Frappe (v : Int × Int) (g : GameT) : Prop where
  regles : g.taillePlateau = 4 ∧ g.tailleBateau = 2 ∧ g.nbJoueur = 2
  touchee : g.plateau.cell 0 0 = .boat
  manquee : g.plateau.cell 3 3 = .empty
  bateaux : ∀ i : Fin 100, (i.val : Int) < 2 → (g.plateau.bateaux i).cell 1 = ⟨v.1, v.2, .boat⟩

theorem Frappe.plateau {v : Int × Int} {g : GameT} (h : Frappe v g) :
    g.deuxTirs.plateau = (g.plateau.apresTir 0 0).apresTir 3 3 := by
  have hd (y x : Fin 50) (hd : Dans 4 (coord y x)) {g' : GameT} (hg : g'.taillePlateau = 4) :
      (g'.apresCoup (some (coord y x))).plateau = g'.plateau.apresTir y x := by
    simp only [GameT.apresCoup, GameT.apresTir_dans (hg.symm ▸ hd)]
  have h1 := hd 0 0 (by decide) h.regles.1
  have h2 := hd 3 3 (by decide) ((g.apresCoup_regles (some (coord 0 0))).1.trans h.regles.1)
  rw [h1] at h2
  exact h2

-- the boats are hit once, and their second cell keeps them afloat
theorem Frappe.situation {v : Int × Int} {g : GameT} (h : Frappe v g) (hv : v = (1, 0) ∨ v = (0, 1)) {p : Nat}
    (hp : p < 2) : Serveur.situation g.deuxTirs.apresVerdict p = .aFlot := by
  obtain ⟨-, h2, h3, -⟩ := g.apresCoup_regles (some (0, 0))
  obtain ⟨-, i2, i3, -⟩ := (g.apresCoup (some (0, 0))).apresCoup_regles (some (3, 3))
  have hj : g.deuxTirs.nbJoueur = 2 := i3.trans (h3.trans h.regles.2.2)
  have ht : g.deuxTirs.tailleBateau = 2 := i2.trans (h2.trans h.regles.2.1)
  refine situation_aFlot (g := g.deuxTirs) (by omega) (fun i hi => ?_) (by omega)
  obtain ⟨k, hk⟩ := exists_fin (n := 100) (i := (i : Int)) (by omega) (by omega)
  obtain rfl : i = k.val := by omega
  have hb := h.bateaux k (by omega)
  have hcase : (g.plateau.bateaux k).case 1 = v := by rw [BateauT.case, hb]
  have h1 : ((g.plateau.apresTir 0 0).bateaux k).cell 1 = (g.plateau.bateaux k).cell 1 :=
    BoardT.apresTir_case_autre (by rw [hcase]; rcases hv with rfl | rfl <;> decide)
  have hcase' : ((g.plateau.apresTir 0 0).bateaux k).case 1 = v := by rw [BateauT.case, h1, hb]
  have h2 : (((g.plateau.apresTir 0 0).apresTir 3 3).bateaux k).cell 1 = (g.plateau.bateaux k).cell 1 :=
    (BoardT.apresTir_case_autre (by rw [hcase']; rcases hv with rfl | rfl <;> decide)).trans h1
  refine AFlot.of_case (j := 1) (by omega) (by rw [ht]; decide) ?_
  rw [h.plateau, h2, hb]
  exact Status.noConfusion

theorem Frappe.publique {v v' : Int × Int} {g g' : GameT} (h : Frappe v g) (h' : Frappe v' g')
    (hp : MemePublic 4 g.plateau g'.plateau) : MemePublic 4 g.deuxTirs.plateau g'.deuxTirs.plateau := by
  rw [h.plateau, h'.plateau]
  refine (hp.apresTir (h.touchee.trans h'.touchee.symm)).apresTir ?_
  rw [BoardT.apresTir_ailleurs _ (by decide), BoardT.apresTir_ailleurs _ (by decide), h.manquee, h'.manquee]

theorem Placement.case_coin {direction : Char} {v : Int × Int} (hpas : pas direction = some v) (id : Fin 100)
    (k : Nat) : (Placement.mk id 0 0 direction).case k = (k * v.1, k * v.2) := by
  rw [Placement.case_pas hpas]
  simp only [kieme, zero_add]

theorem Placement.valide_coin {direction : Char} {v : Int × Int} (hpas : pas direction = some v)
    (hv : v = (1, 0) ∨ v = (0, 1)) (id : Fin 100) : (Placement.mk id 0 0 direction).Valide 4 2 := by
  refine ⟨by rw [hpas]; rfl, fun k hk => ?_⟩
  rw [Placement.case_coin hpas]
  rcases hv with rfl | rfl <;> simp only [Dans] <;> omega

-- every boat lies on the two cells (0, 0) and v
theorem Bilan.coin {c : Collecte} {ps : List Placement} (hb : Bilan (GameT.depart 2 4 2) c ps) {direction : Char}
    {v : Int × Int} (hpas : pas direction = some v) (hps : ∀ p ∈ ps, p = ⟨p.id, 0, 0, direction⟩)
    (h0 : Placement.mk 0 0 0 direction ∈ ps) (y x : Fin 50) :
    c.game.plateau.cell y x = if coord y x = (0, 0) ∨ coord y x = v then .boat else .empty := by
  split
  · rename_i hq
    refine hb.places.navire y x ⟨_, h0, ?_⟩
    rcases hq with hq | hq
    · exact ⟨0, by decide, by rw [Placement.case_coin hpas, hq]; simp⟩
    · exact ⟨1, by decide, by rw [Placement.case_coin hpas, hq]; simp⟩
  · rename_i hq
    refine hb.places.vide y x ?_
    rintro ⟨p, hmem, k, hk, he⟩
    rw [hps p hmem, Placement.case_coin hpas] at he
    have hk' : k = 0 ∨ k = 1 := by
      have : (k : Int) < 2 := hk
      omega
    rcases hk' with rfl | rfl
    · exact hq (.inl (by rw [← he]; simp))
    · exact hq (.inr (by rw [← he]; simp))

theorem partieTirs {direction : Char} {v : Int × Int} (hpas : pas direction = some v) (hv : v = (1, 0) ∨ v = (0, 1))
    (hd : isspace direction = false) (h : (requeteBateau 0 0 direction).Valide) :
    ∃ g n, lancementPartie (GameT.depart 2 4 2) (partieDe (requeteBateau 0 0 direction) h 2 mancheTirs) 1 =
        some (g.deuxTirs.apresVerdict, n) ∧
      Depart (GameT.depart 2 4 2) (partieDe (requeteBateau 0 0 direction) h 2 mancheTirs) ∧ Frappe v g ∧
      ∀ y x : Fin 50, g.plateau.cell y x = if coord y x = (0, 0) ∨ coord y x = v then .boat else .empty := by
  have hg : Registres (GameT.depart 2 4 2) := GameT.depart_registres (by decide) (by decide) (by decide)
  have hp : Propre (GameT.depart 2 4 2) := ⟨rfl, fun _ _ _ => rfl⟩
  have hdec := decrit_requeteBateau h (by decide) (by decide) hd
  have hval := Placement.valide_coin hpas hv
  obtain ⟨c, ps, hc, hb, hf, hps, hrun⟩ := partieDe_tour hg (by constructor <;> decide) (by decide) hdec hval mancheTirs
  obtain ⟨r1, r2, r3, -⟩ := hb.toDepot.regles
  have hflot := hb.toDepot.flottille hg hp hf
  have hjoueur (i : Fin 100) (hi : (i.val : Int) < 2) : (Placement.mk i 0 0 direction) ∈ ps := by
    obtain ⟨p, hmem, rfl⟩ := (hb.toDepot.complet hf).mem.mp hi
    exact hps p hmem ▸ hmem
  have hcell := hb.coin hpas hps (hjoueur 0 (by decide))
  have hpartie : EnPartie c.game := ⟨r1 ▸ hg.plateau, r2 ▸ hg.bateau_le, by rw [r3]; decide,
    hflot.nbBateau ▸ hflot.joueurs, hflot.borne⟩
  obtain ⟨j, hj⟩ := manche_tirs hflot hpartie r3 (by rw [r1]; decide)
  obtain ⟨n, hn⟩ := hrun _ j hj
  refine ⟨c.game, n, hn, ⟨hg, hp, fun k c _ _ l hl _ => ?_⟩, ⟨⟨r1, r2, r3⟩, ?_, ?_, fun i hi => ?_⟩, hcell⟩
  · obtain rfl := Sondage.lecture.inj hl
    exact ⟨0, 0, direction, hdec, hval⟩
  · rw [hcell]
    exact if_pos (.inl rfl)
  · rw [hcell]
    refine if_neg ?_
    rcases hv with rfl | rfl <;> decide
  · rw [hb.places.bateau _ (hjoueur i hi) 1 (by decide), Placement.case_coin hpas]
    simp

theorem bateaux_caches_tirs : ∃ h h' f₁ f₂ n₁ n₂,
    lancementPartie (GameT.depart 2 4 2) (partieDe (requeteBateau 0 0 'd') h 2 mancheTirs) 1 = some (f₁, n₁) ∧
      lancementPartie (GameT.depart 2 4 2) (partieDe (requeteBateau 0 0 'b') h' 2 mancheTirs) 1 = some (f₂, n₂) ∧
      f₁.plateau.cell 0 1 = .boat ∧ f₂.plateau.cell 0 1 = .empty ∧ n₁.pour 0 = n₂.pour 0 := by
  have h : (requeteBateau 0 0 'd').Valide := requeteBateau_valide (by decide) (by decide) (by decide)
  have h' : (requeteBateau 0 0 'b').Valide := requeteBateau_valide (by decide) (by decide) (by decide)
  obtain ⟨g₁, n₁, hl₁, hd₁, hf₁, hc₁⟩ := partieTirs (v := (1, 0)) rfl (.inl rfl) (by decide) h
  obtain ⟨g₂, n₂, hl₂, hd₂, hf₂, hc₂⟩ := partieTirs (v := (0, 1)) rfl (.inr rfl) (by decide) h'
  have hpublic : MemePublic 4 g₁.plateau g₂.plateau := by
    have hne (g : GameT) {v : Int × Int}
        (hc : ∀ y x, g.plateau.cell y x = if coord y x = (0, 0) ∨ coord y x = v then .boat else .empty) (y x : Fin 50) :
        g.plateau.cell y x ≠ .hitShot ∧ g.plateau.cell y x ≠ .missedShot := by
      rw [hc]
      split <;> decide
    refine ⟨fun y x _ => ?_, fun y x _ => ?_⟩
    · simp only [(hne g₁ hc₁ y x).1, (hne g₂ hc₂ y x).1]
    · simp only [(hne g₁ hc₁ y x).2, (hne g₂ hc₂ y x).2]
  have hautre (g : GameT) {v : Int × Int} (hf : Frappe v g) :
      g.deuxTirs.apresVerdict.plateau.cell 0 1 = g.plateau.cell 0 1 := by
    rw [show g.deuxTirs.apresVerdict.plateau = g.deuxTirs.plateau from rfl, hf.plateau,
      BoardT.apresTir_ailleurs _ (by decide), BoardT.apresTir_ailleurs _ (by decide)]
  refine ⟨h, h', _, _, n₁, n₂, hl₁, hl₂, ?_, ?_, ?_⟩
  · rw [hautre g₁ hf₁, hc₁]
    rfl
  · rw [hautre g₂ hf₂, hc₂]
    rfl
  · refine bateaux_caches (GameT.depart 2 4 2) (GameT.depart 2 4 2) _ _ hd₁ hd₂ ⟨rfl, rfl, rfl, rfl, rfl⟩ 1 0
      (fun m h1 hm a₁ a₂ ha₁ ha₂ => ?_) _ _ n₁ n₂ hl₁ hl₂
    obtain rfl : m = 1 := by omega
    obtain ⟨n, hn⟩ := ha₁
    obtain ⟨n', hn'⟩ := ha₂
    obtain ⟨rfl, rfl⟩ := Prod.mk.inj (Option.some.inj (hn.symm.trans hl₁))
    obtain ⟨rfl, rfl⟩ := Prod.mk.inj (Option.some.inj (hn'.symm.trans hl₂))
    exact ⟨hf₁.publique hf₂ hpublic,
      (hf₁.situation (.inl rfl) (by decide)).trans (hf₂.situation (.inr rfl) (by decide)).symm⟩

end Bnbr.Serveur
