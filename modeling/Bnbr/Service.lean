import Mathlib.Data.Nat.Count
import Bnbr.Collecte

namespace Bnbr.Serveur

open CArray CString Decimal Scanf

variable {g : GameT} {avant : ReqT} {tours : Nat → Tour}

def Decrit (recu : List Char) (x y : Int) (direction : Char) : Prop :=
  ∃ s infos, text recu = some s ∧ (champs s).id = some 3 ∧ (champs s).infos = some infos ∧
    triplet infos.1 = (some x, some y, some direction)

structure Registres (g : GameT) : Prop where
  plateau : g.taillePlateau ≤ 50
  bateau : 1 ≤ g.tailleBateau
  bateau_le : g.tailleBateau ≤ 10
  joueurs : 1 ≤ g.nbJoueur
  joueurs_le : g.nbJoueur ≤ 100
  id : ∀ i : Fin 100, (i.val : Int) < g.nbJoueur → (g.players i).id = i.val

theorem Decrit.recu {l : Lecture} {x y : Int} {direction : Char} (h : Decrit l.recu x y direction)
    (pile : PileBateau) :
    ∃ r, recevoirNonBlock unserialReq (.lecture l) pile.buff pile.reponse = some (some r) ∧ r.id = 3 ∧
      ∃ infos, r.infos.str = some infos ∧ lireBateau infos pile.xyd = (toInt x, toInt y, direction) := by
  obtain ⟨s, infos, hs, hid, hinfos, htr⟩ := h
  have hsuit := unserialReq_suit (text_nul_notMem hs) pile.reponse
  have hr : recevoir unserialReq l pile.buff pile.reponse = some (unserialReq s pile.reponse) :=
    recevoir_texte hs _ _ _
  refine ⟨unserialReq s pile.reponse, ?_, ?_, infos.1, ?_, ?_⟩
  · cases l with
    | octets a ha => simp only [recevoirNonBlock, hr, Option.map_some]
    | fin => simp only [recevoirNonBlock, hr, Option.map_some]
    | erreur => cases hs
  · rw [hsuit.id, hid]
    rfl
  · rw [hsuit.infos, hinfos]
    rfl
  · rw [lireBateau_triplet, htr]
    rfl

theorem lu_requeteBateau {x y : Int} {direction : Char} (hx : InInt x) (hy : InInt y) (hd : isspace direction = false) :
    lu 999 (requeteBateau x y direction).infos = print x ++ ';' :: (print y ++ [';', direction]) := by
  have h1 := InInt.print_length hx
  have h2 := InInt.print_length hy
  refine lu_of_all (fun c hc => ?_) ?_
  · simp only [requeteBateau, List.mem_append, List.mem_cons, List.not_mem_nil, or_false] at hc
    rcases hc with hc | rfl | hc | rfl | rfl
    · exact mem_print_not_space hc
    · decide
    · exact mem_print_not_space hc
    · decide
    · exact hd
  · simp only [requeteBateau, List.length_append, List.length_cons, List.length_nil]
    omega

theorem decrit_requeteBateau {x y : Int} {direction : Char} (h : (requeteBateau x y direction).Valide)
    (hx : InInt x) (hy : InInt y) (hd : isspace direction = false) :
    Decrit (Lecture.entiere (requeteBateau x y direction) h).recu x y direction := by
  have hlu := lu_requeteBateau hx hy hd
  obtain ⟨hid, -, hinfos⟩ := champs_texte h (by simp [hlu])
  obtain ⟨infos, hi, hval⟩ := Option.map_eq_some_iff.mp hinfos
  exact ⟨_, infos, text_append _ h.texte_nul, hid, hi, by rw [hval, hlu, triplet_print]⟩

def BateauDe (g : GameT) (avant : ReqT) (tours : Nat → Tour) (k i : Nat) : Prop :=
  ∃ c, recevoirBateaux g avant tours k = some c ∧ ¬ c.fini ∧ c.j = (i : Int) ∧
    ∃ r, (tours k).pris = some r ∧ r.id = 3

structure Service (g : GameT) (avant : ReqT) (tours : Nat → Tour) : Prop where
  defini : ∀ k, ∃ c, recevoirBateaux g avant tours k = some c
  joueurs : ∀ k c, recevoirBateaux g avant tours k = some c → ¬ c.fini → 0 ≤ c.j ∧ c.j < g.nbJoueur
  rejoue : ∀ k c r, recevoirBateaux g avant tours k = some c → ¬ c.fini → (tours k).pris = some r → r.id ≠ 3 →
    ∃ m c', k < m ∧ recevoirBateaux g avant tours m = some c' ∧ ¬ c'.fini ∧ c'.j = c.j
  servi : ∀ k c, recevoirBateaux g avant tours k = some c → c.fini → ∀ i : Nat, (i : Int) < g.nbJoueur →
    ∃! m, m < k ∧ BateauDe g avant tours m i

structure Compte (g : GameT) (avant : ReqT) (tours : Nat → Tour) (k : Nat) (c : Collecte) : Prop where
  recus : c.nbBateauxRecu = c.j
  bas : 0 ≤ c.j
  haut : c.j ≤ g.nbJoueur
  servis : ∀ i : Nat, (i : Int) < c.j → ∃! m, m < k ∧ BateauDe g avant tours m i
  attendus : ∀ i m : Nat, c.j ≤ (i : Int) → m < k → ¬ BateauDe g avant tours m i

theorem Compte.sansBateau {k : Nat} {c : Collecte} (h : Compte g avant tours k c)
    (hn : ∀ i, ¬ BateauDe g avant tours k i) : Compte g avant tours (k + 1) c where
  recus := h.recus
  bas := h.bas
  haut := h.haut
  servis := fun i hi => by
    obtain ⟨m, ⟨hm, hb⟩, hu⟩ := h.servis i hi
    refine ⟨m, ⟨by omega, hb⟩, ?_⟩
    rintro m' ⟨hm', hb'⟩
    rcases Nat.lt_succ_iff_lt_or_eq.mp hm' with hlt | rfl
    · exact hu m' ⟨hlt, hb'⟩
    · exact absurd hb' (hn i)
  attendus := fun i m hi hm => by
    rcases Nat.lt_succ_iff_lt_or_eq.mp hm with hlt | rfl
    · exact h.attendus i m hi hlt
    · exact hn i

theorem Compte.bateau {k : Nat} {c c' : Collecte} (h : Compte g avant tours k c)
    (hb : BateauDe g avant tours k c.j.toNat) (hc : recevoirBateaux g avant tours k = some c)
    (hlt : c.j < g.nbJoueur) (hj : c'.j = c.j + 1) (hr : c'.nbBateauxRecu = c.nbBateauxRecu + 1) :
    Compte g avant tours (k + 1) c' where
  recus := by rw [hr, hj, h.recus]
  bas := by have := h.bas; omega
  haut := by omega
  servis := fun i hi => by
    have h0 := h.bas
    by_cases hij : (i : Int) < c.j
    · obtain ⟨m, ⟨hm, hb'⟩, hu⟩ := h.servis i hij
      refine ⟨m, ⟨by omega, hb'⟩, ?_⟩
      rintro m' ⟨hm', hbm⟩
      rcases Nat.lt_succ_iff_lt_or_eq.mp hm' with hlt | rfl
      · exact hu m' ⟨hlt, hbm⟩
      · obtain ⟨d, hd, -, hdj, -⟩ := hbm
        rw [hc, Option.some.injEq] at hd
        subst hd
        omega
    · have hi' : i = c.j.toNat := by omega
      subst hi'
      refine ⟨k, ⟨by omega, hb⟩, ?_⟩
      rintro m' ⟨hm', hbm⟩
      rcases Nat.lt_succ_iff_lt_or_eq.mp hm' with hlt | rfl
      · exact absurd hbm (h.attendus _ m' (by omega) hlt)
      · rfl
  attendus := fun i m hi hm => by
    have h0 := h.bas
    rcases Nat.lt_succ_iff_lt_or_eq.mp hm with hlt | rfl
    · exact h.attendus i m (by omega) hlt
    · rintro ⟨d, hd, -, hdj, -⟩
      rw [hc, Option.some.injEq] at hd
      subst hd
      omega

theorem BateauDe.unique {k i : Nat} {c : Collecte} (h : BateauDe g avant tours k i)
    (hc : recevoirBateaux g avant tours k = some c) :
    ¬ c.fini ∧ c.j = (i : Int) ∧ ∃ r, (tours k).pris = some r ∧ r.id = 3 := by
  obtain ⟨d, hd, h⟩ := h
  rw [hc, Option.some.injEq] at hd
  exact hd ▸ h

theorem compte_etape {k : Nat} {c c' : Collecte} (hc : recevoirBateaux g avant tours k = some c)
    (h : Compte g avant tours k c) (hstep : etape c (tours k) = some c')
    (hboat : ¬ c.fini → ∀ r, (tours k).pris = some r → r.id = 3) : Compte g avant tours (k + 1) c' := by
  have hg := (recevoirBateaux_game hc).nbJoueur
  rcases etape_cases hstep with ⟨hf, rfl⟩ | ⟨hf, r, hp, ha⟩
  · refine h.sansBateau fun i hb => ?_
    obtain ⟨hnf, -, r, hp, -⟩ := hb.unique hc
    rcases hf with hf | hf
    · exact hnf hf
    · rw [hf] at hp
      cases hp
  · have hid := hboat hf r hp
    have hlt : c.j < g.nbJoueur := by
      have h1 := h.haut
      have h2 := h.recus
      have h3 : c.nbBateauxRecu ≠ c.game.nbJoueur := hf
      omega
    have h0 := h.bas
    refine h.bateau ⟨c, hc, hf, by omega, r, hp, hid⟩ hc hlt ?_ ?_
    · rw [ha.j, Collecte.suivant, if_neg]
      omega
    · rw [ha.recus, if_pos hid]

theorem recevoirBateaux_compte (hn : 0 ≤ g.nbJoueur)
    (hboat : ∀ k c, recevoirBateaux g avant tours k = some c → ¬ c.fini → ∀ r, (tours k).pris = some r → r.id = 3)
    {k : Nat} {c : Collecte} (h : recevoirBateaux g avant tours k = some c) : Compte g avant tours k c := by
  refine recevoirBateaux_invariant (Compte g avant tours) ?_ ?_ h
  · intro envois _
    exact ⟨rfl, le_refl _, hn, fun i hi => by simp only at hi; omega, fun i m _ hm => by omega⟩
  · intro k c c' hc hI hstep
    exact compte_etape hc hI hstep (hboat k c hc)

theorem Service.avance (h : Service g avant tours) {k : Nat} {c : Collecte} {r : ReqT}
    (hc : recevoirBateaux g avant tours k = some c) (hf : ¬ c.fini) (hp : (tours k).pris = some r) (d : Nat)
    {c' : Collecte} (hc' : recevoirBateaux g avant tours (k + 1 + d) = some c') : c.j < c'.j := by
  have hsuivant {m : Nat} {b : Collecte} (hb : recevoirBateaux g avant tours m = some b) (hbf : ¬ b.fini) :
      b.suivant = b.j + 1 := by
    have hg := (recevoirBateaux_game hb).nbJoueur
    obtain ⟨-, hlt⟩ := h.joueurs m b hb hbf
    rw [Collecte.suivant, if_neg]
    omega
  induction d generalizing c' with
  | zero =>
    rw [Nat.add_zero, recevoirBateaux_succ, hc, Option.bind_some] at hc'
    rcases etape_cases hc' with ⟨hn, -⟩ | ⟨-, r', -, ha⟩
    · rcases hn with hn | hn
      · exact absurd hn hf
      · rw [hn] at hp
        cases hp
    · rw [ha.j, hsuivant hc hf]
      omega
  | succ d ih =>
    rw [← Nat.add_assoc, recevoirBateaux_succ, Option.bind_eq_some_iff] at hc'
    obtain ⟨b, hb, hstep⟩ := hc'
    have hlt := ih hb
    rcases etape_cases hstep with ⟨-, rfl⟩ | ⟨hbf, r', -, ha⟩
    · exact hlt
    · rw [ha.j, hsuivant hb hbf]
      omega

-- where the text has no x, no y or no direction, sscanf leaves what the stack held
def BateauLoge (taille : Int) (b : Int × Int × Char) : Prop :=
  ∀ v, pas b.2.2 = some v → ∀ k : Nat, (k : Int) < taille → Dans 50 (kieme b.1 b.2.1 v k)

-- the poll takes nothing, or a boat whose cells are all in the array of the board
def Tour.Sert (taille : Int) (t : Tour) : Prop :=
  ∃ recu, recevoirNonBlock unserialReq t.sondage t.pile.buff t.pile.reponse = some recu ∧
    ∀ r, recu = some r → r.id = 3 ∧
      ∃ infos, r.infos.str = some infos ∧ BateauLoge taille (lireBateau infos t.pile.xyd)

theorem Tour.Sert.id {taille : Int} {t : Tour} (h : t.Sert taille) {r : ReqT} (hp : t.pris = some r) : r.id = 3 := by
  obtain ⟨recu, hr, hb⟩ := h
  simp only [pris, hr, Option.join_some] at hp
  exact (hb r hp).1

theorem placerBateau_defini_iff (b : BoardT) (id : Fin 100) {taille : Int} (ht : taille ≤ 10) (xyd : Int × Int × Char) :
    (∃ b', placerBateau b id.val taille xyd.1 xyd.2.1 xyd.2.2 = some b') ↔ BateauLoge taille xyd := by
  constructor
  · rintro ⟨b', hb⟩ v hv k hk
    rw [placerBateau_pas _ _ _ _ _ hv] at hb
    exact placerCellules_dans hb k hk
  · intro h
    cases hv : pas xyd.2.2 with
    | none => exact ⟨b, placerBateau_inconnu _ _ _ _ _ hv⟩
    | some v => exact ⟨_, placerBateau_spec b id hv ht (h v hv)⟩

theorem iteration_sert {c : Collecte} {joueur : Fin 100} {t : Tour} (hj : c.j = (joueur.val : Int))
    (hid : (c.game.players joueur).id = joueur.val) (ht : c.game.tailleBateau ≤ 10)
    (h : t.Sert c.game.tailleBateau) : ∃ c', iteration c t = some c' := by
  obtain ⟨recu, hr, hb⟩ := h
  cases recu with
  | none =>
    exact ⟨c, by simp only [iteration, hj, get_fin, hr, Option.bind_eq_bind, Option.bind_some]⟩
  | some r =>
    obtain ⟨hr3, infos, hinfos, hl⟩ := hb r rfl
    obtain ⟨b, hplace⟩ := (placerBateau_defini_iff c.game.plateau joueur ht _).mpr hl
    refine Option.isSome_iff_exists.mp ?_
    simp only [iteration, hj, get_fin, hr, envoyer_accuseOk, Collecte.placer, hr3, if_true, hinfos, hid, hplace,
      Option.bind_eq_bind, Option.bind_some, Option.isSome_some]

theorem iteration_defini {c c' : Collecte} {joueur : Fin 100} {t : Tour} (hj : c.j = (joueur.val : Int))
    (hid : (c.game.players joueur).id = joueur.val) (ht : c.game.tailleBateau ≤ 10)
    (h3 : ∀ r, t.pris = some r → r.id = 3) (h : iteration c t = some c') : t.Sert c.game.tailleBateau := by
  have h' := h
  simp only [iteration, Option.bind_eq_bind, Option.bind_eq_some_iff] at h'
  obtain ⟨-, -, recu, hr, -⟩ := h'
  refine ⟨recu, hr, fun r he => ?_⟩
  have hp : t.pris = some r := by simp only [Tour.pris, hr, Option.join_some, he]
  refine ⟨h3 r hp, ?_⟩
  rcases iteration_cases h with ⟨hn, -⟩ | ⟨r', hp', c₁, d, hd, hc₁, -⟩
  · rw [hn] at hp
    cases hp
  · obtain rfl := Option.some.inj (hp.symm.trans hp')
    rw [hj, get_fin, Option.some.injEq] at hd
    subst hd
    rcases Collecte.placer_cases hc₁ with ⟨hne, -⟩ | ⟨-, infos, plateau, hinfos, hplace, -⟩
    · exact absurd (h3 r hp) hne
    · rw [hid] at hplace
      exact ⟨infos, hinfos, (placerBateau_defini_iff _ _ ht _).mp ⟨plateau, hplace⟩⟩

theorem Registres.joueur (hg : Registres g) {c : Collecte} (hgame : g.SaufPlateau c.game) (h0 : 0 ≤ c.j)
    (hlt : c.j < g.nbJoueur) : ∃ i : Fin 100, c.j = (i.val : Int) ∧ (c.game.players i).id = i.val := by
  have hle := hg.joueurs_le
  obtain ⟨i, hi⟩ := exists_fin (n := 100) (i := c.j) h0 (by omega)
  refine ⟨i, hi, ?_⟩
  rw [hgame.players]
  exact hg.id i (by omega)

theorem recevoirBateaux_sert (hg : Registres g) (hsert : ∀ k c, recevoirBateaux g avant tours k = some c → ¬ c.fini →
    (tours k).Sert g.tailleBateau) (k : Nat) : ∃ c, recevoirBateaux g avant tours k = some c := by
  have hn := hg.joueurs
  induction k with
  | zero => exact ⟨_, recevoirBateaux_debut hg.joueurs_le avant tours⟩
  | succ k ih =>
    obtain ⟨c, hc⟩ := ih
    rw [recevoirBateaux_succ, hc, Option.bind_some]
    by_cases hf : c.fini
    · exact ⟨c, if_pos hf⟩
    · have hgame := recevoirBateaux_game hc
      have hI := recevoirBateaux_compte (by omega)
        (fun k c hc hf r hp => (hsert k c hc hf).id hp) hc
      have h1 := hI.haut
      have h2 := hI.recus
      have h3 : c.nbBateauxRecu ≠ c.game.nbJoueur := hf
      have h4 := hgame.nbJoueur
      obtain ⟨i, hi, hid⟩ := hg.joueur hgame hI.bas (by omega)
      have ht := hgame.tailleBateau
      obtain ⟨c', hc'⟩ := iteration_sert hi hid (ht ▸ hg.bateau_le) (ht ▸ hsert k c hc hf)
      exact ⟨c', by rw [etape, if_neg hf, hc']⟩

theorem Service.sert (hg : Registres g) (h : Service g avant tours) {k : Nat} {c : Collecte}
    (hc : recevoirBateaux g avant tours k = some c) (hf : ¬ c.fini) : (tours k).Sert g.tailleBateau := by
  have h3 (r : ReqT) (hp : (tours k).pris = some r) : r.id = 3 := by
    by_contra hid
    obtain ⟨m, c', hkm, hc', -, hj⟩ := h.rejoue k c r hc hf hp hid
    obtain ⟨d, rfl⟩ := Nat.exists_eq_add_of_le (Nat.succ_le_of_lt hkm)
    have := h.avance hc hf hp d hc'
    omega
  obtain ⟨c', hc'⟩ := h.defini (k + 1)
  rw [recevoirBateaux_succ, hc, Option.bind_some, etape, if_neg hf] at hc'
  have hgame := recevoirBateaux_game hc
  obtain ⟨h0, hlt⟩ := h.joueurs k c hc hf
  obtain ⟨i, hi, hid⟩ := hg.joueur hgame h0 hlt
  have ht := hgame.tailleBateau
  exact ht ▸ iteration_defini hi hid (ht ▸ hg.bateau_le) h3 hc'

theorem Service.of_sert (hg : Registres g) (hsert : ∀ k c, recevoirBateaux g avant tours k = some c → ¬ c.fini →
    (tours k).Sert g.tailleBateau) : Service g avant tours := by
  have hn := hg.joueurs
  have hboat (k : Nat) (c : Collecte) (hc : recevoirBateaux g avant tours k = some c) (hf : ¬ c.fini) (r : ReqT)
      (hp : (tours k).pris = some r) : r.id = 3 := (hsert k c hc hf).id hp
  have hcompte (k : Nat) (c : Collecte) (hc : recevoirBateaux g avant tours k = some c) :=
    recevoirBateaux_compte (by omega) hboat hc
  refine ⟨recevoirBateaux_sert hg hsert, fun k c hc hf => ?_, fun k c r hc hf hp hid => ?_,
    fun k c hc hf i hi => ?_⟩
  · have hI := hcompte k c hc
    have h1 := hI.haut
    have h2 := hI.recus
    have hgame := (recevoirBateaux_game hc).nbJoueur
    have h3 : c.nbBateauxRecu ≠ c.game.nbJoueur := hf
    exact ⟨hI.bas, by omega⟩
  · exact absurd (hboat k c hc hf r hp) hid
  · have hI := hcompte k c hc
    have h2 := hI.recus
    have hgame := (recevoirBateaux_game hc).nbJoueur
    have h3 : c.nbBateauxRecu = c.game.nbJoueur := hf
    exact hI.servis i (by omega)

-- the requests taken by the first k polls
def prises (tours : Nat → Tour) (k : Nat) : Nat := Nat.count (fun m => (tours m).pris.isSome) k

theorem prises_none {k : Nat} (hp : (tours k).pris = none) : prises tours (k + 1) = prises tours k := by
  rw [prises, Nat.count_succ, hp]
  rfl

theorem prises_some {k : Nat} {r : ReqT} (hp : (tours k).pris = some r) :
    prises tours (k + 1) = prises tours k + 1 := by
  rw [prises, Nat.count_succ, hp]
  rfl

theorem prises_le (tours : Nat → Tour) (k : Nat) : prises tours k ≤ prises tours (k + 1) :=
  Nat.count_monotone _ (Nat.le_succ k)

theorem recevoirBateaux_recus {k : Nat} {c : Collecte} (h : recevoirBateaux g avant tours k = some c) :
    c.nbBateauxRecu ≤ prises tours k := by
  refine recevoirBateaux_invariant (fun k c => c.nbBateauxRecu ≤ prises tours k) ?_ ?_ h
  · intro envois _
    exact le_refl _
  · intro k c c' _ hI hstep
    rcases etape_cases hstep with ⟨-, rfl⟩ | ⟨-, r, hp, ha⟩
    · have := prises_le tours k
      omega
    · rw [prises_some hp, ha.recus]
      split <;> omega

-- as long as every request taken is a boat, the loop goes on until nbJoueur of them are taken
theorem recevoirBateaux_prises (h : ∀ k, (prises tours k : Int) < g.nbJoueur → (tours k).Sert g.tailleBateau)
    (hn : 0 ≤ g.nbJoueur) {k : Nat} {c : Collecte} (hc : recevoirBateaux g avant tours k = some c) :
    c.nbBateauxRecu ≤ g.nbJoueur ∧ (c.fini ∨ c.nbBateauxRecu = prises tours k) := by
  refine recevoirBateaux_invariant
    (fun k c => c.nbBateauxRecu ≤ g.nbJoueur ∧ (c.fini ∨ c.nbBateauxRecu = prises tours k)) ?_ ?_ hc
  · intro envois _
    exact ⟨hn, .inr rfl⟩
  · intro k c c' hc h' hstep
    obtain ⟨hle, hI⟩ := h'
    have hgame := (recevoirBateaux_game hc).nbJoueur
    rcases etape_cases hstep with ⟨hf | hp, rfl⟩ | ⟨hf, r, hp, ha⟩
    · exact ⟨hle, .inl hf⟩
    · exact ⟨hle, hI.imp_right fun he => by rw [prises_none hp, he]⟩
    · have he := hI.resolve_left hf
      have hne : c.nbBateauxRecu ≠ c.game.nbJoueur := hf
      have h3 := (h k (by omega)).id hp
      rw [ha.recus, if_pos h3, prises_some hp]
      exact ⟨by omega, .inr (by omega)⟩

theorem collecte_service_iff (g : GameT) (hg : Registres g) (avant : ReqT) (tours : Nat → Tour) :
    Service g avant tours ↔ ∀ k, (prises tours k : Int) < g.nbJoueur → (tours k).Sert g.tailleBateau := by
  constructor
  · intro h k hk
    obtain ⟨c, hc⟩ := h.defini k
    have hgame := (recevoirBateaux_game hc).nbJoueur
    have hrecus := recevoirBateaux_recus hc
    refine h.sert hg hc fun hf => ?_
    have hfin : c.nbBateauxRecu = c.game.nbJoueur := hf
    omega
  · intro h
    refine Service.of_sert hg fun k c hc hf => h k ?_
    have hgame := (recevoirBateaux_game hc).nbJoueur
    have hne : c.nbBateauxRecu ≠ c.game.nbJoueur := hf
    obtain ⟨hle, hfin | he⟩ := recevoirBateaux_prises h (by have := hg.joueurs; omega) hc
    · exact absurd hfin hf
    · omega

def pileBateau : PileBateau :=
  ⟨⟨0, Buf.fill 100 'x', Buf.fill 1000 'x'⟩, ⟨0, Buf.fill 100 'x', Buf.fill 1000 'x'⟩, Buf.fill maxBuffer 'x',
    (0, 0, 'x')⟩

theorem GameT.depart_registres {n p t : Int} (hn : 1 ≤ n ∧ n ≤ 100) (hp : p ≤ 50) (ht : 1 ≤ t ∧ t ≤ 10) :
    Registres (GameT.depart n p t) :=
  ⟨hp, ht.1, ht.2, hn.1, hn.2, fun _ _ => rfl⟩

theorem collecte_hors_joueurs :
    ∃ c, recevoirBateaux (GameT.depart 2 4 2) pileBateau.requete
        (fun _ => Tour.message accuseOk accuseOk_valide pileBateau) 2 = some c ∧
      ¬ c.fini ∧ ¬ c.j < (GameT.depart 2 4 2).nbJoueur := by
  have h0 := recevoirBateaux_debut (g := GameT.depart 2 4 2) (by decide) pileBateau.requete
    (fun _ => Tour.message accuseOk accuseOk_valide pileBateau)
  have h1 := recevoirBateaux_succ (GameT.depart 2 4 2) pileBateau.requete
    (fun _ => Tour.message accuseOk accuseOk_valide pileBateau) 0
  rw [h0, Option.bind_some, etape_autreMessage accuseOk_valide (by decide) pileBateau (i := 0)
    (show (0 : Int) ≠ 2 by decide) rfl] at h1
  have h2 := recevoirBateaux_succ (GameT.depart 2 4 2) pileBateau.requete
    (fun _ => Tour.message accuseOk accuseOk_valide pileBateau) 1
  rw [h1, Option.bind_some, etape_autreMessage accuseOk_valide (by decide) pileBateau (i := 1)
    (show (0 : Int) ≠ 2 by decide) rfl] at h2
  exact ⟨_, h2, show (0 : Int) ≠ 2 by decide, by decide⟩

theorem requeteBateau_coin : (requeteBateau 0 0 'd').Valide :=
  requeteBateau_valide (by decide) (by decide) (by decide)

theorem collecte_service_bateaux :
    Service (GameT.depart 2 4 2) pileBateau.requete
      fun _ => Tour.message (requeteBateau 0 0 'd') requeteBateau_coin pileBateau := by
  have hd := decrit_requeteBateau requeteBateau_coin (by decide) (by decide) (by decide)
  obtain ⟨r, hr, hid, infos, hinfos, hlire⟩ := hd.recu pileBateau
  refine (collecte_service_iff (GameT.depart 2 4 2) (GameT.depart_registres (by decide) (by decide) (by decide))
    pileBateau.requete _).mpr fun _ _ => ⟨some r, hr, fun r' he => ?_⟩
  obtain rfl := Option.some.inj he
  refine ⟨hid, infos, hinfos, fun v hv k hk => ?_⟩
  simp only [Tour.message, hlire] at hv ⊢
  obtain rfl : (1, 0) = v := Option.some.inj hv
  have hk2 : (k : Int) < 2 := hk
  simp only [toInt_of_inInt (show InInt 0 by decide), kieme, Dans]
  omega

end Bnbr.Serveur
