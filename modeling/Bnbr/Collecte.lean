import Bnbr.Champs
import Bnbr.Placement
import Bnbr.Tir

namespace Bnbr.Serveur

open CArray CString Decimal Scanf

inductive Sondage
  | rien
  | erreur
  | lecture (l : Lecture)

def recevoirNonBlock (deSerial : List Char → ReqT → ReqT) (s : Sondage) (buff : Buf maxBuffer) (quoi : ReqT) :
    Option (Option ReqT) :=
  match s with
  | .rien => some none
  | .erreur => some none
  | .lecture .erreur => some none
  | .lecture l => (recevoir deSerial l buff quoi).map some

theorem recevoirNonBlock_vide {s : Sondage} (h : s = .rien ∨ s = .erreur) (deSerial : List Char → ReqT → ReqT)
    (buff : Buf maxBuffer) (quoi : ReqT) : recevoirNonBlock deSerial s buff quoi = some none := by
  rcases h with rfl | rfl
  · rfl
  · rfl

structure PileBateau where
  reponse : ReqT
  requete : ReqT
  buff : Buf maxBuffer
  xyd : Int × Int × Char

structure Tour where
  sondage : Sondage
  pile : PileBateau

structure Collecte where
  game : GameT
  j : Int
  nbBateauxRecu : Int
  envois : List (Int × List Char)

def txtBateaux : List Char := ['b', 'a', 't', 'e', 'a', 'u', 'x']

def demandeBateaux : Requete := ⟨3, txtBateaux, txtBlanc⟩

def demander (g : GameT) (avant : ReqT) : Option (List (Int × List Char)) :=
  Loop.run g.nbJoueur.toNat (fun i envois => do
    let _ ← get g.players i
    let req ← envoyer (formatReq avant demandeBateaux)
    some (envois ++ [((i : Int), req)])) []

def lireBateau (infos : List Char) (xyd : Int × Int × Char) : Int × Int × Char :=
  sscanf [.int (fun v p => (toInt v, p.2)), .lit ';', .int (fun v p => (p.1, toInt v, p.2.2)), .lit ';',
    .char (fun c p => (p.1, p.2.1, c))] infos xyd

def Collecte.suivant (c : Collecte) : Int := if c.j = c.game.nbJoueur + 1 then 0 else c.j + 1

def Collecte.placer (c : Collecte) (joueur : ClientT) (reponse : ReqT) (xyd : Int × Int × Char) :
    Option Collecte :=
  if reponse.id = 3 then do
    let infos ← reponse.infos.str
    let b := lireBateau infos xyd
    let plateau ← placerBateau c.game.plateau joueur.id c.game.tailleBateau b.1 b.2.1 b.2.2
    some { c with game := { c.game with plateau := plateau }, nbBateauxRecu := c.nbBateauxRecu + 1 }
  else some c

def iteration (c : Collecte) (t : Tour) : Option Collecte := do
  let joueur ← get c.game.players c.j
  let recu ← recevoirNonBlock unserialReq t.sondage t.pile.buff t.pile.reponse
  match recu with
  | none => some c
  | some reponse => do
    let ack ← envoyer (formatReq t.pile.requete accuseOk)
    let c' ← c.placer joueur reponse t.pile.xyd
    some { c' with envois := c'.envois ++ [(c.j, ack)], j := c'.suivant }

abbrev Collecte.fini (c : Collecte) : Prop := c.nbBateauxRecu = c.game.nbJoueur

def etape (c : Collecte) (t : Tour) : Option Collecte := if c.fini then some c else iteration c t

def recevoirBateaux (g : GameT) (avant : ReqT) (tours : Nat → Tour) (k : Nat) : Option Collecte := do
  let envois ← demander g avant
  Loop.run k (fun i c => etape c (tours i)) ⟨g, 0, 0, envois⟩

def Tour.pris (t : Tour) : Option ReqT :=
  (recevoirNonBlock unserialReq t.sondage t.pile.buff t.pile.reponse).join

def GameT.SaufPlateau (g g' : GameT) : Prop := g' = { g with plateau := g'.plateau }

theorem GameT.SaufPlateau.refl (g : GameT) : g.SaufPlateau g := rfl

theorem GameT.SaufPlateau.trans {g g' g'' : GameT} (h : g.SaufPlateau g') (h' : g'.SaufPlateau g'') :
    g.SaufPlateau g'' := by
  rw [SaufPlateau, h', h]

theorem GameT.SaufPlateau.players {g g' : GameT} (h : g.SaufPlateau g') : g'.players = g.players := by rw [h]

theorem GameT.SaufPlateau.nbJoueur {g g' : GameT} (h : g.SaufPlateau g') : g'.nbJoueur = g.nbJoueur := by rw [h]

theorem GameT.SaufPlateau.taillePlateau {g g' : GameT} (h : g.SaufPlateau g') : g'.taillePlateau = g.taillePlateau := by
  rw [h]

theorem GameT.SaufPlateau.tailleBateau {g g' : GameT} (h : g.SaufPlateau g') : g'.tailleBateau = g.tailleBateau := by
  rw [h]

theorem GameT.SaufPlateau.etat {g g' : GameT} (h : g.SaufPlateau g') : g'.etat = g.etat := by rw [h]

structure Avance (c : Collecte) (r : ReqT) (c' : Collecte) : Prop where
  j : c'.j = c.suivant
  recus : c'.nbBateauxRecu = if r.id = 3 then c.nbBateauxRecu + 1 else c.nbBateauxRecu
  game : c.game.SaufPlateau c'.game
  envois : c'.envois = c.envois ++ [(c.j, accuseOk.texte ++ [nul])]

def txtBoat : List Char := ['b', 'o', 'a', 't']

def requeteBateau (x y : Int) (direction : Char) : Requete :=
  ⟨3, txtBoat, print x ++ ';' :: (print y ++ [';', direction])⟩

theorem requeteBateau_valide {x y : Int} {direction : Char} (hx : InInt x) (hy : InInt y)
    (hd : direction ≠ nul) : (requeteBateau x y direction).Valide := by
  have h1 := InInt.print_length hx
  have h2 := InInt.print_length hy
  apply Requete.valide_court (by decide) (by decide) (by decide) (by decide) (by decide)
  · have hs : nul ≠ ';' := by decide
    simp only [List.mem_append, List.mem_cons, List.not_mem_nil, or_false, not_or]
    exact ⟨nul_notMem_print x, hs, nul_notMem_print y, hs, hd.symm⟩
  · simp only [List.length_append, List.length_cons, List.length_nil]
    omega

def triplet (s : List Char) : Option Int × Option Int × Option Char :=
  sscanf [.int (fun v p => (some v, p.2)), .lit ';', .int (fun v p => (p.1, some v, p.2.2)), .lit ';',
    .char (fun c p => (p.1, p.2.1, some c))] s (none, none, none)

theorem lireBateau_triplet (s : List Char) (xyd : Int × Int × Char) :
    lireBateau s xyd = (((triplet s).1.map toInt).getD xyd.1, ((triplet s).2.1.map toInt).getD xyd.2.1,
      (triplet s).2.2.getD xyd.2.2) := by
  refine sscanf_rel (p := fun _ => True)
    (R := fun q (c : Option Int × Option Int × Option Char) =>
      q = ((c.1.map toInt).getD xyd.1, (c.2.1.map toInt).getD xyd.2.1, c.2.2.getD xyd.2.2))
    ?_ (fun _ _ => trivial) rfl
  refine .cons (.int ?_) (.cons (.lit _) (.cons (.int ?_) (.cons (.lit _) (.cons (.char ?_) .nil))))
  · rintro v _ c rfl
    rfl
  · rintro v _ c rfl
    rfl
  · rintro a _ c - rfl
    rfl

theorem triplet_print (x y : Int) (direction : Char) :
    triplet (print x ++ ';' :: (print y ++ [';', direction])) = (some x, some y, some direction) := by
  rw [triplet, sscanf_int_print _ _ _ (by simp), sscanf_lit, sscanf_int_print _ _ _ (by simp), sscanf_lit,
    sscanf_char]
  rfl

theorem demandeBateaux_valide : demandeBateaux.Valide := by
  constructor <;> decide

theorem demander_spec {g : GameT} (hn : g.nbJoueur ≤ 100) (avant : ReqT) :
    demander g avant =
      some ((List.range g.nbJoueur.toNat).map fun i : Nat => ((i : Int), demandeBateaux.texte ++ [nul])) := by
  have hrun := Loop.run_states (n := g.nbJoueur.toNat)
    (f := fun i (envois : List (Int × List Char)) => do
      let _ ← get g.players i
      let req ← envoyer (formatReq avant demandeBateaux)
      some (envois ++ [((i : Int), req)]))
    (fun k => (List.range k).map fun i : Nat => ((i : Int), demandeBateaux.texte ++ [nul])) (by
      intro i hi
      obtain ⟨k, hk⟩ := exists_fin (n := 100) (i := (i : Int)) (by omega) (by omega)
      rw [hk]
      simp only [get_fin, envoyer_formatReq demandeBateaux_valide, Option.bind_eq_bind, Option.bind_some,
        List.range_succ, List.map_append, List.map_singleton, hk])
  exact hrun

theorem Collecte.placer_cases {c c' : Collecte} {joueur : ClientT} {reponse : ReqT} {xyd : Int × Int × Char}
    (h : c.placer joueur reponse xyd = some c') :
    (reponse.id ≠ 3 ∧ c' = c) ∨
    (reponse.id = 3 ∧ ∃ infos plateau, reponse.infos.str = some infos ∧
      placerBateau c.game.plateau joueur.id c.game.tailleBateau (lireBateau infos xyd).1
        (lireBateau infos xyd).2.1 (lireBateau infos xyd).2.2 = some plateau ∧
      c' = { c with game := { c.game with plateau := plateau }, nbBateauxRecu := c.nbBateauxRecu + 1 }) := by
  simp only [placer] at h
  split at h
  · rename_i hid
    simp only [Option.bind_eq_bind, Option.bind_eq_some_iff, Option.some.injEq] at h
    obtain ⟨infos, hinfos, plateau, hplateau, rfl⟩ := h
    exact .inr ⟨hid, infos, plateau, hinfos, hplateau, rfl⟩
  · rename_i hid
    exact .inl ⟨hid, (Option.some.inj h).symm⟩

theorem iteration_cases {c c' : Collecte} {t : Tour} (h : iteration c t = some c') :
    (t.pris = none ∧ c' = c) ∨
    (∃ reponse, t.pris = some reponse ∧ ∃ c₁ joueur, get c.game.players c.j = some joueur ∧
      c.placer joueur reponse t.pile.xyd = some c₁ ∧
      c' = { c₁ with envois := c₁.envois ++ [(c.j, accuseOk.texte ++ [nul])], j := c₁.suivant }) := by
  simp only [iteration, Option.bind_eq_bind, Option.bind_eq_some_iff] at h
  obtain ⟨joueur, hj, recu, hr, h⟩ := h
  cases recu with
  | none => exact .inl ⟨by simp [Tour.pris, hr], (Option.some.inj h).symm⟩
  | some reponse =>
    simp only [envoyer_accuseOk, Option.bind_some, Option.bind_eq_some_iff, Option.some.injEq] at h
    obtain ⟨c₁, hc, rfl⟩ := h
    exact .inr ⟨reponse, by simp [Tour.pris, hr], c₁, joueur, hj, hc, rfl⟩

theorem Collecte.placer_avance {c c₁ : Collecte} {joueur : ClientT} {reponse : ReqT} {xyd : Int × Int × Char}
    (h : c.placer joueur reponse xyd = some c₁) :
    Avance c reponse { c₁ with envois := c₁.envois ++ [(c.j, accuseOk.texte ++ [nul])], j := c₁.suivant } := by
  rcases placer_cases h with ⟨hid, rfl⟩ | ⟨hid, infos, plateau, -, -, rfl⟩
  · exact ⟨rfl, by simp [hid], rfl, rfl⟩
  · exact ⟨rfl, by simp [hid], rfl, rfl⟩

theorem etape_cases {c c' : Collecte} {t : Tour} (h : etape c t = some c') :
    ((c.fini ∨ t.pris = none) ∧ c' = c) ∨ (¬ c.fini ∧ ∃ r, t.pris = some r ∧ Avance c r c') := by
  simp only [etape] at h
  split at h
  · rename_i hf
    exact .inl ⟨.inl hf, (Option.some.inj h).symm⟩
  · rename_i hf
    rcases iteration_cases h with ⟨hp, hc⟩ | ⟨r, hp, c₁, joueur, -, hc₁, rfl⟩
    · exact .inl ⟨.inr hp, hc⟩
    · exact .inr ⟨hf, r, hp, Collecte.placer_avance hc₁⟩

def Tour.message (q : Requete) (h : q.Valide) (pile : PileBateau) : Tour :=
  ⟨.lecture (Lecture.entiere q h), pile⟩

theorem Tour.message_recu (q : Requete) (h : q.Valide) (pile : PileBateau) :
    recevoirNonBlock unserialReq (Tour.message q h pile).sondage pile.buff pile.reponse =
      some (some (livrer q h pile.reponse)) := by
  have hr := Serveur.recevoir_livrer h pile.buff pile.reponse
  simp only [message, Lecture.entiere, recevoirNonBlock] at hr ⊢
  simp only [hr, Option.map_some]

theorem Tour.message_pris (q : Requete) (h : q.Valide) (pile : PileBateau) :
    (Tour.message q h pile).pris = some (livrer q h pile.reponse) := by
  have hr := Tour.message_recu q h pile
  simp only [message] at hr
  simp only [pris, message, hr, Option.join_some]

theorem iteration_message {q : Requete} (h : q.Valide) (pile : PileBateau) (c : Collecte) :
    iteration c (Tour.message q h pile) = (do
      let joueur ← get c.game.players c.j
      let c' ← c.placer joueur (livrer q h pile.reponse) pile.xyd
      some { c' with envois := c'.envois ++ [(c.j, accuseOk.texte ++ [nul])], j := c'.suivant }) := by
  have hr := Tour.message_recu q h pile
  simp only [Tour.message] at hr
  simp only [iteration, Tour.message, hr, envoyer_accuseOk, Option.bind_eq_bind, Option.bind_some]

theorem etape_autreMessage {q : Requete} (h : q.Valide) (hid : q.id ≠ 3) (pile : PileBateau) {c : Collecte}
    (hf : ¬ c.fini) {i : Fin 100} (hi : c.j = (i.val : Int)) :
    etape c (Tour.message q h pile) =
      some { c with envois := c.envois ++ [(c.j, accuseOk.texte ++ [nul])], j := c.suivant } := by
  have hid' : (livrer q h pile.reponse).id ≠ 3 := by rwa [livrer_id]
  rw [etape, if_neg hf, iteration_message, hi, get_fin]
  simp only [Collecte.placer, hid', if_false, Option.bind_eq_bind, Option.bind_some]

theorem recevoirBateaux_zero {g : GameT} {avant : ReqT} {tours : Nat → Tour} {c : Collecte}
    (h : recevoirBateaux g avant tours 0 = some c) :
    ∃ envois, demander g avant = some envois ∧ c = ⟨g, 0, 0, envois⟩ := by
  simp only [recevoirBateaux, Loop.run_zero, Option.bind_eq_bind, Option.bind_eq_some_iff,
    Option.some.injEq] at h
  obtain ⟨envois, he, rfl⟩ := h
  exact ⟨envois, he, rfl⟩

theorem recevoirBateaux_debut {g : GameT} (hn : g.nbJoueur ≤ 100) (avant : ReqT) (tours : Nat → Tour) :
    recevoirBateaux g avant tours 0 = some ⟨g, 0, 0,
      (List.range g.nbJoueur.toNat).map fun i : Nat => ((i : Int), demandeBateaux.texte ++ [nul])⟩ := by
  simp only [recevoirBateaux, demander_spec hn, Loop.run_zero, Option.bind_eq_bind, Option.bind_some]

theorem recevoirBateaux_succ (g : GameT) (avant : ReqT) (tours : Nat → Tour) (k : Nat) :
    recevoirBateaux g avant tours (k + 1) =
      (recevoirBateaux g avant tours k).bind fun c => etape c (tours k) := by
  simp only [recevoirBateaux, Loop.run_succ, Option.bind_eq_bind]
  cases demander g avant <;> rfl

theorem recevoirBateaux_invariant {g : GameT} {avant : ReqT} {tours : Nat → Tour} (I : Nat → Collecte → Prop)
    (h0 : ∀ envois, demander g avant = some envois → I 0 ⟨g, 0, 0, envois⟩)
    (hs : ∀ k c c', recevoirBateaux g avant tours k = some c → I k c → etape c (tours k) = some c' → I (k + 1) c')
    {k : Nat} {c : Collecte} (h : recevoirBateaux g avant tours k = some c) : I k c := by
  induction k generalizing c with
  | zero =>
    obtain ⟨envois, he, rfl⟩ := recevoirBateaux_zero h
    exact h0 envois he
  | succ k ih =>
    rw [recevoirBateaux_succ, Option.bind_eq_some_iff] at h
    obtain ⟨b, hb, hc⟩ := h
    exact hs k b c hb (ih hb) hc

theorem recevoirBateaux_game {g : GameT} {avant : ReqT} {tours : Nat → Tour} {k : Nat} {c : Collecte}
    (h : recevoirBateaux g avant tours k = some c) : g.SaufPlateau c.game := by
  refine recevoirBateaux_invariant (fun _ c => g.SaufPlateau c.game) (fun _ _ => .refl g) ?_ h
  intro k c c' _ hc hstep
  rcases etape_cases hstep with ⟨-, rfl⟩ | ⟨-, r, -, ha⟩
  · exact hc
  · exact hc.trans ha.game

end Bnbr.Serveur
