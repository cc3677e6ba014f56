import Bnbr.Ecrans

namespace Bnbr

open CArray CString Decimal Sessions Serveur Runs Bataille

namespace Serveur

def txtPartie : List Char := "Partie en cours\n\n".toList

def txtTirTouche : List Char := "Tir touché\n".toList

def txtTirDejaTouche : List Char := "Tir deja touché\n".toList

def txtTirPasTouche : List Char := "Tir pas touché\n".toList

def afficherCase (affchageBateau : Bool) : Status → List Char
  | .missedShot => Client.txtRate
  | .hitShot => Client.txtTouche
  | .empty => Client.txtVide
  | .boat => if affchageBateau then Client.txtNavire else Client.txtVide

def afficherPlateau (g : GameT) : Option (List Char) := do
  let lignes ← Loop.collect g.taillePlateau.toNat fun i => do
    let cases ← Loop.collect g.taillePlateau.toNat fun j =>
      (g.plateau.cell.get i j).map fun s => afficherCase g.affchageBateau s ++ [' ']
    some (cases.flatten ++ ['\n'])
  some lignes.flatten

def annonceTir : Status → List Char
  | .boat => txtTirTouche
  | .hitShot => txtTirDejaTouche
  | _ => txtTirPasTouche

-- what recevoir_tir writes on the screen of the server
def afficherTir (g : GameT) (x y : Int) : Option (List Char) :=
  if 0 ≤ x ∧ x < g.taillePlateau ∧ 0 ≤ y ∧ y < g.taillePlateau then do
    let s ← g.plateau.cell.get y x
    some (annonceTir s)
  else some []

def afficherReponse (g : GameT) (reponse : ReqT) (xy : Int × Int) : Option (List Char) :=
  if reponse.id = 6 then do
    let nom ← reponse.nom.str
    if nom = txtCoup then do
      let infos ← reponse.infos.str
      afficherTir g (lireCoup infos xy).1 (lireCoup infos xy).2
    else some []
  else some []

def recevoirTirAffiche (g : GameT) (pile : PileTir) (l : Lecture) : Option (List Char) := do
  let reponse ← recevoir unserialReq l pile.buff pile.reponse
  afficherReponse g reponse pile.xy

def Poste.Affiche (p : Poste) : Prop :=
  match p.point with
  | .touche => True
  | .envoi (.plateau _) i => ¬ (i : Int) < p.game.nbJoueur
  | .tir i => ¬ (i : Int) < p.game.nbJoueur
  | .tirRecu _ _ => True
  | _ => False

-- the ncurses window of the server while the game is played: after the clear of a round, which no refresh
-- follows, the terminal still shows the board until recevoir_tir refreshes it
inductive PasAffiche : Poste × List Char → Action → Poste × List Char → Prop
  | touche {p : Poste} {ecran plateau : List Char} (hp : p.point = .touche)
      (ht : afficherPlateau p.game = some plateau) :
      PasAffiche (p, ecran) .interne ({ p with point := .boucle }, txtPartie ++ plateau)
  | go {p p' : Poste} {ecran s : List Char} {i : Nat} (hp : p.point = .envoi (.plateau s) i)
      (hi : ¬ (i : Int) < p.game.nbJoueur) (hs : Pas p .interne p') : PasAffiche (p, ecran) .interne (p', [])
  | tirRecu {p : Poste} {ecran texte ack : List Char} {i : Nat} {q : Requete} {g : GameT} (pile : PileTir)
      (hp : p.point = .tirRecu i q) (hq : q.Valide)
      (ht : recevoirTirAffiche p.game pile (Lecture.entiere q hq) = some texte)
      (hg : recevoirTir p.game pile (Lecture.entiere q hq) = some (g, ack)) :
      PasAffiche (p, ecran) (.envoie i accuseOk) ({ p with point := .tir (i + 1), game := g }, ecran ++ texte)
  | verdict {p p' : Poste} {ecran plateau : List Char} {i : Nat} (hp : p.point = .tir i)
      (hi : ¬ (i : Int) < p.game.nbJoueur) (ht : afficherPlateau p.game = some plateau) (hs : Pas p .interne p') :
      PasAffiche (p, ecran) .interne (p', txtPartie ++ plateau)
  | autre {p p' : Poste} {ecran : List Char} {a : Action} (hp : ¬ p.Affiche) (hs : Pas p a p') :
      PasAffiche (p, ecran) a (p', ecran)

def tableau (n : Nat) (f : Nat → Nat → List Char) : List Char :=
  ((List.range n).map fun i => ((List.range n).map fun j => f i j ++ [' ']).flatten ++ ['\n']).flatten

theorem afficherPlateau_spec {g : GameT} (hn : g.taillePlateau ≤ 50) :
    afficherPlateau g = some (tableau g.taillePlateau.toNat fun i j =>
      afficherCase g.affchageBateau (Cells.lire g.plateau.cell i j)) := by
  have hligne (i : Nat) (hi : i < g.taillePlateau.toNat) : (Loop.collect g.taillePlateau.toNat fun j =>
      (g.plateau.cell.get i j).map fun s => afficherCase g.affchageBateau s ++ [' ']) =
        some ((List.range g.taillePlateau.toNat).map fun j =>
          afficherCase g.affchageBateau (Cells.lire g.plateau.cell i j) ++ [' ']) :=
    Loop.collect_eq_some fun j hj => by rw [Cells.get_lire g.plateau.cell (by omega) (by omega), Option.map_some]
  have hlignes := Loop.collect_eq_some (n := g.taillePlateau.toNat)
    (f := fun i => (Loop.collect g.taillePlateau.toNat fun j =>
      (g.plateau.cell.get i j).map fun s => afficherCase g.affchageBateau s ++ [' ']).bind fun cases =>
        some (cases.flatten ++ ['\n']))
    (g := fun i => ((List.range g.taillePlateau.toNat).map fun j =>
      afficherCase g.affchageBateau (Cells.lire g.plateau.cell i j) ++ [' ']).flatten ++ ['\n'])
    fun i hi => by rw [hligne i hi, Option.bind_some]
  simp only [afficherPlateau, Option.bind_eq_bind, hlignes, Option.bind_some]
  rfl

theorem tableau_congr {n : Nat} {f f' : Nat → Nat → List Char} (h : ∀ i j, i < n → j < n → f i j = f' i j) :
    tableau n f = tableau n f' := by
  refine congrArg List.flatten (List.map_congr_left fun i hi => ?_)
  refine congrArg (· ++ ['\n']) (congrArg List.flatten (List.map_congr_left fun j hj => ?_))
  rw [h i j (List.mem_range.mp hi) (List.mem_range.mp hj)]

theorem afficherPlateau_statut {g : GameT} {S : Set (Int × Int)} (hn : g.taillePlateau ≤ 50)
    (h : g.plateau.Represente g.taillePlateau S) : afficherPlateau g = some (tableau g.taillePlateau.toNat fun i j =>
      afficherCase g.affchageBateau (statut g.plateau.flotte S (j, i))) := by
  rw [afficherPlateau_spec hn]
  refine congrArg some (tableau_congr fun i j hi hj => ?_)
  have hd : Dans g.taillePlateau (coord ⟨i, by omega⟩ ⟨j, by omega⟩) :=
    ⟨Int.natCast_nonneg _, show (j : Int) < _ by omega, Int.natCast_nonneg _, show (i : Int) < _ by omega⟩
  rw [Cells.lire_fin g.plateau.cell ⟨i, by omega⟩ ⟨j, by omega⟩, h.cell _ _ hd]

theorem afficherTir_statut {g : GameT} {S : Set (Int × Int)} (hn : g.taillePlateau ≤ 50)
    (h : g.plateau.Represente g.taillePlateau S) {x y : Int} (hd : Dans g.taillePlateau (x, y)) :
    afficherTir g x y = some (annonceTir (statut g.plateau.flotte S (x, y))) := by
  obtain ⟨r, c, he⟩ := hd.fin hn
  obtain ⟨rfl, rfl⟩ := Prod.mk.inj he
  have hcell := h.cell r c hd
  have hget : g.plateau.cell.get (r.val : Int) (c.val : Int) = some (g.plateau.cell r c) := Cells.get_fin _ r c
  unfold Dans at hd
  simp only [afficherTir, if_pos hd, hget, hcell, Option.bind_eq_bind, Option.bind_some]

def Poste.MontrePlateau (p : Poste) : Prop :=
  match p.point with
  | .boucle => True
  | .envoi (.plateau _) _ => True
  | .accuse (.plateau _) _ => True
  | .envoi (.etat _) _ => True
  | .accuse (.etat _) _ => True
  | .fini => True
  | _ => False

variable {p p' : Poste} {a : Action} {ecran ecran' : List Char} {i k : Nat} {q : Requete}

theorem PasAffiche.pas (h : PasAffiche (p, ecran) a (p', ecran')) : Pas p a p' := by
  cases h with
  | touche hp => exact .touche hp
  | go _ _ hs => exact hs
  | tirRecu pile hp hq _ hg => exact .tirRecu pile hp hq hg
  | verdict _ _ _ hs => exact hs
  | autre _ hs => exact hs

theorem choisirFin_sauf {g g' : GameT} {f : Nat → Option Requete} (h : choisirFin g = some (g', f)) :
    g' = { g with etat := g'.etat } := by
  rcases choisirFin_cases h with ⟨hc, -⟩ | ⟨-, rfl, -⟩ | ⟨-, -⟩
  · simp only [choisirFin, hc, Option.bind_eq_bind, Option.bind_some, if_true, Option.some.injEq, Prod.mk.injEq] at h
    obtain ⟨rfl, -⟩ := h
    rfl
  · rfl
  · simp only [choisirFin, Option.bind_eq_bind, Option.bind_eq_some_iff] at h
    obtain ⟨n, -, h⟩ := h
    split_ifs at h
    · obtain rfl := (Prod.mk.inj (Option.some.inj h)).1
      rfl
    · obtain ⟨_, -, h⟩ := Option.bind_eq_some_iff.mp h
      obtain rfl := (Prod.mk.inj (Option.some.inj h)).1
      rfl
    · obtain rfl := (Prod.mk.inj (Option.some.inj h)).1
      rfl

theorem Pas.affchageBateau (h : Pas p a p') : p'.game.affchageBateau = p.game.affchageBateau := by
  have hcol {j n : Int} {envois : List (Int × List Char)} {t : Tour} {c : Collecte}
      (hc : etape (p.collecte j n envois) t = some c) : c.game.affchageBateau = p.game.affchageBateau := by
    rcases etape_cases hc with ⟨-, rfl⟩ | ⟨-, r, -, ha⟩
    · rfl
    · rw [ha.game]
  cases h with
  | sonder _ _ _ hc => exact hcol hc
  | placer _ _ _ _ hc => exact hcol hc
  | tirRecu _ _ _ hg =>
    show GameT.affchageBateau _ = _
    rw [recevoirTir_sauf hg]
  | verdict _ _ hq =>
    show GameT.affchageBateau _ = _
    rw [choisirFin_sauf hq]
  | _ => rfl

theorem Pas.montrePlateau (h : Pas p a p') (hp : ¬ p.Affiche) (hm : p'.MontrePlateau) :
    p.MontrePlateau ∧ p'.game = p.game := by
  cases h with
  | @envoi b => cases b <;> simp_all [Poste.MontrePlateau]
  | @accuse b => cases b <;> simp_all [Poste.MontrePlateau]
  | @suite b => cases b <;> simp_all [Poste.MontrePlateau, Poste.Affiche, Boucle.suite]
  | _ => simp_all [Poste.MontrePlateau, Poste.Affiche]

theorem Pas.montreGo (h : Pas p a p') (hp : ¬ p.Affiche) (hm : p'.point = .envoi .go k ∨ p'.point = .accuse .go k) :
    ∃ k, p.point = .envoi .go k ∨ p.point = .accuse .go k := by
  cases h with
  | @envoi b => cases b <;> simp_all
  | @accuse b => cases b <;> simp_all
  | @suite b => cases b <;> simp_all [Poste.Affiche, Boucle.suite]
  | _ => simp_all

def Poste.Tire (p : Poste) (k : Nat) : Prop := p.point = .tir k ∨ ∃ q, p.point = .tirRecu k q

theorem Pas.tire (h : Pas p a p') (hp : ¬ p.Affiche) (hm : p'.Tire k) : p'.manche = p.manche ∧
    (k = 0 ∧ a = .interne ∧ (∃ k, p.point = .envoi .go k) ∨ ∃ q, a = .prend k q ∧ p.point = .tir k) := by
  cases h with
  | @suite b i => cases b <;> simp_all [Poste.Tire, Poste.Affiche, Boucle.suite, Boucle.termine]
  | @tir i q hpt hi =>
    rcases hm with hm | ⟨q', hm⟩
    · cases hm
    · obtain ⟨rfl, rfl⟩ := Point.tirRecu.inj hm
      exact ⟨rfl, .inr ⟨_, rfl, hpt⟩⟩
  | _ => simp_all [Poste.Tire, Poste.Affiche]

end Serveur

def Requete.vise (q : Requete) : Option (Int × Int) := if q.nom = txtCoup then entiers q.infos else none

theorem requeteTir_vise {x y : Int} (hx : InInt x) (hy : InInt y) : (requeteTir x y).vise = some (x, y) := by
  simp only [Requete.vise, requeteTir, if_true, entiers_print hx hy]

theorem requeteMort_vise : requeteMort.vise = none := by
  decide

noncomputable def annonce (B S : Set (Int × Int)) (q : Option Requete) : List Char :=
  match q.bind Requete.vise with
  | some p => annonceTir (statut B S p)
  | none => []

noncomputable def annonces (n : Int) (B : Set (Int × Int)) (L : Nat → List Requete) (m k : Nat) : List Char :=
  (List.range k).flatMap fun i => annonce B (vises n L fun j => if j < i then m + 1 else m) (L i)[m]?

theorem annonces_succ (n : Int) (B : Set (Int × Int)) (L : Nat → List Requete) (m k : Nat) :
    annonces n B L m (k + 1) = annonces n B L m k ++
      annonce B (vises n L fun j => if j < k then m + 1 else m) (L k)[m]? := by
  simp [annonces, List.range_succ]

theorem annonces_prefixe {n : Int} {B : Set (Int × Int)} {L L' : Nat → List Requete} {m k : Nat} (hk : (k : Int) ≤ n)
    (h : ∀ i : Nat, (i : Int) < n → L i <+: L' i)
    (hm : ∀ i : Nat, (i : Int) < n → (if i < k then m + 1 else m) ≤ (L i).length) :
    annonces n B L m k = annonces n B L' m k := by
  refine List.flatMap_congr fun i hi => ?_
  have hik := List.mem_range.mp hi
  have hin : (i : Int) < n := by omega
  obtain ⟨r, hr⟩ := h i hin
  have hlong := hm i hin
  rw [if_pos hik] at hlong
  rw [← hr, List.getElem?_append_left (by omega)]
  refine congrArg (fun S => annonce B S _) (vises_prefixe h fun j hj => ?_)
  have := hm j hj
  split_ifs at this ⊢ <;> omega

inductive EtapeAffiche (n : Int) : Etat × List Char → Action → Etat × List Char → Prop
  | serveur {s s' : Etat} {b : Serveur.Action} {ecran ecran' : List Char} (hs : Etape n s (.serveur b) s')
      (ha : PasAffiche (s.serveur, ecran) b (s'.serveur, ecran')) :
      EtapeAffiche n (s, ecran) (.serveur b) (s', ecran')
  | client {s s' : Etat} {i : Nat} {b : Client.Action} {ecran : List Char} (hs : Etape n s (.client i b) s') :
      EtapeAffiche n (s, ecran) (.client i b) (s', ecran)

variable {g₀ : Serveur.GameT} {s₀ s s' : Etat} {es : List Action} {a : Action} {ecran ecran' : List Char} {i k : Nat}
  {q : Requete}

theorem EtapeAffiche.etape {n : Int} {t t' : Etat × List Char} (h : EtapeAffiche n t a t') : Etape n t.1 a t'.1 := by
  cases h with
  | serveur hs _ => exact hs
  | client hs => exact hs

theorem EtapeAffiche.trace {n : Int} {t₀ t : Etat × List Char} (h : Trace (EtapeAffiche n) t₀ es t) :
    Trace (Etape n) t₀.1 es t.1 := by
  induction h with
  | nil => exact .nil
  | snoc _ hs ih => exact ih.snoc hs.etape

structure Ecriture (g₀ : Serveur.GameT) (es : List Action) (s : Etat) (ecran : List Char) : Prop where
  affchageBateau : s.serveur.game.affchageBateau = g₀.affchageBateau
  plateau : s.serveur.MontrePlateau → ∃ t, afficherPlateau s.serveur.game = some t ∧ ecran = txtPartie ++ t
  go : ∀ k, s.serveur.point = .envoi .go k ∨ s.serveur.point = .accuse .go k → ecran = []
  tirs : ∀ k, s.serveur.Tire k → ecran = annonces g₀.nbJoueur (s.mer g₀) (fun i => tirsPris i es) s.serveur.manche k

theorem Serveur.Poste.Tire.lance {p : Serveur.Poste} (h : p.Tire k) : p.Lance := by
  rcases h with h | ⟨q, h⟩ <;> simp [Serveur.Poste.Lance, h]

theorem Serveur.Poste.Tire.joues {p : Serveur.Poste} (h : p.Tire k) (i : Nat) :
    p.joues i = if i < k then p.manche + 1 else p.manche := by
  rcases h with h | ⟨q, h⟩ <;> simp [Serveur.Poste.joues, h]

theorem Salve.annonce (h : Salve g₀ es s) (hl : s.serveur.Lance) : Annonce g₀ es s 0 :=
  ⟨h.rang hl, fun _ _ => Nat.zero_le _⟩

theorem Ecriture.client {b : Client.Action} (h : Ecriture g₀ es s ecran) (hsalve : Salve g₀ es s)
    (hgarde : ∀ i, (s.clients i).Garde (s'.clients i)) (hserveur : s'.serveur = s.serveur) :
    Ecriture g₀ (es ++ [.client i b]) s' ecran := by
  have hpris (k : Nat) : tirsPris k (es ++ [.client i b]) = tirsPris k es := tirsPris_autre fun q' he => by cases he
  refine ⟨hserveur ▸ h.affchageBateau, hserveur ▸ h.plateau, hserveur ▸ h.go, fun k hk => ?_⟩
  rw [hserveur] at hk ⊢
  simp only [hpris]
  rw [(hsalve.annonce hk.lance).mer hgarde]
  exact h.tirs k hk

theorem Serveur.EnManche.annonce {p : Serveur.Poste} {m : Nat} {B S : Set (Int × Int)} {t : List Char}
    (hg₀ : Lancement g₀) (h : Serveur.EnManche g₀ p) (ht : TirDe g₀.taillePlateau p.verdicts i m q)
    (hr : p.game.plateau.Represente g₀.taillePlateau S) (hB : p.game.plateau.flotte = B) {pile : PileTir}
    {hq : q.Valide} (ha : recevoirTirAffiche p.game pile (Lecture.entiere q hq) = some t) :
    t = Bnbr.annonce B S (some q) := by
  have hn := hg₀.registres.plateau
  have hgn := h.regles.taillePlateau
  simp only [recevoirTirAffiche, Serveur.recevoir_livrer hq pile.buff pile.reponse, Option.bind_eq_bind,
    Option.bind_some] at ha
  rcases ht with ⟨-, x, y, hd, rfl⟩ | ⟨-, -, -, rfl⟩
  · obtain ⟨hx, hy⟩ := Dans.inInt hn hd
    have hlu := lu_requeteTir hx hy
    have hne : lu 999 (requeteTir x y).infos ≠ [] := by simp [hlu]
    simp only [afficherReponse, livrer_id, livrer_nom _ hq, livrer_infos _ hq pile.reponse hne, hlu,
      Option.bind_eq_bind, Option.bind_some, lireCoup_entiers (entiers_print hx hy)] at ha
    have hid : (requeteTir x y).id = 6 := rfl
    have hnom : (requeteTir x y).nom = txtCoup := rfl
    rw [if_pos hid, if_pos hnom, afficherTir_statut (by omega) (hgn.symm ▸ hr) (hgn.symm ▸ hd), Option.some.injEq] at ha
    rw [← ha, hB, Bnbr.annonce, Option.bind_some, requeteTir_vise hx hy]
  · have hne : requeteMort.nom ≠ txtCoup := by decide
    simp only [afficherReponse, livrer_id, livrer_nom _ hq, Option.bind_eq_bind, Option.bind_some, hne, if_false] at ha
    have hid : requeteMort.id = 6 := rfl
    rw [if_pos hid, Option.some.injEq] at ha
    rw [← ha, Bnbr.annonce, Option.bind_some, requeteMort_vise]

theorem Invariant.tire (h : Invariant g₀ s) (hk : s.serveur.Tire k) : (k : Int) ≤ g₀.nbJoueur := by
  rcases h with h | h
  · have hreg := h.serveur
    rcases hk with hk | ⟨q, hk⟩
    · simp only [Regulier, hk] at hreg
      exact hreg.2
    · simp only [Regulier, hk] at hreg
      exact hreg.2.1.le
  · obtain ⟨t, ht | ht⟩ := h.serveur <;> simp [Serveur.Poste.Tire, ht] at hk

theorem Ecriture.serveur {b : Serveur.Action} {p : Serveur.Poste} {vc vs : Nat → List Requete} (hg₀ : Lancement g₀)
    (h : Ecriture g₀ es s ecran) (hpartie : Partie g₀ s₀ es s) (ha : PasAffiche (s.serveur, ecran) b (p, ecran')) :
    Ecriture g₀ (es ++ [.serveur b]) ⟨p, s.clients, vc, vs⟩ ecran' := by
  have hsalve := hpartie.salve
  have haff := ha.pas.affchageBateau.trans h.affchageBateau
  cases ha with
  | touche hp ht => exact ⟨haff, fun _ => ⟨_, ht, rfl⟩, by simp, by simp [Serveur.Poste.Tire]⟩
  | go hp hi hs =>
    cases hs with
    | suite hp' hi' =>
      rw [hp, Serveur.Point.envoi.injEq] at hp'
      obtain ⟨rfl, rfl⟩ := hp'
      exact ⟨haff, False.elim, fun _ _ => rfl, by simp [Serveur.Poste.Tire, Boucle.suite]⟩
    | _ => simp_all
  | @tirRecu _ _ texte ack i q g pile hp hq ht hg =>
    refine ⟨haff, False.elim, by simp, fun k hk => ?_⟩
    obtain rfl : i + 1 = k := by simpa [Serveur.Poste.Tire] using hk
    have htire : s.serveur.Tire i := .inr ⟨q, hp⟩
    obtain ⟨hm, htir⟩ := hpartie.invariant.suit.tirRecu hp
    have hpeint := hsalve.peint htire.lance
    have htexte := hm.annonce hg₀ htir hpeint.represente hpeint.mer ht
    rw [funext htire.joues, ← hsalve.enCours i q hp] at htexte
    simp only [tirsPris_envoie]
    rw [annonces_succ]
    exact congrArg₂ (· ++ ·) (h.tirs i htire) htexte
  | verdict hp hi ht hs =>
    cases hs with
    | verdict hp' hi' hq =>
      refine ⟨haff, fun _ => ⟨_, ?_, rfl⟩, by simp, by simp [Serveur.Poste.Tire]⟩
      rw [← ht, choisirFin_sauf hq]
      rfl
    | _ => simp_all
  | autre hp hs =>
    refine ⟨haff, fun hm => ?_, fun k hk => ?_, fun k hk => ?_⟩
    · obtain ⟨hm', hgame⟩ := hs.montrePlateau hp hm
      rw [hgame]
      exact h.plateau hm'
    · obtain ⟨k', hk'⟩ := hs.montreGo hp hk
      exact h.go k' hk'
    · obtain ⟨hman, ⟨rfl, rfl, k', hk'⟩ | ⟨q, rfl, hk'⟩⟩ := hs.tire hp hk
      · rw [h.go k' (.inl hk')]
        rfl
      · have htire : s.serveur.Tire k := .inl hk'
        rw [h.tirs k htire, hman]
        refine annonces_prefixe (hpartie.invariant.tire htire) (fun i _ => ?_) fun i hi => ?_
        · rw [tirsPris_snoc]
          exact List.prefix_append _ _
        · rw [hsalve.longueur i hi]
          exact (htire.joues i).symm.le.trans (s.serveur.joues_le i)

theorem Ecriture.etape (hg₀ : Lancement g₀) (h : Ecriture g₀ es s ecran) (hpartie : Partie g₀ s₀ es s)
    (hs : EtapeAffiche g₀.nbJoueur (s, ecran) a (s', ecran')) : Ecriture g₀ (es ++ [a]) s' ecran' := by
  cases hs with
  | serveur hs ha =>
    cases hs with
    | serveurPrend => exact h.serveur hg₀ hpartie ha
    | serveurEnvoie => exact h.serveur hg₀ hpartie ha
    | serveurInterne => exact h.serveur hg₀ hpartie ha
  | client hs =>
    have hgarde := hs.garde hg₀ hpartie.invariant
    cases hs with
    | clientPrend => exact h.client hpartie.salve hgarde rfl
    | clientEnvoie => exact h.client hpartie.salve hgarde rfl
    | clientInterne => exact h.client hpartie.salve hgarde rfl

theorem Debut.ecriture (h : Debut g₀ s) (ecran : List Char) : Ecriture g₀ [] s ecran where
  affchageBateau := by rw [h.serveur]
  plateau := by simp [Serveur.Poste.MontrePlateau, h.serveur]
  go := by simp [h.serveur]
  tirs := by simp [Serveur.Poste.Tire, h.serveur]

theorem Ecriture.trace (hg₀ : Lancement g₀) (h₀ : Debut g₀ s₀) {ecran₀ : List Char} {t : Etat × List Char}
    (h : Trace (EtapeAffiche g₀.nbJoueur) (s₀, ecran₀) es t) : Ecriture g₀ es t.1 t.2 :=
  h.invariant (fun es t => Ecriture g₀ es t.1 t.2) (h₀.ecriture ecran₀) fun _ _ _ _ ht ih hs =>
    ih.etape hg₀ (Partie.trace hg₀ h₀ (EtapeAffiche.trace ht)) hs

structure EcranServeur (g₀ : Serveur.GameT) (es : List Action) (s : Etat) (ecran : List Char) : Prop where
  plateau : s.serveur.MontrePlateau → ecran = txtPartie ++ tableau g₀.taillePlateau.toNat fun i j =>
    afficherCase g₀.affchageBateau (statut (s.mer g₀) (bombardees g₀ es (s.serveur.joues 0)) (j, i))
  go : ∀ k, s.serveur.point = .envoi .go k ∨ s.serveur.point = .accuse .go k → ecran = []
  tirs : ∀ k, s.serveur.Tire k → ecran = annonces g₀.nbJoueur (s.mer g₀) (fun i => salves i es) s.serveur.manche k

theorem Serveur.Poste.MontrePlateau.lance {p : Serveur.Poste} (h : p.MontrePlateau) :
    p.Lance ∧ ∀ i, p.joues i = p.joues 0 := by
  cases hp : p.point with
  | envoi b => cases b <;> simp_all [Serveur.Poste.MontrePlateau, Serveur.Poste.Lance, Serveur.Poste.joues]
  | accuse b => cases b <;> simp_all [Serveur.Poste.MontrePlateau, Serveur.Poste.Lance, Serveur.Poste.joues]
  | _ => simp_all [Serveur.Poste.MontrePlateau, Serveur.Poste.Lance, Serveur.Poste.joues]

theorem recevoirTirAffiche_existe {g g' : Serveur.GameT} (hn : g.taillePlateau ≤ 50) {pile : PileTir} {l : Lecture}
    {ack : List Char} (h : recevoirTir g pile l = some (g', ack)) : ∃ t, recevoirTirAffiche g pile l = some t := by
  simp only [recevoirTir, Option.bind_eq_bind, Option.bind_eq_some_iff] at h
  obtain ⟨r, hr, _, -, _, ht, -⟩ := h
  simp only [recevoirTirAffiche, hr, Option.bind_eq_bind, Option.bind_some, afficherReponse]
  by_cases hid : r.id = 6
  · simp only [traiterTir, hid, if_true, Option.bind_eq_bind] at ht ⊢
    obtain ⟨nom, hnom, ht⟩ := Option.bind_eq_some_iff.mp ht
    by_cases hc : nom = txtCoup
    · simp only [hnom, hc, if_true, Option.bind_some] at ht ⊢
      obtain ⟨infos, hinfos, -⟩ := Option.bind_eq_some_iff.mp ht
      simp only [hinfos, Option.bind_some, afficherTir]
      split_ifs with hd
      · obtain ⟨y, x, he⟩ := Dans.fin (p := lireCoup infos pile.xy) hd hn
        simp only [he, coord]
        exact ⟨_, by rw [Cells.get_fin]; rfl⟩
      · exact ⟨_, rfl⟩
    · exact ⟨[], by simp only [hnom, Option.bind_some, hc, if_false]⟩
  · exact ⟨[], by simp only [hid, if_false]⟩

theorem Serveur.Pas.affiche {p p' : Serveur.Poste} {b : Serveur.Action} (h : Serveur.Pas p b p')
    (hn : p.Affiche → p.game.taillePlateau ≤ 50) (ecran : List Char) :
    ∃ ecran', PasAffiche (p, ecran) b (p', ecran') := by
  by_cases hp : p.Affiche
  · have hplateau := afficherPlateau_spec (hn hp)
    cases h with
    | touche hpt => exact ⟨_, .touche hpt hplateau⟩
    | tirRecu pile hpt hq hg =>
      obtain ⟨t, ht⟩ := recevoirTirAffiche_existe (hn hp) hg
      exact ⟨_, .tirRecu pile hpt hq ht hg⟩
    | verdict hpt hi hq => exact ⟨_, .verdict hpt hi hplateau (.verdict hpt hi hq)⟩
    | @suite b i hpt hi =>
      cases b with
      | plateau s => exact ⟨_, .go hpt hi (.suite hpt hi)⟩
      | _ => simp [Serveur.Poste.Affiche, hpt] at hp
    | @envoi b i q hpt hi hq => cases b <;> simp_all [Serveur.Poste.Affiche]
    | _ => simp_all [Serveur.Poste.Affiche]
  · exact ⟨ecran, .autre hp h⟩

theorem Invariant.affiche (hg₀ : Lancement g₀) (h : Invariant g₀ s) (hp : s.serveur.Affiche) :
    s.serveur.game.taillePlateau ≤ 50 := by
  have h1 := hg₀.registres.joueurs
  rcases h with h | h
  · have hm : Serveur.EnManche g₀ s.serveur := by
      have hreg := h.serveur
      cases hpt : s.serveur.point with
      | envoi b i => cases b <;> simp_all [Serveur.Poste.Affiche, Serveur.Regulier, Boucle.Reguliere]
      | _ => simp_all [Serveur.Poste.Affiche, Serveur.Regulier]
    rw [hm.regles.taillePlateau]
    exact hg₀.registres.plateau
  · have hn := h.nbJoueur
    obtain ⟨t, ht | ht⟩ := h.serveur
    · simp only [Serveur.Poste.Affiche, ht] at hp
      omega
    · simp [Serveur.Poste.Affiche, ht] at hp

theorem EtapeAffiche.existe (hg₀ : Lancement g₀) (h₀ : Debut g₀ s₀) (h : Trace (Etape g₀.nbJoueur) s₀ es s)
    (ecran₀ : List Char) : ∃ ecran, Trace (EtapeAffiche g₀.nbJoueur) (s₀, ecran₀) es (s, ecran) := by
  refine h.invariant (fun es s => ∃ ecran, Trace (EtapeAffiche g₀.nbJoueur) (s₀, ecran₀) es (s, ecran)) ⟨ecran₀, .nil⟩
    fun es t a u ht ih hs => ?_
  obtain ⟨ecran, he⟩ := ih
  have hinv : Invariant g₀ t := (Salve.trace hg₀ h₀ ht).1
  cases a with
  | serveur b =>
    obtain ⟨ecran', ha⟩ : ∃ ecran', PasAffiche (t.serveur, ecran) b (u.serveur, ecran') := by
      cases hs with
      | serveurPrend hs => exact hs.affiche (hinv.affiche hg₀) ecran
      | serveurEnvoie hs => exact hs.affiche (hinv.affiche hg₀) ecran
      | serveurInterne hs => exact hs.affiche (hinv.affiche hg₀) ecran
    exact ⟨ecran', he.snoc (.serveur hs ha)⟩
  | client i b => exact ⟨ecran, he.snoc (.client hs)⟩

theorem ecran_serveur (g₀ : Serveur.GameT) (hg₀ : Lancement g₀) (s₀ : Etat) (h₀ : Debut g₀ s₀) (es : List Action)
    (s : Etat) (h : Trace (Etape g₀.nbJoueur) s₀ es s) (ecran₀ : List Char) :
    (∃ ecran, Trace (EtapeAffiche g₀.nbJoueur) (s₀, ecran₀) es (s, ecran)) ∧
      ∀ ecran, Trace (EtapeAffiche g₀.nbJoueur) (s₀, ecran₀) es (s, ecran) → EcranServeur g₀ es s ecran := by
  refine ⟨EtapeAffiche.existe hg₀ h₀ h ecran₀, fun ecran he => ?_⟩
  have hpartie : Partie g₀ s₀ es s := Partie.trace hg₀ h₀ h
  have hecrit : Ecriture g₀ es s ecran := Ecriture.trace hg₀ h₀ he
  refine ⟨fun hm => ?_, hecrit.go, fun k hk => ?_⟩
  · obtain ⟨hl, hj⟩ := hm.lance
    obtain ⟨t, ht, rfl⟩ := hecrit.plateau hm
    have hpeint := hpartie.salve.peint hl
    rw [hpartie.vises (k := s.serveur.joues 0) (fun i _ => hj i) fun i _ => (hj i).symm.le] at hpeint
    have hn := hpeint.regles.taillePlateau
    rw [afficherPlateau_statut (by rw [hn]; exact hg₀.registres.plateau) (hn.symm ▸ hpeint.represente),
      Option.some.injEq] at ht
    rw [← ht, hn, hpeint.mer, hecrit.affchageBateau]
  · rw [hecrit.tirs k hk]
    refine annonces_prefixe (hpartie.invariant.tire hk) (fun i _ => hpartie.prises i) fun i hi => ?_
    rw [hpartie.salve.longueur i hi]
    exact (hk.joues i).symm.le.trans (s.serveur.joues_le i)

theorem ecran_serveur_manche : ∃ s₀ es s ecran, Trace (EtapeAffiche 2) (s₀, []) es (s, ecran) ∧
    ecran = txtPartie ++ tableau 4 fun i j => afficherCase true
      (statut (s.mer (GameT.depart 2 4 2)) (bombardees (GameT.depart 2 4 2) es (s.serveur.joues 0)) (j, i)) := by
  obtain ⟨s, f, k, ⟨s₀, h₀, hr⟩, -, hp, -⟩ := manche_accessible depart_deux
  obtain ⟨es, h⟩ := Run.trace hr
  obtain ⟨⟨ecran, he⟩, hall⟩ := ecran_serveur _ depart_deux s₀ h₀ es s h []
  exact ⟨s₀, es, s, ecran, he, (hall ecran he).plateau (by simp [Serveur.Poste.MontrePlateau, hp])⟩

end Bnbr
