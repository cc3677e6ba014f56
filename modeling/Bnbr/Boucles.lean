import Bnbr.Clib.Accesses
import Bnbr.Deroulement

namespace Bnbr.Serveur

open CArray CString Logged

-- the loops of lancement_partie over the players, each index they use being noted
def demanderNote (g : GameT) (avant : ReqT) : Logged Int (List (Int × List Char)) :=
  loop g.nbJoueur.toNat (fun i envois => do
    let _ ← use (i : Int) (get g.players i)
    let req ← lift (envoyer (formatReq avant demandeBateaux))
    pure (envois ++ [((i : Int), req)])) []

-- the polls of recevoir_bateaux have an index of their own and are not noted
def recevoirBateauxNote (g : GameT) (avant : ReqT) (tours : Nat → Tour) (k : Nat) : Logged Int Collecte := do
  let envois ← demanderNote g avant
  lift (Loop.run k (fun i c => etape c (tours i)) ⟨g, 0, 0, envois⟩)

def aTousNote (g : GameT) (q : Nat → Option Requete) (e : Nat → Echange) (journal : Journal) : Logged Int Journal :=
  loop g.nbJoueur.toNat (fun i journal => do
    let _ ← use (i : Int) (get g.players i)
    let r ← lift (q i)
    let _ ← lift (echanger (e i) r)
    pure (journal ++ [((i : Int), r)])) journal

def tirsNote (g : GameT) (e : Nat → PileTir × Lecture) (journal : Journal) : Logged Int (GameT × Journal) :=
  loop g.nbJoueur.toNat (fun i s => do
    let _ ← use (i : Int) (get s.1.players i)
    let t ← lift (recevoirTir s.1 (e i).1 (e i).2)
    pure (t.1, s.2 ++ [((i : Int), accuseOk)])) (g, journal)

def avantVerdictNote (g : GameT) (e : EntreesManche) (journal : Journal) : Logged Int (GameT × Journal) := do
  let plateau ← lift (textePlateau g)
  let journal ← aTousNote g (fun _ => some (requetePlateau plateau)) e.plateau journal
  let journal ← aTousNote g (fun _ => some requeteGo) e.go journal
  tirsNote g e.tir journal

def verifierFinPartieNote (g : GameT) (e : Nat → Echange) (journal : Journal) : Logged Int (GameT × Journal) := do
  let c ← lift (choisirFin g)
  let journal' ← aTousNote c.1 c.2 e journal
  pure (c.1, journal')

def mancheNote (g : GameT) (e : EntreesManche) (journal : Journal) : Logged Int (GameT × Journal) := do
  let s ← avantVerdictNote g e journal
  verifierFinPartieNote s.1 e.fin s.2

def boucleJeuNote (g : GameT) (entrees : Nat → EntreesManche) (k : Nat) : Logged Int (GameT × Journal) :=
  loop k (fun m s => if s.1.etat = 2 then pure s else mancheNote s.1 (entrees m) s.2) (g, [])

def lancementPartieNote (g : GameT) (e : EntreesPartie) (k : Nat) : Logged Int (GameT × Envois) := do
  let infos ← aTousNote g (fun _ => some (requeteInfos g)) e.infos []
  let c ← recevoirBateauxNote g e.avant e.tours e.sondages
  if c.fini then do
    let s ← boucleJeuNote c.game e.manches k
    pure (s.1, ⟨infos, c.envois, s.2⟩)
  else lift none

theorem recevoirBateauxNote_value (g : GameT) (avant : ReqT) (tours : Nat → Tour) (k : Nat) :
    (recevoirBateauxNote g avant tours k).value = recevoirBateaux g avant tours k := by
  simp only [recevoirBateauxNote, recevoirBateaux, demanderNote, demander, value_bind, value_loop, value_use,
    value_lift, value_pure, Option.bind_eq_bind]

theorem aTousNote_value (g : GameT) (q : Nat → Option Requete) (e : Nat → Echange) (journal : Journal) :
    (aTousNote g q e journal).value = aTous g q e journal := by
  simp only [aTousNote, aTous, value_bind, value_loop, value_use, value_lift, value_pure, Option.bind_eq_bind]

theorem avantVerdictNote_value (g : GameT) (e : EntreesManche) (journal : Journal) :
    (avantVerdictNote g e journal).value = avantVerdict g e journal := by
  simp only [avantVerdictNote, avantVerdict, tirsNote, tirs, aTousNote_value, value_bind, value_loop, value_use,
    value_lift, value_pure, Option.bind_eq_bind]

theorem mancheNote_value (g : GameT) (e : EntreesManche) (journal : Journal) :
    (mancheNote g e journal).value = manche g e journal := by
  simp only [mancheNote, manche, verifierFinPartieNote, verifierFinPartie, avantVerdictNote_value, aTousNote_value,
    value_bind, value_lift, value_pure, Option.bind_eq_bind]

theorem lancementPartieNote_value (g : GameT) (e : EntreesPartie) (k : Nat) :
    (lancementPartieNote g e k).value = lancementPartie g e k := by
  simp only [lancementPartieNote, lancementPartie, boucleJeuNote, boucleJeu, recevoirBateauxNote_value,
    aTousNote_value, mancheNote_value, value_bind, value_loop, value_ite, value_lift, value_pure, Option.bind_eq_bind]

def Inscrit (nbJoueur : Int) (k : Int) : Prop := 0 ≤ k ∧ k < nbJoueur

theorem loop_inscrits {σ : Type} {nbJoueur : Int} {f : Nat → σ → Logged Int σ}
    (h : ∀ (i : Nat) s, Inscrit nbJoueur i → Within (Inscrit nbJoueur) (f i s)) (s : σ) :
    Within (Inscrit nbJoueur) (loop nbJoueur.toNat f s) :=
  Within.loop (fun _ _ => True) trivial fun i t hi _ => ⟨h i t ⟨by omega, by omega⟩, fun _ _ => trivial⟩

theorem demanderNote_inscrits (g : GameT) (avant : ReqT) : Within (Inscrit g.nbJoueur) (demanderNote g avant) :=
  loop_inscrits (fun _ _ hi => (Within.use hi _).bind fun _ _ => (Within.lift _).bind fun _ _ => Within.pure _) _

theorem recevoirBateauxNote_inscrits (g : GameT) (avant : ReqT) (tours : Nat → Tour) (k : Nat) :
    Within (Inscrit g.nbJoueur) (recevoirBateauxNote g avant tours k) :=
  (demanderNote_inscrits g avant).bind fun _ _ => Within.lift _

theorem aTousNote_inscrits (g : GameT) (q : Nat → Option Requete) (e : Nat → Echange) (journal : Journal) :
    Within (Inscrit g.nbJoueur) (aTousNote g q e journal) :=
  loop_inscrits (fun _ _ hi => (Within.use hi _).bind fun _ _ => (Within.lift _).bind fun _ _ =>
    (Within.lift _).bind fun _ _ => Within.pure _) _

theorem tirsNote_inscrits (g : GameT) (e : Nat → PileTir × Lecture) (journal : Journal) :
    Within (Inscrit g.nbJoueur) (tirsNote g e journal) :=
  loop_inscrits (fun _ _ hi => (Within.use hi _).bind fun _ _ => (Within.lift _).bind fun _ _ => Within.pure _) _

theorem avantVerdictNote_inscrits (g : GameT) (e : EntreesManche) (journal : Journal) :
    Within (Inscrit g.nbJoueur) (avantVerdictNote g e journal) :=
  (Within.lift _).bind fun _ _ => (aTousNote_inscrits g _ _ _).bind fun _ _ =>
    (aTousNote_inscrits g _ _ _).bind fun _ _ => tirsNote_inscrits g _ _

theorem verifierFinPartieNote_inscrits (g : GameT) (e : Nat → Echange) (journal : Journal) :
    Within (Inscrit g.nbJoueur) (verifierFinPartieNote g e journal) := by
  refine (Within.lift _).bind fun c hc => ?_
  rw [← choisirFin_nbJoueur hc]
  exact (aTousNote_inscrits c.1 c.2 e journal).bind fun _ _ => Within.pure _

theorem mancheNote_inscrits (g : GameT) (e : EntreesManche) (journal : Journal) :
    Within (Inscrit g.nbJoueur) (mancheNote g e journal) := by
  refine (avantVerdictNote_inscrits g e journal).bind fun s hs => ?_
  rw [avantVerdictNote_value] at hs
  rw [← avantVerdict_nbJoueur hs]
  exact verifierFinPartieNote_inscrits s.1 e.fin s.2

theorem boucleJeuNote_inscrits (g : GameT) (entrees : Nat → EntreesManche) (k : Nat) :
    Within (Inscrit g.nbJoueur) (boucleJeuNote g entrees k) := by
  refine Within.loop (fun _ s => s.1.nbJoueur = g.nbJoueur) rfl fun m s _ hs => ?_
  by_cases he : s.1.etat = 2
  · simp only [if_pos he]
    exact ⟨Within.pure s, fun u hu => Option.some.inj hu ▸ hs⟩
  · simp only [if_neg he, mancheNote_value]
    exact ⟨hs ▸ mancheNote_inscrits s.1 (entrees m) s.2, fun u hu => (manche_nbJoueur hu).trans hs⟩

theorem lancementPartieNote_inscrits (g : GameT) (e : EntreesPartie) (k : Nat) :
    Within (Inscrit g.nbJoueur) (lancementPartieNote g e k) := by
  refine (aTousNote_inscrits g _ _ _).bind fun infos _ => (recevoirBateauxNote_inscrits g _ _ _).bind fun c hc => ?_
  rw [recevoirBateauxNote_value] at hc
  by_cases hf : c.fini
  · rw [if_pos hf, ← (recevoirBateaux_game hc).nbJoueur]
    exact (boucleJeuNote_inscrits c.game e.manches k).bind fun _ _ => Within.pure _
  · rw [if_neg hf]
    exact Within.lift none

end Bnbr.Serveur
