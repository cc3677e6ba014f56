import Bnbr.Boucles
import Bnbr.Initial

namespace Bnbr.Serveur

open CArray CString Runs Logged

-- what affichage_attente_joueur puts on the screen, in its order
structure Affiche where
  maxJoueur : Int
  taillePlateau : Int
  tailleBateau : Int
  timeout : Int
  affchageBateau : Bool
  pseudos : List (Buf 100)
  nbJoueur : Int

def MemoireT.pseudo (game : MemoireT) (i : Nat) : Logged Int (Buf 100) := do
  let joueur ← use (i : Int) (get game.players i)
  pure joueur.pseudo

-- i <= game.nbJoueur: one turn more than there are players
def affichageAttenteJoueur (game : MemoireT) : Logged Int Affiche := do
  let pseudos ← collect (game.nbJoueur + 1).toNat game.pseudo
  pure ⟨game.maxJoueur, game.taillePlateau, game.tailleBateau, game.timeout, game.affchageBateau, pseudos,
    game.nbJoueur⟩

def MemoireT.joueurNote (m : MemoireT) (f : ClientT → Option ClientT) : Logged Int MemoireT := do
  let joueur ← use m.nbJoueur (get m.players m.nbJoueur)
  let joueur' ← lift (f joueur)
  let players ← use m.nbJoueur (CArray.set m.players m.nbJoueur joueur')
  pure { m with players := players }

def Salon.ranger (s : Salon) : Salon.Fait → Logged Int MemoireT
  | .avance =>
    match s.point with
    | .pseudo _ reponse => s.memoire.joueurNote (ClientT.copierPseudo reponse.infos)
    | .socket c => s.memoire.joueurNote fun joueur => some { joueur with socket := c.socket }
    | .numero _ => s.memoire.joueurNote fun joueur => some { joueur with id := s.memoire.nbJoueur }
    | _ => pure s.memoire
  | _ => pure s.memoire

theorem MemoireT.pseudo_log (m : MemoireT) (i : Nat) : (m.pseudo i).log = [(i : Int)] := by
  show [(i : Int)] ++ (get m.players i).elim [] (fun _ => []) = [(i : Int)]
  cases get m.players i <;> rfl

theorem MemoireT.pseudo_defini (m : MemoireT) {i : Nat} (h : i < 100) : (m.pseudo i).value ≠ none := by
  obtain ⟨k, hk⟩ : ∃ k : Fin 100, (i : Int) = (k.val : Int) := exists_fin (by omega) (by omega)
  rw [MemoireT.pseudo, value_bind, value_use, hk, get_fin]
  exact Option.some_ne_none _

theorem affichageAttenteJoueur_log {m : MemoireT} (h0 : 0 ≤ m.nbJoueur) (h1 : m.nbJoueur ≤ 100) :
    (affichageAttenteJoueur m).log = (List.range (m.nbJoueur + 1).toNat).map fun i : Nat => (i : Int) := by
  show (collect (m.nbJoueur + 1).toNat m.pseudo).log ++ _ = _
  rw [log_collect (fun i hi => m.pseudo_defini (by omega)) fun i _ => m.pseudo_log i]
  cases (collect (m.nbJoueur + 1).toNat m.pseudo).value with
  | none => exact List.append_nil _
  | some l => exact List.append_nil _

theorem MemoireT.pseudo_hors (m : MemoireT) : (m.pseudo 100).value = none := rfl

-- with a hundred players the entry read last is not in the array
theorem affichageAttenteJoueur_defini {m : MemoireT} (h1 : m.nbJoueur ≤ 100) :
    (∃ a, (affichageAttenteJoueur m).value = some a) ↔ m.nbJoueur < 100 := by
  simp only [affichageAttenteJoueur, value_bind, value_pure]
  rcases Int.lt_or_eq_of_le h1 with h | h
  · obtain ⟨l, hl⟩ := collect_defined fun i (hi : i < (m.nbJoueur + 1).toNat) =>
      m.pseudo_defini (show i < 100 by omega)
    exact iff_of_true ⟨_, by rw [hl]; rfl⟩ h
  · have hc : (collect (m.nbJoueur + 1).toNat m.pseudo).value = none := by
      rw [h, value_collect]
      show Loop.run (100 + 1) _ _ = none
      rw [Loop.run_succ]
      cases Loop.run 100 (fun i l => (m.pseudo i).value.map fun a => l ++ [a]) [] with
      | none => rfl
      | some l => simp only [Option.bind_some, m.pseudo_hors, Option.map_none]
    refine iff_of_false ?_ (by omega)
    rintro ⟨a, ha⟩
    rw [hc] at ha
    cases ha

theorem MemoireT.joueurNote_value (m : MemoireT) (f : ClientT → Option ClientT) :
    (m.joueurNote f).value = m.joueur f := by
  simp only [joueurNote, joueur, value_bind, value_use, value_lift, value_pure, Option.bind_eq_bind]

theorem MemoireT.joueurNote_within {p : Int → Prop} {m : MemoireT} (h : p m.nbJoueur) (f : ClientT → Option ClientT) :
    Within p (m.joueurNote f) :=
  (Within.use h _).bind fun _ _ => (Within.lift _).bind fun _ _ => (Within.use h _).bind fun _ _ => Within.pure _

namespace Salon

variable {s s' : Salon} {e : Fait} {es : List Fait}

theorem Pas.ranger (h : Pas s e s') {m : MemoireT} (hm : (s.ranger e).value = some m) :
    m.players = s'.memoire.players := by
  cases h with
  | @pseudo c r m' hp hm' =>
    simp only [Salon.ranger, hp, MemoireT.joueurNote_value] at hm
    obtain rfl := Option.some.inj (hm'.symm.trans hm)
    rfl
  | deborde hp hm' =>
    simp only [Salon.ranger, hp, MemoireT.joueurNote_value] at hm
    cases hm'.symm.trans hm
  | @socket c m' hp hm' =>
    simp only [Salon.ranger, hp, MemoireT.joueurNote_value] at hm
    obtain rfl := Option.some.inj (hm'.symm.trans hm)
    rfl
  | @numero c m' hp hm' =>
    simp only [Salon.ranger, hp, MemoireT.joueurNote_value] at hm
    obtain rfl := Option.some.inj (hm'.symm.trans hm)
    rfl
  | complet hp | place hp | joint hp | commencee hp | connecte hp | identifie hp | autre hp | compter hp | compte hp
  | ferme hp | clot hp =>
    simp only [Salon.ranger, hp] at hm
    exact Option.some.inj hm ▸ rfl
  | _ => exact Option.some.inj hm ▸ rfl

def Point.Compte (nbJoueur maxJoueur : Int) : Point → Prop
  | .accepter | .accepte _ | .saluer _ | .identifier _ | .decider _ _ | .pseudo _ _ | .socket _ | .numero _
  | .compter _ => nbJoueur < maxJoueur
  | .compte _ n => n = nbJoueur ∧ nbJoueur < maxJoueur
  | _ => True

structure Comptee (s : Salon) : Prop where
  joueurs : 0 ≤ s.memoire.nbJoueur
  place : s.memoire.nbJoueur ≤ s.memoire.maxJoueur
  max_le : s.memoire.maxJoueur ≤ 100
  point : s.point.Compte s.memoire.nbJoueur s.memoire.maxJoueur

theorem Pas.comptee (h : Pas s e s') (hs : Comptee s) : Comptee s' := by
  obtain ⟨h0, hle, hmax, hpt⟩ := hs
  cases h with
  | place hp hn => exact ⟨h0, hle, hmax, lt_of_le_of_ne hle hn⟩
  | accepte _ hp | connecte hp | lit hp | identifie hp =>
    rw [hp] at hpt
    exact ⟨h0, hle, hmax, hpt⟩
  | pseudo hp hm | socket hp hm | numero hp hm =>
    rw [hp] at hpt
    obtain ⟨k, joueur, -, -, rfl⟩ := MemoireT.joueur_eq_some hm
    exact ⟨h0, hle, hmax, hpt⟩
  | compter hp =>
    rw [hp] at hpt
    exact ⟨h0, hle, hmax, rfl, hpt⟩
  | compte hp =>
    rw [hp] at hpt
    obtain ⟨rfl, hlt⟩ := hpt
    exact ⟨Int.le_add_one h0, hlt, hmax, trivial⟩
  | ecrit hp =>
    obtain ⟨hpoint, -, rfl⟩ | ⟨-, -, rfl⟩ | ⟨-, -, rfl⟩ := Point.ecriture_cases hp
    · rw [hpoint] at hpt
      exact ⟨h0, hle, hmax, hpt⟩
    · exact ⟨h0, hle, hmax, trivial⟩
    · exact ⟨h0, hle, hmax, trivial⟩
  | touche | insuffisant | suffisant | lance | finit => exact ⟨h0, hle, hmax, hpt⟩
  | _ => exact ⟨h0, hle, hmax, trivial⟩

theorem Pas.comptes (h : Pas s e s') (hs : Comptee s) : s.memoire.nbJoueur ≤ s'.memoire.nbJoueur := by
  have hpt := hs.point
  cases h with
  | pseudo _ hm | socket _ hm | numero _ hm =>
    obtain ⟨k, joueur, -, -, rfl⟩ := MemoireT.joueur_eq_some hm
    exact le_refl _
  | compte hp =>
    rw [hp] at hpt
    exact hpt.1 ▸ Int.le_add_one (le_refl _)
  | _ => exact le_refl _

theorem attenteJoueur_comptee {game : MemoireT} (h0 : 0 ≤ game.maxJoueur) (h100 : game.maxJoueur ≤ 100) :
    Comptee (attenteJoueur game) := ⟨le_refl _, h0, h100, trivial⟩

theorem Comptee.ranger (h : Comptee s) {p : Int → Prop}
    (hp : s.memoire.nbJoueur < s.memoire.maxJoueur → p s.memoire.nbJoueur) (e : Fait) : Within p (s.ranger e) := by
  have hpt := h.point
  cases e with
  | avance =>
    simp only [Salon.ranger]
    split <;> rename_i heq
    · rw [heq] at hpt
      exact MemoireT.joueurNote_within (hp hpt) _
    · rw [heq] at hpt
      exact MemoireT.joueurNote_within (hp hpt) _
    · rw [heq] at hpt
      exact MemoireT.joueurNote_within (hp hpt) _
    · exact Within.pure _
  | _ => exact Within.pure _

end Salon

inductive Fil
  | attente
  | affichage
deriving DecidableEq, Repr

-- an index used on players, with the counters of the memory it is used on
structure Usage where
  fil : Fil
  k : Int
  nbJoueur : Int
  maxJoueur : Int

def Usage.Permis (u : Usage) : Prop :=
  0 ≤ u.k ∧ u.k < 100 ∧ (u.k < u.nbJoueur ∨ u.k = u.nbJoueur ∧ u.nbJoueur < u.maxJoueur)

-- the slot past the players is for attente_joueur alone
def Usage.Reserve (u : Usage) : Prop :=
  0 ≤ u.k ∧ u.k < 100 ∧ (u.k < u.nbJoueur ∨ u.fil = .attente ∧ u.k = u.nbJoueur ∧ u.nbJoueur < u.maxJoueur)

def noter (fil : Fil) (m : MemoireT) (log : List Int) : List Usage :=
  log.map fun k => ⟨fil, k, m.nbJoueur, m.maxJoueur⟩

-- the two threads of the lobby; ecran is what was displayed since the last key
structure SalonAffiche where
  salon : Salon
  ecran : Option Affiche
  usages : List Usage

namespace SalonAffiche

inductive Fait
  | rafraichit
  | salon (e : Salon.Fait)

def debut (game : MemoireT) : SalonAffiche := ⟨attenteJoueur game, none, []⟩

def nouveaux (s : SalonAffiche) : Fait → List Usage
  | .rafraichit => noter .affichage s.salon.memoire (affichageAttenteJoueur s.salon.memoire).log
  | .salon e => noter .attente s.salon.memoire (s.salon.ranger e).log

inductive Pas : SalonAffiche → Fait → SalonAffiche → Prop
  -- attente_joueur_thread displays a copy of *game, then waits for a key
  | rafraichit {s : SalonAffiche} {a : Affiche} (hv : s.salon.veille = .boucle) (he : s.ecran = none)
      (ha : (affichageAttenteJoueur s.salon.memoire).value = some a) :
      Pas s .rafraichit { s with ecran := some a, usages := s.usages ++ s.nouveaux .rafraichit }
  | deborde {s : SalonAffiche} (hv : s.salon.veille = .boucle) (he : s.ecran = none)
      (ha : (affichageAttenteJoueur s.salon.memoire).value = none) :
      Pas s .rafraichit { s with
        salon := { s.salon with point := .indefini }
        usages := s.usages ++ s.nouveaux .rafraichit }
  | touche {s : SalonAffiche} {salon : Salon} {t : Touche} {a : Affiche} (he : s.ecran = some a)
      (h : Salon.Pas s.salon (.touche t) salon) :
      Pas s (.salon (.touche t))
        { salon := salon, ecran := none, usages := s.usages ++ s.nouveaux (.salon (.touche t)) }
  | autre {s : SalonAffiche} {salon : Salon} {e : Salon.Fait} (he : ∀ t, e ≠ .touche t)
      (h : Salon.Pas s.salon e salon) :
      Pas s (.salon e) { s with salon := salon, usages := s.usages ++ s.nouveaux (.salon e) }

variable {s s' : SalonAffiche} {e : Fait} {es : List Fait} {game : MemoireT}

theorem Pas.usages (h : Pas s e s') : s'.usages = s.usages ++ s.nouveaux e := by
  cases h <;> rfl

theorem Pas.comptee (h : Pas s e s') (hs : s.salon.Comptee) : s'.salon.Comptee := by
  cases h with
  | rafraichit => exact hs
  | deborde => exact ⟨hs.joueurs, hs.place, hs.max_le, trivial⟩
  | touche _ h => exact h.comptee hs
  | autre _ h => exact h.comptee hs

theorem mem_nouveaux_affichage (h : s.salon.Comptee) {u : Usage} : u ∈ s.nouveaux .rafraichit ↔
    u.fil = .affichage ∧ (0 ≤ u.k ∧ u.k ≤ u.nbJoueur) ∧ u.nbJoueur = s.salon.memoire.nbJoueur ∧
      u.maxJoueur = s.salon.memoire.maxJoueur := by
  obtain ⟨h0, hle, hmax, -⟩ := h
  obtain ⟨fil, k, nb, mx⟩ := u
  simp only [nouveaux, noter, affichageAttenteJoueur_log h0 (by omega), List.map_map, List.mem_map, List.mem_range,
    Function.comp_apply, Usage.mk.injEq]
  constructor
  · rintro ⟨i, hi, rfl, rfl, rfl, rfl⟩
    exact ⟨rfl, ⟨by omega, by omega⟩, rfl, rfl⟩
  · rintro ⟨rfl, ⟨hk, hk'⟩, rfl, rfl⟩
    exact ⟨k.toNat, by omega, rfl, by omega, rfl, rfl⟩

theorem nouveaux_attente (h : s.salon.Comptee) (e : Salon.Fait) {u : Usage} (hu : u ∈ s.nouveaux (.salon e)) :
    u.fil = .attente ∧ 0 ≤ u.k ∧ u.k < 100 ∧ u.k = u.nbJoueur ∧ u.nbJoueur < u.maxJoueur := by
  obtain ⟨k, hk, rfl⟩ := List.mem_map.mp hu
  have hr : Within (fun k => k = s.salon.memoire.nbJoueur ∧ s.salon.memoire.nbJoueur < s.salon.memoire.maxJoueur)
    (s.salon.ranger e) := h.ranger (fun hlt => ⟨rfl, hlt⟩) e
  obtain ⟨hk, hlt⟩ := hr k hk
  have h0 := h.joueurs
  have hmax := h.max_le
  exact ⟨rfl, show 0 ≤ k by omega, show k < 100 by omega, hk, hlt⟩

-- no refresh while every place is taken
def Incomplet (s : SalonAffiche) : Fait → Prop
  | .rafraichit => s.salon.memoire.nbJoueur ≠ s.salon.memoire.maxJoueur
  | .salon _ => True

theorem nouveaux_permis (h : s.salon.Comptee) (e : Fait) : (∀ u ∈ s.nouveaux e, u.Permis) ↔ s.Incomplet e := by
  have h0 := h.joueurs
  have hle := h.place
  have hmax := h.max_le
  cases e with
  | rafraichit =>
    simp only [mem_nouveaux_affichage h, Incomplet]
    constructor
    · intro hp heq
      obtain ⟨-, -, hlt | ⟨-, hlt⟩⟩ := hp ⟨.affichage, _, _, _⟩ ⟨rfl, ⟨h0, le_refl _⟩, rfl, rfl⟩
      · exact lt_irrefl _ hlt
      · exact hlt.ne heq
    · rintro hne ⟨fil, k, nb, mx⟩ ⟨-, ⟨hk, hk'⟩, rfl, rfl⟩
      simp only [Usage.Permis] at hk hk' ⊢
      omega
  | salon e =>
    refine iff_of_true (fun u hu => ?_) trivial
    obtain ⟨-, hk, hk', heq, hlt⟩ := nouveaux_attente h e hu
    exact ⟨hk, hk', .inr ⟨heq, hlt⟩⟩

theorem nouveaux_reserve (h : s.salon.Comptee) (e : Fait) : (∀ u ∈ s.nouveaux e, u.Reserve) ↔ e ≠ .rafraichit := by
  cases e with
  | rafraichit =>
    simp only [mem_nouveaux_affichage h]
    refine iff_of_false (fun hp => ?_) fun hne => hne rfl
    obtain ⟨-, -, hlt | ⟨hf, -⟩⟩ := hp ⟨.affichage, _, _, _⟩ ⟨rfl, ⟨h.joueurs, le_refl _⟩, rfl, rfl⟩
    · exact lt_irrefl _ hlt
    · cases hf
  | salon e =>
    refine iff_of_true (fun u hu => ?_) Fait.noConfusion
    obtain ⟨hf, hk, hk', heq, hlt⟩ := nouveaux_attente h e hu
    exact ⟨hk, hk', .inr ⟨hf, heq, hlt⟩⟩

theorem Trace.comptee (h : Trace Pas s es s') (hs : s.salon.Comptee) : s'.salon.Comptee :=
  h.invariant (fun _ t => t.salon.Comptee) hs fun _ _ _ _ _ ht hstep => hstep.comptee ht

theorem Pas.place (h : Pas s e s') (hs : s.salon.Comptee)
    (hn : s'.salon.memoire.nbJoueur < s'.salon.memoire.maxJoueur) :
    s.Incomplet e ∧ s.salon.memoire.nbJoueur < s.salon.memoire.maxJoueur := by
  cases h with
  | rafraichit => exact ⟨hn.ne, hn⟩
  | deborde => exact ⟨hn.ne, hn⟩
  | touche _ h => exact ⟨trivial, lt_of_le_of_lt (h.comptes hs) (h.garde.maxJoueur ▸ hn)⟩
  | autre _ h => exact ⟨trivial, lt_of_le_of_lt (h.comptes hs) (h.garde.maxJoueur ▸ hn)⟩

theorem Trace.incomplet (h : Trace Pas s es s') (hs : s.salon.Comptee)
    (hn : s'.salon.memoire.nbJoueur < s'.salon.memoire.maxJoueur) : Trace (Under Incomplet Pas) s es s' := by
  induction h with
  | nil => exact .nil
  | snoc h hstep ih =>
    obtain ⟨hi, hplace⟩ := hstep.place (Trace.comptee h hs) hn
    exact (ih hplace).snoc ⟨hi, hstep⟩

def Fait.duSalon : Fait → Option Salon.Fait
  | .rafraichit => none
  | .salon e => some e

theorem affichee (h0 : 0 ≤ game.maxJoueur) (h100 : game.maxJoueur < 100) {fs : List Salon.Fait} {t : Salon}
    (h : Trace Salon.Pas (attenteJoueur game) fs t) : ∃ es us, Trace Pas (debut game) es ⟨t, none, us⟩ ∧
      es.filterMap Fait.duSalon = fs ∧ t.Comptee ∧ t.memoire.maxJoueur = game.maxJoueur := by
  induction h with
  | nil => exact ⟨[], [], .nil, rfl, Salon.attenteJoueur_comptee h0 h100.le, rfl⟩
  | @snoc fs t u e _ hs ih =>
    obtain ⟨es, us, htr, hes, hc, hmax⟩ := ih
    have hmax' : u.memoire.maxJoueur = game.maxJoueur := hs.garde.maxJoueur.trans hmax
    have hfilter (l : List Fait) (hl : l.filterMap Fait.duSalon = [e]) :
        (es ++ l).filterMap Fait.duSalon = fs ++ [e] := by rw [List.filterMap_append, hes, hl]
    by_cases he : ∃ touche, e = .touche touche
    · obtain ⟨touche, rfl⟩ := he
      have hv : t.veille = .boucle := by
        cases hs
        assumption
      have hlt : t.memoire.nbJoueur < 100 := by
        have := hc.place
        omega
      obtain ⟨a, ha⟩ := (affichageAttenteJoueur_defini hlt.le).mpr hlt
      exact ⟨es ++ [.rafraichit] ++ [.salon (.touche touche)], _,
        (htr.snoc (.rafraichit hv rfl ha)).snoc (.touche rfl hs),
        by rw [List.append_assoc]; exact hfilter _ rfl, hs.comptee hc, hmax'⟩
    · exact ⟨es ++ [.salon e], _, htr.snoc (.autre (fun touche ht => he ⟨touche, ht⟩) hs), hfilter _ rfl,
        hs.comptee hc, hmax'⟩

def memoireTrois : MemoireT := { memoireZero with maxJoueur := 3 }

theorem table_inscrite_iff (game : MemoireT) (h0 : 0 ≤ game.maxJoueur) (h100 : game.maxJoueur ≤ 100) (es : List Fait)
    (s : SalonAffiche) (h : Trace Pas (debut game) es s) :
    ((∀ u ∈ s.usages, u.Permis) ↔ Trace (Under Incomplet Pas) (debut game) es s) ∧
    ((∀ u ∈ s.usages, u.Reserve) ↔ Fait.rafraichit ∉ es) ∧
    ∀ (horsEnum : Int → Status) (e : EntreesPartie) (k : Nat),
      Within (fun i => 0 ≤ i ∧ i < s.salon.memoire.nbJoueur ∧ i < 100)
        (lancementPartieNote (s.salon.memoire.game horsEnum) e k) := by
  have hdebut : (debut game).salon.Comptee := Salon.attenteJoueur_comptee h0 h100
  have hI (s e t) (hst : Pas s e t) (hs : s.salon.Comptee) : t.salon.Comptee := hst.comptee hs
  have hlog (s e t) (hst : Pas s e t) : t.usages = s.usages ++ s.nouveaux e := hst.usages
  refine ⟨h.logged_iff _ hI hlog (fun s e hs => nouveaux_permis hs e) hdebut rfl, ?_, fun horsEnum e k i hi => ?_⟩
  · rw [h.logged_iff (C := fun _ e => e ≠ Fait.rafraichit) _ hI hlog (fun s e hs => nouveaux_reserve hs e) hdebut rfl,
      h.under_events]
    exact ⟨fun hne hm => hne _ hm rfl, fun hm e he heq => hm (heq ▸ he)⟩
  · have hs := Trace.comptee h hdebut
    obtain ⟨hk, hk'⟩ := lancementPartieNote_inscrits (s.salon.memoire.game horsEnum) e k i hi
    have hlt : i < s.salon.memoire.nbJoueur := hk'
    exact ⟨hk, hlt, lt_of_lt_of_le hlt (hs.place.trans hs.max_le)⟩

theorem table_inscrite_trois : ∃ es s, Trace Pas (debut memoireTrois) (es ++ [.rafraichit]) s ∧
    s.salon.memoire.nbJoueur = 2 ∧ (∀ u ∈ s.usages, u.Permis) ∧ ¬ ∀ u ∈ s.usages, u.Reserve := by
  have hg : Salon.Reglable memoireTrois := ⟨by decide, by decide⟩
  have h0 : 0 ≤ memoireTrois.maxJoueur := by decide
  have h100 : memoireTrois.maxJoueur < 100 := by decide
  obtain ⟨fs, t, ht, -, hv, hn, hm, -, -⟩ := Salon.deux_joueurs hg
  obtain ⟨es, us, htr, -, -, -⟩ := affichee h0 h100 ht.forget
  obtain ⟨a, ha⟩ := (affichageAttenteJoueur_defini (m := t.memoire) (by omega)).mpr (by omega)
  have h := htr.snoc (.rafraichit hv rfl ha)
  obtain ⟨hp, hr, -⟩ := table_inscrite_iff memoireTrois h0 h100.le _ _ h
  refine ⟨es, _, h, hn, hp.mpr ?_, fun hall => hr.mp hall (by simp)⟩
  refine Trace.incomplet h (Salon.attenteJoueur_comptee h0 h100.le) ?_
  simp only [hn, hm]
  decide

theorem table_depassee : ∃ es s, Trace Pas (debut memoireZero) es s ∧ ∃ u ∈ s.usages,
    u.fil = .affichage ∧ u.k = 2 ∧ u.nbJoueur = 2 ∧ u.maxJoueur = 2 ∧ ¬ u.Permis := by
  have hg : Salon.Reglable memoireZero := ⟨by decide, by decide⟩
  have hmin : 0 ≤ memoireZero.maxJoueur := by decide
  have hmax : memoireZero.maxJoueur < 100 := by decide
  obtain ⟨fs, t, ht, -, hv, hn, hm, -, -⟩ := Salon.deux_joueurs hg
  obtain ⟨es, us, htr, -, hc, -⟩ := affichee hmin hmax ht.forget
  obtain ⟨a, ha⟩ := (affichageAttenteJoueur_defini (m := t.memoire) (by omega)).mpr (by omega)
  refine ⟨_, _, htr.snoc (.rafraichit hv rfl ha), ⟨.affichage, 2, 2, 2⟩, List.mem_append_right _ ?_, rfl, rfl, rfl,
    rfl, ?_⟩
  · exact (mem_nouveaux_affichage hc).mpr ⟨rfl, ⟨by decide, le_refl _⟩, hn.symm, hm.symm⟩
  · rintro ⟨-, -, hlt | ⟨-, hlt⟩⟩
    · exact lt_irrefl _ hlt
    · exact lt_irrefl _ hlt

end SalonAffiche

end Bnbr.Serveur
