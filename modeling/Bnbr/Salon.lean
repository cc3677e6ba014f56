import Bnbr.Clib.Runs
import Bnbr.Formats

namespace Bnbr.Serveur

open CArray CString Decimal Runs

structure Connexion where
  num : Nat
  socket : SocketT
deriving DecidableEq, Repr

def sockStream : Int := 1

def accepterClt : Option Int → SocketT
  | some fd => ⟨fd, sockStream⟩
  | none => ⟨-1, 0⟩

-- envoyer does nothing on a socket of no mode
def Connexion.envoi (c : Connexion) (q : Requete) : List (Connexion × Requete) :=
  if c.socket.mode = sockStream then [(c, q)] else []

namespace Salon

inductive Point
  | test
  | joindre
  | accepter
  | accepte (c : Connexion)
  | saluer (c : Connexion)
  | identifier (c : Connexion)
  | decider (c : Connexion) (reponse : ReqT)
  | pseudo (c : Connexion) (reponse : ReqT)
  | socket (c : Connexion)
  | numero (c : Connexion)
  | compter (c : Connexion)
  | compte (c : Connexion) (nbJoueur : Int)
  | confirmer (c : Connexion)
  | refuser (c : Connexion)
  | fermer (c : Connexion)
  | clore
  | lancement
  | arret
  | indefini

inductive Veille
  | boucle
  | entree
  | valide
  | leve
  | fini
deriving DecidableEq, Repr

inductive Fait
  | avance
  | accepte (fd : Option Int)
  | ecrit (ok : Bool)
  | lit (l : Lecture) (buff : Buf maxBuffer) (quoi : ReqT)
  | touche (t : Touche)
  | veille

def Point.ecriture : Point → Option (Connexion × Requete × Point)
  | .saluer c => some (c, accuseOk, .identifier c)
  | .confirmer c => some (c, accuseOk, .test)
  | .refuser c => some (c, requeteRefus, .fermer c)
  | _ => none

theorem Point.ecriture_cases {p p' : Point} {c : Connexion} {q : Requete} (h : p.ecriture = some (c, q, p')) :
    (p = .saluer c ∧ q = accuseOk ∧ p' = .identifier c) ∨ (p = .confirmer c ∧ q = accuseOk ∧ p' = .test) ∨
    (p = .refuser c ∧ q = requeteRefus ∧ p' = .fermer c) := by
  cases p with
  | saluer d =>
    obtain ⟨rfl, rfl, rfl⟩ := h
    exact .inl ⟨rfl, rfl, rfl⟩
  | confirmer d =>
    obtain ⟨rfl, rfl, rfl⟩ := h
    exact .inr (.inl ⟨rfl, rfl, rfl⟩)
  | refuser d =>
    obtain ⟨rfl, rfl, rfl⟩ := h
    exact .inr (.inr ⟨rfl, rfl, rfl⟩)
  | _ => cases h

end Salon

-- the last five fields are what happened so far, none of it is read by the program
structure Salon where
  memoire : MemoireT
  point : Salon.Point
  veille : Salon.Veille
  acceptees : List Connexion
  envoyees : List (Connexion × Requete)
  lues : List (Connexion × List Char)
  inscrites : List Connexion
  fermees : List Connexion

def attenteJoueur (game : MemoireT) : Salon where
  memoire := { game with nbJoueur := 0, etat := 0 }
  point := .test
  veille := .boucle
  acceptees := []
  envoyees := []
  lues := []
  inscrites := []
  fermees := []

namespace Salon

inductive Pas : Salon → Fait → Salon → Prop
  -- attente_joueur
  | complet {s : Salon} (hp : s.point = .test) (h : s.memoire.nbJoueur = s.memoire.maxJoueur) :
      Pas s .avance { s with point := .joindre }
  | place {s : Salon} (hp : s.point = .test) (h : s.memoire.nbJoueur ≠ s.memoire.maxJoueur) :
      Pas s .avance { s with point := .accepter }
  | joint {s : Salon} (hp : s.point = .joindre) (h : s.veille = .fini) : Pas s .avance { s with point := .clore }
  | accepte {s : Salon} {c : Connexion} (fd : Option Int) (hp : s.point = .accepter)
      (hc : c = ⟨s.acceptees.length, accepterClt fd⟩) :
      Pas s (.accepte fd) { s with point := .accepte c, acceptees := s.acceptees ++ [c] }
  | commencee {s : Salon} {c : Connexion} (hp : s.point = .accepte c) (h : s.memoire.etat = 1) :
      Pas s .avance { s with point := .clore }
  | connecte {s : Salon} {c : Connexion} (hp : s.point = .accepte c) (h : s.memoire.etat ≠ 1) :
      Pas s .avance { s with point := .saluer c }
  | ecrit {s : Salon} {c : Connexion} {q : Requete} {p : Point} (hp : s.point.ecriture = some (c, q, p)) :
      Pas s (.ecrit true) { s with point := p, envoyees := s.envoyees ++ c.envoi q }
  | echec {s : Salon} {c : Connexion} {q : Requete} {p : Point} (hp : s.point.ecriture = some (c, q, p))
      (hc : c.socket.mode = sockStream) : Pas s (.ecrit false) { s with point := .arret }
  | lit {s : Salon} {c : Connexion} {l : Lecture} {buff : Buf maxBuffer} {quoi r : ReqT}
      (hp : s.point = .identifier c) (hl : c.socket.mode = sockStream ∨ l = .erreur)
      (hr : recevoir unserialReq l buff quoi = some r) :
      Pas s (.lit l buff quoi) { s with point := .decider c r, lues := s.lues ++ [(c, l.recu)] }
  | litSansFin {s : Salon} {c : Connexion} {l : Lecture} {buff : Buf maxBuffer} {quoi : ReqT}
      (hp : s.point = .identifier c) (hl : c.socket.mode = sockStream ∨ l = .erreur)
      (hr : recevoir unserialReq l buff quoi = none) : Pas s (.lit l buff quoi) { s with point := .indefini }
  | identifie {s : Salon} {c : Connexion} {r : ReqT} (hp : s.point = .decider c r) (h : r.id = 1) :
      Pas s .avance { s with point := .pseudo c r }
  | autre {s : Salon} {c : Connexion} {r : ReqT} (hp : s.point = .decider c r) (h : r.id ≠ 1) :
      Pas s .avance { s with point := .refuser c }
  | pseudo {s : Salon} {c : Connexion} {r : ReqT} {m : MemoireT} (hp : s.point = .pseudo c r)
      (hm : s.memoire.copierPseudo r.infos = some m) : Pas s .avance { s with point := .socket c, memoire := m }
  | deborde {s : Salon} {c : Connexion} {r : ReqT} (hp : s.point = .pseudo c r)
      (hm : s.memoire.copierPseudo r.infos = none) : Pas s .avance { s with point := .indefini }
  | socket {s : Salon} {c : Connexion} {m : MemoireT} (hp : s.point = .socket c)
      (hm : s.memoire.rangerSocket c.socket = some m) : Pas s .avance { s with point := .numero c, memoire := m }
  | numero {s : Salon} {c : Connexion} {m : MemoireT} (hp : s.point = .numero c) (hm : s.memoire.numeroter = some m) :
      Pas s .avance { s with point := .compter c, memoire := m }
  | compter {s : Salon} {c : Connexion} (hp : s.point = .compter c) :
      Pas s .avance { s with point := .compte c s.memoire.nbJoueur }
  | compte {s : Salon} {c : Connexion} {n : Int} (hp : s.point = .compte c n) :
      Pas s .avance { s with point := .confirmer c, memoire := { s.memoire with nbJoueur := n + 1 },
                             inscrites := s.inscrites ++ [c] }
  | ferme {s : Salon} {c : Connexion} (hp : s.point = .fermer c) :
      Pas s .avance { s with point := .test, fermees := s.fermees ++ [c] }
  | clot {s : Salon} (hp : s.point = .clore) : Pas s .avance { s with point := .lancement }
  -- attente_joueur_thread
  | touche {s : Salon} (t : Touche) (hv : s.veille = .boucle) :
      Pas s (.touche t) { s with veille := if t = .entree then .entree else .boucle }
  | insuffisant {s : Salon} (hv : s.veille = .entree) (h : s.memoire.nbJoueur < 2) :
      Pas s .veille { s with veille := .boucle }
  | suffisant {s : Salon} (hv : s.veille = .entree) (h : ¬ s.memoire.nbJoueur < 2) :
      Pas s .veille { s with veille := .valide }
  | lance {s : Salon} (hv : s.veille = .valide) :
      Pas s .veille { s with veille := .leve, memoire := { s.memoire with etat := 1 } }
  | finit {s : Salon} (hv : s.veille = .leve) : Pas s .veille { s with veille := .fini }

def Recu1 (octets : List Char) : Prop :=
  ∃ t v, text octets = some t ∧ (champs t).id = some v ∧ toInt v = 1

def Identifiee (lues : List (Connexion × List Char)) (c : Connexion) : Prop :=
  ∃ octets, (c, octets) ∈ lues ∧ Recu1 octets

-- what a read and the old contents must not do: pass for an identification, or overflow
def Sure (l : Lecture) (buff : Buf maxBuffer) (quoi : ReqT) : Prop :=
  ∃ t, (buff.write l.recu l.recu_length).str = some t ∧
    (((champs t).id.map toInt).getD quoi.id = 1 → Recu1 l.recu ∧
      ∃ p, ((champs t).infos.elim quoi.infos.str fun s => some s.1) = some p ∧ p.length ≤ 99)

def Nouveau (s : Salon) (fd : Int) : Prop := ∀ c ∈ s.acceptees, c ∉ s.fermees → c.socket.fd ≠ fd

def Fait.Sur (s : Salon) : Fait → Prop
  | .accepte fd => ∀ v, fd = some v → s.Nouveau v
  | .lit l buff quoi => Sure l buff quoi
  | _ => True

structure Registre (players : Arr 100 ClientT) (nbJoueur maxJoueur : Int)
    (acceptees inscrites fermees : List Connexion) (lues : List (Connexion × List Char)) : Prop where
  longueur : (inscrites.length : Int) = nbJoueur
  place : nbJoueur ≤ maxJoueur
  max_ge : 2 ≤ maxJoueur
  max_le : maxJoueur ≤ 100
  rangs : ∀ (k : Fin 100) (c : Connexion), inscrites[k.val]? = some c →
    (players k).id = k.val ∧ (players k).socket = c.socket
  numeros : ∀ c ∈ acceptees, c.num < acceptees.length
  connues : ∀ c ∈ fermees, c ∈ acceptees
  ouvertes : ∀ c ∈ inscrites, c ∈ acceptees ∧ c ∉ fermees
  distinctes : (inscrites.map fun c => c.socket.fd).Nodup
  identifiees : ∀ c ∈ inscrites, Identifiee lues c

structure EnMain (acceptees inscrites fermees : List Connexion) (c : Connexion) : Prop where
  acceptee : c ∈ acceptees
  nonInscrite : c ∉ inscrites
  ouverte : c ∉ fermees
  libre : c.socket.mode = sockStream → ∀ d ∈ inscrites, d.socket.fd ≠ c.socket.fd

structure Inscrivable (s : Salon) (c : Connexion) : Prop where
  enMain : EnMain s.acceptees s.inscrites s.fermees c
  mode : c.socket.mode = sockStream
  identifiee : Identifiee s.lues c
  place : s.memoire.nbJoueur < s.memoire.maxJoueur

def Tient (r : ReqT) : Prop := ∃ p, r.infos.str = some p ∧ p.length ≤ 99

def AuPoint (s : Salon) : Point → Prop
  | .test => True
  | .joindre => s.memoire.nbJoueur = s.memoire.maxJoueur
  | .accepter => s.memoire.nbJoueur < s.memoire.maxJoueur
  | .accepte c => s.memoire.nbJoueur < s.memoire.maxJoueur ∧ EnMain s.acceptees s.inscrites s.fermees c
  | .saluer c => s.memoire.nbJoueur < s.memoire.maxJoueur ∧ EnMain s.acceptees s.inscrites s.fermees c
  | .identifier c => s.memoire.nbJoueur < s.memoire.maxJoueur ∧ EnMain s.acceptees s.inscrites s.fermees c
  | .decider c r => EnMain s.acceptees s.inscrites s.fermees c ∧ (r.id = 1 → s.Inscrivable c ∧ Tient r)
  | .pseudo c r => s.Inscrivable c ∧ Tient r
  | .socket c => s.Inscrivable c
  | .numero c => s.Inscrivable c ∧ ∀ k : Fin 100, (k.val : Int) = s.memoire.nbJoueur →
      (s.memoire.players k).socket = c.socket
  | .compter c => s.Inscrivable c ∧ ∀ k : Fin 100, (k.val : Int) = s.memoire.nbJoueur →
      (s.memoire.players k).id = k.val ∧ (s.memoire.players k).socket = c.socket
  | .compte c n => s.Inscrivable c ∧ n = s.memoire.nbJoueur ∧ ∀ k : Fin 100, (k.val : Int) = s.memoire.nbJoueur →
      (s.memoire.players k).id = k.val ∧ (s.memoire.players k).socket = c.socket
  | .confirmer _ => True
  | .refuser c => EnMain s.acceptees s.inscrites s.fermees c
  | .fermer c => EnMain s.acceptees s.inscrites s.fermees c
  | .clore => s.memoire.etat = 1
  | .lancement => s.memoire.etat = 1
  | .arret => True
  | .indefini => False

structure Eveil (veille : Veille) (nbJoueur etat : Int) : Prop where
  valide : veille = .valide → 2 ≤ nbJoueur
  lance : etat = 1 → 2 ≤ nbJoueur
  leve : veille = .leve ∨ veille = .fini → etat = 1

structure Tenu (s : Salon) : Prop where
  registre : Registre s.memoire.players s.memoire.nbJoueur s.memoire.maxJoueur s.acceptees s.inscrites s.fermees s.lues
  point : s.AuPoint s.point
  eveil : Eveil s.veille s.memoire.nbJoueur s.memoire.etat

section Registre

variable {players : Arr 100 ClientT} {nbJoueur maxJoueur : Int} {acceptees inscrites fermees : List Connexion}
  {lues : List (Connexion × List Char)} {c : Connexion}

theorem Identifiee.mono {p : Connexion × List Char} (h : Identifiee lues c) : Identifiee (lues ++ [p]) c := by
  obtain ⟨octets, hm, hr⟩ := h
  exact ⟨octets, List.mem_append_left _ hm, hr⟩

theorem Registre.joueur (h : Registre players nbJoueur maxJoueur acceptees inscrites fermees lues)
    (hlt : nbJoueur < maxJoueur) : ∃ k : Fin 100, nbJoueur = (k.val : Int) := by
  have h1 := h.longueur
  have h2 := h.max_le
  exact exists_fin (by omega) (by omega)

theorem Registre.accepte (h : Registre players nbJoueur maxJoueur acceptees inscrites fermees lues)
    (hc : c.num = acceptees.length) :
    Registre players nbJoueur maxJoueur (acceptees ++ [c]) inscrites fermees lues where
  longueur := h.longueur
  place := h.place
  max_ge := h.max_ge
  max_le := h.max_le
  rangs := h.rangs
  numeros := by
    intro d hd
    rw [List.length_append, List.length_singleton]
    rcases List.mem_append.mp hd with hd | hd
    · exact Nat.lt_succ_of_lt (h.numeros d hd)
    · rw [List.mem_singleton.mp hd, hc]
      exact Nat.lt_succ_self _
  connues := fun d hd => List.mem_append_left _ (h.connues d hd)
  ouvertes := fun d hd => ⟨List.mem_append_left _ (h.ouvertes d hd).1, (h.ouvertes d hd).2⟩
  distinctes := h.distinctes
  identifiees := h.identifiees

theorem Registre.enMain (h : Registre players nbJoueur maxJoueur acceptees inscrites fermees lues)
    (hc : c.num = acceptees.length)
    (hfd : c.socket.mode = sockStream → ∀ d ∈ acceptees, d ∉ fermees → d.socket.fd ≠ c.socket.fd) :
    EnMain (acceptees ++ [c]) inscrites fermees c := by
  have hnew : c ∉ acceptees := fun hm => absurd (h.numeros c hm) (by omega)
  exact ⟨List.mem_append_right _ (List.mem_singleton_self c), fun hm => hnew (h.ouvertes c hm).1,
    fun hm => hnew (h.connues c hm),
    fun hs d hd => hfd hs d (h.ouvertes d hd).1 (h.ouvertes d hd).2⟩

theorem Registre.lit {p : Connexion × List Char}
    (h : Registre players nbJoueur maxJoueur acceptees inscrites fermees lues) :
    Registre players nbJoueur maxJoueur acceptees inscrites fermees (lues ++ [p]) :=
  { h with identifiees := fun d hd => (h.identifiees d hd).mono }

theorem Registre.remplace {k : Fin 100} (h : Registre players nbJoueur maxJoueur acceptees inscrites fermees lues)
    (hk : nbJoueur = (k.val : Int)) (joueur : ClientT) :
    Registre (Function.update players k joueur) nbJoueur maxJoueur acceptees inscrites fermees lues :=
  { h with
    rangs := fun i d hd => by
      have hlt := (List.getElem?_eq_some_iff.mp hd).1
      have hl := h.longueur
      rw [Function.update_of_ne (fun he => by rw [he] at hlt; omega)]
      exact h.rangs i d hd }

theorem Registre.compte (h : Registre players nbJoueur maxJoueur acceptees inscrites fermees lues)
    (hm : EnMain acceptees inscrites fermees c) (hs : c.socket.mode = sockStream) (hid : Identifiee lues c)
    (hlt : nbJoueur < maxJoueur) (hj : ∀ k : Fin 100, (k.val : Int) = nbJoueur →
      (players k).id = k.val ∧ (players k).socket = c.socket) :
    Registre players (nbJoueur + 1) maxJoueur acceptees (inscrites ++ [c]) fermees lues where
  longueur := by
    have := h.longueur
    rw [List.length_append, List.length_singleton]
    omega
  place := by omega
  max_ge := h.max_ge
  max_le := h.max_le
  rangs := by
    intro k d hd
    have hl := h.longueur
    rcases Nat.lt_or_ge k.val inscrites.length with hlt | hge
    · rw [List.getElem?_append_left hlt] at hd
      exact h.rangs k d hd
    · rw [List.getElem?_append_right hge, List.getElem?_singleton] at hd
      split at hd
      · simp only [Option.some.injEq] at hd
        subst hd
        exact hj k (by omega)
      · cases hd
  numeros := h.numeros
  connues := h.connues
  ouvertes := by
    intro d hd
    rcases List.mem_append.mp hd with hd | hd
    · exact h.ouvertes d hd
    · rw [List.mem_singleton.mp hd]
      exact ⟨hm.acceptee, hm.ouverte⟩
  distinctes := by
    rw [List.map_append, List.map_singleton, List.nodup_append]
    refine ⟨h.distinctes, List.nodup_singleton _, fun a ha b hb => ?_⟩
    obtain ⟨d, hd, rfl⟩ := List.mem_map.mp ha
    rw [List.mem_singleton.mp hb]
    exact hm.libre hs d hd
  identifiees := by
    intro d hd
    rcases List.mem_append.mp hd with hd | hd
    · exact h.identifiees d hd
    · rw [List.mem_singleton.mp hd]
      exact hid

theorem Registre.ferme (h : Registre players nbJoueur maxJoueur acceptees inscrites fermees lues)
    (hm : EnMain acceptees inscrites fermees c) :
    Registre players nbJoueur maxJoueur acceptees inscrites (fermees ++ [c]) lues :=
  { h with
    connues := fun d hd => by
      rcases List.mem_append.mp hd with hd | hd
      · exact h.connues d hd
      · exact List.mem_singleton.mp hd ▸ hm.acceptee
    ouvertes := fun d hd => by
      refine ⟨(h.ouvertes d hd).1, fun hf => ?_⟩
      rcases List.mem_append.mp hf with hf | hf
      · exact (h.ouvertes d hd).2 hf
      · exact hm.nonInscrite (List.mem_singleton.mp hf ▸ hd) }

theorem Registre.inscrit (h : Registre players nbJoueur maxJoueur acceptees inscrites fermees lues) {k : Fin 100}
    (hk : (k.val : Int) < nbJoueur) : ∃ c ∈ inscrites, inscrites[k.val]? = some c ∧ (players k).id = k.val ∧
      (players k).socket = c.socket := by
  have hl := h.longueur
  have hlt : k.val < inscrites.length := by omega
  have hc := List.getElem?_eq_getElem hlt
  obtain ⟨hid, hs⟩ := h.rangs k _ hc
  exact ⟨_, List.getElem_mem hlt, hc, hid, hs⟩

end Registre

theorem Sure.recu {l : Lecture} {buff : Buf maxBuffer} {quoi r : ReqT} (h : Sure l buff quoi)
    (hr : recevoir unserialReq l buff quoi = some r) (hid : r.id = 1) : Recu1 l.recu ∧ Tient r := by
  obtain ⟨t, ht, h1⟩ := h
  have hr' : recevoir unserialReq l buff quoi = some (unserialReq t quoi) := by simp [recevoir, ht]
  rw [hr, Option.some.injEq] at hr'
  subst hr'
  have hsuit := unserialReq_suit (text_nul_notMem ht) quoi
  rw [hsuit.id] at hid
  obtain ⟨hrecu, p, hp, hl⟩ := h1 hid
  exact ⟨hrecu, p, by rw [hsuit.infos, hp], hl⟩

theorem Sure.defini {l : Lecture} {buff : Buf maxBuffer} {quoi : ReqT} (h : Sure l buff quoi) :
    recevoir unserialReq l buff quoi ≠ none := by
  obtain ⟨t, ht, -⟩ := h
  simp [recevoir, ht]

theorem Recu1.ne {octets : List Char} (h : Recu1 octets) : octets ≠ [] := by
  obtain ⟨t, -, ht, -⟩ := h
  rintro rfl
  cases ht

variable {s s' : Salon} {e : Fait}

theorem Inscrivable.joueur {c : Connexion} (h : s.Inscrivable c) (ht : Tenu s) :
    ∃ k : Fin 100, s.memoire.nbJoueur = (k.val : Int) := ht.registre.joueur h.place

theorem Tient.copie {r : ReqT} {k : Fin 100} {m : MemoireT} (h : Tient r) (hk : m.nbJoueur = (k.val : Int)) :
    ∃ m', m.copierPseudo r.infos = some m' := by
  obtain ⟨p, hp, hl⟩ := h
  obtain ⟨b, hb, -⟩ := (m.players k).pseudo.strcpy_of_le (show p.length + 1 ≤ 100 by omega)
  simp only [MemoireT.copierPseudo, MemoireT.joueur_spec hk, ClientT.copierPseudo, hp, hb, Option.bind_eq_bind,
    Option.bind_some, Option.map_some, Option.some.injEq, exists_eq']

theorem Inscrivable.suite {c : Connexion} (h : s.Inscrivable c) (p : Point) (v : Veille) {m : MemoireT}
    (hn : m.nbJoueur = s.memoire.nbJoueur) (hmax : m.maxJoueur = s.memoire.maxJoueur) :
    Inscrivable { s with point := p, veille := v, memoire := m } c :=
  ⟨h.enMain, h.mode, h.identifiee, by rw [hn, hmax]; exact h.place⟩

theorem AuPoint.eveil {p : Point} (h : s.AuPoint p) (v : Veille) {etat : Int} (he : s.memoire.etat = 1 → etat = 1) :
    AuPoint { s with veille := v, memoire := { s.memoire with etat := etat } } p := by
  cases p with
  | decider c r => exact ⟨h.1, fun hid => ⟨(h.2 hid).1.suite _ v rfl rfl, (h.2 hid).2⟩⟩
  | pseudo c r => exact ⟨h.1.suite _ v rfl rfl, h.2⟩
  | socket c => exact Inscrivable.suite h _ v rfl rfl
  | numero c => exact ⟨h.1.suite _ v rfl rfl, h.2⟩
  | compter c => exact ⟨h.1.suite _ v rfl rfl, h.2⟩
  | compte c n => exact ⟨h.1.suite _ v rfl rfl, h.2⟩
  | clore => exact he h
  | lancement => exact he h
  | _ => exact h

theorem Pas.tenu (hs : Pas s e s') (he : e.Sur s) (h : Tenu s) : Tenu s' := by
  have hpt := h.point
  cases hs with
  | complet hp hn => exact ⟨h.registre, hn, h.eveil⟩
  | place hp hn => exact ⟨h.registre, lt_of_le_of_ne h.registre.place hn, h.eveil⟩
  | joint hp hv => exact ⟨h.registre, h.eveil.leve (.inr hv), h.eveil⟩
  | @accepte c fd hp hc =>
    rw [hp] at hpt
    have hnum : c.num = s.acceptees.length := by rw [hc]
    refine ⟨h.registre.accepte hnum, ⟨hpt, h.registre.enMain hnum fun hm => ?_⟩, h.eveil⟩
    cases fd with
    | none =>
      rw [hc] at hm
      exact absurd hm (show ¬ (0 : Int) = 1 by decide)
    | some v =>
      rw [hc]
      exact he v rfl
  | commencee hp het => exact ⟨h.registre, het, h.eveil⟩
  | connecte hp het =>
    rw [hp] at hpt
    exact ⟨h.registre, hpt, h.eveil⟩
  | ecrit hp =>
    obtain ⟨hpoint, -, rfl⟩ | ⟨-, -, rfl⟩ | ⟨hpoint, -, rfl⟩ := Point.ecriture_cases hp
    · rw [hpoint] at hpt
      exact ⟨h.registre, hpt, h.eveil⟩
    · exact ⟨h.registre, trivial, h.eveil⟩
    · rw [hpoint] at hpt
      exact ⟨h.registre, hpt, h.eveil⟩
  | echec hp hc => exact ⟨h.registre, trivial, h.eveil⟩
  | @lit c l buff quoi r hp hl hr =>
    rw [hp] at hpt
    refine ⟨h.registre.lit, ⟨hpt.2, fun hid => ?_⟩, h.eveil⟩
    obtain ⟨hrecu, ht⟩ := Sure.recu he hr hid
    have hmode : c.socket.mode = sockStream := by
      rcases hl with hl | rfl
      · exact hl
      · exact absurd rfl hrecu.ne
    exact ⟨⟨hpt.2, hmode, ⟨l.recu, List.mem_append_right _ (List.mem_singleton_self _), hrecu⟩, hpt.1⟩, ht⟩
  | litSansFin hp hl hr => exact absurd hr (Sure.defini he)
  | identifie hp hid =>
    rw [hp] at hpt
    obtain ⟨hi, ht⟩ := hpt.2 hid
    exact ⟨h.registre, ⟨hi.suite _ _ rfl rfl, ht⟩, h.eveil⟩
  | autre hp hid =>
    rw [hp] at hpt
    exact ⟨h.registre, hpt.1, h.eveil⟩
  | pseudo hp hm =>
    rw [hp] at hpt
    obtain ⟨hi, -⟩ := hpt
    obtain ⟨k, joueur, hk, -, rfl⟩ := MemoireT.joueur_eq_some hm
    exact ⟨h.registre.remplace hk joueur, Inscrivable.suite hi _ _ rfl rfl, h.eveil⟩
  | deborde hp hm =>
    rw [hp] at hpt
    obtain ⟨k, hk⟩ := hpt.1.joueur h
    obtain ⟨m', hm'⟩ := hpt.2.copie hk
    rw [hm] at hm'
    cases hm'
  | socket hp hm =>
    rw [hp] at hpt
    obtain ⟨k, joueur, hk, hj, rfl⟩ := MemoireT.joueur_eq_some hm
    rw [Option.some.injEq] at hj
    subst hj
    refine ⟨h.registre.remplace hk _, ⟨Inscrivable.suite hpt _ _ rfl rfl, fun i hi => ?_⟩, h.eveil⟩
    obtain rfl : i = k := Fin.ext (by simp only [MemoireT.avecJoueur] at hi; omega)
    rw [MemoireT.avecJoueur_players]
  | numero hp hm =>
    rw [hp] at hpt
    obtain ⟨hi, hsocket⟩ := hpt
    obtain ⟨k, joueur, hk, hj, rfl⟩ := MemoireT.joueur_eq_some hm
    rw [Option.some.injEq] at hj
    subst hj
    refine ⟨h.registre.remplace hk _, ⟨hi.suite _ _ rfl rfl, fun i hi => ?_⟩, h.eveil⟩
    obtain rfl : i = k := Fin.ext (by simp only [MemoireT.avecJoueur] at hi; omega)
    rw [MemoireT.avecJoueur_players]
    exact ⟨hk, hsocket i hk.symm⟩
  | compter hp =>
    rw [hp] at hpt
    obtain ⟨hi, hj⟩ := hpt
    exact ⟨h.registre, ⟨hi.suite _ _ rfl rfl, rfl, hj⟩, h.eveil⟩
  | compte hp =>
    rw [hp] at hpt
    obtain ⟨hi, rfl, hj⟩ := hpt
    refine ⟨h.registre.compte hi.enMain hi.mode hi.identifiee hi.place hj, trivial, ?_⟩
    obtain ⟨hv, hl, hleve⟩ := h.eveil
    exact ⟨fun hv' => (hv hv').trans (by simp), fun he' => (hl he').trans (by simp), hleve⟩
  | ferme hp =>
    rw [hp] at hpt
    exact ⟨h.registre.ferme hpt, trivial, h.eveil⟩
  | clot hp =>
    rw [hp] at hpt
    exact ⟨h.registre, hpt, h.eveil⟩
  | touche t hv =>
    obtain ⟨-, hl, -⟩ := h.eveil
    refine ⟨h.registre, hpt.eveil _ id, ⟨fun hv' => ?_, hl, fun hv' => ?_⟩⟩
    · split at hv' <;> cases hv'
    · split at hv' <;> simp at hv'
  | insuffisant hv hn =>
    exact ⟨h.registre, hpt.eveil _ id, ⟨Veille.noConfusion, h.eveil.lance, by simp⟩⟩
  | suffisant hv hn =>
    exact ⟨h.registre, hpt.eveil _ id, ⟨fun _ => Int.not_lt.mp hn, h.eveil.lance, by simp⟩⟩
  | lance hv =>
    exact ⟨h.registre, hpt.eveil _ fun _ => rfl, ⟨Veille.noConfusion, fun _ => h.eveil.valide hv, fun _ => rfl⟩⟩
  | finit hv =>
    exact ⟨h.registre, hpt.eveil _ id, ⟨Veille.noConfusion, h.eveil.lance, fun _ => h.eveil.leve (.inl hv)⟩⟩

structure Reglable (game : MemoireT) : Prop where
  joueurs : 2 ≤ game.maxJoueur
  joueurs_le : game.maxJoueur ≤ 100

theorem attenteJoueur_tenu {game : MemoireT} (h : Reglable game) : Tenu (attenteJoueur game) where
  registre := by
    obtain ⟨h1, h2⟩ := h
    refine ⟨rfl, ?_, h1, h2, ?_, ?_, ?_, ?_, ?_, ?_⟩
    · simp only [attenteJoueur]
      omega
    all_goals simp [attenteJoueur]
  point := trivial
  eveil := ⟨nofun, nofun, by simp [attenteJoueur]⟩

theorem Trace.tenu {es : List Fait} (h : Trace (Under Fait.Sur Pas) s es s') (hs : Tenu s) : Tenu s' :=
  h.invariant (fun _ t => Tenu t) hs fun _ _ _ _ _ ht hstep => hstep.2.tenu hstep.1 ht

end Salon

end Bnbr.Serveur
