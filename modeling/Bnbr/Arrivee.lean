import Bnbr.Fidelite
import Bnbr.Initial
import Bnbr.Parcours

namespace Bnbr

open CArray CString Decimal Sessions Serveur Runs

namespace Client

-- main, up to attente_partie
inductive Arrivant
  | salut
  | saisie
  | confirmation
  | attente
  | parti

inductive Arrivant.Pas : Arrivant → Action → Arrivant → Prop
  | salut {q : Requete} {r : ReqT} (hl : Lire q r) (hid : r.id = 0) : Pas .salut (.prend q) .saisie
  | sansSalut {q : Requete} {r : ReqT} (hl : Lire q r) (hid : r.id ≠ 0) : Pas .salut (.prend q) .parti
  | ligneVide : Pas .saisie .interne .saisie
  | saisie {pseudo : List Char} (h : Saisi pseudo) :
      Pas .saisie (.envoie (requeteIdentification pseudo)) .confirmation
  | confirmation {q : Requete} {r : ReqT} (hl : Lire q r) (hid : r.id = 0) : Pas .confirmation (.prend q) .attente
  | refuse {q : Requete} {r : ReqT} (hl : Lire q r) (hid : r.id ≠ 0) : Pas .confirmation (.prend q) .parti

end Client

namespace Accueil

inductive Moment
  | salut
  | identification
  | confirmation
  | admis
deriving DecidableEq

def Moment.suivant : Moment → Moment
  | .salut => .identification
  | .identification => .confirmation
  | .confirmation => .admis
  | .admis => .admis

def contrat : Contrat Moment Requete where
  suivant := Moment.suivant
  sens := fun k => if k = .identification then .retour else .aller
  convient := fun k q =>
    match k with
    | .salut => q = accuseOk
    | .identification => ∃ pseudo, Saisi pseudo ∧ q = Client.requeteIdentification pseudo
    | .confirmation => q = accuseOk
    | .admis => False

theorem Moment.suite {k : Moment} {a : List Requete} (h : contrat.Suite .aller k .admis a) :
    k = .admis ∧ a = [] ∨ k = .confirmation ∧ a = [accuseOk] := by
  cases h with
  | nil => exact .inl ⟨rfl, rfl⟩
  | cons hm h =>
    cases k with
    | salut =>
      have h' : contrat.Suite .aller .identification .admis _ := h
      exact absurd (h'.arret (by decide)).1 (by decide)
    | identification => exact absurd hm.sens (by decide)
    | confirmation =>
      obtain rfl : _ = accuseOk := hm.convient
      cases h with
      | nil => exact .inr ⟨rfl, rfl⟩
      | cons hm' _ => exact hm'.convient.elim
    | admis => exact hm.convient.elim

theorem sync_admis {k : Moment} {a b : List Requete} (h : contrat.Sync .admis k a b) :
    b = [] ∧ (k = .admis ∧ a = [] ∨ k = .confirmation ∧ a = [accuseOk]) := by
  cases h with
  | avance h => exact ⟨rfl, Moment.suite h⟩
  | retard h =>
    obtain ⟨rfl, rfl⟩ := h.arret (by decide)
    exact ⟨rfl, .inl ⟨rfl, rfl⟩⟩

end Accueil

def Client.Arrivant.moment : Client.Arrivant → Accueil.Moment
  | .salut => .salut
  | .saisie => .identification
  | .confirmation => .confirmation
  | _ => .admis

namespace Serveur.Salon

variable {s s' : Salon} {e : Fait} {c d : Connexion} {n : Nat}

-- the messages the server has exchanged on a connection
def echanges (s : Salon) (n : Nat) : Nat :=
  s.envoyees.countP (fun e => e.1.num = n) + s.lues.countP fun e => e.1.num = n

def moment (s : Salon) (n : Nat) : Accueil.Moment := Accueil.Moment.suivant^[s.echanges n] .salut

def EnPlace (s : Salon) : Point → Prop
  | .accepte c => s.echanges c.num = 0
  | .saluer c => s.echanges c.num = 0
  | .identifier c => s.echanges c.num = 1
  | .decider c r => s.echanges c.num = 2 ∧ r.id = 1
  | .pseudo c _ => s.echanges c.num = 2
  | .socket c => s.echanges c.num = 2
  | .numero c => s.echanges c.num = 2
  | .compter c => s.echanges c.num = 2
  | .compte c _ => s.echanges c.num = 2
  | .confirmer c => s.echanges c.num = 2 ∧ c ∈ s.inscrites
  | .refuser _ => False
  | .fermer _ => False
  | _ => True

structure Suivi (s : Salon) : Prop where
  numeros : ∀ c ∈ s.acceptees, s.acceptees[c.num]? = some c
  modes : ∀ c ∈ s.acceptees, c.socket.mode = sockStream
  futures : ∀ n, s.acceptees.length ≤ n → s.echanges n = 0
  inscrites : ∀ c ∈ s.inscrites, s.point = .confirmer c ∨ s.point = .arret ∨ s.echanges c.num = 3
  point : s.EnPlace s.point

theorem Suivi.num_inj (h : Suivi s) (hc : c ∈ s.acceptees) (hd : d ∈ s.acceptees) (hn : c.num = d.num) : c = d := by
  have h1 := h.numeros c hc
  rw [hn, h.numeros d hd, Option.some.injEq] at h1
  exact h1.symm

theorem echanges_ecrit (s : Salon) (p : Point) (hc : c.socket.mode = sockStream) (q : Requete) (n : Nat) :
    echanges { s with point := p, envoyees := s.envoyees ++ c.envoi q } n =
      s.echanges n + if c.num = n then 1 else 0 := by
  simp only [echanges, Connexion.envoi, hc, if_true, List.countP_append, List.countP_singleton, decide_eq_true_eq]
  omega

theorem echanges_lit (s : Salon) (p : Point) (octets : List Char) (n : Nat) :
    echanges { s with point := p, lues := s.lues ++ [(c, octets)] } n = s.echanges n + if c.num = n then 1 else 0 := by
  simp only [echanges, List.countP_append, List.countP_singleton, decide_eq_true_eq]
  omega

theorem moment_de {k : Nat} {m : Accueil.Moment} (h : s.echanges n = k) (hk : Accueil.Moment.suivant^[k] .salut = m) :
    s.moment n = m := by
  rw [moment, h, hk]

theorem moment_stable (h : s'.echanges n = s.echanges n) : s'.moment n = s.moment n := by
  rw [moment, h, moment]

theorem moment_suivant (h : s'.echanges n = s.echanges n + 1) : s'.moment n = (s.moment n).suivant := by
  rw [moment, h, Function.iterate_succ_apply', moment]

def Fait.Honnete : Fait → Prop
  | .lit l buff quoi => ∀ r, recevoir unserialReq l buff quoi = some r → r.id = 1
  | _ => True

theorem EnPlace.mono {p : Point} (h : s.EnPlace p) (he : ∀ n, s'.echanges n = s.echanges n)
    (hi : s'.inscrites = s.inscrites) : s'.EnPlace p := by
  cases p <;> simp only [EnPlace, he, hi] at h ⊢ <;> exact h

theorem Suivi.deplace (h : Suivi s) {p : Point} (m : MemoireT) (hp : s.EnPlace p)
    (hc : ∀ c, s.point ≠ .confirmer c) (ha : s.point ≠ .arret) : Suivi { s with point := p, memoire := m } where
  numeros := h.numeros
  modes := h.modes
  futures := h.futures
  inscrites := fun c hm => .inr (.inr (((h.inscrites c hm).resolve_left (hc c)).resolve_left ha))
  point := hp.mono (fun _ => rfl) rfl

theorem Suivi.eveil (h : Suivi s) (v : Veille) (m : MemoireT) : Suivi { s with veille := v, memoire := m } :=
  ⟨h.numeros, h.modes, h.futures, h.inscrites, h.point.mono (fun _ => rfl) rfl⟩

theorem Suivi.accepte (h : Suivi s) (hp : s.point = .accepter) (hn : c.num = s.acceptees.length)
    (hm : c.socket.mode = sockStream) : Suivi { s with point := .accepte c, acceptees := s.acceptees ++ [c] } where
  numeros := by
    intro d hd
    rcases List.mem_append.mp hd with hd | hd
    · have := h.numeros d hd
      rw [List.getElem?_append_left (List.getElem?_eq_some_iff.mp this).1, this]
    · obtain rfl := List.mem_singleton.mp hd
      rw [hn, List.getElem?_concat_length]
  modes := by
    intro d hd
    rcases List.mem_append.mp hd with hd | hd
    · exact h.modes d hd
    · exact List.mem_singleton.mp hd ▸ hm
  futures := by
    intro n hn
    rw [List.length_append, List.length_singleton] at hn
    exact h.futures n (by omega)
  inscrites := fun d hd => .inr (.inr (((h.inscrites d hd).resolve_left (by rw [hp]; nofun)).resolve_left
    (by rw [hp]; nofun)))
  point := h.futures c.num hn.ge

theorem Suivi.echange (h : Suivi s) {t : Salon} (ha : t.acceptees = s.acceptees) (hi : t.inscrites = s.inscrites)
    (hc : c ∈ s.acceptees) (hins : ∀ d ∈ s.inscrites, d ∈ s.acceptees)
    (he : ∀ n, t.echanges n = s.echanges n + if c.num = n then 1 else 0) (hp : t.EnPlace t.point)
    (hconf : ∀ d, s.point = .confirmer d → d = c) (harret : s.point ≠ .arret)
    (hsoi : c ∈ s.inscrites → s.echanges c.num = 2) : Suivi t where
  numeros := by rw [ha]; exact h.numeros
  modes := by rw [ha]; exact h.modes
  futures := by
    rw [ha]
    intro n hn
    have hlt := (List.getElem?_eq_some_iff.mp (h.numeros c hc)).1
    rw [he, h.futures n hn, if_neg (by omega)]
  inscrites := by
    rw [hi]
    intro d hd
    refine .inr (.inr ?_)
    rw [he]
    by_cases hdc : d = c
    · subst hdc
      rw [if_pos rfl, hsoi hd]
    · have hnum : c.num ≠ d.num := fun hn => hdc (h.num_inj (hins d hd) hc hn.symm)
      have hfini := ((h.inscrites d hd).resolve_left fun hp => hdc (hconf d hp)).resolve_left harret
      rw [if_neg hnum, hfini]
  point := hp

theorem Suivi.ecriture {q : Requete} {p : Point} (h : Suivi s) (ht : Tenu s)
    (hp : s.point.ecriture = some (c, q, p)) :
    c ∈ s.acceptees ∧ q = accuseOk ∧ (s.moment c.num = .salut ∨ s.moment c.num = .confirmation) := by
  have hpt := ht.point
  have hpl := h.point
  obtain ⟨hpoint, rfl, rfl⟩ | ⟨hpoint, rfl, rfl⟩ | ⟨hpoint, rfl, rfl⟩ := Point.ecriture_cases hp
  · rw [hpoint] at hpt hpl
    exact ⟨hpt.2.acceptee, rfl, .inl (moment_de hpl rfl)⟩
  · rw [hpoint] at hpl
    exact ⟨(ht.registre.ouvertes c hpl.2).1, rfl, .inr (moment_de hpl.1 rfl)⟩
  · rw [hpoint] at hpl
    exact hpl.elim

theorem Suivi.ecrit {q : Requete} {p : Point} (h : Suivi s) (ht : Tenu s) (hp : s.point.ecriture = some (c, q, p)) :
    Suivi { s with point := p, envoyees := s.envoyees ++ c.envoi q } := by
  have hpt := ht.point
  have hpl := h.point
  have hins (d : Connexion) (hd : d ∈ s.inscrites) : d ∈ s.acceptees := (ht.registre.ouvertes d hd).1
  obtain ⟨hpoint, rfl, rfl⟩ | ⟨hpoint, rfl, rfl⟩ | ⟨hpoint, rfl, rfl⟩ := Point.ecriture_cases hp
  · rw [hpoint] at hpt hpl
    have he := echanges_ecrit s (.identifier c) (h.modes c hpt.2.acceptee) accuseOk
    refine h.echange rfl rfl hpt.2.acceptee hins he ?_ (by rw [hpoint]; nofun) (by rw [hpoint]; nofun)
      fun hc => absurd hc hpt.2.nonInscrite
    have := he c.num
    rw [if_pos rfl, show s.echanges c.num = 0 from hpl] at this
    exact this
  · rw [hpoint] at hpl
    have hc := hins c hpl.2
    have he := echanges_ecrit s .test (h.modes c hc) accuseOk
    refine h.echange rfl rfl hc hins he trivial (fun d hd => ?_) (by rw [hpoint]; nofun) fun _ => hpl.1
    rw [hpoint, Point.confirmer.injEq] at hd
    exact hd.symm
  · rw [hpoint] at hpl
    exact hpl.elim

theorem Suivi.lit {octets : List Char} {r : ReqT} (h : Suivi s) (ht : Tenu s) (hp : s.point = .identifier c)
    (hid : r.id = 1) : Suivi { s with point := .decider c r, lues := s.lues ++ [(c, octets)] } := by
  have hpt := ht.point
  have hpl := h.point
  rw [hp] at hpt hpl
  have he := echanges_lit s (c := c) (.decider c r) octets
  refine h.echange rfl rfl hpt.2.acceptee (fun d hd => (ht.registre.ouvertes d hd).1) he ⟨?_, hid⟩
    (by rw [hp]; nofun) (by rw [hp]; nofun) fun hc => absurd hc hpt.2.nonInscrite
  have := he c.num
  rw [if_pos rfl, show s.echanges c.num = 1 from hpl] at this
  exact this

theorem Suivi.compte {m : MemoireT} {n : Int} (h : Suivi s) (hp : s.point = .compte c n) :
    Suivi { s with point := .confirmer c, memoire := m, inscrites := s.inscrites ++ [c] } where
  numeros := h.numeros
  modes := h.modes
  futures := h.futures
  inscrites := by
    intro d hd
    rcases List.mem_append.mp hd with hd | hd
    · exact .inr (.inr (((h.inscrites d hd).resolve_left (by rw [hp]; nofun)).resolve_left (by rw [hp]; nofun)))
    · exact .inl (by rw [List.mem_singleton.mp hd])
  point := by
    have hpl := h.point
    rw [hp] at hpl
    exact ⟨hpl, List.mem_append_right _ (List.mem_singleton_self c)⟩

theorem Pas.suivi (hs : Pas s e s') (ha : e.Attendu s) (hh : e.Honnete) (ht : Tenu s) (h : Suivi s) : Suivi s' := by
  have hpt := ht.point
  have hpl := h.point
  cases hs with
  | complet hp hn => exact h.deplace s.memoire trivial (by rw [hp]; nofun) (by rw [hp]; nofun)
  | place hp hn => exact h.deplace s.memoire trivial (by rw [hp]; nofun) (by rw [hp]; nofun)
  | joint hp hv => exact h.deplace s.memoire trivial (by rw [hp]; nofun) (by rw [hp]; nofun)
  | accepte fd hp hc =>
    obtain ⟨v, rfl, hv⟩ := ha
    exact h.accepte hp (by rw [hc]) (by rw [hc]; rfl)
  | commencee hp hn => exact h.deplace s.memoire trivial (by rw [hp]; nofun) (by rw [hp]; nofun)
  | connecte hp hn =>
    rw [hp] at hpl
    exact h.deplace s.memoire hpl (by rw [hp]; nofun) (by rw [hp]; nofun)
  | ecrit hp => exact h.ecrit ht hp
  | echec hp hm =>
    exact ⟨h.numeros, h.modes, h.futures, fun _ _ => .inr (.inl rfl), trivial⟩
  | lit hp hl hr => exact h.lit ht hp (hh _ hr)
  | litSansFin hp hl hr => exact absurd hr (ha.sure _).defini
  | identifie hp hid =>
    rw [hp] at hpl
    exact h.deplace s.memoire hpl.1 (by rw [hp]; nofun) (by rw [hp]; nofun)
  | autre hp hid =>
    rw [hp] at hpl
    exact absurd hpl.2 hid
  | pseudo hp hm =>
    rw [hp] at hpl
    exact h.deplace _ hpl (by rw [hp]; nofun) (by rw [hp]; nofun)
  | deborde hp hm =>
    rw [hp] at hpl
    exact h.deplace s.memoire trivial (by rw [hp]; nofun) (by rw [hp]; nofun)
  | socket hp hm =>
    rw [hp] at hpl
    exact h.deplace _ hpl (by rw [hp]; nofun) (by rw [hp]; nofun)
  | numero hp hm =>
    rw [hp] at hpl
    exact h.deplace _ hpl (by rw [hp]; nofun) (by rw [hp]; nofun)
  | compter hp =>
    rw [hp] at hpl
    exact h.deplace s.memoire hpl (by rw [hp]; nofun) (by rw [hp]; nofun)
  | compte hp => exact h.compte hp
  | ferme hp =>
    rw [hp] at hpl
    exact hpl.elim
  | clot hp => exact h.deplace s.memoire trivial (by rw [hp]; nofun) (by rw [hp]; nofun)
  | touche t hv => exact h.eveil _ _
  | insuffisant hv hn => exact h.eveil _ _
  | suffisant hv hn => exact h.eveil _ _
  | lance hv => exact h.eveil _ _
  | finit hv => exact h.eveil _ _

end Serveur.Salon

-- the lobby and the clients that connect to it, numbered by their connection
structure Arrivee where
  salon : Salon
  clients : Nat → Client.Arrivant
  versClient : Nat → List Requete
  versServeur : Nat → List Requete

namespace Arrivee

inductive Action
  | salon (e : Salon.Fait)
  | client (i : Nat) (a : Client.Action)

def Interne : Salon.Fait → Prop
  | .ecrit ok => ok = false
  | .lit _ _ _ => False
  | _ => True

inductive Etape : Arrivee → Action → Arrivee → Prop
  | ecrit {s : Arrivee} {c : Connexion} {q : Requete} {p : Salon.Point} {t : Salon}
      (hp : s.salon.point.ecriture = some (c, q, p)) (hs : Salon.Pas s.salon (.ecrit true) t) :
      Etape s (.salon (.ecrit true))
        { s with
          salon := t
          versClient := Function.update s.versClient c.num (s.versClient c.num ++ (c.envoi q).map Prod.snd) }
  | lit {s : Arrivee} {c : Connexion} {q : Requete} {reste : List Requete} {l : Lecture} {buff : Buf maxBuffer}
      {quoi : ReqT} {t : Salon} (hp : s.salon.point = .identifier c) (hc : s.versServeur c.num = q :: reste)
      (hl : l.recu = q.texte ++ [nul]) (ha : Salon.ReponseEntiere l quoi)
      (hs : Salon.Pas s.salon (.lit l buff quoi) t) :
      Etape s (.salon (.lit l buff quoi))
        { s with salon := t, versServeur := Function.update s.versServeur c.num reste }
  | salon {s : Arrivee} {e : Salon.Fait} {t : Salon} (hi : Interne e) (ha : e.Attendu s.salon)
      (hs : Salon.Pas s.salon e t) : Etape s (.salon e) { s with salon := t }
  | clientPrend {s : Arrivee} {c : Client.Arrivant} {i : Nat} {q : Requete} {reste : List Requete}
      (hs : Client.Arrivant.Pas (s.clients i) (.prend q) c) (hc : s.versClient i = q :: reste) :
      Etape s (.client i (.prend q))
        { s with
          clients := Function.update s.clients i c
          versClient := Function.update s.versClient i reste }
  | clientEnvoie {s : Arrivee} {c : Client.Arrivant} {i : Nat} {q : Requete}
      (hs : Client.Arrivant.Pas (s.clients i) (.envoie q) c) :
      Etape s (.client i (.envoie q))
        { s with
          clients := Function.update s.clients i c
          versServeur := Function.update s.versServeur i (s.versServeur i ++ [q]) }
  | clientInterne {s : Arrivee} {c : Client.Arrivant} {i : Nat}
      (hs : Client.Arrivant.Pas (s.clients i) .interne c) :
      Etape s (.client i .interne) { s with clients := Function.update s.clients i c }

def debut (game : MemoireT) : Arrivee := ⟨attenteJoueur game, fun _ => .salut, fun _ => [], fun _ => []⟩

variable {s s' : Arrivee} {a : Action} {es : List Action} {game : MemoireT}

structure Lie (s : Arrivee) (n : Nat) : Prop where
  sync : Accueil.contrat.Sync (s.salon.moment n) (s.clients n).moment (s.versClient n) (s.versServeur n)
  reste : s.clients n ≠ .parti

structure Accord (s : Arrivee) : Prop where
  tenu : Salon.Tenu s.salon
  suivi : Salon.Suivi s.salon
  joueurs : ∀ n, s.Lie n

end Arrivee

namespace Client.Arrivant

variable {c c' : Arrivant} {q : Requete}

theorem Pas.prend (h : Pas c (.prend q) c') (hq : Accueil.contrat.Permis .aller c.moment q) :
    c' ≠ .parti ∧ c'.moment = c.moment.suivant := by
  cases h with
  | salut hl hid => exact ⟨nofun, rfl⟩
  | sansSalut hl hid =>
    obtain rfl : q = accuseOk := hq.convient
    exact absurd hl.id hid
  | confirmation hl hid => exact ⟨nofun, rfl⟩
  | refuse hl hid =>
    obtain rfl : q = accuseOk := hq.convient
    exact absurd hl.id hid

theorem Pas.envoie (h : Pas c (.envoie q) c') :
    c' ≠ .parti ∧ c'.moment = c.moment.suivant ∧ Accueil.contrat.Permis .retour c.moment q := by
  cases h with
  | saisie h => exact ⟨nofun, rfl, rfl, _, h, rfl⟩

theorem Pas.interne (h : Pas c .interne c') : c' = c := by
  cases h
  rfl

end Client.Arrivant

namespace Arrivee

variable {s s' : Arrivee} {a : Action} {es : List Action} {game : MemoireT}

theorem Accord.salon {t : Salon} {e : Salon.Fait} (h : Accord s) (hs : Salon.Pas s.salon e t) (ha : e.Attendu s.salon)
    (hh : e.Honnete) {vc vs : Nat → List Requete}
    (hsync : ∀ n, Accueil.contrat.Sync (t.moment n) (s.clients n).moment (vc n) (vs n)) :
    Accord ⟨t, s.clients, vc, vs⟩ where
  tenu := hs.tenu ha.sur h.tenu
  suivi := hs.suivi ha hh h.tenu h.suivi
  joueurs := fun n => ⟨hsync n, (h.joueurs n).reste⟩

theorem Accord.client {c : Client.Arrivant} {i : Nat} {vc vs : Nat → List Requete} (h : Accord s) (hc : c ≠ .parti)
    (hsync : Accueil.contrat.Sync (s.salon.moment i) c.moment (vc i) (vs i))
    (hautres : ∀ k, k ≠ i → vc k = s.versClient k ∧ vs k = s.versServeur k) :
    Accord ⟨s.salon, Function.update s.clients i c, vc, vs⟩ where
  tenu := h.tenu
  suivi := h.suivi
  joueurs := fun n => by
    by_cases hn : n = i
    · subst hn
      exact ⟨by simpa only [Function.update_self] using hsync, by simpa only [Function.update_self] using hc⟩
    · have := h.joueurs n
      refine ⟨?_, by simpa only [Function.update_of_ne hn] using this.reste⟩
      simp only [Function.update_of_ne hn, (hautres n hn).1, (hautres n hn).2]
      exact this.sync

theorem Accord.ecrit {c : Connexion} {q : Requete} {p : Salon.Point} {t : Salon} (h : Accord s)
    (hp : s.salon.point.ecriture = some (c, q, p)) (hs : Salon.Pas s.salon (.ecrit true) t) :
    Accord { s with
      salon := t
      versClient := Function.update s.versClient c.num (s.versClient c.num ++ (c.envoi q).map Prod.snd) } := by
  obtain ⟨hc, rfl, hm⟩ := h.suivi.ecriture h.tenu hp
  have hmode := h.suivi.modes c hc
  refine h.salon hs trivial trivial fun n => ?_
  cases hs with
  | ecrit hp' =>
    rw [hp, Option.some.injEq, Prod.mk.injEq, Prod.mk.injEq] at hp'
    obtain ⟨rfl, rfl, rfl⟩ := hp'
    have he := Salon.echanges_ecrit s.salon p hmode accuseOk n
    by_cases hn : c.num = n
    · subst hn
      rw [if_pos rfl] at he
      rw [Salon.moment_suivant he, Function.update_self, Connexion.envoi, if_pos hmode]
      refine (h.joueurs c.num).sync.envoi ⟨?_, ?_⟩
      · rcases hm with hm | hm <;> rw [hm] <;> rfl
      · rcases hm with hm | hm <;> rw [hm] <;> rfl
    · rw [if_neg hn, Nat.add_zero] at he
      rw [Salon.moment_stable he, Function.update_of_ne (Ne.symm hn)]
      exact (h.joueurs n).sync

theorem Accord.lit {c : Connexion} {q : Requete} {reste : List Requete} {l : Lecture} {buff : Buf maxBuffer}
    {quoi : ReqT} {t : Salon} (h : Accord s) (hp : s.salon.point = .identifier c)
    (hc : s.versServeur c.num = q :: reste) (hl : l.recu = q.texte ++ [nul]) (ha : Salon.ReponseEntiere l quoi)
    (hs : Salon.Pas s.salon (.lit l buff quoi) t) :
    Accord { s with salon := t, versServeur := Function.update s.versServeur c.num reste } := by
  have hpl := h.suivi.point
  rw [hp] at hpl
  have hm : s.salon.moment c.num = .identification := Salon.moment_de hpl rfl
  have hsync := (h.joueurs c.num).sync
  rw [hc] at hsync
  obtain ⟨hperm, hsync'⟩ := hsync.lecture
  have hq := hperm.convient
  rw [hm] at hq
  obtain ⟨pseudo, hpseudo, rfl⟩ : ∃ pseudo, Saisi pseudo ∧ q = Client.requeteIdentification pseudo := hq
  have hh : Salon.Fait.Honnete (.lit l buff quoi) := by
    intro r hr
    have hrecu := recevoir_lu hpseudo.valide (le_refl 999) hl buff quoi
    obtain rfl := Option.some.inj (hr.symm.trans hrecu)
    exact livrer_id _ _ _ _ _
  refine h.salon hs ha hh fun n => ?_
  cases hs with
  | @lit d _ _ _ r hp' hl' hr' =>
    rw [hp, Salon.Point.identifier.injEq] at hp'
    subst hp'
    have he := Salon.echanges_lit s.salon (c := c) (.decider c r) l.recu n
    by_cases hn : c.num = n
    · subst hn
      rw [if_pos rfl] at he
      rw [Salon.moment_suivant he, Function.update_self]
      exact hsync'
    · rw [if_neg hn, Nat.add_zero] at he
      rw [Salon.moment_stable he, Function.update_of_ne (Ne.symm hn)]
      exact (h.joueurs n).sync
  | litSansFin hp' hl' hr' => exact absurd hr' (ha.sure _).defini

theorem interne_echanges {e : Salon.Fait} {t u : Salon} (hi : Interne e) (hs : Salon.Pas t e u) (n : Nat) :
    u.echanges n = t.echanges n := by
  cases hs with
  | ecrit hp => cases hi
  | lit hp hl hr => exact hi.elim
  | _ => rfl

theorem Accord.etape (h : Accord s) (hs : Etape s a s') : Accord s' := by
  cases hs with
  | ecrit hp hs => exact h.ecrit hp hs
  | lit hp hc hl ha hs => exact h.lit hp hc hl ha hs
  | @salon e t hi ha hs =>
    refine h.salon hs ha (by cases e <;> first | exact hi.elim | trivial) fun n => ?_
    rw [Salon.moment_stable (interne_echanges hi hs n)]
    exact (h.joueurs n).sync
  | @clientPrend c i q reste hs hc =>
    have hsync := (h.joueurs i).sync
    rw [hc] at hsync
    obtain ⟨hperm, hsync⟩ := hsync.reception
    obtain ⟨hr, hm⟩ := hs.prend hperm
    refine h.client hr ?_ fun k hk => ⟨Function.update_of_ne hk _ _, rfl⟩
    rw [hm, Function.update_self]
    exact hsync
  | @clientEnvoie c i q hs =>
    obtain ⟨hr, hm, hperm⟩ := hs.envoie
    refine h.client hr ?_ fun k hk => ⟨rfl, Function.update_of_ne hk _ _⟩
    rw [hm, Function.update_self]
    exact (h.joueurs i).sync.reponse hperm
  | @clientInterne c i hs =>
    obtain rfl := hs.interne
    exact h.client (h.joueurs i).reste (h.joueurs i).sync fun _ _ => ⟨rfl, rfl⟩

theorem debut_accord (hg : Salon.Reglable game) : Accord (debut game) where
  tenu := Salon.attenteJoueur_tenu hg
  suivi := ⟨nofun, nofun, fun _ _ => rfl, nofun, trivial⟩
  joueurs := fun _ => ⟨.avance (.nil _), nofun⟩

theorem Trace.accord (hg : Salon.Reglable game) (h : Trace Etape (debut game) es s) : Accord s :=
  h.invariant (fun _ s => Accord s) (debut_accord hg) fun _ _ _ _ _ ih hs => ih.etape hs

theorem Etape.salon_cases (hs : Etape s a s') :
    s'.salon = s.salon ∨ ∃ e, Under Salon.Fait.Sur Salon.Pas s.salon e s'.salon := by
  cases hs with
  | ecrit hp hs => exact .inr ⟨.ecrit true, trivial, hs⟩
  | lit hp hc hl ha hs => exact .inr ⟨.lit _ _ _, ha.sure _, hs⟩
  | @salon e t hi ha hs => exact .inr ⟨e, ha.sur, hs⟩
  | _ => exact .inl rfl

theorem Trace.salon (h : Trace Etape (debut game) es s) :
    ∃ fs, Trace (Under Salon.Fait.Sur Salon.Pas) (attenteJoueur game) fs s.salon := by
  refine h.invariant (fun _ s => ∃ fs, Trace (Under Salon.Fait.Sur Salon.Pas) (attenteJoueur game) fs s.salon)
    ⟨[], .nil⟩ fun _ _ _ _ _ ih hs => ?_
  obtain ⟨fs, hf⟩ := ih
  rcases hs.salon_cases with he | ⟨e, he⟩
  · exact ⟨fs, he ▸ hf⟩
  · exact ⟨fs ++ [e], hf.snoc he⟩

-- player i of the game is the client of the i-th connection registered
def rang (s : Arrivee) (i : Nat) : Option Nat := (s.salon.inscrites[i]?).map Connexion.num

def point : Client.Arrivant → Client.Point
  | .confirmation => .inscription
  | _ => .attentePartie

-- the game that the lobby starts, whatever else the clients' memory holds
def partie (s : Arrivee) (horsEnum : Int → Status) (postes : Nat → Client.Poste) : Etat where
  serveur := ⟨.envoi .infos 0, s.salon.memoire.game horsEnum, 0, [], false, false⟩
  clients := fun i =>
    { postes i with point := (s.rang i).elim .attentePartie fun n => point (s.clients n), manche := 0 }
  versClient := fun i => (s.rang i).elim [] s.versClient
  versServeur := fun i => (s.rang i).elim [] s.versServeur

theorem Accord.rang_spec (h : Accord s) (i : Nat) : (i : Int) < s.salon.memoire.nbJoueur ↔ ∃ n, s.rang i = some n := by
  have hl := h.tenu.registre.longueur
  constructor
  · intro hi
    exact ⟨_, by rw [rang, List.getElem?_eq_getElem (by omega), Option.map_some]⟩
  · rintro ⟨n, hn⟩
    obtain ⟨c, hc, -⟩ := Option.map_eq_some_iff.mp hn
    have := (List.getElem?_eq_some_iff.mp hc).1
    omega

theorem Accord.admis (h : Accord s) (hp : s.salon.point = .lancement) {i n : Nat} (hn : s.rang i = some n) :
    s.versServeur n = [] ∧ (s.clients n = .attente ∧ s.versClient n = [] ∨
      s.clients n = .confirmation ∧ s.versClient n = [accuseOk]) := by
  obtain ⟨c, hc, rfl⟩ := Option.map_eq_some_iff.mp hn
  have hfini := ((h.suivi.inscrites c (List.mem_of_getElem? hc)).resolve_left (by rw [hp]; nofun)).resolve_left
    (by rw [hp]; nofun)
  have hsync := (h.joueurs c.num).sync
  rw [Salon.moment_de hfini rfl] at hsync
  obtain ⟨hb, hk⟩ := Accueil.sync_admis hsync
  refine ⟨hb, ?_⟩
  have hreste := (h.joueurs c.num).reste
  cases hcl : s.clients c.num <;> simp_all [Client.Arrivant.moment]

theorem Accord.debut (h : Accord s) (hp : s.salon.point = .lancement) (horsEnum : Int → Status)
    (postes : Nat → Client.Poste) : Debut (s.salon.memoire.game horsEnum) (s.partie horsEnum postes) where
  serveur := rfl
  versServeur := fun i => by
    cases hr : s.rang i with
    | none => simp only [partie, hr, Option.elim_none]
    | some n => simp only [partie, hr, Option.elim_some, (h.admis hp hr).1]
  clients := fun i hi => by
    obtain ⟨n, hn⟩ := (h.rang_spec i).mp hi
    refine ⟨rfl, ?_⟩
    simp only [partie, hn, Option.elim_some]
    rcases (h.admis hp hn).2 with ⟨hc, hv⟩ | ⟨hc, hv⟩
    · exact .inr ⟨by rw [hc]; rfl, hv⟩
    · exact .inl ⟨by rw [hc]; rfl, hv⟩

theorem Accord.rang_inj (h : Accord s) {i j n : Nat} (hi : s.rang i = some n) (hj : s.rang j = some n) : i = j := by
  obtain ⟨c, hc, rfl⟩ := Option.map_eq_some_iff.mp hi
  obtain ⟨d, hd, hn⟩ := Option.map_eq_some_iff.mp hj
  have hacc {k : Nat} {e : Connexion} (he : s.salon.inscrites[k]? = some e) : e ∈ s.salon.acceptees :=
    (h.tenu.registre.ouvertes e (List.mem_of_getElem? he)).1
  obtain rfl := h.suivi.num_inj (hacc hd) (hacc hc) hn
  obtain ⟨hil, hic⟩ := List.getElem?_eq_some_iff.mp hc
  obtain ⟨hjl, hjc⟩ := List.getElem?_eq_some_iff.mp hd
  have hnd := List.Nodup.of_map _ h.tenu.registre.distinctes
  exact (hnd.getElem_inj_iff).mp (hic.trans hjc.symm)

end Arrivee

end Bnbr
