import Bnbr.Memoire
import Bnbr.Codec

namespace Bnbr

open CArray CString Decimal Scanf

def Client.txtIdentification : List Char :=
  ['i', 'd', 'e', 'n', 't', 'i', 'f', 'i', 'c', 'a', 't', 'i', 'o', 'n']

def Client.requeteIdentification (pseudo : List Char) : Requete := ⟨1, Client.txtIdentification, pseudo⟩

namespace Serveur

def MemoireT.joueur (m : MemoireT) (f : ClientT → Option ClientT) : Option MemoireT := do
  let joueur ← get m.players m.nbJoueur
  let joueur' ← f joueur
  let players ← CArray.set m.players m.nbJoueur joueur'
  some { m with players := players }

def ClientT.copierPseudo (infos : Buf 1000) (joueur : ClientT) : Option ClientT := do
  let s ← infos.str
  let pseudo ← joueur.pseudo.strcpy s
  some { joueur with pseudo := pseudo }

def MemoireT.copierPseudo (m : MemoireT) (infos : Buf 1000) : Option MemoireT := m.joueur (ClientT.copierPseudo infos)

def MemoireT.rangerSocket (m : MemoireT) (socket : SocketT) : Option MemoireT :=
  m.joueur fun joueur => some { joueur with socket := socket }

def MemoireT.numeroter (m : MemoireT) : Option MemoireT :=
  m.joueur fun joueur => some { joueur with id := m.nbJoueur }

def inscrire (m : MemoireT) (reponse : ReqT) (socket : SocketT) : Option MemoireT := do
  let m ← m.copierPseudo reponse.infos
  let m ← m.rangerSocket socket
  let m ← m.numeroter
  some { m with nbJoueur := m.nbJoueur + 1 }

structure MemoireT.Accueille (m : MemoireT) : Prop where
  joueurs : 0 ≤ m.nbJoueur
  place : m.nbJoueur < m.maxJoueur
  joueurs_le : m.maxJoueur ≤ 100

theorem MemoireT.Accueille.joueur {m : MemoireT} (h : m.Accueille) : ∃ k : Fin 100, m.nbJoueur = (k.val : Int) := by
  obtain ⟨h0, h1, h2⟩ := h
  exact exists_fin h0 (by omega)

def MemoireT.avecJoueur (m : MemoireT) (k : Fin 100) (joueur : ClientT) : MemoireT :=
  { m with players := Function.update m.players k joueur }

@[simp] theorem MemoireT.avecJoueur_players (m : MemoireT) (k : Fin 100) (joueur : ClientT) :
    (m.avecJoueur k joueur).players k = joueur := Function.update_self _ _ _

@[simp] theorem MemoireT.avecJoueur_idem (m : MemoireT) (k : Fin 100) (joueur joueur' : ClientT) :
    (m.avecJoueur k joueur).avecJoueur k joueur' = m.avecJoueur k joueur' := by
  simp only [MemoireT.avecJoueur, Function.update_idem]

theorem MemoireT.joueur_spec {m : MemoireT} {k : Fin 100} (hk : m.nbJoueur = (k.val : Int))
    (f : ClientT → Option ClientT) : m.joueur f = (f (m.players k)).map (m.avecJoueur k) := by
  simp only [MemoireT.joueur, hk, get_fin, set_fin, Option.bind_eq_bind, Option.bind_some]
  cases f (m.players k) with
  | none => rfl
  | some joueur => simp only [Option.bind_some, Option.map_some, MemoireT.avecJoueur, hk]

theorem MemoireT.joueur_eq_some {m m' : MemoireT} {f : ClientT → Option ClientT} (h : m.joueur f = some m') :
    ∃ (k : Fin 100) (joueur : ClientT), m.nbJoueur = (k.val : Int) ∧ f (m.players k) = some joueur ∧
      m' = m.avecJoueur k joueur := by
  have hget := h
  simp only [MemoireT.joueur, Option.bind_eq_bind, Option.bind_eq_some_iff] at hget
  obtain ⟨j, hj, -⟩ := hget
  obtain ⟨k, hk, -⟩ := get_eq_some.mp hj
  rw [MemoireT.joueur_spec hk] at h
  obtain ⟨joueur, hf, rfl⟩ := Option.map_eq_some_iff.mp h
  exact ⟨k, joueur, hk, hf, rfl⟩

def inscrit (m : MemoireT) (k : Fin 100) (pseudo : Buf 100) (socket : SocketT) : MemoireT :=
  { m.avecJoueur k ⟨k.val, pseudo, socket⟩ with nbJoueur := k.val + 1 }

theorem inscrire_spec {m : MemoireT} {k : Fin 100} (hk : m.nbJoueur = (k.val : Int)) (reponse : ReqT)
    (socket : SocketT) : inscrire m reponse socket =
      (reponse.infos.str.bind (m.players k).pseudo.strcpy).map fun pseudo => inscrit m k pseudo socket := by
  have hk' (j : ClientT) : (m.avecJoueur k j).nbJoueur = (k.val : Int) := hk
  simp only [inscrire, MemoireT.copierPseudo, MemoireT.joueur_spec hk, ClientT.copierPseudo, Option.bind_eq_bind]
  cases reponse.infos.str with
  | none => rfl
  | some s =>
    cases hs : (m.players k).pseudo.strcpy s with
    | none => simp only [hs, Option.bind_some, Option.bind_none, Option.map_none]
    | some pseudo =>
      simp only [hs, Option.bind_some, Option.map_some, MemoireT.rangerSocket, MemoireT.numeroter, inscrit,
        MemoireT.joueur_spec (hk' _), MemoireT.avecJoueur_players, MemoireT.avecJoueur_idem, hk']

structure Inscription (m m' : MemoireT) (socket : SocketT) : Prop where
  autres : ∀ k : Fin 100, (k.val : Int) ≠ m.nbJoueur → m'.players k = m.players k
  joueur : ∀ k : Fin 100, (k.val : Int) = m.nbJoueur → (m'.players k).id = m.nbJoueur ∧
    (m'.players k).socket = socket
  nbJoueur : m'.nbJoueur = m.nbJoueur + 1
  maxJoueur : m'.maxJoueur = m.maxJoueur
  plateau : m'.plateau = m.plateau
  taillePlateau : m'.taillePlateau = m.taillePlateau
  tailleBateau : m'.tailleBateau = m.tailleBateau
  timeout : m'.timeout = m.timeout
  affchageBateau : m'.affchageBateau = m.affchageBateau
  etat : m'.etat = m.etat

theorem inscrit_inscription {m : MemoireT} {k : Fin 100} (hk : m.nbJoueur = (k.val : Int)) (pseudo : Buf 100)
    (socket : SocketT) : Inscription m (inscrit m k pseudo socket) socket where
  autres := fun i hi => Function.update_of_ne (fun he => hi (by rw [he, hk])) _ _
  joueur := fun i hi => by
    obtain rfl : i = k := Fin.ext (by omega)
    simp only [inscrit, MemoireT.avecJoueur, Function.update_self, hk, and_self]
  nbJoueur := by simp only [inscrit, hk]
  maxJoueur := rfl
  plateau := rfl
  taillePlateau := rfl
  tailleBateau := rfl
  timeout := rfl
  affchageBateau := rfl
  etat := rfl

theorem inscrire_infos {m : MemoireT} {k : Fin 100} (hk : m.nbJoueur = (k.val : Int)) {reponse : ReqT}
    {s : List Char} (hs : reponse.infos.str = some s) (hl : s.length + 1 ≤ 100) (socket : SocketT) :
    ∃ pseudo : Buf 100, pseudo.str = some s ∧ inscrire m reponse socket = some (inscrit m k pseudo socket) := by
  obtain ⟨pseudo, hp, hstr⟩ := (m.players k).pseudo.strcpy_of_le hl
  exact ⟨pseudo, hstr (text_nul_notMem hs), by simp only [inscrire_spec hk, hs, Option.bind_some, hp, Option.map_some]⟩

def DonneId1 (s : List Char) : Prop := ∃ avant, (unserialReq s avant).id = 1

def SansDebordement (s : List Char) : Prop :=
  ∀ (avant : ReqT) (m : MemoireT) (socket : SocketT), (unserialReq s avant).id = 1 → m.Accueille →
    ∃ infos m', (unserialReq s avant).infos.str = some infos ∧ infos.length + 1 ≤ 100 ∧
      inscrire m (unserialReq s avant) socket = some m' ∧ Inscription m m' socket

def PseudoBorne (s : List Char) : Prop := ∃ infos, (champs s).infos = some infos ∧ infos.1.length ≤ 99

def memoireZero : MemoireT where
  players := fun _ => ⟨0, Buf.fill 100 nul, ⟨0, 0⟩⟩
  nbJoueur := 0
  maxJoueur := 2
  plateau := ⟨fun _ _ => 0, fun _ => ⟨fun _ => ⟨0, 0, 0⟩, 0⟩, 0⟩
  taillePlateau := 11
  tailleBateau := 5
  timeout := 15
  affchageBateau := true
  etat := 0

theorem memoireZero_accueille : memoireZero.Accueille := by constructor <;> decide

theorem DonneId1.avec {s : List Char} (hs : nul ∉ s) (h : DonneId1 s) (infos : Buf 1000) :
    ∃ avant : ReqT, avant.infos = infos ∧ (unserialReq s avant).id = 1 := by
  obtain ⟨avant, hid⟩ := h
  refine ⟨{ avant with infos := infos }, rfl, ?_⟩
  rw [(unserialReq_suit hs avant).id] at hid
  rwa [(unserialReq_suit hs _).id]

-- an infos the text does not give is what the reply held, of any length
theorem SansDebordement.borne {s : List Char} (h : SansDebordement s) (hs : nul ∉ s) (h1 : DonneId1 s) :
    PseudoBorne s := by
  cases hc : (champs s).infos with
  | none =>
    obtain ⟨avant, hinfos, hid⟩ := h1.avec hs (Buf.fill 1000 'x')
    obtain ⟨infos, -, hstr, -⟩ := h avant memoireZero ⟨0, 1⟩ hid memoireZero_accueille
    rw [(unserialReq_suit hs avant).infos, hc, hinfos, Option.elim_none, Buf.str_fill (by decide)] at hstr
    cases hstr
  | some infos =>
    obtain ⟨avant, hid⟩ := h1
    obtain ⟨infos', -, hstr, hl, -⟩ := h avant memoireZero ⟨0, 1⟩ hid memoireZero_accueille
    rw [(unserialReq_suit hs avant).infos, hc, Option.elim_some, Option.some.injEq] at hstr
    exact ⟨infos, hc, by rw [hstr]; omega⟩

theorem inscription_cadre_iff (s : List Char) (hs : nul ∉ s) (h1 : DonneId1 s) :
    SansDebordement s ↔ PseudoBorne s := by
  refine ⟨fun h => h.borne hs h1, ?_⟩
  rintro ⟨infos, hc, hl⟩ avant m socket hid hm
  obtain ⟨k, hk⟩ := hm.joueur
  have hstr : (unserialReq s avant).infos.str = some infos.1 := by
    rw [(unserialReq_suit hs avant).infos, hc, Option.elim_some]
  obtain ⟨pseudo, -, hm'⟩ := inscrire_infos hk hstr (by omega) socket
  exact ⟨infos.1, _, hstr, by omega, hm', inscrit_inscription hk pseudo socket⟩

theorem inscription_cadre_iff_court :
    SansDebordement ['1', ';', 'n', ';', 'a'] ↔ PseudoBorne ['1', ';', 'n', ';', 'a'] :=
  inscription_cadre_iff _ (by decide) ⟨⟨0, Buf.fill 100 nul, Buf.fill 1000 nul⟩, by
    rw [(unserialReq_suit (by decide) _).id]
    decide⟩

theorem requeteIdentification_valide {pseudo : List Char} (h : nul ∉ pseudo) (hl : pseudo.length ≤ 900) :
    (Client.requeteIdentification pseudo).Valide :=
  Requete.valide_court (by decide) (by decide) (by decide) (by decide) (by decide) h hl

theorem pseudo_deborde {pseudo : List Char} (hn : nul ∉ pseudo) (hm : ∀ c ∈ pseudo, isspace c = false)
    (h100 : 100 ≤ pseudo.length) (hl : pseudo.length ≤ 900) : ∃ s, nul ∉ s ∧ DonneId1 s ∧ ¬ SansDebordement s := by
  have hv := requeteIdentification_valide hn hl
  have hlu : lu 999 (Client.requeteIdentification pseudo).infos = pseudo :=
    lu_of_all hm (show pseudo.length ≤ 999 by omega)
  have hne : pseudo ≠ [] := List.ne_nil_of_length_pos (by omega)
  obtain ⟨hid, -, hinfos⟩ := champs_texte hv (by rw [hlu]; exact hne)
  have hnul := hv.texte_nul
  have h1 : DonneId1 (Client.requeteIdentification pseudo).texte := by
    refine ⟨⟨0, Buf.fill 100 nul, Buf.fill 1000 nul⟩, ?_⟩
    rw [(unserialReq_suit hnul _).id, hid]
    rfl
  refine ⟨_, hnul, h1, fun h => ?_⟩
  obtain ⟨infos, hc, hlen⟩ := h.borne hnul h1
  rw [hc, Option.map_some, Option.some.injEq, hlu] at hinfos
  rw [hinfos] at hlen
  omega

theorem inscription_debordement : ¬ ∀ s, nul ∉ s → DonneId1 s → SansDebordement s := by
  intro h
  have hn : nul ∉ List.replicate 100 'a' := fun hm => absurd (List.eq_of_mem_replicate hm) (by decide)
  have hm : ∀ c ∈ List.replicate 100 'a', isspace c = false := by
    intro c hc
    rw [List.eq_of_mem_replicate hc]
    decide
  obtain ⟨s, hs, h1, hd⟩ := pseudo_deborde hn hm List.length_replicate.ge (List.length_replicate.trans_le (by decide))
  exact hd (h s hs h1)

-- the client asks for one line, and the server reads a word
def AllerRetour (pseudo : List Char) : Prop :=
  ∀ avant : ReqT, ∃ octets, envoyer (formatReq avant (Client.requeteIdentification pseudo)) = some octets ∧
    ∀ (l : Lecture) (buff : Buf maxBuffer) (quoi : ReqT) (m : MemoireT) (socket : SocketT) (k : Fin 100),
      l.recu = octets → m.nbJoueur = (k.val : Int) → ∃ r m', recevoir unserialReq l buff quoi = some r ∧
        r.id = 1 ∧ inscrire m r socket = some m' ∧ (m'.players k).pseudo.str = some pseudo

structure Saisi (pseudo : List Char) : Prop where
  ne : pseudo ≠ []
  longueur : pseudo.length ≤ 49
  nul : CString.nul ∉ pseudo

theorem Saisi.valide {pseudo : List Char} (h : Saisi pseudo) : (Client.requeteIdentification pseudo).Valide := by
  have := h.longueur
  exact requeteIdentification_valide h.nul (by omega)

theorem livrer_pseudo {pseudo : List Char} (h : Saisi pseudo)
    (hp : ∀ quoi, (Serveur.livrer _ h.valide quoi).infos.str = some pseudo) : ∀ c ∈ pseudo, isspace c = false := by
  have hquoi := hp ⟨0, Buf.fill 100 'x', Buf.fill 1000 'x'⟩
  by_cases hl : lu 999 (Client.requeteIdentification pseudo).infos = []
  · rw [Serveur.livrer, livrer_infos_vide _ h.valide.nom_len _ hl, Buf.str_fill (by decide)] at hquoi
    cases hquoi
  · rw [Serveur.livrer, livrer_infos _ h.valide _ hl, Option.some.injEq] at hquoi
    intro c hc
    rw [← hquoi] at hc
    exact nonspace_mot hc

theorem AllerRetour.mot {pseudo : List Char} (ha : AllerRetour pseudo) (h : Saisi pseudo) :
    ∀ c ∈ pseudo, isspace c = false := by
  refine livrer_pseudo h fun quoi => ?_
  obtain ⟨octets, hoct, hlecture⟩ := ha quoi
  rw [envoyer_formatReq h.valide quoi, Option.some.injEq] at hoct
  obtain ⟨r, m', hr, -, hm', hp⟩ := hlecture (Lecture.entiere _ h.valide) (Buf.fill maxBuffer 'x') quoi
    memoireZero ⟨0, 1⟩ 0 hoct rfl
  rw [Serveur.recevoir_livrer h.valide, Option.some.injEq] at hr
  subst hr
  rw [inscrire_spec (k := 0) rfl] at hm'
  obtain ⟨p, hcopie, rfl⟩ := Option.map_eq_some_iff.mp hm'
  obtain ⟨s, hs, hcopie⟩ := Option.bind_eq_some_iff.mp hcopie
  obtain ⟨p', hp', hstr⟩ := (memoireZero.players 0).pseudo.strcpy_of_le (Buf.strcpy_length hcopie)
  rw [hcopie, Option.some.injEq] at hp'
  subst hp'
  have hj : ((inscrit memoireZero 0 p ⟨0, 1⟩).players 0).pseudo = p :=
    congrArg ClientT.pseudo (MemoireT.avecJoueur_players _ _ _)
  rw [hj, hstr (text_nul_notMem hs)] at hp
  rw [hs, hp]

theorem pseudo_iff (pseudo : List Char) (h : Saisi pseudo) :
    AllerRetour pseudo ↔ ∀ c ∈ pseudo, isspace c = false := by
  refine ⟨fun ha => ha.mot h, fun hm avant => ?_⟩
  refine ⟨_, envoyer_formatReq h.valide avant, fun l buff quoi m socket k hl hk => ?_⟩
  have hlen := h.longueur
  have hlu : lu 999 (Client.requeteIdentification pseudo).infos = pseudo :=
    lu_of_all hm (show pseudo.length ≤ 999 by omega)
  have hinfos : (Serveur.livrer _ h.valide quoi).infos.str = some pseudo := by
    rw [Serveur.livrer, livrer_infos _ h.valide _ (by rw [hlu]; exact h.ne), hlu]
  obtain ⟨p, hp, hm'⟩ := inscrire_infos hk hinfos (by omega) socket
  refine ⟨_, _, recevoir_lu h.valide (by omega) hl buff quoi, livrer_id _ _ _ _ _, hm', ?_⟩
  rw [← hp]
  exact congrArg (fun j : ClientT => j.pseudo.str) (MemoireT.avecJoueur_players _ _ _)

theorem pseudo_iff_mot : AllerRetour ['J', 'e', 'a', 'n'] ↔ ∀ c ∈ ['J', 'e', 'a', 'n'], isspace c = false :=
  pseudo_iff _ (by constructor <;> decide)

theorem pseudo_deux_mots : ¬ ∀ pseudo, Saisi pseudo → AllerRetour pseudo := by
  intro h
  have hs : Saisi ['J', 'e', 'a', 'n', ' ', 'P'] := by constructor <;> decide
  exact absurd ((h _ hs).mot hs ' ' (by decide)) (by decide)

end Serveur

end Bnbr
