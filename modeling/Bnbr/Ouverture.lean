import Bnbr.Salon

namespace Bnbr.Serveur

open CArray CString Decimal Runs

namespace Salon

variable {s s' : Salon} {e : Fait} {es : List Fait}

-- one whole request, and a pseudo that fits in the field
def ReponseEntiere (l : Lecture) (quoi : ReqT) : Prop :=
  ∃ t v, text l.recu = some t ∧ (champs t).id = some v ∧ (toInt v = 1 →
    ∃ p, ((champs t).infos.elim quoi.infos.str fun s => some s.1) = some p ∧ p.length ≤ 99)

def Fait.Attendu (s : Salon) : Fait → Prop
  | .accepte fd => ∃ v, fd = some v ∧ s.Nouveau v
  | .lit l _ quoi => ReponseEntiere l quoi
  | _ => True

theorem ReponseEntiere.sure {l : Lecture} {quoi : ReqT} (h : ReponseEntiere l quoi) (buff : Buf maxBuffer) :
    Sure l buff quoi := by
  obtain ⟨t, v, ht, hv, hp⟩ := h
  refine ⟨t, text_append_right ht _, fun hid => ?_⟩
  rw [hv, Option.map_some, Option.getD_some] at hid
  exact ⟨⟨t, v, ht, hv, hid⟩, hp hid⟩

theorem Fait.Attendu.sur (h : e.Attendu s) : e.Sur s := by
  cases e with
  | accepte fd =>
    obtain ⟨v, rfl, hv⟩ := h
    intro w hw
    exact Option.some.inj hw ▸ hv
  | lit l buff quoi => exact ReponseEntiere.sure h buff
  | _ => trivial

theorem Trace.sur (h : Trace (Under Fait.Attendu Pas) s es s') : Trace (Under Fait.Sur Pas) s es s' :=
  h.mono fun _ _ _ hstep => ⟨hstep.1.sur, hstep.2⟩

-- every write succeeds, no client comes after the launch, and no old content passes for an identification
def Fait.Favorable (s : Salon) : Fait → Prop
  | .avance => ∀ c, s.point = .accepte c → c.socket.mode = sockStream → s.memoire.etat ≠ 1
  | .accepte fd => ∀ v, fd = some v → s.Nouveau v
  | .ecrit ok => ok = true
  | .lit l buff quoi => Sure l buff quoi
  | _ => True

theorem Fait.Favorable.sur (h : e.Favorable s) : e.Sur s := by
  cases e with
  | accepte fd => exact h
  | lit l buff quoi => exact h
  | _ => trivial

def Fait.Convient (s : Salon) (e : Fait) : Prop := e.Attendu s ∧ e.Favorable s

theorem attendu_avance : Fait.Attendu s .avance := trivial

theorem convient_avance (he : s.memoire.etat ≠ 1) : Fait.Convient s .avance := ⟨trivial, fun _ _ _ => he⟩

theorem convient_accepte {fd : Int} (h : s.Nouveau fd) : Fait.Convient s (.accepte (some fd)) :=
  ⟨⟨fd, rfl, h⟩, fun _ hv => Option.some.inj hv ▸ h⟩

theorem convient_lit {l : Lecture} {buff : Buf maxBuffer} {quoi : ReqT} (h : ReponseEntiere l quoi) :
    Fait.Convient s (.lit l buff quoi) := ⟨h, h.sure buff⟩

theorem convient_touche {t : Touche} : Fait.Convient s (.touche t) := ⟨trivial, trivial⟩

theorem convient_veille : Fait.Convient s .veille := ⟨trivial, trivial⟩

theorem convient_ecrit : Fait.Convient s (.ecrit true) := ⟨trivial, rfl⟩

theorem reponse_identification {pseudo : List Char} (h : Saisi pseudo) (hm : ∀ c ∈ pseudo, isspace c = false)
    (quoi : ReqT) : ReponseEntiere (Lecture.entiere _ h.valide) quoi := by
  have hlen := h.longueur
  have hlu : lu 999 (Client.requeteIdentification pseudo).infos = pseudo :=
    lu_of_all hm (show pseudo.length ≤ 999 by omega)
  obtain ⟨hid, -, hinfos⟩ := champs_texte h.valide (by rw [hlu]; exact h.ne)
  obtain ⟨infos, hi, hv⟩ := Option.map_eq_some_iff.mp hinfos
  refine ⟨_, 1, text_append _ h.valide.texte_nul, hid, fun _ => ⟨infos.1, by rw [hi]; rfl, ?_⟩⟩
  rw [hv, hlu]
  omega

theorem connecter {c : Connexion} {fd : Int} (hp : s.point = .test) (hlt : s.memoire.nbJoueur < s.memoire.maxJoueur)
    (he : s.memoire.etat ≠ 1) (hfd : s.Nouveau fd) (hc : c = ⟨s.acceptees.length, ⟨fd, sockStream⟩⟩) :
    ∃ es, Trace (Under Fait.Convient Pas) s es
      { s with point := .identifier c, acceptees := s.acceptees ++ [c], envoyees := s.envoyees ++ c.envoi accuseOk } :=
  ⟨_, (((Trace.single ⟨convient_avance he, .place hp (ne_of_lt hlt)⟩).snoc
    ⟨convient_accepte hfd, .accepte (some fd) rfl hc⟩).snoc ⟨convient_avance he, .connecte rfl he⟩).snoc
    ⟨convient_ecrit, .ecrit rfl⟩⟩

theorem repondre {c : Connexion} {l : Lecture} {buff : Buf maxBuffer} {quoi r : ReqT}
    (hp : s.point = .identifier c) (hc : c.socket.mode = sockStream) (he : s.memoire.etat ≠ 1)
    (hrep : ReponseEntiere l quoi) (hr : recevoir unserialReq l buff quoi = some r) (hid : r.id = 1) :
    ∃ es, Trace (Under Fait.Convient Pas) s es { s with point := .pseudo c r, lues := s.lues ++ [(c, l.recu)] } := by
  have h₁ : Trace (Under Fait.Convient Pas) s [.lit l buff quoi]
      { s with point := .decider c r, lues := s.lues ++ [(c, l.recu)] } :=
    .single ⟨convient_lit hrep, .lit hp (.inl hc) hr⟩
  exact ⟨_, h₁.snoc ⟨convient_avance he, .identifie rfl hid⟩⟩

theorem enregistrer {c : Connexion} {r : ReqT} {k : Fin 100} (hp : s.point = .pseudo c r)
    (hk : s.memoire.nbJoueur = (k.val : Int)) (he : s.memoire.etat ≠ 1) (ht : Tient r) : ∃ es joueur,
    Trace (Under Fait.Convient Pas) s es
      { s with
        point := .test
        memoire := { s.memoire.avecJoueur k joueur with nbJoueur := s.memoire.nbJoueur + 1 }
        inscrites := s.inscrites ++ [c]
        envoyees := s.envoyees ++ c.envoi accuseOk } := by
  obtain ⟨m₁, hm₁⟩ := ht.copie hk
  obtain ⟨k₁, j₁, hk₁, -, rfl⟩ := MemoireT.joueur_eq_some hm₁
  obtain rfl : k = k₁ := Fin.ext (by omega)
  have hk' (j : ClientT) : (s.memoire.avecJoueur k j).nbJoueur = (k.val : Int) := hk
  have hm₂ : (s.memoire.avecJoueur k j₁).rangerSocket c.socket =
      some (s.memoire.avecJoueur k { j₁ with socket := c.socket }) := by
    rw [MemoireT.rangerSocket, MemoireT.joueur_spec (hk' j₁), MemoireT.avecJoueur_players, Option.map_some,
      MemoireT.avecJoueur_idem]
  have hm₃ (j : ClientT) : (s.memoire.avecJoueur k j).numeroter =
      some (s.memoire.avecJoueur k { j with id := s.memoire.nbJoueur }) := by
    rw [MemoireT.numeroter, MemoireT.joueur_spec (hk' j), MemoireT.avecJoueur_players, Option.map_some,
      MemoireT.avecJoueur_idem]
    rfl
  exact ⟨_, _, (((((Trace.single ⟨convient_avance he, .pseudo hp hm₁⟩).snoc
    ⟨convient_avance he, .socket rfl hm₂⟩).snoc ⟨convient_avance he, .numero rfl (hm₃ _)⟩).snoc
    ⟨convient_avance he, .compter rfl⟩).snoc ⟨convient_avance he, .compte rfl⟩).snoc ⟨convient_ecrit, .ecrit rfl⟩⟩

structure Rejoint (s s' : Salon) (fd : Int) : Prop where
  point : s'.point = .test
  veille : s'.veille = s.veille
  nbJoueur : s'.memoire.nbJoueur = s.memoire.nbJoueur + 1
  maxJoueur : s'.memoire.maxJoueur = s.memoire.maxJoueur
  etat : s'.memoire.etat = s.memoire.etat
  acceptees : s'.acceptees = s.acceptees ++ [⟨s.acceptees.length, ⟨fd, sockStream⟩⟩]

theorem rejoindre {k : Fin 100} (hp : s.point = .test) (hk : s.memoire.nbJoueur = (k.val : Int))
    (hlt : s.memoire.nbJoueur < s.memoire.maxJoueur) (he : s.memoire.etat ≠ 1) {fd : Int} (hfd : s.Nouveau fd)
    {pseudo : List Char} (hs : Saisi pseudo) (hm : ∀ c ∈ pseudo, isspace c = false) (buff : Buf maxBuffer)
    (quoi : ReqT) : ∃ es s', Trace (Under Fait.Convient Pas) s es s' ∧ Rejoint s s' fd := by
  have hrep := reponse_identification hs hm quoi
  have hrecu := Serveur.recevoir_livrer hs.valide buff quoi
  have hid : (Serveur.livrer _ hs.valide quoi).id = 1 := livrer_id _ _ _ _ _
  obtain ⟨-, ht⟩ := (hrep.sure buff).recu hrecu hid
  obtain ⟨c, hc⟩ : ∃ c : Connexion, c = ⟨s.acceptees.length, ⟨fd, sockStream⟩⟩ := ⟨_, rfl⟩
  obtain ⟨es₁, h₁⟩ := connecter hp hlt he hfd hc
  obtain ⟨es₂, h₂⟩ := repondre (s := { s with
    point := .identifier c, acceptees := s.acceptees ++ [c], envoyees := s.envoyees ++ c.envoi accuseOk })
    rfl (by rw [hc]) he hrep hrecu hid
  obtain ⟨es₃, joueur, h₃⟩ := enregistrer (s := { s with
    point := .pseudo c (Serveur.livrer _ hs.valide quoi), acceptees := s.acceptees ++ [c],
    envoyees := s.envoyees ++ c.envoi accuseOk, lues := s.lues ++ [(c, (Lecture.entiere _ hs.valide).recu)] })
    rfl hk he ht
  exact ⟨_, _, (h₁.append h₂).append h₃, ⟨rfl, rfl, rfl, rfl, rfl, by rw [hc]⟩⟩

theorem lever (hv : s.veille = .boucle) (hn : 2 ≤ s.memoire.nbJoueur) : ∃ es,
    Trace (Under Fait.Convient Pas) s es { s with veille := .fini, memoire := { s.memoire with etat := 1 } } := by
  have h0 : ¬ s.memoire.nbJoueur < 2 := Int.not_lt.mpr hn
  have h₁ : Trace (Under Fait.Convient Pas) s [.touche .entree] { s with veille := .entree } :=
    .single ⟨convient_touche, .touche .entree hv⟩
  exact ⟨_, ((h₁.snoc ⟨convient_veille, .suffisant rfl h0⟩).snoc ⟨convient_veille, .lance rfl⟩).snoc
    ⟨convient_veille, .finit rfl⟩⟩

def premier : Connexion := ⟨0, ⟨4, sockStream⟩⟩

def second : Connexion := ⟨1, ⟨5, sockStream⟩⟩

def troisieme : Connexion := ⟨2, ⟨6, sockStream⟩⟩

theorem deux_joueurs {game : MemoireT} (hg : Reglable game) : ∃ es s,
    Trace (Under Fait.Convient Pas) (attenteJoueur game) es s ∧ s.point = .test ∧ s.veille = .boucle ∧
      s.memoire.nbJoueur = 2 ∧ s.memoire.maxJoueur = game.maxJoueur ∧ s.memoire.etat = 0 ∧
      s.acceptees = [premier, second] := by
  have hmax := hg.joueurs
  have ha : Saisi ['a'] := by constructor <;> decide
  have hm : ∀ c ∈ ['a'], isspace c = false := by
    intro c hc
    rw [List.mem_singleton.mp hc]
    decide
  obtain ⟨es₁, s₁, h₁, hr₁⟩ := rejoindre (s := attenteJoueur game) (k := 0) rfl rfl
    (show 0 < game.maxJoueur by omega) (show (0 : Int) ≠ 1 by decide) (show Nouveau _ 4 from nofun) ha hm
    (Buf.fill maxBuffer 'x') ⟨0, Buf.fill 100 'x', Buf.fill 1000 'x'⟩
  obtain ⟨es₂, s₂, h₂, hr₂⟩ := rejoindre (s := s₁) (k := 1) hr₁.point hr₁.nbJoueur
    (by rw [hr₁.nbJoueur, hr₁.maxJoueur]; exact hmax) (by rw [hr₁.etat]; exact (by decide : (0 : Int) ≠ 1))
    (show Nouveau _ 5 by
      intro c hc _
      rw [hr₁.acceptees] at hc
      obtain rfl := List.mem_singleton.mp hc
      exact (by decide : (4 : Int) ≠ 5)) ha hm (Buf.fill maxBuffer 'x')
    ⟨0, Buf.fill 100 'x', Buf.fill 1000 'x'⟩
  refine ⟨_, s₂, h₁.append h₂, hr₂.point, hr₂.veille.trans hr₁.veille, ?_, hr₂.maxJoueur.trans hr₁.maxJoueur,
    hr₂.etat.trans hr₁.etat, ?_⟩
  · rw [hr₂.nbJoueur, hr₁.nbJoueur]
    rfl
  · rw [hr₂.acceptees, hr₁.acceptees]
    rfl

theorem deux_joueurs_leves {game : MemoireT} (hg : Reglable game) : ∃ es s,
    Trace (Under Fait.Convient Pas) (attenteJoueur game) es s ∧ s.point = .test ∧ s.veille = .fini ∧
      s.memoire.nbJoueur = 2 ∧ s.memoire.maxJoueur = game.maxJoueur ∧ s.memoire.etat = 1 ∧
      s.acceptees = [premier, second] := by
  obtain ⟨es, s, h, hp, hv, hn, hm, -, ha⟩ := deux_joueurs hg
  obtain ⟨es', h'⟩ := lever hv (by omega)
  exact ⟨_, _, h.append h', hp, rfl, hn, hm, rfl, ha⟩

theorem Trace.attendu (h : Trace (Under Fait.Convient Pas) s es s') : Trace (Under Fait.Attendu Pas) s es s' :=
  h.mono fun _ _ _ hstep => ⟨hstep.1.1, hstep.2⟩

theorem table_pleine {game : MemoireT} (hg : Reglable game) (h2 : game.maxJoueur = 2) : ∃ es s,
    Trace (Under Fait.Convient Pas) (attenteJoueur game) es s ∧ s.point = .lancement := by
  obtain ⟨es, s, h, hp, hv, hn, hm, -, -⟩ := deux_joueurs_leves hg
  have h₁ : Trace (Under Fait.Convient Pas) s [.avance] { s with point := .joindre } :=
    .single ⟨⟨trivial, fun c hc => by rw [hp] at hc; cases hc⟩, .complet hp (by omega)⟩
  have h₂ : Trace (Under Fait.Convient Pas) s ([.avance] ++ [.avance]) { s with point := .clore } :=
    h₁.snoc ⟨⟨trivial, nofun⟩, .joint rfl hv⟩
  have h₃ : Trace (Under Fait.Convient Pas) s ([.avance] ++ [.avance] ++ [.avance]) { s with point := .lancement } :=
    h₂.snoc ⟨⟨trivial, nofun⟩, .clot rfl⟩
  exact ⟨_, _, h.append h₃, rfl⟩

-- a client that connects after the launch: the loop is left without a word to it
theorem retardataire {game : MemoireT} (hg : Reglable game) (h2 : game.maxJoueur ≠ 2) : ∃ es s,
    Trace (Under Fait.Attendu Pas) (attenteJoueur game) es s ∧ s.point = .lancement ∧
      EnMain s.acceptees s.inscrites s.fermees troisieme := by
  obtain ⟨es, s, h, hp, hv, hn, hm, he, ha⟩ := deux_joueurs_leves hg
  have hc : troisieme = ⟨s.acceptees.length, ⟨6, sockStream⟩⟩ := by rw [ha]; rfl
  have hfd : s.Nouveau 6 := by
    intro c hc _
    rw [ha] at hc
    rcases List.mem_pair.mp hc with rfl | rfl
    · exact (by decide : (4 : Int) ≠ 6)
    · exact (by decide : (5 : Int) ≠ 6)
  have h₁ : Trace (Under Fait.Attendu Pas) s [.avance] { s with point := .accepter } :=
    .single ⟨trivial, .place hp (by omega)⟩
  have h₂ : Trace (Under Fait.Attendu Pas) s ([.avance] ++ [.accepte (some 6)])
      { s with point := .accepte troisieme, acceptees := s.acceptees ++ [troisieme] } :=
    h₁.snoc ⟨⟨6, rfl, hfd⟩, .accepte (some 6) rfl hc⟩
  have hrun := (Trace.attendu h).append h₂
  have htenu := Trace.tenu (hrun.mono fun _ _ _ hstep => ⟨hstep.1.sur, hstep.2⟩) (attenteJoueur_tenu hg)
  have h₃ : Trace (Under Fait.Attendu Pas) s ([.avance] ++ [.accepte (some 6)] ++ [.avance] ++ [.avance])
      { s with point := .lancement, acceptees := s.acceptees ++ [troisieme] } :=
    (h₂.snoc ⟨attendu_avance, .commencee rfl he⟩).snoc ⟨attendu_avance, .clot rfl⟩
  exact ⟨_, _, (Trace.attendu h).append h₃, rfl, htenu.point.2⟩

theorem lancer {game : MemoireT} (hg : Reglable game) : ∃ es s,
    Trace (Under Fait.Attendu Pas) (attenteJoueur game) es s ∧ s.point = .lancement := by
  by_cases h2 : game.maxJoueur = 2
  · obtain ⟨es, s, h, hp⟩ := table_pleine hg h2
    exact ⟨es, s, Trace.attendu h, hp⟩
  · obtain ⟨es, s, h, hp, -⟩ := retardataire hg h2
    exact ⟨es, s, h, hp⟩

end Salon

end Bnbr.Serveur
