import Bnbr.Deroulement
import Bnbr.Ouverture

namespace Bnbr.Serveur

open CArray CString Decimal Runs

namespace Salon

variable {s s' : Salon} {e : Fait} {es : List Fait} {game : MemoireT}

structure Fige (s s' : Salon) : Prop where
  croit : s.memoire.nbJoueur ≤ s'.memoire.nbJoueur
  joueurs : ∀ k : Fin 100, (k.val : Int) < s.memoire.nbJoueur →
    (s'.memoire.players k).id = (s.memoire.players k).id ∧
      (s'.memoire.players k).socket = (s.memoire.players k).socket
  lance : s.point = .lancement → s'.point = .lancement ∧ s'.memoire.nbJoueur = s.memoire.nbJoueur

theorem Fige.refl (s : Salon) : Fige s s := ⟨le_refl _, fun _ _ => ⟨rfl, rfl⟩, fun h => ⟨h, rfl⟩⟩

theorem Fige.trans {s'' : Salon} (h : Fige s s') (h' : Fige s' s'') : Fige s s'' where
  croit := h.croit.trans h'.croit
  joueurs := fun k hk => by
    obtain ⟨h1, h2⟩ := h.joueurs k hk
    obtain ⟨h3, h4⟩ := h'.joueurs k (lt_of_lt_of_le hk h.croit)
    exact ⟨h3.trans h1, h4.trans h2⟩
  lance := fun hl => by
    obtain ⟨h1, h2⟩ := h.lance hl
    obtain ⟨h3, h4⟩ := h'.lance h1
    exact ⟨h3, h4.trans h2⟩

theorem Fige.joueur {f : ClientT → Option ClientT} {m : MemoireT} (hm : s.memoire.joueur f = some m)
    (hp : s.point ≠ .lancement) (p : Point) : Fige s { s with point := p, memoire := m } := by
  obtain ⟨k, joueur, hk, -, rfl⟩ := MemoireT.joueur_eq_some hm
  refine ⟨le_refl _, fun i hi => ?_, fun h => absurd h hp⟩
  have hne : i ≠ k := fun he => by rw [he] at hi; omega
  simp only [MemoireT.avecJoueur, Function.update_of_ne hne, and_self]

theorem Fige.deplace (hp : s.point ≠ .lancement) (h : s'.memoire = s.memoire) : Fige s s' := by
  refine ⟨?_, fun k _ => ?_, fun hl => absurd hl hp⟩
  · rw [h]
  · rw [h]
    exact ⟨rfl, rfl⟩

theorem Fige.eveil (hp : s'.point = s.point) (hj : s'.memoire.players = s.memoire.players)
    (hn : s'.memoire.nbJoueur = s.memoire.nbJoueur) : Fige s s' := by
  refine ⟨hn.ge, fun k _ => ?_, fun hl => ⟨hp.trans hl, hn⟩⟩
  rw [hj]
  exact ⟨rfl, rfl⟩

theorem Point.ecriture_ne {p : Point} {x : Connexion × Requete × Point} (h : p.ecriture = some x) :
    p ≠ .lancement := by
  rintro rfl
  cases h

theorem Pas.fige (hs : Pas s e s') (h : Tenu s) : Fige s s' := by
  have hpt := h.point
  cases hs with
  | ecrit hp | echec hp => exact .deplace (Point.ecriture_ne hp) rfl
  | pseudo hp hm | socket hp hm | numero hp hm => exact .joueur hm (by rw [hp]; nofun) _
  | compte hp =>
    rw [hp] at hpt
    obtain ⟨-, rfl, -⟩ := hpt
    exact ⟨by simp, fun _ _ => ⟨rfl, rfl⟩, fun hl => by rw [hp] at hl; cases hl⟩
  | touche | insuffisant | suffisant | lance | finit => exact .eveil rfl rfl rfl
  | complet hp | place hp | joint hp | accepte _ hp | commencee hp | connecte hp | lit hp | litSansFin hp
    | identifie hp | autre hp | deborde hp | compter hp | ferme hp | clot hp =>
    exact .deplace (by rw [hp]; nofun) rfl

theorem Trace.fige (h : Trace (Under Fait.Sur Pas) s es s') (hs : Tenu s) : Fige s s' :=
  (h.invariant (fun _ t => Tenu t ∧ Fige s t) ⟨hs, .refl s⟩ fun _ _ _ _ _ ht hstep =>
    ⟨hstep.2.tenu hstep.1 ht.1, ht.2.trans (hstep.2.fige ht.1)⟩).2

theorem Pas.entree (hs : Pas s e s') (h : s'.veille ≠ .boucle ∨ s'.memoire.etat = 1) :
    (s.veille ≠ .boucle ∨ s.memoire.etat = 1) ∨ e = .touche .entree := by
  cases hs with
  | pseudo hp hm | socket hp hm | numero hp hm =>
    obtain ⟨k, joueur, -, -, rfl⟩ := MemoireT.joueur_eq_some hm
    exact .inl h
  | touche t hv =>
    by_cases ht : t = .entree
    · exact .inr (by rw [ht])
    · simp only [ht, if_false] at h
      exact .inl (.inr (h.resolve_left fun h => h rfl))
  | insuffisant hv hn => exact .inl (.inr (h.resolve_left fun h => h rfl))
  | suffisant hv | lance hv | finit hv => exact .inl (.inl (by rw [hv]; nofun))
  | _ => exact .inl h

theorem Trace.entree {P : Salon → Fait → Prop} (h : Trace (Under P Pas) (attenteJoueur game) es s)
    (he : s.memoire.etat = 1) : .touche .entree ∈ es := by
  have hI := h.invariant (fun es t => t.veille ≠ .boucle ∨ t.memoire.etat = 1 → .touche .entree ∈ es)
    (by simp [attenteJoueur]) fun es t e u _ ht hstep hu => by
      rcases hstep.2.entree hu with hu | rfl
      · exact List.mem_append_left _ (ht hu)
      · exact List.mem_append_right _ (List.mem_singleton_self _)
  exact hI (.inr he)

structure Salle (es : List Fait) (s : Salon) : Prop where
  borne : s.memoire.nbJoueur ≤ s.memoire.maxJoueur
  id : ∀ k : Fin 100, (k.val : Int) < s.memoire.nbJoueur → (s.memoire.players k).id = k.val
  connexion : ∀ k : Fin 100, (k.val : Int) < s.memoire.nbJoueur → ∃ c ∈ s.acceptees,
    (s.memoire.players k).socket = c.socket ∧ Identifiee s.lues c
  distinctes : ∀ i j : Fin 100, (i.val : Int) < s.memoire.nbJoueur → (j.val : Int) < s.memoire.nbJoueur → i ≠ j →
    (s.memoire.players i).socket.fd ≠ (s.memoire.players j).socket.fd
  lancement : s.point = .lancement → s.memoire.etat = 1 ∧ .touche .entree ∈ es ∧ 2 ≤ s.memoire.nbJoueur
  defini : s.point ≠ .indefini

theorem Registre.distincts {players : Arr 100 ClientT} {nbJoueur maxJoueur : Int}
    {acceptees inscrites fermees : List Connexion} {lues : List (Connexion × List Char)}
    (h : Registre players nbJoueur maxJoueur acceptees inscrites fermees lues) {i j : Fin 100}
    (hi : (i.val : Int) < nbJoueur) (hj : (j.val : Int) < nbJoueur) (hne : i ≠ j) :
    (players i).socket.fd ≠ (players j).socket.fd := by
  obtain ⟨c, -, hc, -, hcs⟩ := h.inscrit hi
  obtain ⟨d, -, hd, -, hds⟩ := h.inscrit hj
  obtain ⟨hil, rfl⟩ := List.getElem?_eq_some_iff.mp hc
  obtain ⟨hjl, rfl⟩ := List.getElem?_eq_some_iff.mp hd
  rw [hcs, hds]
  intro he
  have hil' : i.val < (inscrites.map fun c => c.socket.fd).length := by simpa using hil
  have hjl' : j.val < (inscrites.map fun c => c.socket.fd).length := by simpa using hjl
  have hfd : (inscrites.map fun c => c.socket.fd)[i.val] = (inscrites.map fun c => c.socket.fd)[j.val] := by
    simpa only [List.getElem_map] using he
  exact hne (Fin.ext (h.distinctes.getElem_inj_iff.mp hfd))

theorem Tenu.salle (h : Tenu s) (hentree : s.memoire.etat = 1 → .touche .entree ∈ es) : Salle es s where
  borne := h.registre.place
  id := fun k hk => by
    obtain ⟨c, -, -, hid, -⟩ := h.registre.inscrit hk
    exact hid
  connexion := fun k hk => by
    obtain ⟨c, hc, -, -, hs⟩ := h.registre.inscrit hk
    exact ⟨c, (h.registre.ouvertes c hc).1, hs, h.registre.identifiees c hc⟩
  distinctes := fun i j hi hj hne => h.registre.distincts hi hj hne
  lancement := fun hp => by
    have hpt := h.point
    rw [hp] at hpt
    exact ⟨hpt, hentree hpt, h.eveil.lance hpt⟩
  defini := fun hp => by
    have hpt := h.point
    rw [hp] at hpt
    exact hpt

theorem salle_attente (game : MemoireT) (hg : Reglable game) (es : List Fait) (s : Salon)
    (h : Trace (Under Fait.Attendu Pas) (attenteJoueur game) es s) : Salle es s ∧
      (∀ es' s', Trace (Under Fait.Attendu Pas) s es' s' → Fige s s') ∧
      ∀ horsEnum e k g n, s.point = .lancement → lancementPartie (s.memoire.game horsEnum) e k = some (g, n) →
        g.nbJoueur = s.memoire.nbJoueur := by
  have ht := Trace.tenu (Trace.sur h) (attenteJoueur_tenu hg)
  exact ⟨ht.salle (Trace.entree h), fun es' s' h' => Trace.fige (Trace.sur h') ht,
    fun _ _ _ _ _ _ hl => lancementPartie_nbJoueur hl⟩

theorem salle_attente_deux : ∃ es s, Trace (Under Fait.Attendu Pas) (attenteJoueur memoireZero) es s ∧
    s.point = .lancement ∧ Salle es s := by
  have hg : Reglable memoireZero := by constructor <;> decide
  obtain ⟨es, s, h, hp⟩ := lancer hg
  exact ⟨es, s, h, hp, (salle_attente memoireZero hg es s h).1⟩

end Salon

end Bnbr.Serveur
