import Bnbr.Ouverture

namespace Bnbr.Serveur

open CArray CString Decimal Runs

namespace Salon

variable {s s' : Salon} {e : Fait} {es : List Fait}

def Point.connexion : Point → Option Connexion
  | .accepte c => some c
  | .saluer c => some c
  | .identifier c => some c
  | .decider c _ => some c
  | .pseudo c _ => some c
  | .socket c => some c
  | .numero c => some c
  | .compter c => some c
  | .compte c _ => some c
  | .confirmer c => some c
  | .refuser c => some c
  | .fermer c => some c
  | _ => none

def Enregistree (s : Salon) (c : Connexion) : Prop :=
  ∃ k : Fin 100, (k.val : Int) < s.memoire.nbJoueur ∧ s.inscrites[k.val]? = some c ∧
    (s.memoire.players k).socket = c.socket

def Refusee (s : Salon) (c : Connexion) : Prop := (c, requeteRefus) ∈ s.envoyees ∧ c ∈ s.fermees

structure Servies (s : Salon) : Prop where
  traitees : ∀ c ∈ s.acceptees, c.socket.mode = sockStream → s.point.connexion ≠ some c →
    Xor (s.Enregistree c) (s.Refusee c)
  joueurs : ∀ k : Fin 100, (k.val : Int) < s.memoire.nbJoueur → ∃ c ∈ s.acceptees, s.inscrites[k.val]? = some c ∧
    (s.memoire.players k).socket = c.socket ∧ Identifiee s.lues c
  defini : s.point ≠ .indefini

structure Suivies (s : Salon) : Prop where
  traitees : ∀ c ∈ s.acceptees, c.socket.mode = sockStream → s.point.connexion ≠ some c →
    c ∈ s.inscrites ∨ s.Refusee c
  confirmer : ∀ c, s.point = .confirmer c → c ∈ s.inscrites
  fermer : ∀ c, s.point = .fermer c → c.socket.mode = sockStream → (c, requeteRefus) ∈ s.envoyees

theorem Suivies.servies (h : Suivies s) (ht : Tenu s) : Servies s where
  traitees := by
    intro c hc hm hp
    have hr := ht.registre
    have hdisjoint : s.Enregistree c → ¬ s.Refusee c := fun ⟨k, _, hget, _⟩ hf =>
      (hr.ouvertes c (List.mem_of_getElem? hget)).2 hf.2
    rcases h.traitees c hc hm hp with hi | href
    · obtain ⟨i, hget⟩ := List.mem_iff_getElem?.mp hi
      have hlt := (List.getElem?_eq_some_iff.mp hget).1
      have hl := hr.longueur
      have hplace := hr.place
      have hmax := hr.max_le
      have hen : s.Enregistree c :=
        ⟨⟨i, by omega⟩, show (i : Int) < _ by omega, hget, (hr.rangs ⟨i, by omega⟩ c hget).2⟩
      exact .inl ⟨hen, hdisjoint hen⟩
    · exact .inr ⟨href, fun hen => hdisjoint hen href⟩
  joueurs := by
    intro k hk
    obtain ⟨c, hc, hget, -, hs⟩ := ht.registre.inscrit hk
    exact ⟨c, (ht.registre.ouvertes c hc).1, hget, hs, ht.registre.identifiees c hc⟩
  defini := by
    intro hp
    have hpt := ht.point
    rw [hp] at hpt
    exact hpt

theorem Suivies.suite (h : Suivies s) (hacc : s'.acceptees = s.acceptees)
    (hcon : s'.point.connexion = s.point.connexion) (hins : s.inscrites ⊆ s'.inscrites)
    (henv : s.envoyees ⊆ s'.envoyees) (hfer : s'.fermees = s.fermees)
    (hconf : ∀ c, s'.point = .confirmer c → c ∈ s'.inscrites)
    (hferm : ∀ c, s'.point = .fermer c → c.socket.mode = sockStream → (c, requeteRefus) ∈ s'.envoyees) :
    Suivies s' where
  traitees := by
    intro c hc hm hp
    rw [hacc] at hc
    rw [hcon] at hp
    rcases h.traitees c hc hm hp with hi | ⟨hr, hf⟩
    · exact .inl (hins hi)
    · exact .inr ⟨henv hr, hfer ▸ hf⟩
  confirmer := hconf
  fermer := hferm

theorem Suivies.deplace (h : Suivies s) {p : Point} (m : MemoireT) (hcon : p.connexion = s.point.connexion)
    (hconf : ∀ c, p ≠ .confirmer c) (hferm : ∀ c, p ≠ .fermer c) :
    Suivies { s with point := p, memoire := m } :=
  h.suite rfl hcon (List.Subset.refl _) (List.Subset.refl _) rfl (fun c hp => absurd hp (hconf c))
    fun c hp => absurd hp (hferm c)

theorem Suivies.veille (h : Suivies s) (v : Veille) (m : MemoireT) : Suivies { s with veille := v, memoire := m } :=
  ⟨h.traitees, h.confirmer, h.fermer⟩

theorem Suivies.accepte (h : Suivies s) {c : Connexion} (hp : s.point.connexion = none) :
    Suivies { s with point := .accepte c, acceptees := s.acceptees ++ [c] } where
  traitees := by
    intro d hd hm hne
    rcases List.mem_append.mp hd with hd | hd
    · exact h.traitees d hd hm (by rw [hp]; nofun)
    · exact absurd (congrArg some (List.mem_singleton.mp hd).symm) hne
  confirmer := nofun
  fermer := nofun

theorem Suivies.ecrit (h : Suivies s) {c : Connexion} {q : Requete} {p : Point}
    (hp : s.point.ecriture = some (c, q, p)) :
    Suivies { s with point := p, envoyees := s.envoyees ++ c.envoi q } := by
  have hsub : s.envoyees ⊆ s.envoyees ++ c.envoi q := List.subset_append_left _ _
  obtain ⟨hpoint, rfl, rfl⟩ | ⟨hpoint, rfl, rfl⟩ | ⟨hpoint, rfl, rfl⟩ := Point.ecriture_cases hp
  · exact h.suite rfl (by rw [hpoint]; rfl) (List.Subset.refl _) hsub rfl (fun _ hx => Point.noConfusion hx)
      fun _ hx => Point.noConfusion hx
  · refine ⟨fun x hx hm _ => ?_, fun _ hx => Point.noConfusion hx, fun _ hx => Point.noConfusion hx⟩
    by_cases hxd : x = c
    · exact .inl (hxd ▸ h.confirmer c hpoint)
    · rcases h.traitees x hx hm (by rw [hpoint]; exact fun he => hxd (Option.some.inj he).symm) with hi | ⟨hr, hf⟩
      · exact .inl hi
      · exact .inr ⟨hsub hr, hf⟩
  · refine h.suite rfl (by rw [hpoint]; rfl) (List.Subset.refl _) hsub rfl (fun _ hx => Point.noConfusion hx)
      fun x hx hm => ?_
    obtain rfl := Point.fermer.inj hx
    refine List.mem_append_right _ ?_
    rw [Connexion.envoi, if_pos hm]
    exact List.mem_singleton_self _

theorem Suivies.ferme (h : Suivies s) {c : Connexion} (hp : s.point = .fermer c) :
    Suivies { s with point := .test, fermees := s.fermees ++ [c] } where
  traitees := by
    intro d hd hm _
    by_cases hdc : d = c
    · subst hdc
      exact .inr ⟨h.fermer d hp hm, List.mem_append_right _ (List.mem_singleton_self d)⟩
    · rcases h.traitees d hd hm (by rw [hp]; exact fun he => hdc (Option.some.inj he).symm) with hi | ⟨hr, hf⟩
      · exact .inl hi
      · exact .inr ⟨hr, List.mem_append_left _ hf⟩
  confirmer := nofun
  fermer := nofun

theorem Pas.suivies (hs : Pas s e s') (he : e.Favorable s) (ht : Tenu s) (h : Suivies s) : Suivies s' := by
  have ht' := hs.tenu he.sur ht
  cases hs with
  | commencee hp het =>
    rename_i c
    refine ⟨fun d hd hm _ => ?_, nofun, nofun⟩
    refine h.traitees d hd hm fun hcon => ?_
    rw [hp, Point.connexion, Option.some.injEq] at hcon
    exact he c hp (hcon ▸ hm) het
  | accepte fd hp hc => exact h.accepte (by rw [hp]; rfl)
  | ecrit hp => exact h.ecrit hp
  | echec hp hc => cases he
  | litSansFin hp hl hr => exact ht'.point.elim
  | deborde hp hm => exact ht'.point.elim
  | lit hp hl hr =>
    exact h.suite rfl (by rw [hp]; rfl) (List.Subset.refl _) (List.Subset.refl _) rfl nofun nofun
  | compte hp =>
    refine h.suite rfl (by rw [hp]; rfl) (List.subset_append_left _ _) (List.Subset.refl _) rfl (fun d hd => ?_) nofun
    obtain rfl := Point.confirmer.inj hd
    exact List.mem_append_right _ (List.mem_singleton_self _)
  | ferme hp => exact h.ferme hp
  | touche t hv => exact h.veille _ _
  | insuffisant hv hn => exact h.veille _ _
  | suffisant hv hn => exact h.veille _ _
  | lance hv => exact h.veille _ _
  | finit hv => exact h.veille _ _
  | complet hp | place hp | joint hp | connecte hp | identifie hp | autre hp | pseudo hp | socket hp | numero hp
    | compter hp | clot hp => exact h.deplace _ (by rw [hp]; rfl) nofun nofun

theorem attenteJoueur_suivies (game : MemoireT) : Suivies (attenteJoueur game) := ⟨nofun, nofun, nofun⟩

theorem Trace.suivies (h : Trace (Under Fait.Favorable Pas) s es s') (ht : Tenu s) (hs : Suivies s) :
    Tenu s' ∧ Suivies s' :=
  h.invariant (fun _ t => Tenu t ∧ Suivies t) ⟨ht, hs⟩ fun _ _ _ _ _ hI hstep =>
    ⟨hstep.2.tenu hstep.1.sur hI.1, hstep.2.suivies hstep.1 hI.1 hI.2⟩

theorem connexions_servies (game : MemoireT) (hg : Reglable game) (es : List Fait) (s : Salon)
    (h : Trace (Under Fait.Favorable Pas) (attenteJoueur game) es s) : Servies s := by
  obtain ⟨ht, hs⟩ := Trace.suivies h (attenteJoueur_tenu hg) (attenteJoueur_suivies game)
  exact hs.servies ht

theorem connexions_servies_deux : ∃ es s, Trace (Under Fait.Favorable Pas) (attenteJoueur memoireZero) es s ∧
    s.point = .lancement ∧ Servies s := by
  have hg : Reglable memoireZero := by constructor <;> decide
  obtain ⟨es, s, h, hp⟩ := table_pleine hg rfl
  have h' : Trace (Under Fait.Favorable Pas) (attenteJoueur memoireZero) es s :=
    h.mono fun _ _ _ hstep => ⟨hstep.1.2, hstep.2⟩
  exact ⟨es, s, h', hp, connexions_servies memoireZero hg es s h'⟩

theorem connexion_sans_reponse : ¬ ∀ (game : MemoireT) (es : List Fait) (s : Salon), Reglable game →
    Trace (Under Fait.Attendu Pas) (attenteJoueur game) es s → Servies s := by
  intro hall
  have hg : Reglable { memoireZero with maxJoueur := 3 } := by constructor <;> decide
  obtain ⟨es, s, h, hp, hm⟩ := retardataire hg (show (3 : Int) ≠ 2 by decide)
  rcases (hall _ es s hg h).traitees troisieme hm.acceptee rfl (by rw [hp]; nofun) with ⟨⟨k, -, hget, -⟩, -⟩ | ⟨hr, -⟩
  · exact hm.nonInscrite (List.mem_of_getElem? hget)
  · exact hm.ouverte hr.2

end Salon

end Bnbr.Serveur
