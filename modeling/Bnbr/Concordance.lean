import Bnbr.Parcours

namespace Bnbr

open CString Serveur

variable {g₀ : Serveur.GameT} {s : Etat}

structure PlacementAccorde (g₀ : Serveur.GameT) (s : Etat) (envois : List (Int × List Char)) : Prop where
  nbBateau : s.serveur.game.plateau.nbBateau = g₀.nbJoueur
  accuse : ∀ i : Nat, (i : Int) < g₀.nbJoueur → envois.count ((i : Int), accuseOk.texte ++ [nul]) = 1
  accuses : ∀ e ∈ envois, ∃ i : Nat, (i : Int) < g₀.nbJoueur ∧ e = ((i : Int), accuseOk.texte ++ [nul])
  taille : ∀ i : Fin 100, (i.val : Int) < g₀.nbJoueur →
    (s.serveur.game.plateau.bateaux i).taille = g₀.tailleBateau
  enregistre : ∀ (i : Fin 100) (k : Fin 10), (i.val : Int) < g₀.nbJoueur → (k.val : Int) < g₀.tailleBateau →
    (s.serveur.game.plateau.bateaux i).case k =
      (((s.clients i.val).game.bateau.cell k).x, ((s.clients i.val).game.bateau.cell k).y)
  apercu : ∀ (i : Fin 100) (k : Fin 10), (i.val : Int) < g₀.nbJoueur → (k.val : Int) < g₀.tailleBateau →
    (s.clients i.val).apercu.dessin[k.val]? = some ((s.serveur.game.plateau.bateaux i).case k)
  plateau : ∀ y x : Fin 50, Dans g₀.taillePlateau (coord y x) →
    (s.serveur.game.plateau.cell y x = .boat ↔ ∃ (i : Fin 100) (k : Fin 10), (i.val : Int) < g₀.nbJoueur ∧
      (k.val : Int) < g₀.tailleBateau ∧ (s.serveur.game.plateau.bateaux i).case k = coord y x)

theorem Client.Loyal.placee {hist : List Serveur.GameT} {i : Nat} {c : Client.Poste} (h : Client.Loyal g₀ hist i c)
    (h6 : 6 ≤ c.point.rang) : Client.Placee g₀ c := by
  unfold Client.Loyal at h
  cases hp : c.point <;> rw [hp] at h h6
  case inscription | attentePartie | accuseInfos | attenteBateaux | choix | menu => simp [Client.Point.rang] at h6
  case attenteAccuse => exact h.2
  case erreur => exact h.elim
  all_goals exact h.1.toPlacee

theorem count_map_range {α : Type} [BEq α] [LawfulBEq α] {f : Nat → α} (hf : Function.Injective f) {n i : Nat}
    (hi : i < n) : ((List.range n).map f).count (f i) = 1 := by
  rw [List.count_map_of_injective _ f hf]
  exact List.count_eq_one_of_mem List.nodup_range (List.mem_range.mpr hi)

theorem Client.Placee.montre {c : Client.Poste} (h : Client.Placee g₀ c) :
    ∃ v, c.apercu.Montre g₀.taillePlateau g₀.tailleBateau c.x c.y v ∧ pas c.direction = some v ∧
      ∀ (id : Fin 100) (k : Nat), (c.placement id).case k = kieme c.x c.y v k := by
  obtain ⟨v, hv⟩ := h.apercu
  have hd : pas c.direction = some v := by rw [← h.direction, hv.direction]
  exact ⟨v, hv, hd, fun id k => Placement.case_pas hd k⟩

structure PlacesChoisies (g₀ : Serveur.GameT) (s : Etat) (ps : List Placement) : Prop where
  complet : Complet g₀.nbJoueur ps
  places : Serveur.Places g₀.tailleBateau g₀.plateau s.serveur.game.plateau ps
  placee : ∀ i : Fin 100, (i.val : Int) < g₀.nbJoueur →
    Client.Placee g₀ (s.clients i.val) ∧ (s.clients i.val).placement i ∈ ps

theorem PlacesChoisies.case {ps : List Placement} (h : PlacesChoisies g₀ s ps) {i : Fin 100} {k : Fin 10}
    (hi : (i.val : Int) < g₀.nbJoueur) (hk : (k.val : Int) < g₀.tailleBateau) :
    (s.serveur.game.plateau.bateaux i).case k = ((s.clients i.val).placement i).case k := by
  have := h.places.bateau _ (h.placee i hi).2 k hk
  have hid : ((s.clients i.val).placement i).id = i := rfl
  rw [hid] at this
  rw [BateauT.case, this]

theorem PlacesChoisies.navire {ps : List Placement} (hg₀ : Lancement g₀) (h : PlacesChoisies g₀ s ps) (y x : Fin 50) :
    (∃ P ∈ ps, coord y x ∈ P.cases g₀.tailleBateau) ↔ ∃ (i : Fin 100) (k : Fin 10), (i.val : Int) < g₀.nbJoueur ∧
      (k.val : Int) < g₀.tailleBateau ∧ (s.serveur.game.plateau.bateaux i).case k = coord y x := by
  have h10 := hg₀.registres.bateau_le
  constructor
  · rintro ⟨P, hP, hc⟩
    have hi := h.complet.mem.mpr ⟨P, hP, rfl⟩
    rw [← h.places.cases h10 hP] at hc
    obtain ⟨k, hk, he⟩ := hc
    exact ⟨P.id, k, hi, h.places.taille P hP ▸ hk, he⟩
  · rintro ⟨i, k, hi, hk, he⟩
    exact ⟨_, (h.placee i hi).2, k, hk, h.case hi hk ▸ he⟩

theorem Accord.placement (hg₀ : Lancement g₀) (h : Accord g₀ s) {j n : Int} {envois : List (Int × List Char)}
    (hp : s.serveur.point = .collecte j n envois) (hf : (s.serveur.collecte j n envois).fini) :
    PlacementAccorde g₀ s envois := by
  have hr := h.serveur
  simp only [Regulier, hp] at hr
  obtain ⟨hj, ps, hb, hc, hps⟩ := hr.complet hg₀ hf
  have h1 := hg₀.registres.joueurs
  have h10 := hg₀.registres.bateau_le
  have hplaces : PlacesChoisies g₀ s ps := ⟨hc, hb.places, fun i hi => by
    obtain ⟨P, hP, rfl⟩ := hc.mem.mp hi
    obtain ⟨h6, hpl⟩ := hps P hP
    exact ⟨(h.joueurs _ hi).loyal.placee h6, by rw [hpl]; exact hP⟩⟩
  have henv := hr.envois
  rw [hj] at henv
  have hinj : Function.Injective fun i : Nat => ((i : Int), accuseOk.texte ++ [nul]) := by
    intro a b hab
    simpa using hab
  refine ⟨(hb.places.flotte h10 hg₀.nbBateau hc (by omega)).1, fun i hi => ?_, fun e he => ?_,
    fun i hi => hb.places.taille _ (hplaces.placee i hi).2, fun i k hi hk => ?_, fun i k hi hk => ?_, fun y x hd => ?_⟩
  · have hlt : i < g₀.nbJoueur.toNat := by omega
    rw [henv]
    exact count_map_range hinj hlt
  · rw [henv] at he
    obtain ⟨i, hi, rfl⟩ := List.mem_map.mp he
    have := List.mem_range.mp hi
    exact ⟨i, by omega, rfl⟩
  · obtain ⟨v, -, hd, hv⟩ := (hplaces.placee i hi).1.montre
    have hsuit := (hplaces.placee i hi).1.bateau v hd k hk
    rw [hplaces.case hi hk, hv, hsuit.1, hsuit.2]
  · obtain ⟨v, hm, -, hv⟩ := (hplaces.placee i hi).1.montre
    have hkt : k.val < g₀.tailleBateau.toNat := by omega
    rw [hplaces.case hi hk, hv, hm.dessin, List.getElem?_map, List.getElem?_range hkt, Option.map_some]
  · rw [← hplaces.navire hg₀]
    refine ⟨fun hcell => ?_, hb.places.navire y x⟩
    by_contra hn
    have hvide := hb.places.vide y x hn
    rw [hg₀.vide y x hd, hcell] at hvide
    cases hvide

theorem placement_accorde (g₀ : Serveur.GameT) (hg₀ : Lancement g₀) (s : Etat) (h : Atteignable g₀ s) (j n : Int)
    (envois : List (Int × List Char)) (hp : s.serveur.point = .collecte j n envois)
    (hf : (s.serveur.collecte j n envois).fini) : PlacementAccorde g₀ s envois := by
  rcases h.invariant hg₀ with h | h
  · exact h.placement hg₀ hp hf
  · obtain ⟨t, ht | ht⟩ := h.serveur
    · simp [hp] at ht
    · simp [hp] at ht

theorem placement_accorde_deux : ∃ s j n envois, Atteignable (GameT.depart 2 4 2) s ∧
    s.serveur.point = .collecte j n envois ∧ PlacementAccorde (GameT.depart 2 4 2) s envois := by
  obtain ⟨s, j, n, envois, ha, -, hp, hf⟩ := collecte_accessible depart_deux
  exact ⟨s, j, n, envois, ha, hp, placement_accorde _ depart_deux s ha j n envois hp hf⟩

end Bnbr
