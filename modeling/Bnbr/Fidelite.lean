import Bnbr.Salves
import Bnbr.Synchronisation
import Bnbr.Vainqueur

namespace Bnbr

open CArray CString Sessions Serveur Runs Determinacy Bataille

variable {g₀ : Serveur.GameT} {s₀ s s' : Etat} {es : List Action} {a : Action} {i : Nat} {q : Requete}

def Client.Poste.coups (c : Client.Poste) : Nat :=
  match c.point with
  | .attenteTir => c.manche + 1
  | .etat => c.manche + 1
  | .accuseEtat _ => c.manche + 1
  | _ => c.manche

theorem Client.Pas.prend_coups {c c' : Client.Poste} (h : Client.Pas c (.prend q) c') (hne : c'.point ≠ .erreur) :
    c'.coups = c.coups := by
  cases h with
  | erreur => exact absurd rfl hne
  | _ => simp_all [Client.Poste.coups]

theorem Client.Pas.interne_coups {c c' : Client.Poste} (h : Client.Pas c .interne c') : c'.coups = c.coups := by
  cases h <;> simp_all [Client.Poste.coups]

theorem Client.Pas.envoie_coups {c c' : Client.Poste} (h : Client.Pas c (.envoie q) c') :
    q.id = 6 ∧ c.moment = .tir c.coups ∧ c'.coups = c.coups + 1 ∨ q.id ≠ 6 ∧ c'.coups = c.coups := by
  cases h with
  | tirer hp | mort hp =>
    exact .inl ⟨rfl, by simp [Client.Poste.moment, Client.Poste.coups, hp], by simp [Client.Poste.coups, hp]⟩
  | @accuseEtat e hp =>
    refine .inr ⟨by decide, ?_⟩
    simp only [Client.Poste.coups, hp, Client.suite]
    split_ifs <;> rfl
  | accuseInfos hp => exact .inr ⟨by decide, by simp [Client.Poste.coups, hp]⟩
  | placer hp => exact .inr ⟨by simp [requeteBateau], by simp [Client.Poste.coups, hp]⟩
  | accusePlateau pile cells hp => exact .inr ⟨by decide, by simp [Client.Poste.coups, hp]⟩
  | accuseGo hp => exact .inr ⟨by decide, by simp [Client.Poste.coups, hp]⟩
  | accuseGoMort hp => exact .inr ⟨by decide, by simp [Client.Poste.coups, hp]⟩

structure Envois (g₀ : Serveur.GameT) (es : List Action) (s : Etat) : Prop where
  longueur : ∀ i : Nat, (i : Int) < g₀.nbJoueur → (salves i es).length = (s.clients i).coups
  tir : ∀ i : Nat, (i : Int) < g₀.nbJoueur → ∀ (k : Nat) (q : Requete), (salves i es)[k]? = some q →
    TirDe g₀.taillePlateau s.serveur.verdicts i k q ∧ ∃ e, Statut s.serveur.verdicts i k e ∧ ¬ Termine e

theorem Client.Loyal.vivant {hist : List Serveur.GameT} {c : Client.Poste} {m : Nat} (h : Client.Loyal g₀ hist i c)
    (hm : c.moment = .tir m) : ∃ e, Statut hist i m e ∧ ¬ Termine e := by
  cases hp : c.point with
  | viser x y =>
    simp only [Client.Poste.moment, hp, Moment.tir.injEq] at hm
    simp only [Client.Loyal, hp] at h
    exact ⟨_, hm ▸ h.1.statut, by rw [h.2.1]; simp [Termine]⟩
  | mort =>
    simp only [Client.Poste.moment, hp, Moment.tir.injEq] at hm
    simp only [Client.Loyal, hp] at h
    exact ⟨_, hm ▸ h.1.statut, h.2.1⟩
  | _ => simp [Client.Poste.moment, hp] at hm

theorem salves_snoc (i : Nat) (es : List Action) (a : Action) :
    salves i (es ++ [a]) = salves i es ++ ((a.emise i).toList).filter estTir := by
  rw [salves, emises_snoc, List.filter_append]
  rfl

theorem Envois.muet (h : Envois g₀ es s) (ha : ∀ i, a.emise i = none) (hc : s'.clients = s.clients)
    (hv : Prolonge s.serveur.verdicts s'.serveur.verdicts) : Envois g₀ (es ++ [a]) s' := by
  have hs (i : Nat) : salves i (es ++ [a]) = salves i es := by rw [salves_snoc, ha]; exact List.append_nil _
  refine ⟨fun i hi => ?_, fun i hi k q hq => ?_⟩
  · rw [hs, hc]
    exact h.longueur i hi
  · rw [hs] at hq
    obtain ⟨ht, e, he, hne⟩ := h.tir i hi k q hq
    exact ⟨ht.prolonge hv, e, he.prolonge hv, hne⟩

theorem Envois.client {c : Client.Poste} {b : Client.Action} {vc vs : Nat → List Requete} (h : Envois g₀ es s)
    (hb : ∀ q, b ≠ .envoie q) (hc : c.coups = (s.clients i).coups) :
    Envois g₀ (es ++ [.client i b]) ⟨s.serveur, Function.update s.clients i c, vc, vs⟩ := by
  have hs (k : Nat) : salves k (es ++ [.client i b]) = salves k es := by
    have he : (Action.client i b).emise k = none := by
      cases b with
      | envoie q => exact absurd rfl (hb q)
      | _ => rfl
    rw [salves_snoc, he]
    exact List.append_nil _
  refine ⟨fun k hk => ?_, fun k hk l q hq => ?_⟩
  · rw [hs, h.longueur k hk]
    by_cases hki : k = i
    · subst hki
      simp only [Function.update_self, hc]
    · simp only [Function.update_of_ne hki]
  · rw [hs] at hq
    exact h.tir k hk l q hq

theorem Envois.envoie {c : Client.Poste} {vc vs : Nat → List Requete} (h : Envois g₀ es s)
    (hi : (i : Int) < g₀.nbJoueur) (hs : Client.Pas (s.clients i) (.envoie q) c)
    (hq : (contrat g₀ s.serveur.verdicts i c).Permis .retour (s.clients i).moment q)
    (hl : Client.Loyal g₀ s.serveur.verdicts i (s.clients i)) :
    Envois g₀ (es ++ [.client i (.envoie q)]) ⟨s.serveur, Function.update s.clients i c, vc, vs⟩ := by
  have hautre (k : Nat) (hki : k ≠ i) : salves k (es ++ [.client i (.envoie q)]) = salves k es := by
    rw [salves_snoc]
    simp [Action.emise, Ne.symm hki]
  rcases hs.envoie_coups with ⟨hid, hm, hc⟩ | ⟨hid, hc⟩
  · have hsoi : salves i (es ++ [.client i (.envoie q)]) = salves i es ++ [q] := by
      rw [salves_snoc]
      simp [Action.emise, hid]
    have hlong := h.longueur i hi
    have htir : TirDe g₀.taillePlateau s.serveur.verdicts i (s.clients i).coups q := by
      have hconv : Convient g₀ s.serveur.verdicts i c (s.clients i).moment q := hq.convient
      rw [hm] at hconv
      exact hconv
    obtain ⟨e, hstatut, he⟩ := hl.vivant hm
    refine ⟨fun k hk => ?_, fun k hk l r hr => ?_⟩
    · by_cases hki : k = i
      · subst hki
        simp only [hsoi, List.length_append, List.length_singleton, hlong, Function.update_self, hc]
      · simp only [hautre k hki, Function.update_of_ne hki]
        exact h.longueur k hk
    · by_cases hki : k = i
      · subst hki
        rw [hsoi] at hr
        rcases Nat.lt_or_ge l (salves k es).length with hlt | hge
        · rw [List.getElem?_append_left hlt] at hr
          exact h.tir k hk l r hr
        · rw [List.getElem?_append_right hge] at hr
          have hl := (List.getElem?_eq_some_iff.mp hr).1
          rw [List.length_singleton] at hl
          obtain rfl : r = q := List.mem_singleton.mp (List.mem_of_getElem? hr)
          obtain rfl : l = (s.clients k).coups := by omega
          exact ⟨htir, e, hstatut, he⟩
      · rw [hautre k hki] at hr
        exact h.tir k hk l r hr
  · have hs' (k : Nat) : salves k (es ++ [.client i (.envoie q)]) = salves k es := by
      by_cases hki : k = i
      · subst hki
        rw [salves_snoc]
        simp [Action.emise, hid]
      · exact hautre k hki
    refine ⟨fun k hk => ?_, fun k hk l r hr => ?_⟩
    · rw [hs', h.longueur k hk]
      by_cases hki : k = i
      · subst hki
        simp only [Function.update_self, hc]
      · simp only [Function.update_of_ne hki]
    · rw [hs'] at hr
      exact h.tir k hk l r hr

theorem Etape.prolonge {n : Int} (hs : Etape n s a s') : Prolonge s.serveur.verdicts s'.serveur.verdicts := by
  rcases hs.verdicts with he | ⟨he, -⟩
  · rw [he]
    exact .refl _
  · rw [he]
    exact .append _ _

theorem Envois.etape (hg₀ : Lancement g₀) (h : Envois g₀ es s) (hinv : Invariant g₀ s)
    (hs : Etape g₀.nbJoueur s a s') : Envois g₀ (es ++ [a]) s' := by
  have hinv' := hinv.etape hg₀ hs
  have hprolonge := hs.prolonge
  cases hs with
  | serveurPrend => exact h.muet (fun _ => rfl) rfl hprolonge
  | serveurEnvoie => exact h.muet (fun _ => rfl) rfl hprolonge
  | serveurInterne => exact h.muet (fun _ => rfl) rfl hprolonge
  | @clientPrend c i q reste hi hs hc =>
    have hl := hinv'.loyal hi
    simp only [Function.update_self] at hl
    exact h.client (by simp) (hs.prend_coups hl.sansErreur)
  | @clientEnvoie c i q hi hs =>
    rcases hinv with ha | he
    · have hl := (ha.joueurs i hi).loyal
      exact h.envoie hi hs (hs.envoie_loyal hg₀ hl).2.2.2 hl
    · exact absurd (he.joueurs i hi).1 hs.nonFini
  | clientInterne hi hs => exact h.client (by simp) hs.interne_coups

theorem Debut.envois (h : Debut g₀ s) : Envois g₀ [] s := by
  refine ⟨fun i hi => ?_, fun i hi k q hq => by simp [salves, emises] at hq⟩
  obtain ⟨hm, ⟨hp, -⟩ | ⟨hp, -⟩⟩ := h.clients i hi
  · simp [salves, emises, Client.Poste.coups, hp, hm]
  · simp [salves, emises, Client.Poste.coups, hp, hm]

def Serveur.Poste.Texte (p : Serveur.Poste) : Prop :=
  ∀ t i, p.point = .envoi (.plateau t) i ∨ p.point = .accuse (.plateau t) i → textePlateau p.game = some t

theorem Serveur.Pas.texte {p p' : Serveur.Poste} {b : Serveur.Action} (h : p.Texte) (hs : Serveur.Pas p b p') :
    p'.Texte := by
  intro t i hp
  cases hs with
  | envoi hp' _ _ =>
    simp only [reduceCtorEq, Serveur.Point.accuse.injEq, false_or] at hp
    exact h t _ (.inl (hp.1 ▸ hp'))
  | accuse _ hp' =>
    simp only [reduceCtorEq, Serveur.Point.envoi.injEq, or_false] at hp
    exact h t _ (.inr (hp.1 ▸ hp'))
  | @suite b _ _ _ => cases b <;> simp [Boucle.suite] at hp
  | manche _ _ hs =>
    simp only [reduceCtorEq, Serveur.Point.envoi.injEq, Boucle.plateau.injEq, or_false] at hp
    exact hp.1 ▸ hs
  | _ => simp at hp

structure Partie (g₀ : Serveur.GameT) (s₀ : Etat) (es : List Action) (s : Etat) : Prop extends Joue g₀ s₀ es s where
  salve : Salve g₀ es s
  envois : Envois g₀ es s
  texte : s.serveur.Texte

theorem Partie.trace (hg₀ : Lancement g₀) (h₀ : Debut g₀ s₀) (h : Trace (Etape g₀.nbJoueur) s₀ es s) :
    Partie g₀ s₀ es s := by
  refine ⟨Joue.trace hg₀ h₀ h, (Salve.trace hg₀ h₀ h).2, ?_, ?_⟩
  · have hinv {fs : List Action} {t : Etat} (ht : Trace (Etape g₀.nbJoueur) s₀ fs t) : Invariant g₀ t :=
      (Salve.trace hg₀ h₀ ht).1
    exact h.invariant (fun es s => Envois g₀ es s) h₀.envois fun _ _ _ _ ht ih hs => ih.etape hg₀ (hinv ht) hs
  · refine h.invariant (fun _ s => s.serveur.Texte) (fun t i hp => ?_) fun _ t _ u _ ih hs => ?_
    · rw [h₀.serveur] at hp
      simp at hp
    · rcases hs.serveur with he | ⟨b, hb⟩
      · rw [he]
        exact ih
      · exact hb.texte ih

-- the cells aimed at in the first m rounds, the sea the boats lie in, and the players still afloat
def bombardees (g₀ : Serveur.GameT) (es : List Action) (m : Nat) : Set (Int × Int) :=
  vises g₀.nbJoueur (fun i => salves i es) fun _ => m

def Etat.mer (g₀ : Serveur.GameT) (s : Etat) : Set (Int × Int) :=
  {q | ∃ i : Fin 100, (i.val : Int) < g₀.nbJoueur ∧ q ∈ s.flotte g₀ i}

def Etat.rescapes (g₀ : Serveur.GameT) (es : List Action) (m : Nat) (s : Etat) : Set (Fin 100) :=
  {i | (i.val : Int) < g₀.nbJoueur ∧ i ∈ survivants (s.flotte g₀) (bombardees g₀ es m)}

structure Dessin (n : Int) (B S : Set (Int × Int)) (t : List Char) : Prop where
  longueur : t.length = n.toNat * n.toNat
  case : ∀ y x : Fin 50, Dans n (coord y x) → t[x.val * n.toNat + y.val]? = some (chiffre (statut B S (coord y x)))

theorem Partie.prises (h : Partie g₀ s₀ es s) (i : Nat) : tirsPris i es <+: salves i es := by
  obtain ⟨r, hr⟩ := h.toJoue.recues (i := i)
  rw [salves, ← hr, List.filter_append]
  exact List.prefix_append _ _

theorem Partie.vises (h : Partie g₀ s₀ es s) {m : Nat → Nat} {k : Nat}
    (hm : ∀ i : Nat, (i : Int) < g₀.nbJoueur → m i = k)
    (hk : ∀ i : Nat, (i : Int) < g₀.nbJoueur → k ≤ s.serveur.joues i) :
    Bnbr.vises g₀.nbJoueur (fun i => tirsPris i es) m = bombardees g₀ es k := by
  rw [vises_congr hm]
  exact h.salve.prefixe (fun i _ => h.prises i) fun i hi => (hk i hi).trans (s.serveur.joues_le i)

theorem Peint.mer {g : Serveur.GameT} {S : Set (Int × Int)} (h : Peint g₀ g (s.flotte g₀) S) :
    g.plateau.flotte = s.mer g₀ := by
  ext q
  simp only [BoardT.flotte, Etat.mer, Set.mem_ofPred_eq, h.nbBateau]
  refine exists_congr fun i => and_congr_right fun hi => ?_
  rw [h.cases i hi]

theorem Peint.aFlot {g : Serveur.GameT} {S : Set (Int × Int)} (h : Peint g₀ g (s.flotte g₀) S) (hf : Flottille g)
    (i : Fin 100) (hi : (i.val : Int) < g₀.nbJoueur) : AFlot g i.val ↔ i ∈ survivants (s.flotte g₀) S := by
  have hi' : (i.val : Int) < g.nbJoueur := by rw [h.regles.nbJoueur]; exact hi
  rw [aFlot_survivants hf h.represente hi', survivants_iff, survivants_iff, h.cases i hi]

theorem Dessin.texte {g : Serveur.GameT} {S : Set (Int × Int)} (hn : g.taillePlateau ≤ 50)
    (h : g.plateau.Represente g.taillePlateau S) {t : List Char} (ht : textePlateau g = some t) :
    Dessin g.taillePlateau g.plateau.flotte S t := by
  refine ⟨textePlateau_length hn ht, fun y x hd => ?_⟩
  have hdd := hd
  obtain ⟨-, hx, -, hy⟩ := hdd
  simp only at hx hy
  obtain ⟨hlt, hm, hq⟩ := carre_index (n := g.taillePlateau.toNat) (y := y) (x := x) (by omega) (by omega)
  rw [textePlateau_index hn ht hlt, hm, hq, Cells.lire_fin, h.cell y x hd]

theorem Partie.verdict (hg₀ : Lancement g₀) (hat : Atteignable g₀ s) (h : Partie g₀ s₀ es s) {m : Nat}
    {g : Serveur.GameT} (hg : s.serveur.verdicts[m]? = some g) :
    (∀ i : Nat, (i : Int) < g₀.nbJoueur → m + 1 ≤ (salves i es).length) ∧ Flottille g ∧
      ∀ i : Fin 100, AFlot g i.val ↔ i ∈ s.rescapes g₀ es (m + 1) := by
  obtain ⟨-, hj, hpeint⟩ := h.salve.verdicts m g hg
  have hf := hat.verdicts hg₀ g (List.mem_of_getElem? hg)
  rw [h.vises (fun _ _ => rfl) hj] at hpeint
  refine ⟨fun i hi => ?_, hf, fun i => ?_⟩
  · have h1 := (h.prises i).length_le
    have h2 := h.salve.longueur i hi
    have h3 := (hj i hi).trans (s.serveur.joues_le i)
    omega
  · constructor
    · intro ha
      have hi : (i.val : Int) < g₀.nbJoueur := by
        have := ha.1
        rw [hpeint.regles.nbJoueur] at this
        omega
      exact ⟨hi, (hpeint.aFlot hf i hi).mp ha⟩
    · rintro ⟨hi, hs⟩
      exact (hpeint.aFlot hf i hi).mpr hs

theorem bombardees_zero (g₀ : Serveur.GameT) (es : List Action) : bombardees g₀ es 0 = ∅ := by
  ext q
  simp only [bombardees, vises, Set.mem_ofPred_eq, Set.mem_empty_iff_false, iff_false]
  rintro ⟨i, k, -, hk, -⟩
  exact absurd hk (Nat.not_lt_zero k)

theorem Etat.rescapes_zero (hg₀ : Lancement g₀) {j : Fin 100} (hj : (j.val : Int) < g₀.nbJoueur) :
    j ∈ s.rescapes g₀ es 0 := by
  refine ⟨hj, ?_⟩
  rw [bombardees_zero, survivants_iff]
  intro hsub
  have h2 := hg₀.bateau
  exact hsub (⟨0, by omega, rfl⟩ : ((s.clients j.val).placement j).case 0 ∈ s.flotte g₀ j)

theorem Partie.tir (hg₀ : Lancement g₀) (hat : Atteignable g₀ s) (h : Partie g₀ s₀ es s) {j : Fin 100} {m : Nat}
    (hj : (j.val : Int) < g₀.nbJoueur) (hq : (salves j es)[m]? = some q) :
    (j ∈ s.rescapes g₀ es m → ∃ x y, Dans g₀.taillePlateau (x, y) ∧ q = requeteTir x y) ∧
      (j ∉ s.rescapes g₀ es m → q = requeteMort) := by
  obtain ⟨ht, e, he, hne⟩ := h.envois.tir j hj m q hq
  have henjeu : Statut s.serveur.verdicts j m .enJeu ↔ j ∈ s.rescapes g₀ es m := by
    rcases he with ⟨rfl, -⟩ | ⟨k, g, rfl, hg, rfl⟩
    · exact iff_of_true (.inl ⟨rfl, rfl⟩) (Etat.rescapes_zero hg₀ hj)
    · obtain ⟨-, hf, ha⟩ := h.verdict hg₀ hat hg
      rw [← ha j]
      constructor
      · intro hs
        exact classe_aFlot (hs.unique (.inr ⟨k, g, rfl, hg, rfl⟩)).symm
      · intro hafl
        refine .inr ⟨k, g, rfl, hg, ?_⟩
        -- a player afloat whose game is not over plays on
        unfold classe at hne ⊢
        by_cases h0 : nbAFlot g = 0
        · exact absurd hafl (nbAFlot_zero.mp h0 j.val)
        · by_cases h1 : nbAFlot g = 1
          · exact absurd (by simp [h1, hafl, Termine]) hne
          · simp only [h0, h1, if_false, hafl, if_true]
  rcases ht with ⟨hs, x, y, hd, rfl⟩ | ⟨e', hs, hne', rfl⟩
  · exact ⟨fun _ => ⟨x, y, hd, rfl⟩, fun hn => absurd (henjeu.mp hs) hn⟩
  · exact ⟨fun hm => absurd (hs.unique (henjeu.mpr hm)) hne', fun _ => rfl⟩

theorem Partie.dessin (hg₀ : Lancement g₀) (h : Partie g₀ s₀ es s) {t : List Char} {k : Nat}
    (hp : s.serveur.point = .envoi (.plateau t) k ∨ s.serveur.point = .accuse (.plateau t) k) :
    Dessin g₀.taillePlateau (s.mer g₀) (bombardees g₀ es s.serveur.manche) t := by
  have hl : s.serveur.Lance := by rcases hp with hp | hp <;> simp [Serveur.Poste.Lance, hp]
  have hj (i : Nat) (_ : (i : Int) < g₀.nbJoueur) : s.serveur.joues i = s.serveur.manche := by
    rcases hp with hp | hp <;> simp [Serveur.Poste.joues, hp]
  have hpeint := h.salve.peint hl
  rw [h.vises hj fun i hi => by rw [hj i hi]] at hpeint
  have hn := hpeint.regles.taillePlateau
  have := Dessin.texte (by rw [hn]; exact hg₀.registres.plateau) (hn.symm ▸ hpeint.represente) (h.texte t k hp)
  rw [hn, hpeint.mer] at this
  exact this

end Bnbr
