import Bnbr.Concordance
import Bnbr.Conversation
import Bnbr.Fidelite
import Bnbr.Visee

namespace Bnbr

open CArray CString Decimal Sessions Serveur Runs Bataille

variable {g₀ : Serveur.GameT} {s₀ s s' : Etat} {es : List Action} {a : Action} {i m : Nat} {q : Requete} {t : List Char}

structure Annonce (g₀ : Serveur.GameT) (es : List Action) (s : Etat) (m : Nat) : Prop where
  rang : ∀ i : Nat, (i : Int) < g₀.nbJoueur → 6 ≤ (s.clients i).point.rang
  tours : ∀ i : Nat, (i : Int) < g₀.nbJoueur → m ≤ (salves i es).length

structure Copie (g₀ g : Serveur.GameT) (B S : Set (Int × Int)) (t : List Char) : Prop where
  texte : textePlateau g = some t
  taillePlateau : g.taillePlateau = g₀.taillePlateau
  cell : ∀ y x : Fin 50, Dans g₀.taillePlateau (coord y x) → g.plateau.cell y x = statut B S (coord y x)

def contratPlateau (g₀ : Serveur.GameT) (es : List Action) (s : Etat) : Contrat Moment Requete where
  suivant := Moment.suivant
  sens := Moment.sens
  convient := fun k q => ∀ m, k = .plateau m →
    Annonce g₀ es s m ∧ ∃ t g, q = requetePlateau t ∧ Copie g₀ g (s.mer g₀) (bombardees g₀ es m) t

theorem Etape.garde (hg₀ : Lancement g₀) (hinv : Invariant g₀ s) (hs : Etape g₀.nbJoueur s a s') (i : Nat) :
    (s.clients i).Garde (s'.clients i) := by
  rcases hinv with ha | he
  · cases hs with
    | @clientPrend c k q reste hk hs hc =>
      obtain ⟨hsync, hloyal⟩ := ha.joueurs k hk
      rw [hc] at hsync
      exact garde_update s.clients (hs.prend_loyal hg₀ ha.serveur.descend hloyal hsync.reception.1).2.2 i
    | clientEnvoie hk hs => exact garde_update s.clients (hs.envoie_loyal hg₀ (ha.joueurs _ hk).loyal).2.2.1 i
    | clientInterne hk hs => exact garde_update s.clients (hs.interne_loyal hg₀ (ha.joueurs _ hk).loyal).2.2 i
    | _ => exact .refl _
  · rw [(he.etape hg₀ hs).2.2]
    exact .refl _

theorem Annonce.etape (h : Annonce g₀ es s m) (hgarde : ∀ i, (s.clients i).Garde (s'.clients i)) (a : Action) :
    Annonce g₀ (es ++ [a]) s' m := by
  refine ⟨fun i hi => (hgarde i).rang (h.rang i hi), fun i hi => ?_⟩
  rw [salves_snoc, List.length_append]
  exact Nat.le_add_right_of_le (h.tours i hi)

theorem Annonce.flotte (h : Annonce g₀ es s m) (hgarde : ∀ i, (s.clients i).Garde (s'.clients i)) (j : Fin 100)
    (hj : (j.val : Int) < g₀.nbJoueur) : s'.flotte g₀ j = s.flotte g₀ j := by
  rw [Etat.flotte, (hgarde j).placement (h.rang j hj)]
  rfl

theorem Annonce.mer (h : Annonce g₀ es s m) (hgarde : ∀ i, (s.clients i).Garde (s'.clients i)) :
    s'.mer g₀ = s.mer g₀ := by
  ext q
  simp only [Etat.mer, Set.mem_ofPred_eq]
  refine exists_congr fun j => and_congr_right fun hj => ?_
  rw [h.flotte hgarde j hj]

theorem Annonce.bombardees (h : Annonce g₀ es s m) (a : Action) : bombardees g₀ (es ++ [a]) m = bombardees g₀ es m := by
  refine (vises_prefixe (fun i _ => ?_) h.tours).symm
  rw [salves_snoc]
  exact List.prefix_append _ _

theorem contratPlateau_etape (hgarde : ∀ i, (s.clients i).Garde (s'.clients i)) {d : Sens} {k : Moment}
    (h : (contratPlateau g₀ es s).Permis d k q) : (contratPlateau g₀ (es ++ [a]) s').Permis d k q := by
  refine ⟨h.sens, fun m hk => ?_⟩
  obtain ⟨ha, t, g, hq, hd⟩ := h.convient m hk
  refine ⟨ha.etape hgarde a, t, g, hq, ?_⟩
  rw [ha.mer hgarde, ha.bombardees a]
  exact hd

theorem Partie.copie (h : Partie g₀ s₀ es s) {k : Nat} (hp : s.serveur.point = .envoi (.plateau t) k) :
    Copie g₀ s.serveur.game (s.mer g₀) (Bnbr.bombardees g₀ es s.serveur.manche) t := by
  have hl : s.serveur.Lance := by simp [Serveur.Poste.Lance, hp]
  have hj (i : Nat) (_ : (i : Int) < g₀.nbJoueur) : s.serveur.joues i = s.serveur.manche := by
    simp [Serveur.Poste.joues, hp]
  have hpeint := h.salve.peint hl
  rw [h.vises hj fun i hi => by rw [hj i hi]] at hpeint
  refine ⟨h.texte t k (.inl hp), hpeint.regles.taillePlateau, fun y x hd => ?_⟩
  rw [hpeint.represente.cell y x hd, hpeint.mer]

theorem Partie.annonce (h : Partie g₀ s₀ es s) {p : Serveur.Poste}
    (hs : Serveur.Pas s.serveur (.envoie i q) p) (hm : s.serveur.moment i = .plateau m) :
    Annonce g₀ es s m ∧ ∃ t g, q = requetePlateau t ∧ Copie g₀ g (s.mer g₀) (bombardees g₀ es m) t := by
  cases hs with
  | @envoi b _ _ hp hi hq =>
    simp only [Serveur.Poste.moment, hp, passage_pendant] at hm
    cases b with
    | plateau t =>
      simp only [Boucle.avant, Moment.plateau.injEq] at hm
      subst hm
      obtain rfl := Option.some.inj hq
      have hl : s.serveur.Lance := by simp [Serveur.Poste.Lance, hp]
      refine ⟨⟨h.salve.rang hl, fun k hk => ?_⟩, t, _, rfl, h.copie hp⟩
      have h1 := (h.prises k).length_le
      rw [h.salve.longueur k hk] at h1
      simpa [Serveur.Poste.recus, Serveur.Poste.joues, hp] using h1
    | _ => simp [Boucle.avant] at hm
  | demande hp => simp [Serveur.Poste.moment, hp, passage_pendant] at hm
  | placer pile hp hij =>
    subst hij
    simp [Serveur.Poste.moment, hp, passage_pendant] at hm
  | tirRecu pile hp => simp [Serveur.Poste.moment, hp, passage_pendant] at hm

def Client.Poste.vues (c : Client.Poste) : Nat :=
  match c.point with
  | .go => c.manche + 1
  | .accuseGo => c.manche + 1
  | .viser _ _ => c.manche + 1
  | .mort => c.manche + 1
  | .attenteTir => c.manche + 1
  | .etat => c.manche + 1
  | .accuseEtat _ => c.manche + 1
  | _ => c.manche

-- the cells past the 99 characters that a client reads are left out
def Visible (n : Int) (y x : Fin 50) : Prop := Dans n (coord y x) ∧ x.val * n.toNat + y.val < 99

-- what a player sees of a cell: the shots of all the players, and its own boat
open scoped Classical in
noncomputable def apercue (B S N : Set (Int × Int)) (p : Int × Int) : Status :=
  if p ∈ S then (if p ∈ B then .hitShot else .missedShot) else if p ∈ N then .boat else .empty

theorem Vue.apercue {B S N : Set (Int × Int)} {p : Int × Int} {d : Status} (h : Vue (statut B S p) d (p ∈ N)) :
    d = Bnbr.apercue B S N p := by
  unfold Bnbr.apercue
  by_cases hS : p ∈ S
  · by_cases hB : p ∈ B
    · simp only [hS, hB, if_true]
      exact h.hitShot.mpr (statut_hitShot.mpr ⟨hB, hS⟩)
    · simp only [hS, hB, if_true, if_false]
      exact h.missedShot.mpr (statut_missedShot.mpr ⟨hS, hB⟩)
  · have hs : statut B S p = .empty ∨ statut B S p = .boat := by
      by_cases hB : p ∈ B
      · exact .inr (statut_boat.mpr ⟨hB, hS⟩)
      · exact .inl (statut_empty.mpr ⟨hB, hS⟩)
    by_cases hN : p ∈ N
    · simp only [hS, hN, if_true, if_false]
      exact h.boat.mpr ⟨hs, hN⟩
    · simp only [hS, hN, if_false]
      exact h.empty.mpr ⟨hs, hN⟩

structure Montre (g₀ : Serveur.GameT) (es : List Action) (s : Etat) (m : Nat) (j : Fin 100) (c : Client.Poste) :
    Prop where
  annonce : Annonce g₀ es s m
  vue : ∀ y x, Visible g₀.taillePlateau y x →
    c.game.plateau y x = apercue (s.mer g₀) (bombardees g₀ es m) (s.flotte g₀ j) (coord y x)

structure Recu (g₀ : Serveur.GameT) (es : List Action) (s : Etat) (m : Nat) (r : ReqT) : Prop where
  annonce : Annonce g₀ es s m
  lu : ∃ t g, Client.Lire (requetePlateau t) r ∧ Copie g₀ g (s.mer g₀) (bombardees g₀ es m) t

structure Ecran (g₀ : Serveur.GameT) (es : List Action) (s : Etat) (j : Fin 100) : Prop where
  sync : (contratPlateau g₀ es s).Sync (s.serveur.moment j) (s.clients j).moment (s.versClient j) (s.versServeur j)
  recu : ∀ r, (s.clients j).point = .accusePlateau r → Recu g₀ es s (s.clients j).manche r
  montre : ∀ m, (s.clients j).vues = m + 1 → Montre g₀ es s m j (s.clients j)

theorem Client.Lire.plateau {r : ReqT} {g : Serveur.GameT} (h : Client.Lire (requetePlateau t) r)
    (ht : textePlateau g = some t) (h4 : 4 ≤ g.taillePlateau) (hn : g.taillePlateau ≤ 31) :
    ∃ reste, r.infos.val = infosRecues t reste := by
  obtain ⟨avant, rfl⟩ := h.contenu (requetePlateau_valide ht hn)
  have hsp : ∀ c ∈ t, isspace c = false := by
    intro c hc
    rcases textePlateau_mem (by omega) ht hc with rfl | rfl | rfl <;> decide
  have hlu : lu 99 (requetePlateau t).infos = t.take 99 := lu_take hsp 99
  have hne : lu 99 (requetePlateau t).infos ≠ [] := by
    have hlen := textePlateau_length (by omega) ht
    have hpos : 4 * 4 ≤ g.taillePlateau.toNat * g.taillePlateau.toNat := Nat.mul_le_mul (by omega) (by omega)
    rw [hlu, Ne, List.take_eq_nil_iff]
    rintro (h0 | h0)
    · omega
    · rw [h0] at hlen
      simp only [List.length_nil] at hlen
      omega
  refine ⟨avant.infos.val, ?_⟩
  rw [Client.livrer, livrer_infos_val _ _ _ hne, hlu]
  rfl

theorem Client.Placee.occupe {c : Client.Poste} (h : Client.Placee g₀ c) (h10 : g₀.tailleBateau ≤ 10) (j : Fin 100)
    (y x : Fin 50) :
    c.game.bateau.Occupe c.game.tailleBateau y x ↔ coord y x ∈ (c.placement j).cases g₀.tailleBateau := by
  obtain ⟨v, -, hv, hcase⟩ := h.montre
  have hsuit := h.bateau v hv
  rw [h.regles.tailleBateau]
  constructor
  · rintro ⟨k, hk, hx, hy⟩
    obtain ⟨h1, h2⟩ := hsuit k hk
    refine ⟨k.val, hk, ?_⟩
    rw [hcase j k.val]
    exact Prod.ext (h1.symm.trans hx) (h2.symm.trans hy)
  · rintro ⟨k, hk, he⟩
    rw [hcase j k] at he
    obtain ⟨h1, h2⟩ := hsuit ⟨k, by omega⟩ hk
    exact ⟨⟨k, by omega⟩, hk, h1.trans (congrArg Prod.fst he), h2.trans (congrArg Prod.snd he)⟩

theorem Client.Placee.dans {c : Client.Poste} (h : Client.Placee g₀ c) (j : Fin 10)
    (hj : (j.val : Int) < c.game.tailleBateau) :
    Dans c.game.taillePlateau ((c.game.bateau.cell j).x, (c.game.bateau.cell j).y) := by
  obtain ⟨v, hm, hv, -⟩ := h.montre
  rw [h.regles.tailleBateau] at hj
  obtain ⟨h1, h2⟩ := h.bateau v hv j hj
  rw [h1, h2, h.regles.taillePlateau]
  exact hm.dans j hj

theorem Client.Placee.dessine {c : Client.Poste} (hg₀ : Lancement g₀) (hn : g₀.taillePlateau ≤ 31)
    (h : Client.Placee g₀ c) (j : Fin 100) {r : ReqT} {g : Serveur.GameT} {B S : Set (Int × Int)}
    (hr : Client.Lire (requetePlateau t) r) (hc : Copie g₀ g B S t) (pile : Cells) :
    ∃ g', Client.decodePlateau c.game pile r.infos = some g' ∧ ∀ y x, Visible g₀.taillePlateau y x →
      g'.plateau y x = apercue B S ((c.placement j).cases g₀.tailleBateau) (coord y x) := by
  have h2 := hg₀.bateau
  have h3 := hg₀.place
  have h10 := hg₀.registres.bateau_le
  have hgn := hc.taillePlateau
  have hcn := h.regles.taillePlateau
  obtain ⟨reste, hinfos⟩ := hr.plateau hc.texte (by omega) (by omega)
  have ht : c.game.tailleBateau ≤ 10 := by rw [h.regles.tailleBateau]; exact h10
  obtain ⟨g', hg', hcell⟩ := decodePlateau_spec (by omega) ht (fun k hk => h.dans k hk) pile r.infos
  refine ⟨g', hg', fun y x hv => Vue.apercue ?_⟩
  obtain ⟨hd, h99⟩ := hv
  obtain ⟨ch, hch, he⟩ := hcell y x (hcn.symm ▸ hd)
  rw [hinfos, hcn, ← hgn, infosRecues_lu (by omega) hc.texte reste (hgn.symm ▸ hd) (hgn.symm ▸ h99), hc.cell y x hd,
    Option.some.injEq] at hch
  rw [he, ← hch, ← propext (h.occupe h10 j y x)]
  exact (vue_iff (dechiffrer_chiffre_ne _) _).mpr rfl

theorem Client.Pas.vues {hist : List Serveur.GameT} {c c' : Client.Poste} {b : Client.Action}
    (h : Client.Pas c b c') (hl : Client.Loyal g₀ hist i c) (hl' : Client.Loyal g₀ hist i c') :
    c'.vues = c.vues ∧ (c'.game.plateau = c.game.plateau ∨ c.vues = 0) ∨
      ∃ r pile, c.point = .accusePlateau r ∧ c'.vues = c.manche + 1 ∧
        ∀ g, Client.decodePlateau c.game pile r.infos = some g → c'.game.plateau = g.plateau := by
  cases h with
  | accuseInfos hp hi hg =>
    simp only [Client.Loyal, hp] at hl
    exact .inl ⟨by simp only [Client.Poste.vues, hp], .inr (by simp only [Client.Poste.vues, hp, hl.1])⟩
  | placer hp hg =>
    simp only [Client.Loyal, hp] at hl
    exact .inl ⟨by simp only [Client.Poste.vues, hp], .inr (by simp only [Client.Poste.vues, hp, hl.1])⟩
  | accusePlateau pile cells hp hd => exact .inr ⟨_, pile, hp, rfl, hd⟩
  | accuseEtat hp =>
    refine .inl ⟨?_, .inl rfl⟩
    simp only [Client.Poste.vues, hp, Client.suite]
    split_ifs <;> rfl
  | erreur => exact absurd rfl hl'.sansErreur
  | inscription hp => exact .inl ⟨by simp only [Client.Poste.vues, hp], .inl rfl⟩
  | attentePartie hp => exact .inl ⟨by simp only [Client.Poste.vues, hp], .inl rfl⟩
  | attenteBateaux hp => exact .inl ⟨by simp only [Client.Poste.vues, hp], .inl rfl⟩
  | choix t hp => exact .inl ⟨by simp only [Client.Poste.vues, hp], .inl rfl⟩
  | entrer pile hp => exact .inl ⟨by simp only [Client.Poste.vues, hp], .inl rfl⟩
  | menu pile t hp => exact .inl ⟨by simp only [Client.Poste.vues, hp], .inl rfl⟩
  | quitter pile hp => exact .inl ⟨by simp only [Client.Poste.vues, hp], .inl rfl⟩
  | attenteAccuse hp => exact .inl ⟨by simp only [Client.Poste.vues, hp], .inl rfl⟩
  | plateau hp => exact .inl ⟨by simp only [Client.Poste.vues, hp], .inl rfl⟩
  | go hp => exact .inl ⟨by simp only [Client.Poste.vues, hp], .inl rfl⟩
  | goMort hp => exact .inl ⟨by simp only [Client.Poste.vues, hp], .inl rfl⟩
  | accuseGo hp => exact .inl ⟨by simp only [Client.Poste.vues, hp], .inl rfl⟩
  | accuseGoMort hp => exact .inl ⟨by simp only [Client.Poste.vues, hp], .inl rfl⟩
  | viser t hp => exact .inl ⟨by simp only [Client.Poste.vues, hp], .inl rfl⟩
  | tirer hp => exact .inl ⟨by simp only [Client.Poste.vues, hp], .inl rfl⟩
  | mort hp => exact .inl ⟨by simp only [Client.Poste.vues, hp], .inl rfl⟩
  | attenteTir hp => exact .inl ⟨by simp only [Client.Poste.vues, hp], .inl rfl⟩
  | etat hp => exact .inl ⟨by simp only [Client.Poste.vues, hp], .inl rfl⟩

theorem Recu.etape {r : ReqT} (h : Recu g₀ es s m r) (hgarde : ∀ i, (s.clients i).Garde (s'.clients i)) (a : Action) :
    Recu g₀ (es ++ [a]) s' m r := by
  refine ⟨h.annonce.etape hgarde a, ?_⟩
  rw [h.annonce.mer hgarde, h.annonce.bombardees a]
  exact h.lu

theorem Montre.etape {c c' : Client.Poste} {j : Fin 100} (h : Montre g₀ es s m j c) (hj : (j.val : Int) < g₀.nbJoueur)
    (hgarde : ∀ i, (s.clients i).Garde (s'.clients i)) (a : Action) (hc : c'.game.plateau = c.game.plateau) :
    Montre g₀ (es ++ [a]) s' m j c' := by
  refine ⟨h.annonce.etape hgarde a, fun y x hv => ?_⟩
  rw [hc, h.vue y x hv, h.annonce.mer hgarde, h.annonce.bombardees a, h.annonce.flotte hgarde j hj]

theorem Recu.montre {c c' : Client.Poste} {r : ReqT} {pile : Cells} {j : Fin 100} (hg₀ : Lancement g₀)
    (hn : g₀.taillePlateau ≤ 31) (h : Recu g₀ es s m r) (hc : Client.Placee g₀ c) (hj : s.clients j = c)
    (hd : ∀ g, Client.decodePlateau c.game pile r.infos = some g → c'.game.plateau = g.plateau) :
    Montre g₀ es s m j c' := by
  obtain ⟨t, g, hr, hcopie⟩ := h.lu
  obtain ⟨g', hg', hvue⟩ := hc.dessine hg₀ hn j hr hcopie pile
  refine ⟨h.annonce, fun y x hv => ?_⟩
  rw [hd g' hg', hvue y x hv, Etat.flotte, hj]

theorem Ecran.session {j : Fin 100} (hg₀ : Lancement g₀) (h : Ecran g₀ es s j) (hinv : Invariant g₀ s)
    (hpartie : Partie g₀ s₀ es s) (hs : Etape g₀.nbJoueur s a s') (hj : (j.val : Int) < g₀.nbJoueur) :
    (contratPlateau g₀ (es ++ [a]) s').Sync (s'.serveur.moment j) (s'.clients j).moment (s'.versClient j)
      (s'.versServeur j) := by
  have hpas := hinv.session hg₀ hs hj
  have haller (q : Requete) (he : a.duServeur j = some (.aller, q)) :
      (contratPlateau g₀ es s).convient (s.session j).amont q := by
    intro m hm
    cases hs with
    | @serveurEnvoie p k r hs =>
      simp only [Action.duServeur] at he
      split_ifs at he with hk
      subst hk
      obtain rfl := congrArg Prod.snd (Option.some.inj he)
      exact hpartie.annonce hs hm
    | serveurPrend =>
      simp only [Action.duServeur] at he
      split_ifs at he
      cases Option.some.inj he
    | _ => cases he
  have hretour (q : Requete) (he : a.duClient j = some (.retour, q)) :
      (contratPlateau g₀ es s).convient (s.session j).aval q := by
    intro m hm
    rw [he] at hpas
    have := hpas.reponse_permis.sens
    rw [hm] at this
    cases this
  have hsync := Contrat.Sync.pas (s := s.session j) h.sync (hpas.enrichi rfl rfl haller hretour)
  exact hsync.mono rfl fun _ _ _ => contratPlateau_etape (hs.garde hg₀ hinv)

theorem Ecran.serveur {j : Fin 100} (h : Ecran g₀ es s j) (hj : (j.val : Int) < g₀.nbJoueur)
    (hgarde : ∀ i, (s.clients i).Garde (s'.clients i)) (hc : s'.clients j = s.clients j)
    (hsync : (contratPlateau g₀ (es ++ [a]) s').Sync (s'.serveur.moment j) (s'.clients j).moment (s'.versClient j)
      (s'.versServeur j)) : Ecran g₀ (es ++ [a]) s' j := by
  refine ⟨hsync, ?_, ?_⟩
  · rw [hc]
    exact fun r hr => (h.recu r hr).etape hgarde a
  · rw [hc]
    exact fun m hm => (h.montre m hm).etape hj hgarde a rfl

theorem Ecran.client {j : Fin 100} {c : Client.Poste} {b : Client.Action} (hg₀ : Lancement g₀)
    (hn : g₀.taillePlateau ≤ 31) (h : Ecran g₀ es s j) (hj : (j.val : Int) < g₀.nbJoueur)
    (hgarde : ∀ i, (s.clients i).Garde (s'.clients i)) (hc : s'.clients j = c)
    (hsync : (contratPlateau g₀ (es ++ [a]) s').Sync (s'.serveur.moment j) (s'.clients j).moment (s'.versClient j)
      (s'.versServeur j)) (hs : Client.Pas (s.clients j) b c)
    (hl : Client.Loyal g₀ s.serveur.verdicts j (s.clients j)) (hl' : Client.Loyal g₀ s.serveur.verdicts j c)
    (hrecu : ∀ r, c.point = .accusePlateau r → Recu g₀ es s c.manche r) : Ecran g₀ (es ++ [a]) s' j := by
  refine ⟨hsync, ?_, ?_⟩
  · rw [hc]
    exact fun r hr => (hrecu r hr).etape hgarde a
  · rw [hc]
    intro m hm
    rcases hs.vues hl hl' with ⟨hv, hp | h0⟩ | ⟨r, pile, hp, hv, hd⟩
    · exact (h.montre m (hv.symm.trans hm)).etape hj hgarde a hp
    · omega
    · have hplacee : Client.Placee g₀ (s.clients j) := by
        simp only [Client.Loyal, hp] at hl
        exact hl.1.toPlacee
      obtain rfl : m = (s.clients j).manche := by omega
      have hmontre : Montre g₀ es s (s.clients j).manche j c := (h.recu r hp).montre hg₀ hn hplacee rfl hd
      exact hmontre.etape hj hgarde a rfl

theorem Client.Pas.versAccuse {c c' : Client.Poste} {b : Client.Action} {r : ReqT} (h : Client.Pas c b c')
    (hr : c'.point = .accusePlateau r) :
    ∃ q, b = .prend q ∧ c.point = .plateau ∧ Client.Lire q r ∧ c'.manche = c.manche := by
  cases h with
  | plateau hp hl hid =>
    obtain rfl := Client.Point.accusePlateau.inj hr
    exact ⟨_, rfl, hp, hl, rfl⟩
  | accuseEtat hp =>
    simp only [Client.suite] at hr
    split_ifs at hr
  | _ => simp_all

theorem Ecran.prend {j : Fin 100} {c : Client.Poste} {reste : List Requete} {r : ReqT} (h : Ecran g₀ es s j)
    (hs : Client.Pas (s.clients j) (.prend q) c) (hc : s.versClient j = q :: reste) (hr : c.point = .accusePlateau r) :
    Recu g₀ es s c.manche r := by
  obtain ⟨q', he, hp, hl, hm⟩ := hs.versAccuse hr
  obtain rfl := Client.Action.prend.inj he
  have hsync := h.sync
  rw [hc] at hsync
  have hconv := hsync.reception.1.convient (s.clients j).manche (by simp only [Client.Poste.moment, hp])
  obtain ⟨ha, t, g, rfl, hcopie⟩ := hconv
  rw [hm]
  exact ⟨ha, t, g, hl, hcopie⟩

theorem Ecran.etape {j : Fin 100} (hg₀ : Lancement g₀) (hn : g₀.taillePlateau ≤ 31) (h : Ecran g₀ es s j)
    (hinv : Invariant g₀ s) (hpartie : Partie g₀ s₀ es s) (hj : (j.val : Int) < g₀.nbJoueur)
    (hs : Etape g₀.nbJoueur s a s') : Ecran g₀ (es ++ [a]) s' j := by
  have hsync := h.session hg₀ hinv hpartie hs hj
  have hgarde := hs.garde hg₀ hinv
  have hinv' := hinv.etape hg₀ hs
  have hl := hinv.loyal hj
  have hl' := hinv'.loyal hj
  cases hs with
  | serveurPrend => exact h.serveur hj hgarde rfl hsync
  | serveurEnvoie => exact h.serveur hj hgarde rfl hsync
  | serveurInterne => exact h.serveur hj hgarde rfl hsync
  | @clientPrend c k q reste hk hs hc =>
    by_cases hkj : j.val = k
    · subst hkj
      have hclient : Function.update s.clients j c j = c := Function.update_self ..
      replace hl' : Client.Loyal g₀ s.serveur.verdicts j c := hclient ▸ hl'
      exact h.client hg₀ hn hj hgarde hclient hsync hs hl hl' fun r hr => h.prend hs hc hr
    · exact h.serveur hj hgarde (Function.update_of_ne hkj ..) hsync
  | @clientEnvoie c k q hk hs =>
    by_cases hkj : j.val = k
    · subst hkj
      have hclient : Function.update s.clients j c j = c := Function.update_self ..
      replace hl' : Client.Loyal g₀ s.serveur.verdicts j c := hclient ▸ hl'
      refine h.client hg₀ hn hj hgarde hclient hsync hs hl hl' fun r hr => ?_
      obtain ⟨q, he, -⟩ := hs.versAccuse hr
      cases he
    · exact h.serveur hj hgarde (Function.update_of_ne hkj ..) hsync
  | @clientInterne c k hk hs =>
    by_cases hkj : j.val = k
    · subst hkj
      have hclient : Function.update s.clients j c j = c := Function.update_self ..
      replace hl' : Client.Loyal g₀ s.serveur.verdicts j c := hclient ▸ hl'
      refine h.client hg₀ hn hj hgarde hclient hsync hs hl hl' fun r hr => ?_
      obtain ⟨q, he, -⟩ := hs.versAccuse hr
      cases he
    · exact h.serveur hj hgarde (Function.update_of_ne hkj ..) hsync

theorem Debut.ecran (h : Debut g₀ s) {j : Fin 100} (hj : (j.val : Int) < g₀.nbJoueur) : Ecran g₀ [] s j := by
  have hm : s.serveur.moment j = .infos := by
    rw [h.serveur]
    exact passage_zero
  obtain ⟨hman, hpoint⟩ := h.clients j hj
  refine ⟨?_, fun r hr => ?_, fun m hm => ?_⟩
  · rw [hm, h.versServeur j]
    rcases hpoint with ⟨hp, hv⟩ | ⟨hp, hv⟩
    · rw [hv, Client.Poste.moment, hp]
      exact .avance (.cons ⟨rfl, fun _ hk => by cases hk⟩ (.nil _))
    · rw [hv, Client.Poste.moment, hp]
      exact .avance (.nil _)
  · rcases hpoint with ⟨hp, -⟩ | ⟨hp, -⟩ <;> simp [hp] at hr
  · rcases hpoint with ⟨hp, -⟩ | ⟨hp, -⟩ <;> simp [Client.Poste.vues, hp, hman] at hm

theorem Ecran.trace {j : Fin 100} (hg₀ : Lancement g₀) (hn : g₀.taillePlateau ≤ 31) (h₀ : Debut g₀ s₀)
    (hj : (j.val : Int) < g₀.nbJoueur) (h : Trace (Etape g₀.nbJoueur) s₀ es s) : Ecran g₀ es s j := by
  refine h.invariant (fun es s => Ecran g₀ es s j) (h₀.ecran hj) fun es t a u ht ih hs => ?_
  exact ih.etape hg₀ hn (Salve.trace hg₀ h₀ ht).1 (Partie.trace hg₀ h₀ ht) hj hs

theorem ecran_fidele (g₀ : Serveur.GameT) (hg₀ : Lancement g₀) (hn : g₀.taillePlateau ≤ 31) (s₀ : Etat)
    (h₀ : Debut g₀ s₀) (es : List Action) (s : Etat) (h : Trace (Etape g₀.nbJoueur) s₀ es s) (j : Fin 100)
    (hj : (j.val : Int) < g₀.nbJoueur) (m : Nat) (hm : (s.clients j).vues = m + 1) (cursorX cursorY : Int) :
    ∃ lignes, Client.afficherPlateau (s.clients j).game cursorX cursorY = some lignes ∧
      ∀ y x, Visible g₀.taillePlateau y x → Client.caseAffichee lignes y x =
        some (Client.afficherCase (cursorX = x.val ∧ cursorY = y.val)
          (apercue (s.mer g₀) (bombardees g₀ es m) (s.flotte g₀ j) (coord y x))) := by
  have hecran := Ecran.trace hg₀ hn h₀ hj h
  have hmontre := hecran.montre m hm
  have hinv : Invariant g₀ s := (Salve.trace hg₀ h₀ h).1
  have hr := ((hinv.loyal hj).placee (hmontre.annonce.rang j hj)).regles
  have hle := hg₀.registres.plateau
  obtain ⟨lignes, hl, hcase⟩ := Client.caseAffichee_spec (g := (s.clients j).game)
    (by rw [hr.taillePlateau]; exact hle) cursorX cursorY
  refine ⟨lignes, hl, fun y x hv => ?_⟩
  rw [hcase y x (hr.taillePlateau.symm ▸ hv.1), hmontre.vue y x hv]

theorem Accord.vues (h : Accord g₀ s) {f : Nat → Option Requete} {k : Nat} (hp : s.serveur.point = .envoi (.etat f) k)
    (hk : ¬ (k : Int) < g₀.nbJoueur) {j : Nat} (hj : (j : Int) < g₀.nbJoueur) :
    (s.clients j).vues = s.serveur.manche + 1 := by
  have hm : s.serveur.moment j = .plateau (s.serveur.manche + 1) := by
    rw [Serveur.Poste.moment, hp]
    exact passage_apres (by omega)
  have hsync := (h.joueurs j hj).sync
  rw [hm] at hsync
  obtain ⟨hc, -, -⟩ := hsync.rattrape rfl fun _ => plateau_precede
  cases hpc : (s.clients j).point <;> simp_all [Client.Poste.moment, Client.Poste.vues]

theorem ecran_fidele_manche : ∃ s₀ es s m lignes, Trace (Etape 2) s₀ es s ∧ (s.clients 0).vues = m + 1 ∧
    Client.afficherPlateau (s.clients 0).game 1 0 = some lignes ∧ Client.caseAffichee lignes 3 2 =
      some (Client.afficherCase false (apercue (s.mer (GameT.depart 2 4 2)) (bombardees (GameT.depart 2 4 2) es m)
        (s.flotte (GameT.depart 2 4 2) 0) (2, 3))) := by
  obtain ⟨s, f, k, ⟨s₀, h₀, hr⟩, ha, hp, hk⟩ := manche_accessible depart_deux
  obtain ⟨es, h⟩ := Run.trace hr
  have hv := ha.vues hp hk (j := 0) (by decide)
  obtain ⟨lignes, hl, hcase⟩ :=
    ecran_fidele _ depart_deux (by decide) s₀ h₀ es s h 0 (by decide) s.serveur.manche hv 1 0
  exact ⟨s₀, es, s, _, lignes, h, hv, hl, hcase 3 2 ⟨by decide, by decide⟩⟩

end Bnbr
