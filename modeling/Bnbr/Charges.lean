import Bnbr.Loyal

namespace Bnbr

open CString Decimal Scanf Serveur

-- sprintf writes in a local array, and format_req copies the text the array then holds
def preparer {n : Nat} (infos : Buf n) (q : Requete) : Option Requete := do
  let infos ← infos.strcpy q.infos
  let s ← infos.str
  some { q with infos := s }

def Serveur.infosPartie (infos : Buf 100) (g : Serveur.GameT) : Option Requete := preparer infos (requeteInfos g)

def Client.envoiBateau (infos : Buf 10) (x y : Int) (direction : Char) : Option Requete :=
  preparer infos (requeteBateau x y direction)

def Client.envoiCoup (infos : Buf 10) (x y : Int) : Option Requete := preparer infos (requeteTir x y)

-- the request reaches the other side in one read, whatever the arrays held on both sides
def Transmise (q : Option Requete) (lire : Lecture → Buf maxBuffer → ReqT → Option ReqT) (P : ReqT → Prop) : Prop :=
  ∃ r, q = some r ∧ ∀ avant, ∃ msg, envoyer (formatReq avant r) = some msg ∧
    ∀ (l : Lecture) (buff : Buf maxBuffer) (quoi : ReqT), l.recu = msg → ∃ recu, lire l buff quoi = some recu ∧ P recu

theorem preparer_spec {n : Nat} (infos : Buf n) {q : Requete} (hq : q.Valide) (hl : q.infos.length + 1 ≤ n) :
    preparer infos q = some q := by
  obtain ⟨b, hb, hs⟩ := infos.strcpy_of_le hl
  simp only [preparer, hb, hs hq.infos_nul, Option.bind_eq_bind, Option.bind_some]

theorem transmise {n width : Nat} (hw : width ≤ 999) (infos : Buf n) {q : Requete} (hq : q.Valide)
    (hl : q.infos.length + 1 ≤ n) {lire : Lecture → Buf maxBuffer → ReqT → Option ReqT}
    (hlire : ∀ l buff quoi, l.recu = q.texte ++ [nul] → lire l buff quoi = recevoir (unserialReq width hw) l buff quoi)
    {P : ReqT → Prop} (hP : ∀ quoi, P (livrer width hw q hq.nom_len quoi)) : Transmise (preparer infos q) lire P := by
  refine ⟨q, preparer_spec infos hq hl, fun avant => ⟨_, envoyer_formatReq hq avant, fun l buff quoi hr => ?_⟩⟩
  exact ⟨_, (hlire l buff quoi hr).trans (recevoir_lu hq hw hr buff quoi), hP quoi⟩

theorem recevoirNonBlock_lecture {q : Requete} {l : Lecture} (hl : l.recu = q.texte ++ [nul])
    (deSerial : List Char → ReqT → ReqT) (buff : Buf maxBuffer) (quoi : ReqT) :
    (recevoirNonBlock deSerial (.lecture l) buff quoi).join = recevoir deSerial l buff quoi := by
  cases l with
  | octets s h => cases hr : recevoir deSerial (.octets s h) buff quoi <;> simp [recevoirNonBlock, hr]
  | fin => simp [Lecture.recu] at hl
  | erreur => simp [Lecture.recu] at hl

def Serveur.lireSondage (l : Lecture) (buff : Buf maxBuffer) (quoi : ReqT) : Option ReqT :=
  (recevoirNonBlock Serveur.unserialReq (.lecture l) buff quoi).join

theorem infosPartie_transmise {g : Serveur.GameT} (hg : g.Entiers) (infos : Buf 100) :
    Transmise (Serveur.infosPartie infos g) (recevoir Client.unserialReq) fun r => r.id = 4 ∧
      ∃ s, r.infos.str = some s ∧ ∀ c, Client.lireInfos s c = { c with
        nbJoueur := g.nbJoueur
        taillePlateau := g.taillePlateau
        tailleBateau := g.tailleBateau
        timeout := g.timeout } := by
  have hv := requeteInfos_valide hg
  have hl := requeteInfos_length hg
  have hlu : lu 99 (requeteInfos g).infos = (requeteInfos g).infos :=
    lu_of_all (fun c hc => isspace_infos hc) (by omega)
  have hne : lu 99 (requeteInfos g).infos ≠ [] := by
    rw [hlu]
    simp [requeteInfos]
  refine transmise (by omega) infos hv (by omega) (fun _ _ _ _ => rfl) fun quoi => ⟨livrer_id _ _ _ _ _, ?_⟩
  refine ⟨_, livrer_infos _ hv quoi hne, fun c => ?_⟩
  obtain ⟨h1, h2, h3, h4⟩ := hg
  rw [hlu, requeteInfos, Client.lireInfos_print h1 h2 h3, toInt_of_inInt h4]

section Curseur

variable {x y : Int} (hd : Dans 50 (x, y))

include hd

theorem curseur_inInt : InInt x ∧ InInt y := by
  obtain ⟨h0, h1, h2, h3⟩ := hd
  simp only [InInt]
  omega

theorem curseur_length : (print x).length ≤ 3 ∧ (print y).length ≤ 3 := by
  obtain ⟨h0, h1, h2, h3⟩ := hd
  exact ⟨print_length (k := 2) (by omega) (by omega), print_length (k := 2) (by omega) (by omega)⟩

theorem envoiBateau_transmise {direction : Char} (hv : (pas direction).isSome = true) (infos : Buf 10) :
    Transmise (Client.envoiBateau infos x y direction) Serveur.lireSondage fun r => r.id = 3 ∧
      ∃ s, r.infos.str = some s ∧ ∀ xyd, lireBateau s xyd = (x, y, direction) := by
  obtain ⟨hx, hy⟩ := curseur_inInt hd
  obtain ⟨h1, h2⟩ := curseur_length hd
  obtain ⟨v, hv⟩ := Option.isSome_iff_exists.mp hv
  have hdir : direction ≠ nul ∧ isspace direction = false := by
    rcases pas_cases hv with ⟨rfl, -⟩ | ⟨rfl, -⟩ | ⟨rfl, -⟩ | ⟨rfl, -⟩ <;> decide
  have hq := requeteBateau_valide hx hy hdir.1
  have hlu := lu_requeteBateau hx hy hdir.2
  have hne : lu 999 (requeteBateau x y direction).infos ≠ [] := by simp [hlu]
  refine transmise (by omega) infos hq ?_ (fun l buff quoi hr => recevoirNonBlock_lecture hr _ buff quoi) fun quoi =>
    ⟨livrer_id _ _ _ _ _, _, livrer_infos _ hq quoi hne, fun xyd => ?_⟩
  · simp only [requeteBateau, List.length_append, List.length_cons, List.length_nil]
    omega
  · rw [hlu, lireBateau_triplet, triplet_print]
    simp only [Option.map_some, Option.getD_some, toInt_of_inInt hx, toInt_of_inInt hy]

theorem envoiCoup_transmise (infos : Buf 10) :
    Transmise (Client.envoiCoup infos x y) (recevoir Serveur.unserialReq) fun r => r.id = 6 ∧
      r.nom.str = some txtCoup ∧ ∃ s, r.infos.str = some s ∧ ∀ xy, lireCoup s xy = (x, y) := by
  obtain ⟨hx, hy⟩ := curseur_inInt hd
  obtain ⟨h1, h2⟩ := curseur_length hd
  have hq := requeteTir_valide hx hy
  have hlu := lu_requeteTir hx hy
  have hne : lu 999 (requeteTir x y).infos ≠ [] := by simp [hlu]
  refine transmise (by omega) infos hq ?_ (fun _ _ _ _ => rfl) fun quoi =>
    ⟨livrer_id _ _ _ _ _, livrer_nom _ hq quoi, _, livrer_infos _ hq quoi hne, fun xy => ?_⟩
  · simp only [requeteTir, List.length_append, List.length_cons]
    omega
  · rw [hlu]
    exact lireCoup_entiers (entiers_print hx hy) xy

end Curseur

theorem charges_transmises :
    (∀ (g : Serveur.GameT) (infos : Buf 100), g.Entiers →
      Transmise (Serveur.infosPartie infos g) (recevoir Client.unserialReq) fun r => r.id = 4 ∧
        ∃ s, r.infos.str = some s ∧ ∀ c, Client.lireInfos s c = { c with
          nbJoueur := g.nbJoueur
          taillePlateau := g.taillePlateau
          tailleBateau := g.tailleBateau
          timeout := g.timeout }) ∧
    (∀ (x y : Int) (direction : Char) (infos : Buf 10), Dans 50 (x, y) → direction ∈ ['h', 'b', 'g', 'd'] →
      Transmise (Client.envoiBateau infos x y direction) Serveur.lireSondage fun r => r.id = 3 ∧
        ∃ s, r.infos.str = some s ∧ ∀ xyd, lireBateau s xyd = (x, y, direction)) ∧
    (∀ (x y : Int) (infos : Buf 10), Dans 50 (x, y) →
      Transmise (Client.envoiCoup infos x y) (recevoir Serveur.unserialReq) fun r => r.id = 6 ∧
        r.nom.str = some txtCoup ∧ ∃ s, r.infos.str = some s ∧ ∀ xy, lireCoup s xy = (x, y)) := by
  refine ⟨fun g infos hg => infosPartie_transmise hg infos, fun x y direction infos hd hdir => ?_,
    fun x y infos hd => envoiCoup_transmise hd infos⟩
  refine envoiBateau_transmise hd ?_ infos
  simp only [List.mem_cons, List.not_mem_nil, or_false] at hdir
  rcases hdir with rfl | rfl | rfl | rfl <;> rfl

theorem charges_transmises_coin :
    Transmise (Client.envoiBateau (Buf.fill 10 'x') 49 0 'g') Serveur.lireSondage fun r => r.id = 3 ∧
      ∃ s, r.infos.str = some s ∧ ∀ xyd, lireBateau s xyd = (49, 0, 'g') :=
  charges_transmises.2.1 49 0 'g' (Buf.fill 10 'x') (by decide) (by decide)

end Bnbr
