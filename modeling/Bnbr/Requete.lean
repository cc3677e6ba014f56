import Bnbr.Clib.Scanf
import Bnbr.Donnees

namespace Bnbr

open CString Decimal Scanf

structure Requete where
  id : Int
  nom : List Char
  infos : List Char
deriving DecidableEq, Repr, Inhabited

def Requete.texte (q : Requete) : List Char := print q.id ++ ';' :: (q.nom ++ ';' :: q.infos)

def formatReq (avant : ReqT) (q : Requete) : ReqT where
  id := q.id
  nom := avant.nom.strncpy q.nom 99 (by omega)
  infos := avant.infos.strncpy q.infos 999 (by omega)

def serialReq (req : ReqT) : Option (List Char) := do
  let nom ← req.nom.str
  let infos ← req.infos.str
  some (Requete.texte ⟨req.id, nom, infos⟩)

def maxBuffer : Nat := 1024

def envoyer (req : ReqT) : Option (List Char) := do
  let s ← serialReq req
  if s.length + 1 ≤ maxBuffer then some (s ++ [nul]) else none

def setId (v : Int) (r : ReqT) : ReqT := { r with id := toInt v }

def setNom (s : List Char) (h : s.length ≤ 99) (r : ReqT) : ReqT :=
  { r with nom := r.nom.write (s ++ [nul]) (by simp only [List.length_append, List.length_singleton]; omega) }

def setInfos (s : List Char) (h : s.length ≤ 999) (r : ReqT) : ReqT :=
  { r with infos := r.infos.write (s ++ [nul]) (by simp only [List.length_append, List.length_singleton]; omega) }

def unserialReq (width : Nat) (hw : width ≤ 999) (buff : List Char) (req : ReqT) : ReqT :=
  sscanf [.int setId, .lit ';', .scanset 99 ';' setNom, .lit ';',
    .word width (fun s h => setInfos s (h.trans hw))] buff req

def Serveur.unserialReq : List Char → ReqT → ReqT := Bnbr.unserialReq 999 (by omega)

def Client.unserialReq : List Char → ReqT → ReqT := Bnbr.unserialReq 99 (by omega)

inductive Lecture
  | octets (s : List Char) (h : s.length ≤ maxBuffer)
  | fin
  | erreur

def Lecture.recu : Lecture → List Char
  | .octets s _ => s
  | .fin => []
  | .erreur => []

theorem Lecture.recu_length (l : Lecture) : l.recu.length ≤ maxBuffer := by
  cases l with
  | octets s h => exact h
  | fin => simp [Lecture.recu]
  | erreur => simp [Lecture.recu]

def recevoir (deSerial : List Char → ReqT → ReqT) (l : Lecture) (buff : Buf maxBuffer) (quoi : ReqT) :
    Option ReqT := do
  let s ← (buff.write l.recu l.recu_length).str
  some (deSerial s quoi)

structure Requete.Valide (q : Requete) : Prop where
  id_int : InInt q.id
  nom_ne : q.nom ≠ []
  nom_sep : ';' ∉ q.nom
  nom_nul : nul ∉ q.nom
  nom_len : q.nom.length ≤ 98
  infos_nul : nul ∉ q.infos
  infos_len : q.infos.length ≤ 998
  texte_len : q.texte.length < maxBuffer

def lu (width : Nat) (s : List Char) : List Char := nonspace width (s.dropWhile isspace)

def livrer (width : Nat) (hw : width ≤ 999) (q : Requete) (h : q.nom.length ≤ 98) (avant : ReqT) : ReqT :=
  let r := setNom q.nom (by omega) { avant with id := q.id }
  if lu width q.infos = [] then r
  else setInfos (lu width q.infos) ((nonspace_length _ _).trans hw) r

abbrev Serveur.livrer (q : Requete) (h : q.Valide) : ReqT → ReqT := Bnbr.livrer 999 (by omega) q h.nom_len

abbrev Client.livrer (q : Requete) (h : q.Valide) : ReqT → ReqT := Bnbr.livrer 99 (by omega) q h.nom_len

theorem nul_notMem_print (v : Int) : nul ∉ print v := by
  intro h
  rcases mem_print h with h | h
  · exact absurd h (by decide)
  · exact absurd h (by decide)

theorem Requete.Valide.texte_nul {q : Requete} (h : q.Valide) : nul ∉ q.texte := by
  have hs : nul ≠ ';' := by decide
  simp only [Requete.texte, List.mem_append, List.mem_cons, not_or]
  exact ⟨nul_notMem_print _, hs, h.nom_nul, hs, h.infos_nul⟩

theorem Requete.valide_court {id : Int} {nom infos : List Char} (hid : InInt id) (hne : nom ≠ [])
    (hsep : ';' ∉ nom) (hnul : nul ∉ nom) (hlen : nom.length ≤ 98) (hinfos : nul ∉ infos)
    (hi : infos.length ≤ 900) : (Requete.mk id nom infos).Valide := by
  refine ⟨hid, hne, hsep, hnul, hlen, hinfos, by simp only; omega, ?_⟩
  have := InInt.print_length hid
  simp only [Requete.texte, List.length_append, List.length_cons, maxBuffer]
  omega

theorem formatReq_nom {q : Requete} (h : q.Valide) (avant : ReqT) :
    (formatReq avant q).nom.str = some q.nom := by
  have := h.nom_len
  exact Buf.str_strncpy avant.nom (by omega) h.nom_nul (by omega)

theorem formatReq_infos {q : Requete} (h : q.Valide) (avant : ReqT) :
    (formatReq avant q).infos.str = some q.infos := by
  have := h.infos_len
  exact Buf.str_strncpy avant.infos (by omega) h.infos_nul (by omega)

theorem serialReq_formatReq {q : Requete} (h : q.Valide) (avant : ReqT) :
    serialReq (formatReq avant q) = some q.texte := by
  simp only [serialReq, formatReq_nom h, formatReq_infos h, Option.bind_eq_bind, Option.bind_some]
  rfl

theorem envoyer_formatReq {q : Requete} (h : q.Valide) (avant : ReqT) :
    envoyer (formatReq avant q) = some (q.texte ++ [nul]) := by
  have := h.texte_len
  simp only [envoyer, serialReq_formatReq h, Option.bind_eq_bind, Option.bind_some]
  exact if_pos (by omega)

theorem unserialReq_texte {q : Requete} (h : q.Valide) {width : Nat} (hw : width ≤ 999) (avant : ReqT) :
    unserialReq width hw q.texte avant = livrer width hw q h.nom_len avant := by
  have hnl := h.nom_len
  rw [unserialReq, Requete.texte, sscanf_int_print _ _ _ (by simp), sscanf_lit,
    sscanf_scanset _ _ _ h.nom_sep h.nom_ne (by omega), sscanf_lit]
  by_cases hn : nonspace width (q.infos.dropWhile isspace) = [] <;>
    simp only [setId, toInt_of_inInt h.id_int, sscanf, livrer, lu, hn, if_true, if_false]

theorem recevoir_texte {l : Lecture} {s : List Char} (hs : text l.recu = some s)
    (deSerial : List Char → ReqT → ReqT) (buff : Buf maxBuffer) (quoi : ReqT) :
    recevoir deSerial l buff quoi = some (deSerial s quoi) := by
  have hb : (buff.write l.recu l.recu_length).str = some s := text_append_right hs _
  simp [recevoir, hb]

theorem recevoir_entiere {q : Requete} (h : q.Valide) (deSerial : List Char → ReqT → ReqT) {l : Lecture}
    (hl : l.recu = q.texte ++ [nul]) (buff : Buf maxBuffer) (quoi : ReqT) :
    recevoir deSerial l buff quoi = some (deSerial q.texte quoi) :=
  recevoir_texte (by rw [hl]; exact text_append _ h.texte_nul) deSerial buff quoi

theorem recevoir_sansFin {l : Lecture} (hl : nul ∉ l.recu) (deSerial : List Char → ReqT → ReqT) (quoi : ReqT) :
    recevoir deSerial l (Buf.fill maxBuffer 'x') quoi = none := by
  have hb : ((Buf.fill maxBuffer 'x').write l.recu l.recu_length).str = none := by
    apply text_eq_none.mpr
    intro hm
    rcases List.mem_append.mp hm with hm | hm
    · exact hl hm
    · exact absurd (List.eq_of_mem_replicate (List.mem_of_mem_drop hm)) (by decide)
  simp [recevoir, hb]

theorem setNom_str (s : List Char) (h : s.length ≤ 99) (r : ReqT) (hs : nul ∉ s) :
    (setNom s h r).nom.str = some s :=
  Buf.str_write r.nom hs (by simp only [List.length_append, List.length_singleton]; omega)

theorem setInfos_str (s : List Char) (h : s.length ≤ 999) (r : ReqT) (hs : nul ∉ s) :
    (setInfos s h r).infos.str = some s :=
  Buf.str_write r.infos hs (by simp only [List.length_append, List.length_singleton]; omega)

theorem lu_subset {width : Nat} {s : List Char} {c : Char} (h : c ∈ lu width s) : c ∈ s :=
  (List.dropWhile_sublist _).subset (nonspace_mem h)

def Lecture.entiere (q : Requete) (h : q.Valide) : Lecture :=
  .octets (q.texte ++ [nul]) (by have := h.texte_len; simp only [List.length_append, List.length_singleton]; omega)

@[simp] theorem livrer_id (width : Nat) (hw : width ≤ 999) (q : Requete) (h : q.nom.length ≤ 98) (avant : ReqT) :
    (livrer width hw q h avant).id = q.id := by
  simp only [livrer]
  split <;> rfl

theorem livrer_nom {width : Nat} (hw : width ≤ 999) {q : Requete} (h : q.Valide) (avant : ReqT) :
    (livrer width hw q h.nom_len avant).nom.str = some q.nom := by
  have hl := h.nom_len
  have hs := setNom_str q.nom (by omega) { avant with id := q.id } h.nom_nul
  simp only [livrer]
  split
  · exact hs
  · exact hs

theorem livrer_infos {width : Nat} (hw : width ≤ 999) {q : Requete} (h : q.Valide) (avant : ReqT)
    (hl : lu width q.infos ≠ []) : (livrer width hw q h.nom_len avant).infos.str = some (lu width q.infos) := by
  simp only [livrer, hl, if_false]
  exact setInfos_str _ _ _ fun hn => h.infos_nul (lu_subset hn)

theorem livrer_infos_vide {width : Nat} (hw : width ≤ 999) {q : Requete} (h : q.nom.length ≤ 98) (avant : ReqT)
    (hl : lu width q.infos = []) : (livrer width hw q h avant).infos = avant.infos := by
  simp only [livrer, hl, if_true, setNom]

theorem livrer_infos_val {width : Nat} (hw : width ≤ 999) {q : Requete} (h : q.nom.length ≤ 98) (avant : ReqT)
    (hl : lu width q.infos ≠ []) : (livrer width hw q h avant).infos.val =
      lu width q.infos ++ nul :: avant.infos.val.drop ((lu width q.infos).length + 1) := by
  simp only [livrer, hl, if_false, setInfos, setNom, Buf.write, List.length_append, List.length_singleton,
    List.append_assoc, List.singleton_append]

theorem lu_take {s : List Char} (h : ∀ c ∈ s, isspace c = false) (width : Nat) : lu width s = s.take width := by
  rw [lu, dropWhile_space fun c hc => h c (List.mem_of_mem_head? hc), nonspace_of_all h]

theorem lu_of_all {width : Nat} {s : List Char} (h : ∀ c ∈ s, isspace c = false) (hl : s.length ≤ width) :
    lu width s = s := by
  rw [lu_take h, List.take_of_length_le hl]

theorem recevoir_lu {q : Requete} (h : q.Valide) {width : Nat} (hw : width ≤ 999) {l : Lecture}
    (hl : l.recu = q.texte ++ [nul]) (buff : Buf maxBuffer) (quoi : ReqT) :
    recevoir (unserialReq width hw) l buff quoi = some (livrer width hw q h.nom_len quoi) := by
  rw [recevoir_entiere h _ hl, unserialReq_texte h]

theorem Serveur.recevoir_livrer {q : Requete} (h : q.Valide) (buff : Buf maxBuffer) (quoi : ReqT) :
    recevoir Serveur.unserialReq (Lecture.entiere q h) buff quoi = some (Serveur.livrer q h quoi) :=
  recevoir_lu h _ rfl buff quoi

end Bnbr
