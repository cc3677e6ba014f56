import Bnbr.Clib.Layout
import Bnbr.FinCommune

namespace Bnbr

open CString Decimal Layout

def tailleReqT : Nat := 1104

-- the bytes of a req_t: int id, char nom[100], char infos[1000]
def ReqT.octets (o : Order) (r : ReqT) : Buf tailleReqT :=
  ⟨writeInt o 4 r.id ++ (r.nom.val ++ r.infos.val), by
    simp only [List.length_append, writeInt_length, r.nom.property, r.infos.property, tailleReqT]⟩

def ReqT.deOctets (o : Order) (m : Buf tailleReqT) : ReqT where
  id := readInt o (m.val.take 4)
  nom := ⟨(m.val.drop 4).take 100, by
    simp only [List.length_take, List.length_drop, m.property, tailleReqT]
    omega⟩
  infos := ⟨m.val.drop 104, by simp only [List.length_drop, m.property, tailleReqT]⟩

theorem ReqT.deOctets_octets (o : Order) {r : ReqT} (h : InInt r.id) : ReqT.deOctets o (r.octets o) = r := by
  obtain ⟨id, nom, infos⟩ := r
  obtain ⟨h0, h1⟩ := h
  simp only at h0 h1
  have hid : readInt o (writeInt o 4 id) = id := readInt_writeInt o (by omega) (by omega)
  have hl := writeInt_length o 4 id
  simp only [ReqT.deOctets, ReqT.octets, ReqT.mk.injEq]
  refine ⟨?_, Subtype.ext ?_, Subtype.ext ?_⟩
  · rw [List.take_left' hl, hid]
  · simp only
    rw [List.drop_left' hl, List.take_left' nom.property]
  · simp only
    rw [← List.append_assoc, List.drop_left' (by rw [List.length_append, hl, nom.property])]

-- serial_req on any memory taken for a req_t: %s goes on to the next terminator
def serialReqMemoire (o : Order) (m : List Char) : Option (List Char) := do
  let nom ← text (m.drop 4)
  let infos ← text (m.drop 104)
  some (Requete.texte ⟨readInt o (m.take 4), nom, infos⟩)

theorem serialReqMemoire_octets (o : Order) {r : ReqT} (h : InInt r.id) {s : List Char} (hs : serialReq r = some s) :
    serialReqMemoire o (r.octets o).val = some s := by
  have hr := ReqT.deOctets_octets o h
  simp only [serialReq, Option.bind_eq_bind, Option.bind_eq_some_iff] at hs
  obtain ⟨nom, hnom, infos, hinfos, hs⟩ := hs
  have hl := writeInt_length o 4 r.id
  have h4 : (r.octets o).val.drop 4 = r.nom.val ++ r.infos.val := List.drop_left' hl
  have h104 : (r.octets o).val.drop 104 = r.infos.val := congrArg (fun r => r.infos.val) hr
  have hid : readInt o ((r.octets o).val.take 4) = r.id := congrArg ReqT.id hr
  simp only [serialReqMemoire, h4, h104, hid, text_append_right hnom, show text r.infos.val = some infos from hinfos,
    Option.bind_eq_bind, Option.bind_some]
  exact hs

namespace Client

-- recevoir(client_socket, &reception, serial_req): the buffer is read as a req_t, the text written on reception
def recevoirSerial (o : Order) (l : Lecture) (buff : Buf maxBuffer) (reception : ReqT) : Option ReqT := do
  let s ← serialReqMemoire o (buff.write l.recu l.recu_length).val
  let m ← (reception.octets o).strcpy s
  some (ReqT.deOctets o m)

def txtMessageGo : List Char := ['5', ';', 'g', 'o', ';', 'g', 'o']

theorem requeteGo_texte : Serveur.requeteGo.texte = txtMessageGo := by decide

-- "5;go" as an int, then the first four digits of that int as an int
def idDuMort : Order → Int
  | .little => 959854641
  | .big => 943272752

theorem recevoirSerial_go {o : Order} {l : Lecture} (hl : l.recu = Serveur.requeteGo.texte ++ [nul])
    {buff : Buf maxBuffer} {reception r : ReqT} (h : recevoirSerial o l buff reception = some r) :
    r.id = idDuMort o := by
  simp only [recevoirSerial, serialReqMemoire, Option.bind_eq_bind, Option.bind_eq_some_iff, Option.some.injEq] at h
  obtain ⟨s, ⟨nom, -, infos, -, rfl⟩, m, hm, rfl⟩ := h
  have hmem : (buff.write l.recu l.recu_length).val.take 4 = ['5', ';', 'g', 'o'] := by
    simp only [Buf.write, hl, requeteGo_texte]
    rfl
  rw [hmem] at hm
  simp only [Buf.strcpy] at hm
  split at hm
  · obtain rfl := Option.some.inj hm
    simp only [ReqT.deOctets, Buf.write, Requete.texte, List.append_assoc]
    cases o with
    | little =>
      have hp : print (readInt .little ['5', ';', 'g', 'o']) = ['1', '8', '6', '9', '0', '3', '6', '3', '4', '1'] := by
        decide
      rw [hp]
      show readInt .little ['1', '8', '6', '9'] = 959854641
      decide
    | big =>
      have hp : print (readInt .big ['5', ';', 'g', 'o']) = ['8', '9', '3', '0', '8', '5', '5', '5', '1'] := by
        decide
      rw [hp]
      show readInt .big ['8', '9', '3', '0'] = 943272752
      decide
  · cases hm

theorem text_length {s t : List Char} (h : text s = some t) : t.length + 1 ≤ s.length := by
  obtain ⟨-, u, rfl⟩ := text_eq_some.mp h
  rw [List.length_append, List.length_cons]
  omega

theorem text_of_mem {s : List Char} (h : nul ∈ s) : ∃ t, text s = some t := by
  cases ht : text s with
  | none => exact absurd h (text_eq_none.mp ht)
  | some t => exact ⟨t, rfl⟩

theorem write_go {l : Lecture} (hl : l.recu = Serveur.requeteGo.texte ++ [nul]) (buff : Buf maxBuffer) :
    (buff.write l.recu l.recu_length).val = txtMessageGo ++ nul :: buff.val.drop 8 := by
  simp only [Buf.write, hl, requeteGo_texte, List.append_assoc]
  rfl

theorem serialReqMemoire_go (o : Order) {suite infos : List Char} (hi : text (suite.drop 96) = some infos) :
    serialReqMemoire o (txtMessageGo ++ nul :: suite) =
      some (Requete.texte ⟨readInt o ['5', ';', 'g', 'o'], [';', 'g', 'o'], infos⟩) := by
  have hnom : text ((txtMessageGo ++ nul :: suite).drop 4) = some [';', 'g', 'o'] :=
    text_append (s := [';', 'g', 'o']) _ (by decide)
  have hdrop : (txtMessageGo ++ nul :: suite).drop 104 = suite.drop 96 := rfl
  have hid : (txtMessageGo ++ nul :: suite).take 4 = ['5', ';', 'g', 'o'] := rfl
  simp only [serialReqMemoire, hnom, hdrop, hid, hi, Option.bind_eq_bind, Option.bind_some]

theorem texte_go_length (o : Order) {infos : List Char} (h : infos.length + 1 ≤ 920) :
    (Requete.texte ⟨readInt o ['5', ';', 'g', 'o'], [';', 'g', 'o'], infos⟩).length + 1 ≤ tailleReqT := by
  have hid : (print (readInt o ['5', ';', 'g', 'o'])).length ≤ 11 := by
    cases o <;> decide
  simp only [Requete.texte, List.length_append, List.length_cons, List.length_nil, tailleReqT]
  omega

-- the read stays in the buffer when a terminator follows the field nom, and the write always stays in reception
theorem recevoirSerial_defini (o : Order) {l : Lecture} (hl : l.recu = Serveur.requeteGo.texte ++ [nul])
    {buff : Buf maxBuffer} (hb : nul ∈ buff.val.drop 104) (reception : ReqT) :
    ∃ r, recevoirSerial o l buff reception = some r := by
  obtain ⟨infos, hinfos⟩ := text_of_mem hb
  have hlen := text_length hinfos
  rw [List.length_drop, buff.property, maxBuffer] at hlen
  have hsuite : text ((buff.val.drop 8).drop 96) = some infos := by
    rw [List.drop_drop]
    exact hinfos
  obtain ⟨m, hm, -⟩ := (reception.octets o).strcpy_of_le (texte_go_length o hlen)
  refine ⟨ReqT.deOctets o m, ?_⟩
  rw [recevoirSerial, write_go hl, serialReqMemoire_go o hsuite, Option.bind_eq_bind, Option.bind_some, hm]
  rfl

theorem recevoir_go {l : Lecture} (hl : l.recu = Serveur.requeteGo.texte ++ [nul]) (buff : Buf maxBuffer)
    (reception : ReqT) : ∃ r, recevoir Client.unserialReq l buff reception = some r ∧ r.id = 5 ∧
      r.nom.str = some Serveur.txtGo :=
  ⟨_, recevoir_lu Serveur.requeteGo_valide (by omega) hl buff reception, livrer_id _ _ _ _ _,
    livrer_nom _ Serveur.requeteGo_valide reception⟩

-- what the sunk branch of jouer_partie leaves in its reception, beside what jouer_coup leaves in its own
def LitPareil (o : Order) (l : Lecture) (buff buff' : Buf maxBuffer) (reception reception' : ReqT) : Prop :=
  ∃ r r', recevoir Client.unserialReq l buff reception = some r ∧ recevoirSerial o l buff' reception' = some r' ∧
    r'.id = r.id ∧ r'.nom.str = r.nom.str

theorem LitPareil.pas_go {o : Order} {l : Lecture} (hl : l.recu = Serveur.requeteGo.texte ++ [nul])
    (buff buff' : Buf maxBuffer) (reception reception' : ReqT) : ¬ LitPareil o l buff buff' reception reception' := by
  rintro ⟨r, r', hr, hr', he, -⟩
  obtain ⟨a, ha, hid, -⟩ := recevoir_go hl buff reception
  obtain rfl := Option.some.inj (ha.symm.trans hr)
  rw [recevoirSerial_go hl hr', hid] at he
  cases o with
  | little => exact absurd he (by decide)
  | big => exact absurd he (by decide)

theorem mort_lit_autrement (o : Order) (avant : ReqT) (l : Lecture)
    (hl : envoyer (formatReq avant Serveur.requeteGo) = some l.recu) (buff buff' : Buf maxBuffer)
    (reception reception' : ReqT) :
    (∃ r, recevoir Client.unserialReq l buff reception = some r ∧ r.id = 5 ∧ r.nom.str = some Serveur.txtGo) ∧
    (nul ∈ buff'.val.drop 104 → ∃ r', recevoirSerial o l buff' reception' = some r') ∧
    (∀ r', recevoirSerial o l buff' reception' = some r' → r'.id = idDuMort o) ∧
    ¬ LitPareil o l buff buff' reception reception' := by
  rw [envoyer_formatReq Serveur.requeteGo_valide] at hl
  have hl' := (Option.some.inj hl).symm
  exact ⟨recevoir_go hl' buff reception, fun hb => recevoirSerial_defini o hl' hb reception',
    fun r' hr' => recevoirSerial_go hl' hr', LitPareil.pas_go hl' buff buff' reception reception'⟩

def lectureGo : Lecture := Lecture.entiere Serveur.requeteGo Serveur.requeteGo_valide

theorem mort_lit_autrement_go :
    envoyer (formatReq Serveur.reqVierge Serveur.requeteGo) = some lectureGo.recu ∧
    ∃ r', recevoirSerial .little lectureGo (Buf.fill maxBuffer nul) Serveur.reqVierge = some r' ∧
      r'.id = idDuMort .little := by
  have hl : envoyer (formatReq Serveur.reqVierge Serveur.requeteGo) = some lectureGo.recu :=
    envoyer_formatReq Serveur.requeteGo_valide Serveur.reqVierge
  obtain ⟨-, hdef, hid, -⟩ := mort_lit_autrement .little Serveur.reqVierge lectureGo hl (Buf.fill maxBuffer nul)
    (Buf.fill maxBuffer nul) Serveur.reqVierge Serveur.reqVierge
  obtain ⟨r', hr'⟩ := hdef (by decide)
  exact ⟨hl, r', hr', hid r' hr'⟩

theorem go_mal_lu :
    (∃ r', recevoirSerial .little lectureGo (Buf.fill maxBuffer nul) Serveur.reqVierge = some r' ∧
      r'.id = 959854641) ∧
    ¬ LitPareil .little lectureGo (Buf.fill maxBuffer nul) (Buf.fill maxBuffer nul) Serveur.reqVierge
      Serveur.reqVierge := by
  have hb : nul ∈ (Buf.fill maxBuffer nul).val.drop 104 := by decide
  have hl : lectureGo.recu = Serveur.requeteGo.texte ++ [nul] := rfl
  obtain ⟨r', hr'⟩ := recevoirSerial_defini .little hl hb Serveur.reqVierge
  exact ⟨⟨r', hr', recevoirSerial_go hl hr'⟩, LitPareil.pas_go hl _ _ _ _⟩

end Client

end Bnbr
