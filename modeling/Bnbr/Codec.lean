import Bnbr.Champs

namespace Bnbr

open CString Decimal Scanf Serveur

structure Requete.Lisible (width : Nat) (q : Requete) : Prop where
  id_int : InInt q.id
  nom_ne : q.nom ≠ []
  nom_sep : ';' ∉ q.nom
  nom_nul : nul ∉ q.nom
  nom_len : q.nom.length ≤ 99
  infos_ne : q.infos ≠ []
  infos_mot : ∀ c ∈ q.infos, isspace c = false
  infos_nul : nul ∉ q.infos
  infos_len : q.infos.length ≤ width
  texte_len : q.texte.length < maxBuffer

theorem Requete.Lisible.texte_nul {width : Nat} {q : Requete} (h : q.Lisible width) : nul ∉ q.texte := by
  have hs : nul ≠ ';' := by decide
  simp only [Requete.texte, List.mem_append, List.mem_cons, not_or]
  exact ⟨nul_notMem_print _, hs, h.nom_nul, hs, h.infos_nul⟩

theorem sscanf_word {σ : Type} {w : Nat} (set : (s : List Char) → s.length ≤ w → σ → σ) {s : List Char}
    (hs : ∀ c ∈ s, isspace c = false) (hne : s ≠ []) (hw : s.length ≤ w) (st : σ) :
    sscanf [.word w set] s st = set s hw st := by
  have hu : nonspace w (s.dropWhile isspace) = s := by
    rw [dropWhile_space fun c hc => hs c (List.mem_of_mem_head? hc), nonspace_of_all hs, List.take_of_length_le hw]
  simp only [sscanf, hu, hne, if_false]

theorem unserialReq_lisible {q : Requete} {width : Nat} (h : q.Lisible width) (hw : width ≤ 999) (avant : ReqT) :
    Bnbr.unserialReq width hw q.texte avant =
      setInfos q.infos (h.infos_len.trans hw) (setNom q.nom h.nom_len { avant with id := q.id }) := by
  rw [Bnbr.unserialReq, Requete.texte, sscanf_int_print _ _ _ (by simp), sscanf_lit,
    sscanf_scanset _ _ _ h.nom_sep h.nom_ne h.nom_len, sscanf_lit, sscanf_word _ h.infos_mot h.infos_ne h.infos_len,
    setId, toInt_of_inInt h.id_int]

structure Rend (q : Requete) (r : ReqT) : Prop where
  id : r.id = q.id
  nom : r.nom.str = some q.nom
  infos : r.infos.str = some q.infos

theorem Requete.Lisible.rend {q : Requete} {width : Nat} (h : q.Lisible width) (hw : width ≤ 999) (avant : ReqT) :
    Rend q (Bnbr.unserialReq width hw q.texte avant) := by
  rw [unserialReq_lisible h hw]
  exact ⟨rfl, setNom_str _ h.nom_len _ h.nom_nul, setInfos_str _ (h.infos_len.trans hw) _ h.infos_nul⟩

def Transmet (deSerial : List Char → ReqT → ReqT) (req : ReqT) (q : Requete) : Prop :=
  ∃ octets, envoyer req = some octets ∧ ∀ (l : Lecture) (buff : Buf maxBuffer) (quoi : ReqT), l.recu = octets →
    ∃ r, recevoir deSerial l buff quoi = some r ∧ Rend q r

theorem Rend.transmet {req : ReqT} {q : Requete} {width : Nat} (hr : Rend q req) (h : q.Lisible width)
    (hw : width ≤ 999) : Transmet (Bnbr.unserialReq width hw) req q := by
  have ht := h.texte_len
  have he : envoyer req = some (q.texte ++ [nul]) := by
    simp only [envoyer, serialReq, hr.nom, hr.infos, hr.id, Option.bind_eq_bind, Option.bind_some]
    exact if_pos (show q.texte.length + 1 ≤ maxBuffer by omega)
  refine ⟨_, he, fun l buff quoi hl => ⟨_, ?_, h.rend hw quoi⟩⟩
  exact recevoir_texte (by rw [hl]; exact text_append _ h.texte_nul) _ buff quoi

structure Requete.Formatable (max : Nat) (q : Requete) : Prop where
  id_int : InInt q.id
  nom_ne : q.nom ≠ []
  nom_sep : ';' ∉ q.nom
  nom_nul : nul ∉ q.nom
  nom_len : q.nom.length ≤ 98
  infos_ne : q.infos ≠ []
  infos_mot : ∀ c ∈ q.infos, isspace c = false
  infos_nul : nul ∉ q.infos
  infos_len : q.infos.length ≤ max
  texte_len : q.texte.length ≤ 1023

def Conserve (deSerial : List Char → ReqT → ReqT) (max : Nat) : Prop :=
  ∀ (q : Requete) (avant : ReqT), q.Formatable max → Transmet deSerial (formatReq avant q) q

theorem conserve {width max : Nat} (hw : width ≤ 999) (hm : max ≤ width) (hm' : max ≤ 998) :
    Conserve (Bnbr.unserialReq width hw) max := by
  intro q avant h
  have h1 := h.infos_len
  have h2 := h.nom_len
  have h3 := h.texte_len
  have hl : q.Lisible width := ⟨h.id_int, h.nom_ne, h.nom_sep, h.nom_nul, by omega, h.infos_ne, h.infos_mot,
    h.infos_nul, by omega, by simp only [maxBuffer]; omega⟩
  refine Rend.transmet ⟨rfl, ?_, ?_⟩ hl hw
  · exact Buf.str_strncpy avant.nom (by omega) h.nom_nul (by omega)
  · exact Buf.str_strncpy avant.infos (by omega) h.infos_nul (by omega)

theorem upto_stop {w : Nat} {stop : Char} {s : List Char} : stop ∉ upto w stop s := by
  intro h
  simpa using List.mem_takeWhile_imp h

theorem nonspace_mot {w : Nat} {s : List Char} {c : Char} (h : c ∈ nonspace w s) : isspace c = false := by
  simpa using List.mem_takeWhile_imp h

structure Affecte (width : Nat) (hw : width ≤ 999) (s : List Char) (q : Requete) : Prop where
  id : (champsLus width hw s).id = some q.id
  nom : (champsLus width hw s).nom.map Subtype.val = some q.nom
  infos : (champsLus width hw s).infos.map Subtype.val = some q.infos

structure Decoupe (width : Nat) (s t u : List Char) (q : Requete) : Prop where
  id : scan s = some (q.id, ';' :: t)
  nom : q.nom = upto 99 ';' t
  nom_ne : q.nom ≠ []
  suite : t.drop q.nom.length = ';' :: u
  infos : q.infos = nonspace width (u.dropWhile isspace)
  infos_ne : q.infos ≠ []

theorem Affecte.decoupe {width : Nat} {hw : width ≤ 999} {s : List Char} {q : Requete} (h : Affecte width hw s q) :
    ∃ t u, Decoupe width s t u q := by
  obtain ⟨hid, hnom, hinfos⟩ := h
  rw [champsLus] at hid hnom hinfos
  obtain ⟨v, rest, hs, he⟩ := sscanf_int_inv (f := Champs.id) hid rfl
  rw [he] at hid hnom hinfos
  obtain ⟨t, rfl, he⟩ := sscanf_lit_inv (f := fun c : Champs => c.nom.map Subtype.val) hnom rfl
  rw [he] at hid hnom hinfos
  obtain ⟨hn, he⟩ := sscanf_scanset_inv (f := fun c : Champs => c.nom.map Subtype.val) hnom rfl
  rw [he] at hid hnom hinfos
  obtain ⟨u, hd, he⟩ := sscanf_lit_inv (f := fun c : Champs => c.infos.map Subtype.val) hinfos rfl
  rw [he] at hid hnom hinfos
  obtain ⟨hi, he⟩ := sscanf_word_inv (f := fun c : Champs => c.infos.map Subtype.val) hinfos rfl
  rw [he] at hid hnom hinfos
  simp only [sscanf, Option.map_some, Option.some.injEq] at hid hnom hinfos
  exact ⟨t, u, hid ▸ hs, hnom.symm, hnom ▸ hn, hnom ▸ hd, hinfos.symm, hinfos ▸ hi⟩

theorem Decoupe.mem {width : Nat} {s t u : List Char} {q : Requete} (h : Decoupe width s t u q) :
    (∀ c ∈ q.nom, c ∈ s) ∧ ∀ c ∈ q.infos, c ∈ s := by
  have ht : ∀ c ∈ t, c ∈ s := fun c hc => scan_mem h.id (List.mem_cons_of_mem _ hc)
  have hu : ∀ c ∈ u, c ∈ t := fun c hc => by
    have hd : c ∈ t.drop q.nom.length := h.suite ▸ List.mem_cons_of_mem _ hc
    exact List.mem_of_mem_drop hd
  refine ⟨fun c hc => ht c (upto_mem (h.nom ▸ hc)), fun c hc => ht c (hu c ?_)⟩
  exact (List.dropWhile_sublist _).subset (nonspace_mem (h.infos ▸ hc))

theorem Decoupe.longueur {width : Nat} {s t u : List Char} {q : Requete} (h : Decoupe width s t u q) :
    q.texte.length ≤ s.length := by
  have h1 := scan_length h.id
  have h2 := congrArg List.length h.suite
  have h3 : q.infos.length ≤ u.length := by
    rw [h.infos]
    exact ((List.takeWhile_prefix _).length_le.trans (List.length_take_le' _ _)).trans
      (List.dropWhile_sublist _).length_le
  simp only [List.length_cons, List.length_drop] at h1 h2
  simp only [Requete.texte, List.length_append, List.length_cons]
  omega

theorem Affecte.lisible {width : Nat} {hw : width ≤ 999} {s : List Char} {q : Requete} (h : Affecte width hw s q)
    (hid : InInt q.id) (hnul : nul ∉ s) (hs : s.length < maxBuffer) : q.Lisible width := by
  obtain ⟨t, u, hd⟩ := h.decoupe
  obtain ⟨hnom, hinfos⟩ := hd.mem
  exact ⟨hid, hd.nom_ne, hd.nom ▸ upto_stop, fun hn => hnul (hnom _ hn), hd.nom ▸ upto_length _ _ _, hd.infos_ne,
    fun c hc => nonspace_mot (hd.infos ▸ hc), fun hn => hnul (hinfos _ hn), hd.infos ▸ nonspace_length _ _,
    Nat.lt_of_le_of_lt hd.longueur hs⟩

theorem Affecte.rend {width : Nat} {hw : width ≤ 999} {s : List Char} {q : Requete} (h : Affecte width hw s q)
    (hid : InInt q.id) (hnul : nul ∉ s) (avant : ReqT) : Rend q (Bnbr.unserialReq width hw s avant) := by
  have hsuit := Serveur.unserialReq_lus hw hnul avant
  obtain ⟨nom, hnom, hn⟩ := Option.map_eq_some_iff.mp h.nom
  obtain ⟨infos, hinfos, hi⟩ := Option.map_eq_some_iff.mp h.infos
  refine ⟨?_, ?_, ?_⟩
  · rw [hsuit.id, h.id, Option.map_some, Option.getD_some, toInt_of_inInt hid]
  · rw [hsuit.nom, hnom, ← hn]
    rfl
  · rw [hsuit.infos, hinfos, ← hi]
    rfl

def Stable (deSerial : List Char → ReqT → ReqT) (affecte : List Char → Requete → Prop) : Prop :=
  ∀ (l : Lecture) (s : List Char) (q : Requete) (buff : Buf maxBuffer) (quoi : ReqT), text l.recu = some s →
    affecte s q → InInt q.id → ∃ r, recevoir deSerial l buff quoi = some r ∧ Rend q r ∧ Transmet deSerial r q

theorem stable {width : Nat} (hw : width ≤ 999) : Stable (Bnbr.unserialReq width hw) (Affecte width hw) := by
  intro l s q buff quoi hl h hid
  have hnul := text_nul_notMem hl
  have hs : s.length < maxBuffer := by
    obtain ⟨-, t, ht⟩ := text_eq_some.mp hl
    have := l.recu_length
    rw [ht, List.length_append, List.length_cons] at this
    omega
  have hr := h.rend hid hnul quoi
  exact ⟨_, recevoir_texte hl _ buff quoi, hr, hr.transmet (h.lisible hid hnul hs) hw⟩

theorem Client.largeur : 99 ≤ 999 := by omega

theorem codec_requete : Conserve Serveur.unserialReq 998 ∧ Conserve Client.unserialReq 99 ∧
    Stable Serveur.unserialReq (Affecte 999 Serveur.largeur) ∧ Stable Client.unserialReq (Affecte 99 Client.largeur) :=
  ⟨conserve Serveur.largeur (by omega) (by omega), conserve Client.largeur (by omega) (by omega), stable _, stable _⟩

theorem codec_requete_go : ∃ q : Requete, q.texte = ['5', ';', 'g', 'o', ';', 'g', 'o'] ∧
    (∀ avant, Transmet Serveur.unserialReq (formatReq avant q) q ∧ Transmet Client.unserialReq (formatReq avant q) q) ∧
    ∀ l : Lecture, l.recu = q.texte ++ [nul] → ∀ buff quoi,
      (∃ r, recevoir Serveur.unserialReq l buff quoi = some r ∧ Rend q r ∧ Transmet Serveur.unserialReq r q) ∧
        ∃ r, recevoir Client.unserialReq l buff quoi = some r ∧ Rend q r ∧ Transmet Client.unserialReq r q := by
  obtain ⟨h1, h2, h3, h4⟩ := codec_requete
  have hmot : ∀ c ∈ ['g', 'o'], isspace c = false := by
    intro c hc
    rw [List.mem_pair] at hc
    rcases hc with rfl | rfl <;> rfl
  have hf : (⟨5, ['g', 'o'], ['g', 'o']⟩ : Requete).Formatable 99 :=
    ⟨by decide, by decide, by decide, by decide, by decide, by decide, hmot, by decide, by decide, by decide⟩
  refine ⟨⟨5, ['g', 'o'], ['g', 'o']⟩, by decide, fun avant => ⟨?_, ?_⟩, fun l hl buff quoi => ⟨?_, ?_⟩⟩
  · exact h1 _ avant ⟨hf.id_int, hf.nom_ne, hf.nom_sep, hf.nom_nul, hf.nom_len, hf.infos_ne, hf.infos_mot,
      hf.infos_nul, by decide, hf.texte_len⟩
  · exact h2 _ avant hf
  · exact h3 l _ _ buff quoi (by rw [hl]; exact text_append _ (by decide)) (by constructor <;> rfl) (by decide)
  · exact h4 l _ _ buff quoi (by rw [hl]; exact text_append _ (by decide)) (by constructor <;> rfl) (by decide)

end Bnbr
