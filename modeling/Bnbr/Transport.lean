import Mathlib.Data.List.Forall2
import Mathlib.Logic.Relation
import Bnbr.Clib.Frames
import Bnbr.Requete

namespace Bnbr

open CString Decimal Frames Scanf

structure Liaison where
  envoyees : List ReqT
  attente : List Char
  recues : List (Option ReqT)

inductive Evenement
  | envoi (req : ReqT)
  | lecture (n : Nat) (buff : Buf maxBuffer) (quoi : ReqT)

structure Meme (a b : ReqT) : Prop where
  id : b.id = a.id
  nom : b.nom.str = a.nom.str
  infos : b.infos.str = a.infos.str

structure Fidele (width : Nat) (hw : width ≤ 999) (req : ReqT) (s : List Char) : Prop where
  texte : serialReq req = some s
  place : s.length + 1 ≤ maxBuffer
  relue : ∀ avant, Meme req (unserialReq width hw s avant)

inductive Pas (width : Nat) (hw : width ≤ 999) : Liaison → Evenement → Liaison → Prop
  | envoi (l : Liaison) (req : ReqT) (octets : List Char) (hf : ∃ s, Fidele width hw req s)
      (h : envoyer req = some octets) :
      Pas width hw l (.envoi req)
        { l with envoyees := l.envoyees ++ [req], attente := l.attente ++ octets }
  | lecture (l : Liaison) (n : Nat) (buff : Buf maxBuffer) (quoi : ReqT) (h0 : 0 < n)
      (hn : n ≤ l.attente.length) (hm : (l.attente.take n).length ≤ maxBuffer) :
      Pas width hw l (.lecture n buff quoi)
        { l with
          attente := l.attente.drop n
          recues := l.recues ++ [recevoir (unserialReq width hw) (.octets (l.attente.take n) hm) buff quoi] }

def Liaison.Transmise (l : Liaison) : Prop :=
  ∃ lues reste, l.envoyees = lues ++ reste ∧ List.Forall₂ (fun a o => ∃ b, o = some b ∧ Meme a b) lues l.recues

def Liaison.EnAttente (l : Liaison) : Prop :=
  ∃ textes, List.Forall₂ (fun req s => serialReq req = some s) (l.envoyees.drop l.recues.length) textes ∧
    l.attente = frames nul textes

def Evenement.Entier (l : Liaison) : Evenement → Prop
  | .envoi _ => True
  | .lecture n _ _ => n = first nul l.attente

def Liaison.vide : Liaison := ⟨[], [], []⟩

def Course (width : Nat) (hw : width ≤ 999) : Liaison → Liaison → Prop :=
  Relation.ReflTransGen fun l l' => ∃ e, Pas width hw l e l'

def CourseEntiere (width : Nat) (hw : width ≤ 999) : Liaison → Liaison → Prop :=
  Relation.ReflTransGen fun l l' => ∃ e, e.Entier l ∧ Pas width hw l e l'

theorem serialReq_nul {req : ReqT} {s : List Char} (h : serialReq req = some s) : nul ∉ s := by
  simp only [serialReq, Option.bind_eq_bind, Option.bind_eq_some_iff, Option.some.injEq] at h
  obtain ⟨nom, hnom, infos, hinfos, rfl⟩ := h
  have hs : nul ≠ ';' := by decide
  simp only [Requete.texte, List.mem_append, List.mem_cons, not_or]
  exact ⟨nul_notMem_print _, hs, text_nul_notMem hnom, hs, text_nul_notMem hinfos⟩

theorem Fidele.envoyer {width : Nat} {hw : width ≤ 999} {req : ReqT} {s octets : List Char}
    (hf : Fidele width hw req s) (h : envoyer req = some octets) : octets = s ++ [nul] := by
  simp only [Bnbr.envoyer, hf.texte, Option.bind_eq_bind, Option.bind_some, if_pos hf.place,
    Option.some.injEq] at h
  exact h.symm

structure Alignee (width : Nat) (hw : width ≤ 999) (l : Liaison) (lues reste : List ReqT)
    (textes : List (List Char)) : Prop where
  envoyees : l.envoyees = lues ++ reste
  recues : List.Forall₂ (fun a o => ∃ b, o = some b ∧ Meme a b) lues l.recues
  fideles : List.Forall₂ (Fidele width hw) reste textes
  attente : l.attente = frames nul textes

theorem Alignee.envoi {width : Nat} {hw : width ≤ 999} {l : Liaison} {lues reste : List ReqT}
    {textes : List (List Char)} (h : Alignee width hw l lues reste textes) {req : ReqT} {s octets : List Char}
    (hf : Fidele width hw req s) (he : envoyer req = some octets) :
    Alignee width hw { l with envoyees := l.envoyees ++ [req], attente := l.attente ++ octets } lues
      (reste ++ [req]) (textes ++ [s]) where
  envoyees := by simp only [h.envoyees, List.append_assoc]
  recues := h.recues
  fideles := List.rel_append h.fideles (.cons hf .nil)
  attente := by simp only [h.attente, hf.envoyer he, frames_append, frames_singleton]

theorem Alignee.lecture {width : Nat} {hw : width ≤ 999} {l : Liaison} {lues reste : List ReqT}
    {textes : List (List Char)} (h : Alignee width hw l lues reste textes) {n : Nat} (h0 : 0 < n)
    (hl : n ≤ l.attente.length) (hn : n = first nul l.attente) (hm : (l.attente.take n).length ≤ maxBuffer)
    (buff : Buf maxBuffer) (quoi : ReqT) :
    ∃ lues' reste' textes', Alignee width hw
      { l with
        attente := l.attente.drop n
        recues := l.recues ++ [recevoir (unserialReq width hw) (.octets (l.attente.take n) hm) buff quoi] }
      lues' reste' textes' := by
  have hatt := h.attente
  cases h.fideles with
  | nil =>
    rw [hatt, frames_nil] at hl
    simp only [List.length_nil] at hl
    omega
  | @cons req s reste textes hf hfs =>
    have hnul := serialReq_nul hf.texte
    have htake : l.attente.take n = s ++ [nul] := by rw [hn, hatt, take_first hnul]
    have hrecu : recevoir (unserialReq width hw) (.octets (l.attente.take n) hm) buff quoi =
        some (unserialReq width hw s quoi) :=
      recevoir_texte (by rw [Lecture.recu, htake]; exact text_append _ hnul) _ _ _
    refine ⟨lues ++ [req], reste, textes, ?_, ?_, hfs, ?_⟩
    · simp only [h.envoyees, List.append_assoc, List.singleton_append]
    · exact List.rel_append h.recues (.cons ⟨_, hrecu, hf.relue quoi⟩ .nil)
    · simp only [hn, hatt, drop_first hnul]

theorem CourseEntiere.alignee {width : Nat} {hw : width ≤ 999} {l : Liaison}
    (h : CourseEntiere width hw .vide l) : ∃ lues reste textes, Alignee width hw l lues reste textes := by
  induction h with
  | refl => exact ⟨[], [], [], rfl, .nil, .nil, rfl⟩
  | tail _ hstep ih =>
    obtain ⟨lues, reste, textes, ha⟩ := ih
    obtain ⟨e, hentier, hpas⟩ := hstep
    cases hpas with
    | envoi req octets hf he =>
      obtain ⟨s, hf⟩ := hf
      exact ⟨_, _, _, ha.envoi hf he⟩
    | lecture n buff quoi h0 hn hm => exact ha.lecture h0 hn hentier hm buff quoi

theorem fidele_formatReq {q : Requete} (h : q.Valide) {width : Nat} (hw : width ≤ 999)
    (hl : lu width q.infos = q.infos) (hne : q.infos ≠ []) (avant : ReqT) :
    Fidele width hw (formatReq avant q) q.texte where
  texte := serialReq_formatReq h avant
  place := by have := h.texte_len; omega
  relue := fun quoi => by
    rw [unserialReq_texte h]
    refine ⟨livrer_id _ _ _ _ _, ?_, ?_⟩
    · rw [livrer_nom _ h, formatReq_nom h]
    · rw [livrer_infos _ h _ (by rw [hl]; exact hne), formatReq_infos h, hl]

def reqSur (q : Requete) : ReqT := formatReq ⟨0, Buf.fill 100 'x', Buf.fill 1000 'x'⟩ q

def demandeGo : Requete := ⟨5, ['g', 'o'], ['g', 'o']⟩

def annoncePlateau : Requete := ⟨2, ['p', 'l', 'a', 't', 'e', 'a', 'u'], List.replicate 16 '0'⟩

theorem demandeGo_fidele : Fidele 99 (by decide) (reqSur demandeGo) demandeGo.texte :=
  fidele_formatReq (by constructor <;> decide) (by decide) (by decide) (by decide) _

theorem annoncePlateau_fidele : Fidele 99 (by decide) (reqSur annoncePlateau) annoncePlateau.texte :=
  fidele_formatReq (by constructor <;> decide) (by decide) (by decide) (by decide) _

theorem demandeGo_envoyee : envoyer (reqSur demandeGo) = some (demandeGo.texte ++ [nul]) :=
  envoyer_formatReq (by constructor <;> decide) _

theorem annoncePlateau_envoyee : envoyer (reqSur annoncePlateau) = some (annoncePlateau.texte ++ [nul]) :=
  envoyer_formatReq (by constructor <;> decide) _

theorem annoncePlateau_relue (l : Lecture) (h : text l.recu = some annoncePlateau.texte) (buff : Buf maxBuffer)
    (quoi : ReqT) : ∃ r, recevoir (unserialReq 99 (by decide)) l buff quoi = some r ∧ r.id = 2 :=
  ⟨_, recevoir_texte h _ buff quoi, (annoncePlateau_fidele.relue quoi).id⟩

theorem Alignee.enAttente {width : Nat} {hw : width ≤ 999} {l : Liaison} {lues reste : List ReqT}
    {textes : List (List Char)} (h : Alignee width hw l lues reste textes) : l.EnAttente := by
  refine ⟨textes, ?_, h.attente⟩
  rw [h.envoyees, ← h.recues.length_eq, List.drop_left]
  exact h.fideles.imp fun _ _ hf => hf.texte

theorem transport_trames (width : Nat) (hw : width ≤ 999) (l : Liaison) (h : CourseEntiere width hw .vide l) :
    l.Transmise ∧ l.EnAttente := by
  obtain ⟨lues, reste, textes, ha⟩ := h.alignee
  exact ⟨⟨lues, reste, ha.envoyees, ha.recues⟩, ha.enAttente⟩

theorem CourseEntiere.pas {width : Nat} {hw : width ≤ 999} {a b c : Liaison} {e : Evenement}
    (h : CourseEntiere width hw a b) (hp : Pas width hw b e c) (he : e.Entier b) : CourseEntiere width hw a c :=
  Relation.ReflTransGen.tail h ⟨e, he, hp⟩

theorem transport_trames_deux : ∃ l, CourseEntiere 99 (by decide) .vide l ∧
    l.envoyees = [reqSur annoncePlateau, reqSur demandeGo] ∧ l.recues.length = 2 ∧ l.Transmise ∧ l.EnAttente := by
  have hw : 99 ≤ 999 := by decide
  let a := reqSur annoncePlateau
  let b := reqSur demandeGo
  let ta := annoncePlateau.texte ++ [nul]
  let tb := demandeGo.texte ++ [nul]
  let buff : Buf maxBuffer := Buf.fill _ nul
  have ha : ((ta ++ tb).take 27).length ≤ maxBuffer := by decide
  have hb : (tb.take 8).length ≤ maxBuffer := by decide
  let o₁ := recevoir (unserialReq 99 hw) (.octets ((ta ++ tb).take 27) ha) buff a
  let o₂ := recevoir (unserialReq 99 hw) (.octets (tb.take 8) hb) buff a
  have h1 : Pas 99 hw .vide (.envoi a) ⟨[a], ta, []⟩ :=
    Pas.envoi .vide a ta ⟨_, annoncePlateau_fidele⟩ annoncePlateau_envoyee
  have h2 : Pas 99 hw ⟨[a], ta, []⟩ (.envoi b) ⟨[a, b], ta ++ tb, []⟩ :=
    Pas.envoi ⟨[a], ta, []⟩ b tb ⟨_, demandeGo_fidele⟩ demandeGo_envoyee
  have h3 : Pas 99 hw ⟨[a, b], ta ++ tb, []⟩ (.lecture 27 buff a) ⟨[a, b], (ta ++ tb).drop 27, [o₁]⟩ :=
    Pas.lecture ⟨[a, b], ta ++ tb, []⟩ 27 buff a (by decide) (by decide) ha
  have hdrop : (ta ++ tb).drop 27 = tb := by decide
  rw [hdrop] at h3
  have h4 : Pas 99 hw ⟨[a, b], tb, [o₁]⟩ (.lecture 8 buff a) ⟨[a, b], tb.drop 8, [o₁, o₂]⟩ :=
    Pas.lecture ⟨[a, b], tb, [o₁]⟩ 8 buff a (by decide) (show 8 ≤ tb.length by decide) hb
  have he3 : 27 = first nul (ta ++ tb) := by decide
  have he4 : 8 = first nul tb := by decide
  have hc := (((CourseEntiere.pas .refl h1 trivial).pas h2 trivial).pas h3 he3).pas h4 he4
  exact ⟨_, hc, rfl, rfl, transport_trames 99 hw _ hc⟩

theorem Course.pas {width : Nat} {hw : width ≤ 999} {a b c : Liaison} {e : Evenement} (h : Course width hw a b)
    (hp : Pas width hw b e c) : Course width hw a c := Relation.ReflTransGen.tail h ⟨e, hp⟩

def groupees (o₁ o₂ : Option ReqT) : Liaison :=
  ⟨[reqSur annoncePlateau, reqSur demandeGo, reqSur annoncePlateau], [], [o₁, o₂]⟩

theorem groupees_non_transmise {o₁ o₂ : Option ReqT} (h : ∀ r, o₂ = some r → r.id = 2) :
    ¬ (groupees o₁ o₂).Transmise := by
  rintro ⟨lues, reste, he, hf⟩
  cases hf with
  | cons _ hf =>
    cases hf with
    | cons h₂ hf =>
      cases hf
      obtain ⟨b, hb, hm⟩ := h₂
      simp only [groupees, List.cons_append, List.nil_append, List.cons.injEq] at he
      have h5 : b.id = 5 := by rw [hm.id, ← he.2.1]; rfl
      have h2 := h b hb
      omega

theorem course_groupees (buff : Buf maxBuffer) (quoi : ReqT) :
    ∃ o₁ o₂, Course 99 (by decide) .vide (groupees o₁ o₂) ∧ ∀ r, o₂ = some r → r.id = 2 := by
  have hw : 99 ≤ 999 := by decide
  let a := reqSur annoncePlateau
  let b := reqSur demandeGo
  let ta := annoncePlateau.texte ++ [nul]
  let tb := demandeGo.texte ++ [nul]
  have hab : ((ta ++ tb).take 35).length ≤ maxBuffer := by decide
  have ha : (ta.take 27).length ≤ maxBuffer := by decide
  -- one read takes both requests and only the first is parsed
  let o₁ := recevoir (unserialReq 99 hw) (.octets ((ta ++ tb).take 35) hab) buff quoi
  let o₂ := recevoir (unserialReq 99 hw) (.octets (ta.take 27) ha) buff quoi
  have h1 : Pas 99 hw .vide (.envoi a) ⟨[a], ta, []⟩ :=
    Pas.envoi .vide a ta ⟨_, annoncePlateau_fidele⟩ annoncePlateau_envoyee
  have h2 : Pas 99 hw ⟨[a], ta, []⟩ (.envoi b) ⟨[a, b], ta ++ tb, []⟩ :=
    Pas.envoi ⟨[a], ta, []⟩ b tb ⟨_, demandeGo_fidele⟩ demandeGo_envoyee
  have h3 : Pas 99 hw ⟨[a, b], ta ++ tb, []⟩ (.lecture 35 buff quoi) ⟨[a, b], (ta ++ tb).drop 35, [o₁]⟩ :=
    Pas.lecture ⟨[a, b], ta ++ tb, []⟩ 35 buff quoi (by decide) (by decide) hab
  have hdrop : (ta ++ tb).drop 35 = [] := by decide
  rw [hdrop] at h3
  have h4 : Pas 99 hw ⟨[a, b], [], [o₁]⟩ (.envoi a) ⟨[a, b, a], ta, [o₁]⟩ :=
    Pas.envoi ⟨[a, b], [], [o₁]⟩ a ta ⟨_, annoncePlateau_fidele⟩ annoncePlateau_envoyee
  have h5 : Pas 99 hw ⟨[a, b, a], ta, [o₁]⟩ (.lecture 27 buff quoi) ⟨[a, b, a], ta.drop 27, [o₁, o₂]⟩ :=
    Pas.lecture ⟨[a, b, a], ta, [o₁]⟩ 27 buff quoi (by decide) (show 27 ≤ ta.length by decide) ha
  have hdrop' : ta.drop 27 = [] := by decide
  rw [hdrop'] at h5
  refine ⟨o₁, o₂, ((((Course.pas .refl h1).pas h2).pas h3).pas h4).pas h5, fun r hr => ?_⟩
  have htext : text ((ta.take 27 : List Char)) = some annoncePlateau.texte := by
    have htake : ta.take 27 = annoncePlateau.texte ++ [nul] := by decide
    rw [htake]
    exact text_append _ (serialReq_nul annoncePlateau_fidele.texte)
  obtain ⟨r', hr', hid⟩ := annoncePlateau_relue (.octets (ta.take 27) ha) htext buff quoi
  have : some r = some r' := by rw [← hr, ← hr']
  rw [Option.some.inj this, hid]

theorem lectures_groupees : ∃ l, Course 99 (by decide) .vide l ∧ ¬ l.Transmise := by
  obtain ⟨o₁, o₂, hc, hid⟩ := course_groupees (Buf.fill _ nul) (reqSur demandeGo)
  exact ⟨_, hc, groupees_non_transmise hid⟩

end Bnbr
