import Bnbr.Requete

namespace Bnbr.Serveur

open CString Decimal Scanf

structure Champs where
  id : Option Int
  nom : Option {s : List Char // s.length ≤ 99}
  infos : Option {s : List Char // s.length ≤ 999}
deriving DecidableEq

def champsLus (width : Nat) (hw : width ≤ 999) (s : List Char) : Champs :=
  sscanf [.int (fun v c => { c with id := some v }), .lit ';',
    .scanset 99 ';' (fun s h c => { c with nom := some ⟨s, h⟩ }), .lit ';',
    .word width (fun s h c => { c with infos := some ⟨s, Nat.le_trans h hw⟩ })] s ⟨none, none, none⟩

theorem largeur : 999 ≤ 999 := Nat.le_refl 999

def champs (s : List Char) : Champs := champsLus 999 largeur s

structure Champs.Suit (avant r : ReqT) (c : Champs) : Prop where
  id : r.id = (c.id.map toInt).getD avant.id
  nom : r.nom.str = c.nom.elim avant.nom.str fun s => some s.1
  infos : r.infos.str = c.infos.elim avant.infos.str fun s => some s.1

def champsSuite : List (Directive Champs) :=
  [.lit ';', .scanset 99 ';' (fun s h c => { c with nom := some ⟨s, h⟩ }), .lit ';',
    .word 999 (fun s h c => { c with infos := some ⟨s, h⟩ })]

theorem champsSuite_id (s : List Char) (c : Champs) : (sscanf champsSuite s c).id = c.id := by
  have h : (sscanf champsSuite s c).id = c.id ∧ (sscanf champsSuite s c).id = c.id := by
    refine sscanf_rel (p := fun _ => True) (R := fun (d e : Champs) => d.id = c.id ∧ e.id = c.id) ?_
      (fun _ _ => trivial) ⟨rfl, rfl⟩
    exact .cons (.lit _) (.cons (.scanset fun _ _ _ _ _ h => h) (.cons (.lit _)
      (.cons (.word fun _ _ _ _ _ h => h) .nil)))
  exact h.1

theorem champs_sans_id {s : List Char} (h : (champs s).id = none) : (champs s).nom = none := by
  cases hs : scan s with
  | none => simp [champs, champsLus, sscanf, hs]
  | some p =>
    exfalso
    have hc : champs s = sscanf champsSuite p.2 ⟨some p.1, none, none⟩ := by
      rw [champs, champsLus, sscanf, hs]
      rfl
    rw [hc, champsSuite_id] at h
    cases h

theorem unserialReq_lus {width : Nat} (hw : width ≤ 999) {s : List Char} (hs : nul ∉ s) (avant : ReqT) :
    (champsLus width hw s).Suit avant (Bnbr.unserialReq width hw s avant) := by
  refine sscanf_rel (p := (· ≠ nul)) (R := fun r c => Champs.Suit avant r c) ?_
    (fun a ha he => hs (he ▸ ha)) ⟨rfl, rfl, rfl⟩
  refine .cons (.int ?_) (.cons (.lit _) (.cons (.scanset ?_) (.cons (.lit _) (.cons (.word ?_) .nil))))
  · intro v r c h
    exact ⟨rfl, h.nom, h.infos⟩
  · intro l hl r c hp h
    exact ⟨h.id, setNom_str l hl r fun hn => hp _ hn rfl, h.infos⟩
  · intro l hl r c hp h
    exact ⟨h.id, h.nom, setInfos_str l (hl.trans hw) r fun hn => hp _ hn rfl⟩

theorem unserialReq_suit {s : List Char} (hs : nul ∉ s) (avant : ReqT) :
    (champs s).Suit avant (unserialReq s avant) := unserialReq_lus largeur hs avant

theorem champs_texte {q : Requete} (h : q.Valide) (hl : lu 999 q.infos ≠ []) :
    (champs q.texte).id = some q.id ∧ (champs q.texte).nom.map Subtype.val = some q.nom ∧
      (champs q.texte).infos.map Subtype.val = some (lu 999 q.infos) := by
  have hnl := h.nom_len
  have hl' : nonspace 999 (q.infos.dropWhile isspace) ≠ [] := hl
  rw [champs, champsLus, Requete.texte, sscanf_int_print _ _ _ (by simp), sscanf_lit,
    sscanf_scanset _ _ _ h.nom_sep h.nom_ne (by omega), sscanf_lit]
  simp only [sscanf, hl', if_false, lu, Option.map_some, and_self]

end Bnbr.Serveur
