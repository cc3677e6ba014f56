import Mathlib.Logic.Function.Iterate
import Bnbr.Clib.Sessions

namespace Sessions

variable {ι M : Type} {C : Contrat ι M} {d : Sens} {p q : ι} {a b : List M} {m : M}

abbrev Echanges (M : Type) := List (Sens × M)

def etiquette (d : Sens) (a : List M) : Echanges M := a.map fun m => (d, m)

@[simp] theorem etiquette_nil (d : Sens) : etiquette d ([] : List M) = [] := rfl

theorem etiquette_cons (d : Sens) (m : M) (a : List M) : etiquette d (m :: a) = (d, m) :: etiquette d a := rfl

theorem etiquette_snoc (d : Sens) (a : List M) (m : M) : etiquette d (a ++ [m]) = etiquette d a ++ [(d, m)] := by
  simp only [etiquette, List.map_append, List.map_cons, List.map_nil]

theorem etiquette_length (d : Sens) (a : List M) : (etiquette d a).length = a.length := List.length_map _

-- the journals of the two ends, and what is on its way between them
inductive Coherent (ja jb : Echanges M) (a b : List M) : Prop
  | avance (h : ja = jb ++ etiquette .aller a) (hb : b = [])
  | retard (h : jb = ja ++ etiquette .retour b) (ha : a = [])

theorem Coherent.envoi {ja jb : Echanges M} (h : Coherent ja jb a []) (m : M) :
    Coherent (ja ++ [(.aller, m)]) jb (a ++ [m]) [] := by
  cases h with
  | avance h hb => exact .avance (by rw [h, etiquette_snoc, List.append_assoc]) rfl
  | retard h ha =>
    rw [etiquette_nil, List.append_nil] at h
    rw [h, ha]
    exact .avance rfl rfl

theorem Coherent.reception {ja jb : Echanges M} (h : Coherent ja jb (m :: a) b) :
    Coherent ja (jb ++ [(.aller, m)]) a b := by
  cases h with
  | avance h hb => exact .avance (by rw [h, etiquette_cons, List.append_assoc, List.singleton_append]) hb
  | retard h ha => cases ha

theorem Coherent.reponse {ja jb : Echanges M} (h : Coherent ja jb [] b) (m : M) :
    Coherent ja (jb ++ [(.retour, m)]) [] (b ++ [m]) := by
  cases h with
  | avance h hb =>
    rw [etiquette_nil, List.append_nil] at h
    rw [h, hb]
    exact .retard rfl rfl
  | retard h ha => exact .retard (by rw [h, etiquette_snoc, List.append_assoc]) rfl

theorem Coherent.lecture {ja jb : Echanges M} (h : Coherent ja jb a (m :: b)) :
    Coherent (ja ++ [(.retour, m)]) jb a b := by
  cases h with
  | avance h hb => cases hb
  | retard h ha => exact .retard (by rw [h, etiquette_cons, List.append_assoc, List.singleton_append]) ha

theorem Coherent.prefixe {ja jb : Echanges M} (h : Coherent ja jb a b) : ja <+: jb ∨ jb <+: ja := by
  cases h with
  | avance h _ => exact .inr ⟨_, h.symm⟩
  | retard h _ => exact .inl ⟨_, h.symm⟩

theorem Coherent.length_le {ja jb : Echanges M} (h : Coherent ja jb a b) : jb.length ≤ ja.length + b.length := by
  cases h with
  | avance h _ =>
    rw [h, List.length_append]
    omega
  | retard h _ => exact Nat.le_of_eq (by rw [h, List.length_append, etiquette_length])

inductive Contrat.Mot (C : Contrat ι M) (k : ι) : ι → Echanges M → Prop
  | nil : Mot C k k []
  | snoc {l : ι} {d : Sens} {m : M} {js : Echanges M} (h : Mot C k l js) (hm : C.Permis d l m) :
      Mot C k (C.suivant l) (js ++ [(d, m)])

variable {k l r : ι} {js : Echanges M}

theorem Contrat.Mot.suite (h : C.Mot k l js) (hs : C.Suite d l r a) : C.Mot k r (js ++ etiquette d a) := by
  induction hs generalizing js with
  | nil l => rwa [etiquette_nil, List.append_nil]
  | cons hm _ ih =>
    have := ih (h.snoc hm)
    rwa [List.append_assoc, List.singleton_append] at this

theorem Contrat.Mot.fin (h : C.Mot k l js) : C.suivant^[js.length] k = l := by
  induction h with
  | nil => rfl
  | snoc _ _ ih => rw [List.length_append, List.length_singleton, Function.iterate_succ_apply', ih]

theorem Contrat.Mot.lettre (h : C.Mot k l js) {n : Nat} {e : Sens × M} (he : js[n]? = some e) :
    C.Permis e.1 (C.suivant^[n] k) e.2 := by
  induction h with
  | nil => simp at he
  | @snoc l d m js h hm ih =>
    rcases Nat.lt_or_ge n js.length with hlt | hge
    · rw [List.getElem?_append_left hlt] at he
      exact ih he
    · rw [List.getElem?_append_right hge, List.getElem?_singleton] at he
      split at he
      · obtain rfl : n = js.length := by omega
        rw [← Option.some.inj he, h.fin]
        exact hm
      · cases he

-- the two ends of a session and the two channels between them
structure Session (ι M : Type) where
  amont : ι
  aval : ι
  aller : List M
  retour : List M

-- one step, with what each end exchanges in it
inductive Contrat.Pas (C : Contrat ι M) :
    Session ι M → Option (Sens × M) → Option (Sens × M) → Session ι M → Prop
  | ailleurs (s : Session ι M) : Pas C s none none s
  | envoi {s : Session ι M} {m : M} (hm : C.Permis .aller s.amont m) :
      Pas C s (some (.aller, m)) none { s with amont := C.suivant s.amont, aller := s.aller ++ [m] }
  | reception {s : Session ι M} {m : M} {a : List M} (ha : s.aller = m :: a) :
      Pas C s none (some (.aller, m)) { s with aval := C.suivant s.aval, aller := a }
  | reponse {s : Session ι M} {m : M} (hm : C.Permis .retour s.aval m) :
      Pas C s none (some (.retour, m)) { s with aval := C.suivant s.aval, retour := s.retour ++ [m] }
  | lecture {s : Session ι M} {m : M} {b : List M} (hb : s.retour = m :: b) :
      Pas C s (some (.retour, m)) none { s with amont := C.suivant s.amont, retour := b }

theorem Contrat.Pas.reponse_permis {s s' : Session ι M} {e : Option (Sens × M)}
    (h : C.Pas s e (some (.retour, m)) s') : C.Permis .retour s.aval m := by
  cases h with
  | reponse hm => exact hm

structure Contrat.Tenue (C : Contrat ι M) (k : ι) (ja jb : Echanges M) (s : Session ι M) : Prop where
  sync : C.Sync s.amont s.aval s.aller s.retour
  coherent : Coherent ja jb s.aller s.retour
  amont : C.Mot k s.amont ja
  aval : C.Mot k s.aval jb

theorem Contrat.Sync.muet (h : C.Sync p q a b) (hp : C.sens p = .aller) : b = [] := by
  cases h with
  | avance _ => rfl
  | retard h => exact (h.arret (by rw [hp]; decide)).2

theorem Contrat.Sync.muet_retour (h : C.Sync p q a b) (hq : C.sens q = .retour) : a = [] := by
  cases h with
  | avance h => exact (h.arret (by rw [hq]; decide)).2
  | retard _ => rfl

theorem Contrat.Sync.vide (h : C.Sync p q [] []) : p = q := by
  cases h with
  | avance h =>
    cases h
    rfl
  | retard h =>
    cases h
    rfl

theorem Contrat.Sync.pas {s s' : Session ι M} {e f : Option (Sens × M)} (h : C.Sync s.amont s.aval s.aller s.retour)
    (hs : C.Pas s e f s') : C.Sync s'.amont s'.aval s'.aller s'.retour := by
  cases hs with
  | ailleurs => exact h
  | envoi hm => exact h.envoi hm
  | reception ha =>
    rw [ha] at h
    exact h.reception.2
  | reponse hm => exact h.reponse hm
  | lecture hb =>
    rw [hb] at h
    exact h.lecture.2

theorem Contrat.Pas.enrichi {D : Contrat ι M} {s s' : Session ι M} {e f : Option (Sens × M)} (h : C.Pas s e f s')
    (hsuivant : D.suivant = C.suivant) (hsens : D.sens = C.sens) (he : ∀ m, e = some (.aller, m) → D.convient s.amont m)
    (hf : ∀ m, f = some (.retour, m) → D.convient s.aval m) : D.Pas s e f s' := by
  cases h with
  | ailleurs => exact .ailleurs _
  | envoi hm =>
    rw [← hsuivant]
    exact .envoi ⟨by rw [hsens]; exact hm.sens, he _ rfl⟩
  | reception ha =>
    rw [← hsuivant]
    exact .reception ha
  | reponse hm =>
    rw [← hsuivant]
    exact .reponse ⟨by rw [hsens]; exact hm.sens, hf _ rfl⟩
  | lecture hb =>
    rw [← hsuivant]
    exact .lecture hb

theorem Contrat.Tenue.pas {ja jb : Echanges M} {s s' : Session ι M} {e f : Option (Sens × M)}
    (h : C.Tenue k ja jb s) (hs : C.Pas s e f s') : C.Tenue k (ja ++ e.toList) (jb ++ f.toList) s' := by
  obtain ⟨hsync, hcoh, hja, hjb⟩ := h
  have hsync' := hsync.pas hs
  cases hs with
  | ailleurs =>
    simp only [Option.toList_none, List.append_nil]
    exact ⟨hsync, hcoh, hja, hjb⟩
  | envoi hm =>
    rw [hsync.muet hm.sens] at hcoh
    simp only [Option.toList_none, List.append_nil, Option.toList_some]
    refine ⟨hsync', ?_, hja.snoc hm, hjb⟩
    rw [hsync.muet hm.sens]
    exact hcoh.envoi _
  | reception ha =>
    rw [ha] at hsync hcoh
    simp only [Option.toList_none, List.append_nil, Option.toList_some]
    exact ⟨hsync', hcoh.reception, hja, hjb.snoc hsync.reception.1⟩
  | reponse hm =>
    rw [hsync.muet_retour hm.sens] at hcoh
    simp only [Option.toList_none, List.append_nil, Option.toList_some]
    refine ⟨hsync', ?_, hja, hjb.snoc hm⟩
    rw [hsync.muet_retour hm.sens]
    exact hcoh.reponse _
  | lecture hb =>
    rw [hb] at hsync hcoh
    simp only [Option.toList_none, List.append_nil, Option.toList_some]
    exact ⟨hsync', hcoh.lecture, hja.snoc hsync.lecture.1, hjb⟩

-- three moments in a row never go the same way: a channel holds two messages at most
theorem Contrat.Suite.deux (h3 : ∀ k, C.sens k = d → C.sens (C.suivant k) = d → C.sens (C.suivant (C.suivant k)) ≠ d)
    (h : C.Suite d q p a) : a = [] ∨ (∃ m, a = [m] ∧ C.Permis d q m) ∨
      ∃ m m', a = [m, m'] ∧ C.Permis d q m ∧ C.Permis d (C.suivant q) m' := by
  cases h with
  | nil => exact .inl rfl
  | cons hm h =>
    cases h with
    | nil => exact .inr (.inl ⟨_, rfl, hm⟩)
    | cons hm' h =>
      cases h with
      | nil => exact .inr (.inr ⟨_, _, rfl, hm, hm'⟩)
      | cons hm'' _ => exact absurd hm''.sens (h3 _ hm.sens hm'.sens)

theorem Contrat.Tenue.debut (h : C.Suite .aller q p a) : C.Tenue q (etiquette .aller a) [] ⟨p, q, a, []⟩ where
  sync := .avance h
  coherent := .avance rfl rfl
  amont := Contrat.Mot.nil.suite h
  aval := .nil

end Sessions
