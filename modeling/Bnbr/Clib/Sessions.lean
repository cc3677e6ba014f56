import Mathlib.Data.List.Basic

namespace Sessions

inductive Sens
  | aller
  | retour
deriving DecidableEq, Repr

def Sens.inverse : Sens → Sens
  | .aller => .retour
  | .retour => .aller

structure Contrat (ι M : Type) where
  suivant : ι → ι
  sens : ι → Sens
  convient : ι → M → Prop

variable {ι M : Type}

def Contrat.inverse (C : Contrat ι M) : Contrat ι M := { C with sens := fun k => (C.sens k).inverse }

structure Contrat.Permis (C : Contrat ι M) (d : Sens) (k : ι) (m : M) : Prop where
  sens : C.sens k = d
  convient : C.convient k m

inductive Contrat.Suite (C : Contrat ι M) (d : Sens) : ι → ι → List M → Prop
  | nil (k : ι) : Suite C d k k []
  | cons {k l : ι} {m : M} {ms : List M} (hm : C.Permis d k m) (h : Suite C d (C.suivant k) l ms) :
      Suite C d k l (m :: ms)

inductive Contrat.Sync (C : Contrat ι M) (p q : ι) : List M → List M → Prop
  | avance {a : List M} (h : C.Suite .aller q p a) : Sync C p q a []
  | retard {b : List M} (h : C.Suite .retour p q b) : Sync C p q [] b

variable {C : Contrat ι M} {d : Sens} {p q : ι} {a b : List M} {m : M}

theorem Contrat.Suite.snoc (h : C.Suite d q p a) (hm : C.Permis d p m) : C.Suite d q (C.suivant p) (a ++ [m]) := by
  induction h with
  | nil k => exact .cons hm (.nil _)
  | cons hm' _ ih => exact .cons hm' (ih hm)

theorem Contrat.Suite.arret (h : C.Suite d q p b) (hs : C.sens q ≠ d) : q = p ∧ b = [] := by
  cases h with
  | nil => exact ⟨rfl, rfl⟩
  | cons hm _ => exact absurd hm.sens hs

theorem Contrat.Suite.mono {D : Contrat ι M} (h : C.Suite d q p a) (hs : D.suivant = C.suivant)
    (hm : ∀ k m, C.Permis d k m → D.Permis d k m) : D.Suite d q p a := by
  induction h with
  | nil k => exact .nil k
  | cons h' _ ih => exact .cons (hm _ _ h') (hs ▸ ih)

theorem Sens.inverse_inverse (d : Sens) : d.inverse.inverse = d := by
  cases d <;> rfl

theorem Contrat.inverse_inverse (C : Contrat ι M) : C.inverse.inverse = C := by
  simp only [Contrat.inverse, Sens.inverse_inverse]

theorem Contrat.Suite.inverse (h : C.Suite d q p a) : C.inverse.Suite d.inverse q p a := by
  induction h with
  | nil k => exact .nil k
  | cons hm _ ih => exact .cons ⟨congrArg Sens.inverse hm.sens, hm.convient⟩ ih

theorem Contrat.Sync.inverse (h : C.Sync p q a b) : C.inverse.Sync q p b a := by
  cases h with
  | avance h => exact .retard h.inverse
  | retard h => exact .avance h.inverse

theorem Contrat.Sync.envoi (h : C.Sync p q a b) (hm : C.Permis .aller p m) :
    C.Sync (C.suivant p) q (a ++ [m]) b := by
  cases h with
  | avance h => exact .avance (h.snoc hm)
  | retard h =>
    obtain ⟨rfl, rfl⟩ := h.arret (by rw [hm.sens]; decide)
    exact .avance (.cons hm (.nil _))

theorem Contrat.Sync.reception (h : C.Sync p q (m :: a) b) :
    C.Permis .aller q m ∧ C.Sync p (C.suivant q) a b := by
  cases h with
  | avance h =>
    cases h with
    | cons hm h => exact ⟨hm, .avance h⟩

theorem Contrat.Permis.inverse (h : C.Permis d p m) : C.inverse.Permis d.inverse p m :=
  ⟨congrArg Sens.inverse h.sens, h.convient⟩

theorem Contrat.Sync.reponse (h : C.Sync p q a b) (hm : C.Permis .retour q m) :
    C.Sync p (C.suivant q) a (b ++ [m]) := by
  have := (h.inverse.envoi hm.inverse).inverse
  rwa [Contrat.inverse_inverse] at this

theorem Contrat.Sync.lecture (h : C.Sync p q a (m :: b)) :
    C.Permis .retour p m ∧ C.Sync (C.suivant p) q a b := by
  obtain ⟨hm, h'⟩ := h.inverse.reception
  have hm' := hm.inverse
  have h'' := h'.inverse
  rw [Contrat.inverse_inverse] at hm' h''
  exact ⟨hm', h''⟩

theorem Contrat.Sync.mono {D : Contrat ι M} (h : C.Sync p q a b) (hs : D.suivant = C.suivant)
    (hm : ∀ d k m, C.Permis d k m → D.Permis d k m) : D.Sync p q a b := by
  cases h with
  | avance h => exact .avance (h.mono hs (hm _))
  | retard h => exact .retard (h.mono hs (hm _))

theorem Contrat.Sync.blocage (h : C.Sync p q a []) : p = q ∨ ∃ m a', a = m :: a' ∧ C.Permis .aller q m := by
  cases a with
  | nil =>
    cases h with
    | avance h =>
      cases h
      exact .inl rfl
    | retard h =>
      cases h
      exact .inl rfl
  | cons m a' => exact .inr ⟨m, a', rfl, h.reception.1⟩

theorem Contrat.Suite.dernier (h : C.Suite d q p a) :
    q = p ∧ a = [] ∨ ∃ k, C.suivant k = p ∧ C.sens k = d := by
  induction h with
  | nil k => exact .inl ⟨rfl, rfl⟩
  | cons hm _ ih =>
    rcases ih with ⟨he, -⟩ | hk
    · exact .inr ⟨_, he, hm.sens⟩
    · exact .inr hk

theorem Contrat.Sync.rattrape (h : C.Sync p q a b) (hp : C.sens p = .aller)
    (hk : ∀ k, C.suivant k = p → C.sens k = .retour) : p = q ∧ a = [] ∧ b = [] := by
  cases h with
  | avance h =>
    rcases h.dernier with ⟨rfl, ha⟩ | ⟨k, he, hs⟩
    · exact ⟨rfl, ha, rfl⟩
    · rw [hk k he] at hs
      cases hs
  | retard h =>
    obtain ⟨he, hb⟩ := h.arret (by rw [hp]; decide)
    exact ⟨he, rfl, hb⟩

theorem Contrat.Sync.enTete (h : C.Sync p q a b) (hp : C.sens p = .aller) (hq : C.sens (C.suivant q) = .retour) :
    p = q := by
  cases h with
  | avance h =>
    cases h with
    | nil => rfl
    | cons hm h =>
      obtain ⟨he, -⟩ := h.arret (by rw [hq]; decide)
      rw [← he, hq] at hp
      cases hp
  | retard h => exact (h.arret (by rw [hp]; decide)).1

theorem Contrat.Sync.enReponse (h : C.Sync p q a []) (hp : C.sens p = .retour) (hq : C.sens q = .aller)
    (hs : C.sens (C.suivant q) = .retour) : p = C.suivant q := by
  rcases h.blocage with rfl | ⟨m, a', rfl, -⟩
  · rw [hp] at hq
    cases hq
  · rcases h.reception.2.blocage with he | ⟨m', a'', -, hm⟩
    · exact he
    · rw [hm.sens] at hs
      cases hs

end Sessions
