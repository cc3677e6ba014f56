import Bnbr.Plateau

namespace Bnbr.Serveur

open CArray CString Decimal Scanf

def entiers (s : List Char) : Option (Int × Int) :=
  match scan s with
  | some (a, ';' :: t) =>
    match scan t with
    | some (b, _) => if InInt a ∧ InInt b then some (a, b) else none
    | none => none
  | _ => none

theorem entiers_eq_some {s : List Char} {x y : Int} (h : entiers s = some (x, y)) :
    ∃ t u, scan s = some (x, ';' :: t) ∧ scan t = some (y, u) ∧ InInt x ∧ InInt y := by
  unfold entiers at h
  split at h
  · rename_i a t hs
    split at h
    · rename_i b u ht
      split at h
      · rename_i hi
        simp only [Option.some.injEq, Prod.mk.injEq] at h
        obtain ⟨rfl, rfl⟩ := h
        exact ⟨t, u, hs, ht, hi⟩
      · cases h
    · cases h
  · cases h

theorem lireCoup_entiers {s : List Char} {p : Int × Int} (h : entiers s = some p) (xy : Int × Int) :
    lireCoup s xy = p := by
  obtain ⟨x, y⟩ := p
  obtain ⟨t, u, hs, ht, hx, hy⟩ := entiers_eq_some h
  simp [lireCoup, sscanf, hs, ht, toInt_of_inInt hx, toInt_of_inInt hy]

def coup (r : ReqT) : Option (Int × Int) :=
  if r.id = 6 ∧ r.nom.str = some txtCoup then r.infos.str.bind entiers else none

def TirBienForme (r : ReqT) : Prop :=
  r.id = 6 → ∃ nom, r.nom.str = some nom ∧ (nom = txtCoup → (coup r).isSome = true)

def GameT.apresCoup (g : GameT) : Option (Int × Int) → GameT
  | some p => g.apresTir p.1 p.2
  | none => g

theorem GameT.apresTir_regles (g : GameT) (x y : Int) :
    (g.apresTir x y).taillePlateau = g.taillePlateau ∧ (g.apresTir x y).tailleBateau = g.tailleBateau ∧
    (g.apresTir x y).nbJoueur = g.nbJoueur ∧ (g.apresTir x y).players = g.players ∧
    (g.apresTir x y).maxJoueur = g.maxJoueur ∧ (g.apresTir x y).timeout = g.timeout ∧
    (g.apresTir x y).affchageBateau = g.affchageBateau ∧ (g.apresTir x y).etat = g.etat := by
  unfold GameT.apresTir
  split
  · split <;> simp
  · simp

theorem GameT.apresCoup_regles (g : GameT) (c : Option (Int × Int)) :
    (g.apresCoup c).taillePlateau = g.taillePlateau ∧ (g.apresCoup c).tailleBateau = g.tailleBateau ∧
    (g.apresCoup c).nbJoueur = g.nbJoueur ∧ (g.apresCoup c).players = g.players ∧
    (g.apresCoup c).maxJoueur = g.maxJoueur ∧ (g.apresCoup c).timeout = g.timeout ∧
    (g.apresCoup c).affchageBateau = g.affchageBateau ∧ (g.apresCoup c).etat = g.etat := by
  cases c with
  | none => simp [GameT.apresCoup]
  | some p => exact g.apresTir_regles p.1 p.2

theorem traiterTir_coup {g g' : GameT} (hn : g.taillePlateau ≤ 50) (hb : g.plateau.Borne) {r : ReqT}
    {xy : Int × Int} (h : traiterTir g r xy = some g') : ∃ c, g' = g.apresCoup c ∧
      ∀ a : GameT, a.taillePlateau ≤ 50 → a.plateau.Borne → traiterTir a r xy = some (a.apresCoup c) := by
  by_cases hid : r.id = 6
  · simp only [traiterTir, hid, if_true, Option.bind_eq_bind] at h ⊢
    obtain ⟨nom, hnom, h⟩ := Option.bind_eq_some_iff.mp h
    simp only [hnom, Option.bind_some]
    by_cases hc : nom = txtCoup
    · simp only [hc, if_true] at h ⊢
      obtain ⟨infos, hinfos, h⟩ := Option.bind_eq_some_iff.mp h
      rw [tirer_spec hn hb] at h
      refine ⟨some (lireCoup infos xy), (Option.some.inj h).symm, fun a ha hba => ?_⟩
      rw [hinfos, Option.bind_some, tirer_spec ha hba]
      rfl
    · simp only [hc, if_false] at h ⊢
      exact ⟨none, (Option.some.inj h).symm, fun a _ _ => rfl⟩
  · simp only [traiterTir, hid, if_false] at h ⊢
    exact ⟨none, (Option.some.inj h).symm, fun a _ _ => rfl⟩

theorem recevoirTir_coup {g g' : GameT} (hn : g.taillePlateau ≤ 50) (hb : g.plateau.Borne) {pile : PileTir}
    {l : Lecture} {ack : List Char} (h : recevoirTir g pile l = some (g', ack)) : ∃ c, g' = g.apresCoup c ∧
      ∀ a : GameT, a.taillePlateau ≤ 50 → a.plateau.Borne → recevoirTir a pile l = some (a.apresCoup c, ack) := by
  simp only [recevoirTir, Option.bind_eq_bind, Option.bind_eq_some_iff, Option.some.injEq, Prod.mk.injEq] at h
  obtain ⟨r, hr, ack', hack, g'', ht, rfl, rfl⟩ := h
  obtain ⟨c, rfl, hall⟩ := traiterTir_coup hn hb ht
  refine ⟨c, rfl, fun a ha hba => ?_⟩
  simp only [recevoirTir, hr, hack, hall a ha hba, Option.bind_eq_bind, Option.bind_some]

theorem recevoirTir_cases {g g' : GameT} (hn : g.taillePlateau ≤ 50) (hb : g.plateau.Borne) {pile : PileTir}
    {l : Lecture} {ack : List Char} (h : recevoirTir g pile l = some (g', ack)) : ∃ c, g' = g.apresCoup c :=
  (recevoirTir_coup hn hb h).imp fun _ hc => hc.1

theorem traiterTir_bienForme {g : GameT} (hn : g.taillePlateau ≤ 50) (hb : g.plateau.Borne) {r : ReqT}
    (hr : TirBienForme r) (xy : Int × Int) : traiterTir g r xy = some (g.apresCoup (coup r)) := by
  by_cases hid : r.id = 6
  · obtain ⟨nom, hnom, hcoup⟩ := hr hid
    by_cases hc : nom = txtCoup
    · obtain ⟨p, hp⟩ := Option.isSome_iff_exists.mp (hcoup hc)
      have hpc := hp
      simp only [coup, hid, hnom, hc, and_self, if_true, Option.bind_eq_some_iff] at hp
      obtain ⟨infos, hinfos, hent⟩ := hp
      simp only [traiterTir, hid, if_true, hnom, hc, hinfos, Option.bind_eq_bind, Option.bind_some,
        lireCoup_entiers hent, tirer_spec hn hb, hpc]
      rfl
    · have hcn : coup r = none := by simp [coup, hnom, hc]
      simp only [traiterTir, hid, if_true, hnom, hc, if_false, Option.bind_eq_bind, Option.bind_some, hcn]
      rfl
  · have hcn : coup r = none := by simp [coup, hid]
    simp [traiterTir, hid, hcn, GameT.apresCoup]

def requeteTir (x y : Int) : Requete := ⟨6, txtCoup, print x ++ ';' :: print y⟩

def txtMort : List Char := ['m', 'o', 'r', 't']

def requeteMort : Requete := ⟨6, txtMort, txtBlanc⟩

theorem isspace_entiers {x y : Int} {c : Char} (h : c ∈ print x ++ ';' :: print y) : isspace c = false := by
  rcases List.mem_append.mp h with h | h
  · exact mem_print_not_space h
  · rcases List.mem_cons.mp h with rfl | h
    · decide
    · exact mem_print_not_space h

theorem requeteTir_valide {x y : Int} (hx : InInt x) (hy : InInt y) : (requeteTir x y).Valide := by
  have h1 := InInt.print_length hx
  have h2 := InInt.print_length hy
  apply Requete.valide_court (by decide) (by decide) (by decide) (by decide) (by decide)
  · simp only [List.mem_append, List.mem_cons, not_or]
    exact ⟨nul_notMem_print x, by decide, nul_notMem_print y⟩
  · simp only [List.length_append, List.length_cons]
    omega

theorem requeteMort_valide : requeteMort.Valide := by
  constructor <;> decide

theorem entiers_print {x y : Int} (hx : InInt x) (hy : InInt y) :
    entiers (print x ++ ';' :: print y) = some (x, y) := by
  have h1 : scan (print x ++ ';' :: print y) = some (x, ';' :: print y) := scan_print x (by simp)
  have h2 : scan (print y ++ []) = some (y, []) := scan_print y (by simp)
  rw [List.append_nil] at h2
  simp [entiers, h1, h2, hx, hy]

theorem lu_requeteTir {x y : Int} (hx : InInt x) (hy : InInt y) :
    lu 999 (requeteTir x y).infos = print x ++ ';' :: print y := by
  have h1 := InInt.print_length hx
  have h2 := InInt.print_length hy
  refine lu_of_all (fun c hc => isspace_entiers hc) ?_
  simp only [requeteTir, List.length_append, List.length_cons]
  omega

theorem coup_requeteTir {x y : Int} (hx : InInt x) (hy : InInt y) (avant : ReqT) :
    coup (livrer (requeteTir x y) (requeteTir_valide hx hy) avant) = some (x, y) := by
  have hlu := lu_requeteTir hx hy
  have hne : lu 999 (requeteTir x y).infos ≠ [] := by simp [hlu]
  simp only [coup, livrer_id, livrer_nom _ (requeteTir_valide hx hy),
    livrer_infos _ (requeteTir_valide hx hy) avant hne, hlu, Option.bind_some, entiers_print hx hy]
  exact if_pos ⟨rfl, rfl⟩

theorem bienForme_requeteTir {x y : Int} (hx : InInt x) (hy : InInt y) (avant : ReqT) :
    TirBienForme (livrer (requeteTir x y) (requeteTir_valide hx hy) avant) := by
  intro _
  refine ⟨txtCoup, livrer_nom _ (requeteTir_valide hx hy) avant, fun _ => ?_⟩
  rw [coup_requeteTir hx hy]
  rfl

theorem accuseOk_valide : accuseOk.Valide := by
  constructor <;> decide

theorem envoyer_accuseOk (avant : ReqT) :
    envoyer (formatReq avant accuseOk) = some (accuseOk.texte ++ [nul]) := envoyer_formatReq accuseOk_valide avant

theorem recevoirTir_bienForme {g : GameT} (hn : g.taillePlateau ≤ 50) (hb : g.plateau.Borne) {pile : PileTir}
    {l : Lecture} {r : ReqT} (hrecu : recevoir unserialReq l pile.buff pile.reponse = some r)
    (hr : TirBienForme r) :
    recevoirTir g pile l = some (g.apresCoup (coup r), accuseOk.texte ++ [nul]) := by
  simp only [recevoirTir, hrecu, envoyer_accuseOk, traiterTir_bienForme hn hb hr, Option.bind_eq_bind,
    Option.bind_some]

theorem recevoirTir_mort {g : GameT} (hn : g.taillePlateau ≤ 50) (hb : g.plateau.Borne) (pile : PileTir) :
    recevoirTir g pile (Lecture.entiere requeteMort requeteMort_valide) = some (g, accuseOk.texte ++ [nul]) := by
  have hnom := livrer_nom (by omega : 999 ≤ 999) requeteMort_valide pile.reponse
  have hne : requeteMort.nom ≠ txtCoup := by decide
  have hcoup : coup (Serveur.livrer requeteMort requeteMort_valide pile.reponse) = none := by
    simp only [coup, hnom, Option.some.injEq, hne, and_false, if_false]
  rw [recevoirTir_bienForme hn hb (Serveur.recevoir_livrer requeteMort_valide pile.buff pile.reponse)
    fun _ => ⟨_, hnom, fun he => absurd he hne⟩, hcoup]
  rfl

end Bnbr.Serveur
