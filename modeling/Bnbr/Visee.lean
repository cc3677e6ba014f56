import Bnbr.Affichage
import Bnbr.Charges
import Bnbr.Permutation
import Bnbr.Synchronisation

namespace Bnbr

open CArray CString Decimal Serveur

namespace Client

-- a key and the seconds elapsed when it is read, for each turn of the loop of jouer_coup
def viserCoup (g : GameT) : List (Touche × Int) → Int × Int → Option (Int × Int)
  | [], _ => none
  | (t, ecoule) :: tours, p =>
    if g.timeout - ecoule ≤ 0 then some p else viserCoup g tours (deplacer g.taillePlateau t p.1 p.2)

def jouerCoup (g : GameT) (reception : ReqT) (tours : List (Touche × Int)) (infos : Buf 10) : Option Requete :=
  if reception.id = 5 then (viserCoup g tours (0, 0)).bind fun p => envoiCoup infos p.1 p.2 else none

theorem viserCoup_dans {g : GameT} {tours : List (Touche × Int)} {p q : Int × Int} (hp : Dans g.taillePlateau p)
    (h : viserCoup g tours p = some q) : Dans g.taillePlateau q := by
  induction tours generalizing p with
  | nil => cases h
  | cons e tours ih =>
    obtain ⟨t, ecoule⟩ := e
    simp only [viserCoup] at h
    split at h
    · exact Option.some.inj h ▸ hp
    · exact ih (deplacer_dans hp t) h

def GameT.Pose (g : GameT) : Prop :=
  g.tailleBateau ≤ 10 ∧ ∀ j : Fin 10, (j.val : Int) < g.tailleBateau →
    Dans g.taillePlateau ((g.bateau.cell j).x, (g.bateau.cell j).y)

theorem jouerCoup_spec {g : GameT} (h0 : 0 < g.taillePlateau) (hn : g.taillePlateau ≤ 50) {reception : ReqT}
    (hid : reception.id = 5) {tours : List (Touche × Int)} {x y : Int} (hv : viserCoup g tours (0, 0) = some (x, y))
    (infos : Buf 10) : Dans g.taillePlateau (x, y) ∧ jouerCoup g reception tours infos = some (requeteTir x y) := by
  have hd := viserCoup_dans (g := g) (p := (0, 0)) ⟨le_refl _, h0, le_refl _, h0⟩ hv
  have hd' := hd.mono hn
  obtain ⟨hx, hy⟩ := curseur_inInt hd'
  obtain ⟨h1, h2⟩ := curseur_length hd'
  refine ⟨hd, ?_⟩
  simp only [jouerCoup, hid, if_true, hv, Option.bind_some]
  refine preparer_spec infos (requeteTir_valide hx hy) ?_
  simp only [requeteTir, List.length_append, List.length_cons]
  omega

theorem decodePlateauTexte_intact {gs : Serveur.GameT} {gc : GameT} (hn : gs.taillePlateau ≤ 50)
    (hs : gc.taillePlateau = gs.taillePlateau) (hp : gc.Pose) {texte : List Char}
    (ht : textePlateau gs = some texte) (pile : Cells) (reste : List Char) :
    ∃ plateau, decodePlateauTexte gc pile (texte ++ reste) = some { gc with plateau := plateau } ∧
      ∀ y x : Fin 50, Dans gs.taillePlateau (coord y x) → plateau y x =
        recouvrir (dechiffrer (chiffre (gs.plateau.cell y x))) (gc.bateau.Occupe gc.tailleBateau y x) := by
  have hlen := textePlateau_length hn ht
  have hle : gc.taillePlateau.toNat * gc.taillePlateau.toNat ≤ (texte ++ reste).length := by
    rw [List.length_append, hlen, hs]
    omega
  obtain ⟨plateau, hd, hcell⟩ := decodePlateauTexte_spec (hs ▸ hn) hp.1 hp.2 pile hle
  refine ⟨plateau, hd, fun y x hyx => ?_⟩
  obtain ⟨c, hc, he⟩ := hcell y x (by rwa [hs])
  obtain ⟨-, hx, -, hy⟩ := hyx
  simp only at hx hy
  obtain ⟨hlt, hm, hq⟩ := carre_index (n := gs.taillePlateau.toNat) (y := y) (x := x) (by omega) (by omega)
  have hidx := textePlateau_index hn ht hlt
  rw [hm, hq, Cells.lire_fin] at hidx
  rw [hs, List.getElem?_append_left (by omega), hidx] at hc
  rw [he, Option.some.inj hc]

def caseAffichee (lignes : List (List CaseEcran)) (i j : Nat) : Option CaseEcran := do
  let ligne ← lignes[i]?
  ligne[j]?

theorem caseAffichee_spec {g : GameT} (hn : g.taillePlateau ≤ 50) (cursorX cursorY : Int) :
    ∃ lignes, afficherPlateau g cursorX cursorY = some lignes ∧
      ∀ y x : Fin 50, Dans g.taillePlateau (coord y x) →
        caseAffichee lignes y x = some (afficherCase (cursorX = x.val ∧ cursorY = y.val) (g.plateau y x)) := by
  refine ⟨_, afficherPlateau_spec hn cursorX cursorY, fun y x hd => ?_⟩
  obtain ⟨-, hx, -, hy⟩ := hd
  simp only at hx hy
  have hy' : y.val < g.taillePlateau.toNat := by omega
  have hx' : x.val < g.taillePlateau.toNat := by omega
  simp only [caseAffichee, List.getElem?_map, List.getElem?_range hy', List.getElem?_range hx', Option.map_some,
    Option.bind_eq_bind, Option.bind_some, Cells.lire_fin]

theorem plateau_a_l_ecran {gs : Serveur.GameT} {gc : GameT} (hn : gs.taillePlateau ≤ 50)
    (hs : gc.taillePlateau = gs.taillePlateau) (hp : gc.Pose) {texte : List Char}
    (ht : textePlateau gs = some texte) (pile : Cells) (reste : List Char) :
    ∃ g, decodePlateauTexte gc pile (texte ++ reste) = some g ∧ ∀ cursorX cursorY, ∃ lignes,
      afficherPlateau g cursorX cursorY = some lignes ∧ ∀ y x : Fin 50, Dans gs.taillePlateau (coord y x) →
        caseAffichee lignes y x = some (afficherCase (cursorX = x.val ∧ cursorY = y.val)
          (recouvrir (dechiffrer (chiffre (gs.plateau.cell y x))) (gc.bateau.Occupe gc.tailleBateau y x))) := by
  obtain ⟨plateau, hdec, hcell⟩ := decodePlateauTexte_intact hn hs hp ht pile reste
  have hn' : ({ gc with plateau := plateau } : GameT).taillePlateau ≤ 50 := hs ▸ hn
  refine ⟨_, hdec, fun cursorX cursorY => ?_⟩
  obtain ⟨lignes, hl, haff⟩ := caseAffichee_spec hn' cursorX cursorY
  refine ⟨lignes, hl, fun y x hd => ?_⟩
  have hd' : Dans gc.taillePlateau (coord y x) := hs.symm ▸ hd
  rw [haff y x hd']
  simp only [hcell y x hd]

end Client

theorem dechiffrer_tire (s : Status) : Client.dechiffrer (chiffre (statutTire s)) =
    if s = .boat ∨ s = .hitShot then .hitShot else .missedShot := by
  cases s <;> rfl

theorem coup_a_l_ecran (gs : Serveur.GameT) (h4 : 4 ≤ gs.taillePlateau) (hn : gs.taillePlateau ≤ 50)
    (hb : gs.plateau.Borne) (tireur : Client.GameT) (ht : tireur.taillePlateau = gs.taillePlateau) (reception : ReqT)
    (hid : reception.id = 5) (tours : List (Touche × Int)) (x y : Int)
    (hv : Client.viserCoup tireur tours (0, 0) = some (x, y)) (infos : Buf 10) :
    Dans gs.taillePlateau (x, y) ∧ Client.jouerCoup tireur reception tours infos = some (requeteTir x y) ∧
    ∀ (pile : PileTir) (l : Lecture), l.recu = (requeteTir x y).texte ++ [nul] →
      ∃ gs' ack sans avec, recevoirTir gs pile l = some (gs', ack) ∧
        textePlateau gs = some sans ∧ textePlateau gs' = some avec ∧
        avec.length = gs.taillePlateau.toNat * gs.taillePlateau.toNat ∧
        ∀ gc : Client.GameT, gc.taillePlateau = gs.taillePlateau → gc.Pose → ∀ (pile pile' : Cells)
          (reste reste' : List Char), ∃ g g',
          Client.decodePlateauTexte gc pile (sans ++ reste) = some g ∧
          Client.decodePlateauTexte gc pile' (avec ++ reste') = some g' ∧
          ∀ cursorX cursorY, ∃ lignes lignes', Client.afficherPlateau g cursorX cursorY = some lignes ∧
            Client.afficherPlateau g' cursorX cursorY = some lignes' ∧
            ∀ r c : Fin 50, Dans gs.taillePlateau (coord r c) →
              (coord r c = (x, y) → Client.caseAffichee lignes' r c =
                if gs.plateau.cell r c = .boat ∨ gs.plateau.cell r c = .hitShot then
                  some ⟨Client.txtTouche, some 6, cursorX = c.val ∧ cursorY = r.val⟩
                else some ⟨Client.txtRate, some 4, cursorX = c.val ∧ cursorY = r.val⟩) ∧
              (coord r c ≠ (x, y) → Client.caseAffichee lignes' r c = Client.caseAffichee lignes r c ∧
                (Client.caseAffichee lignes r c).isSome = true) := by
  obtain ⟨hd, hq⟩ := Client.jouerCoup_spec (by omega) (by omega) hid hv infos
  rw [ht] at hd
  refine ⟨hd, hq, fun pile l hl => ?_⟩
  obtain ⟨hx, hy⟩ := curseur_inInt (hd.mono hn)
  obtain ⟨r, c, hp⟩ := hd.fin hn
  obtain ⟨rfl, rfl⟩ := Prod.mk.inj hp
  have hrecu := recevoirTir_bienForme hn hb
    (recevoir_lu (requeteTir_valide hx hy) (le_refl 999) hl pile.buff pile.reponse) (bienForme_requeteTir hx hy _)
  rw [coup_requeteTir hx hy] at hrecu
  have hn' : (gs.apresTir c.val r.val).taillePlateau = gs.taillePlateau := (gs.apresTir_regles _ _).1
  have hp' : (gs.apresTir c.val r.val).plateau = gs.plateau.apresTir r c := by rw [GameT.apresTir_dans hd]
  have hle : (gs.apresTir c.val r.val).taillePlateau ≤ 50 := by omega
  obtain ⟨sans, hsans⟩ : ∃ s, textePlateau gs = some s := ⟨_, textePlateau_spec hn⟩
  obtain ⟨avec, havec⟩ : ∃ s, textePlateau (gs.apresTir c.val r.val) = some s := ⟨_, textePlateau_spec hle⟩
  refine ⟨_, _, sans, avec, hrecu, hsans, havec, hn' ▸ textePlateau_length hle havec, ?_⟩
  intro gc hgc hpose pile pile' reste reste'
  obtain ⟨g, hdec, hecran⟩ := Client.plateau_a_l_ecran hn hgc hpose hsans pile reste
  obtain ⟨g', hdec', hecran'⟩ := Client.plateau_a_l_ecran hle (hgc.trans hn'.symm) hpose havec pile' reste'
  refine ⟨g, g', hdec, hdec', fun cursorX cursorY => ?_⟩
  obtain ⟨lignes, hl, haff⟩ := hecran cursorX cursorY
  obtain ⟨lignes', hl', haff'⟩ := hecran' cursorX cursorY
  refine ⟨lignes, lignes', hl, hl', fun i j hij => ?_⟩
  rw [haff i j hij, haff' i j (hn'.symm ▸ hij)]
  simp only [hp', BoardT.apresTir_cell]
  constructor
  · intro h
    obtain ⟨hj, hi⟩ := Prod.mk.inj h
    obtain rfl : j = c := Fin.ext (by omega)
    obtain rfl : i = r := Fin.ext (by omega)
    rw [Cells.update_self, dechiffrer_tire]
    split <;> rfl
  · intro h
    rw [Cells.update_ne]
    · exact ⟨rfl, rfl⟩
    · rintro ⟨rfl, rfl⟩
      exact h rfl

def jeuQuatre : Client.GameT := ⟨2, fun _ _ => .empty, 4, ⟨fun _ => ⟨3, 2, .empty⟩⟩, 2, 15, .enJeu⟩

theorem coup_a_l_ecran_touche :
    ∃ (gs' : Serveur.GameT) (avec : List Char) (g' : Client.GameT) (lignes' : List (List Client.CaseEcran)),
      textePlateau gs' = some avec ∧ Client.decodePlateauTexte jeuQuatre (fun _ _ => .boat) avec = some g' ∧
      Client.afficherPlateau g' 1 0 = some lignes' ∧
      Client.caseAffichee lignes' 0 1 = some ⟨Client.txtTouche, some 6, true⟩ := by
  obtain ⟨-, -, hall⟩ := coup_a_l_ecran deuxBateaux (by decide) (by decide) deuxBateaux_enPartie.borne jeuQuatre rfl
    { reqVierge with id := 5 } rfl [(.droite, 0), (.haut, 9), (.droite, 15)] 1 0 rfl (Buf.fill 10 'x')
  obtain ⟨gs', -, sans, avec, -, -, ha, -, hc⟩ := hall (mancheTouche.tir 1).1 (mancheTouche.tir 1).2 rfl
  obtain ⟨g, g', -, hd, he⟩ := hc jeuQuatre rfl ⟨by decide, by decide⟩ (fun _ _ => .boat) (fun _ _ => .boat) [] []
  obtain ⟨lignes, lignes', -, hl, hcell⟩ := he 1 0
  rw [List.append_nil] at hd
  exact ⟨gs', avec, g', lignes', ha, hd, hl, (hcell 0 1 (by decide)).1 rfl⟩

end Bnbr
