import Bnbr.Decodage
import Bnbr.Diffusion
import Bnbr.Tir

namespace Bnbr

open CArray CString Decimal Scanf

def Lecture.de (octets : List Char) : Option Lecture :=
  if h : octets.length ≤ maxBuffer then some (.octets octets h) else none

def synchroniser (gs : Serveur.GameT) (gc : Client.GameT) (avant : ReqT) (pile : Client.PilePlateau) :
    Option (Client.GameT × Option (List Char)) := do
  let plateau ← Serveur.textePlateau gs
  let octets ← envoyer (formatReq avant (Serveur.requetePlateau plateau))
  let l ← Lecture.de octets
  Client.recevoirPlateau gc pile l

structure Reglages (gs : Serveur.GameT) (gc : Client.GameT) : Prop where
  plateau : 4 ≤ gs.taillePlateau
  plateau_le : gs.taillePlateau ≤ 50
  bateau : 2 ≤ gs.tailleBateau
  bateau_le : gs.tailleBateau ≤ 10
  deuxBateaux : 2 * gs.tailleBateau ≤ gs.taillePlateau
  taillePlateau : gc.taillePlateau = gs.taillePlateau
  tailleBateau : gc.tailleBateau = gs.tailleBateau
  dedans : ∀ i : Fin 10, (i.val : Int) < gs.tailleBateau →
    Serveur.Dans gs.taillePlateau ((gc.bateau.cell i).x, (gc.bateau.cell i).y)

structure Vue (s c : Status) (occupe : Prop) : Prop where
  hitShot : c = .hitShot ↔ s = .hitShot
  missedShot : c = .missedShot ↔ s = .missedShot
  boat : c = .boat ↔ (s = .empty ∨ s = .boat) ∧ occupe
  empty : c = .empty ↔ (s = .empty ∨ s = .boat) ∧ ¬ occupe

def Synchronise (gs : Serveur.GameT) (gc : Client.GameT) : Prop :=
  ∀ avant pile, ∃ gc' ack, synchroniser gs gc avant pile = some (gc', ack) ∧
    ∀ y x : Fin 50, Serveur.Dans gs.taillePlateau (Serveur.coord y x) →
      Vue (gs.plateau.cell y x) (gc'.plateau y x) (gc.bateau.Occupe gc.tailleBateau y x)

def recouvrir (s : Status) (occupe : Prop) [Decidable occupe] : Status :=
  if s = .empty ∧ occupe then .boat else s

theorem dechiffrer_chiffre (s : Status) :
    Client.dechiffrer (Serveur.chiffre s) = if s = .boat then .empty else s := by
  cases s <;> rfl

theorem vue_iff {s d : Status} (hd : d ≠ .boat) (occupe : Prop) [Decidable occupe] :
    Vue s (recouvrir d occupe) occupe ↔ d = Client.dechiffrer (Serveur.chiffre s) := by
  rw [dechiffrer_chiffre]
  constructor
  · intro h
    obtain ⟨h1, h2, h3, h4⟩ := h
    by_cases ho : occupe <;> cases s <;> cases d <;> simp_all [recouvrir]
  · rintro rfl
    by_cases ho : occupe <;> cases s <;> constructor <;> simp [recouvrir, ho]

def infosRecues (texte reste : List Char) : List Char :=
  texte.take 99 ++ nul :: reste.drop ((texte.take 99).length + 1)

theorem recevoir_plateau {gs : Serveur.GameT} {s : List Char} (hs : Serveur.textePlateau gs = some s)
    (h4 : 4 ≤ gs.taillePlateau) (hn : gs.taillePlateau ≤ 31) {l : Lecture}
    (hl : l.recu = (Serveur.requetePlateau s).texte ++ [nul]) (buff : Buf maxBuffer) (quoi : ReqT) :
    ∃ r, recevoir Client.unserialReq l buff quoi = some r ∧ r.id = 2 ∧
      r.infos.val = infosRecues s quoi.infos.val := by
  have hv := Serveur.requetePlateau_valide hs hn
  have hsp : ∀ c ∈ s, isspace c = false := by
    intro c hc
    rcases Serveur.textePlateau_mem (by omega) hs hc with rfl | rfl | rfl <;> decide
  have hlen : s.length = gs.taillePlateau.toNat * gs.taillePlateau.toNat :=
    Serveur.textePlateau_length (by omega) hs
  have hpos : 16 ≤ s.length := by
    rw [hlen]
    have h4' : 4 ≤ gs.taillePlateau.toNat := by omega
    exact Nat.mul_le_mul h4' h4'
  have hlu : lu 99 (Serveur.requetePlateau s).infos = s.take 99 := lu_take hsp 99
  have hne : lu 99 (Serveur.requetePlateau s).infos ≠ [] := by
    rw [hlu, Ne, List.take_eq_nil_iff]
    rintro (h | h)
    · omega
    · rw [h] at hpos
      simp at hpos
  refine ⟨_, recevoir_lu hv (by omega) hl buff quoi, ?_, ?_⟩
  · rw [livrer_id]
    rfl
  · rw [livrer_infos_val _ _ _ hne, hlu]
    rfl

theorem carre_index {n : Nat} {y x : Fin 50} (hy : y.val < n) (hx : x.val < n) :
    x.val * n + y.val < n * n ∧ (x.val * n + y.val) % n = y.val ∧ (x.val * n + y.val) / n = x.val := by
  refine ⟨?_, ?_, ?_⟩
  · calc x.val * n + y.val < x.val * n + n := by omega
      _ = (x.val + 1) * n := (Nat.succ_mul _ _).symm
      _ ≤ n * n := Nat.mul_le_mul_right _ (by omega)
  · rw [Nat.mul_comm, Nat.mul_add_mod, Nat.mod_eq_of_lt hy]
  · rw [Nat.mul_comm, Nat.mul_add_div (by omega), Nat.div_eq_of_lt hy, Nat.add_zero]

theorem decodePlateauTexte_spec {gc : Client.GameT} (hn : gc.taillePlateau ≤ 50) (ht : gc.tailleBateau ≤ 10)
    (hd : ∀ i : Fin 10, (i.val : Int) < gc.tailleBateau →
      Serveur.Dans gc.taillePlateau ((gc.bateau.cell i).x, (gc.bateau.cell i).y))
    (plateau : Cells) {infos : List Char} (hlen : gc.taillePlateau.toNat * gc.taillePlateau.toNat ≤ infos.length) :
    ∃ plateau', Client.decodePlateauTexte gc plateau infos = some { gc with plateau := plateau' } ∧
      ∀ y x : Fin 50, Serveur.Dans gc.taillePlateau (Serveur.coord y x) →
        ∃ c, infos[x.val * gc.taillePlateau.toNat + y.val]? = some c ∧
          plateau' y x = recouvrir (Client.dechiffrer c) (gc.bateau.Occupe gc.tailleBateau y x) := by
  obtain ⟨p, hp, hdec⟩ := Client.decoder_spec (by omega) hlen plateau
  have hsup := Client.superposer_spec ht (fun i hi => by
    obtain ⟨y, x, hyx⟩ := (hd i hi).fin (by omega)
    simp only [Prod.mk.injEq] at hyx
    exact ⟨y, x, hyx⟩) p
  have hgc' : Client.decodePlateauTexte gc plateau infos =
      some { gc with plateau := Client.superpose gc.bateau gc.tailleBateau p } := by
    simp only [Client.decodePlateauTexte, hp, hsup, Option.bind_eq_bind, Option.bind_some]
  refine ⟨_, hgc', fun y x hyx => ?_⟩
  obtain ⟨-, hx, -, hy⟩ := hyx
  simp only at hx hy
  obtain ⟨hlt, hm, hq⟩ := carre_index (n := gc.taillePlateau.toNat) (y := y) (x := x) (by omega) (by omega)
  obtain ⟨c, hc, hcell⟩ := hdec _ hlt
  rw [hm, hq, Cells.lire_fin] at hcell
  exact ⟨c, hc, by rw [← hcell]; rfl⟩

theorem decodePlateau_spec {gc : Client.GameT} (hn : gc.taillePlateau ≤ 31) (ht : gc.tailleBateau ≤ 10)
    (hd : ∀ i : Fin 10, (i.val : Int) < gc.tailleBateau →
      Serveur.Dans gc.taillePlateau ((gc.bateau.cell i).x, (gc.bateau.cell i).y))
    (plateau : Cells) (infos : Buf 1000) :
    ∃ gc', Client.decodePlateau gc plateau infos = some gc' ∧
      ∀ y x : Fin 50, Serveur.Dans gc.taillePlateau (Serveur.coord y x) →
        ∃ c, infos.val[x.val * gc.taillePlateau.toNat + y.val]? = some c ∧
          gc'.plateau y x = recouvrir (Client.dechiffrer c) (gc.bateau.Occupe gc.tailleBateau y x) := by
  have hlen : gc.taillePlateau.toNat * gc.taillePlateau.toNat ≤ infos.val.length := by
    rw [infos.property]
    calc gc.taillePlateau.toNat * gc.taillePlateau.toNat ≤ 31 * 31 := Nat.mul_le_mul (by omega) (by omega)
      _ ≤ 1000 := by decide
  obtain ⟨plateau', hp, hcell⟩ := decodePlateauTexte_spec (by omega) ht hd plateau hlen
  exact ⟨_, (Client.decodePlateau_texte gc plateau infos).trans hp, hcell⟩

theorem synchroniser_spec {gs : Serveur.GameT} {gc : Client.GameT} (h : Reglages gs gc)
    (hn : gs.taillePlateau ≤ 31) (avant : ReqT) (pile : Client.PilePlateau) :
    ∃ s gc' ack, Serveur.textePlateau gs = some s ∧ synchroniser gs gc avant pile = some (gc', ack) ∧
      ∀ y x : Fin 50, Serveur.Dans gs.taillePlateau (Serveur.coord y x) →
        ∃ c, (infosRecues s pile.reception.infos.val)[x.val * gs.taillePlateau.toNat + y.val]? = some c ∧
          gc'.plateau y x = recouvrir (Client.dechiffrer c) (gc.bateau.Occupe gc.tailleBateau y x) := by
  obtain ⟨s, hs⟩ : ∃ s, Serveur.textePlateau gs = some s := ⟨_, Serveur.textePlateau_spec h.plateau_le⟩
  have hv := Serveur.requetePlateau_valide hs hn
  obtain ⟨l, hl, hrecu⟩ : ∃ l, Lecture.de ((Serveur.requetePlateau s).texte ++ [nul]) = some l ∧
      l.recu = (Serveur.requetePlateau s).texte ++ [nul] := by
    have hlen : ((Serveur.requetePlateau s).texte ++ [nul]).length ≤ maxBuffer := by
      have := hv.texte_len
      simp only [List.length_append, List.length_singleton]
      omega
    exact ⟨_, dif_pos hlen, rfl⟩
  obtain ⟨r, hr, hid, hinfos⟩ := recevoir_plateau hs h.plateau hn hrecu pile.buff pile.reception
  have htp := h.taillePlateau
  have htb := h.tailleBateau
  have hnc : gc.taillePlateau ≤ 31 := by omega
  obtain ⟨gc', hgc', hcell⟩ := decodePlateau_spec hnc (by rw [htb]; exact h.bateau_le)
    (fun i hi => by rw [htp]; exact h.dedans i (by omega)) pile.plateau r.infos
  have hack := envoyer_formatReq Client.accuse_valide pile.requete
  refine ⟨s, gc', some (Client.accuse.texte ++ [nul]), hs, ?_, fun y x hyx => ?_⟩
  · simp only [synchroniser, hs, envoyer_formatReq hv, hl, Client.recevoirPlateau, hr, hid, if_true, hack, hgc',
      Option.bind_eq_bind, Option.bind_some]
  · obtain ⟨c, hc, he⟩ := hcell y x (htp ▸ hyx)
    rw [htp, hinfos] at hc
    exact ⟨c, hc, he⟩

theorem infosRecues_lu {gs : Serveur.GameT} (hn : gs.taillePlateau ≤ 50) {s : List Char}
    (hs : Serveur.textePlateau gs = some s) (reste : List Char) {y x : Fin 50}
    (hd : Serveur.Dans gs.taillePlateau (Serveur.coord y x))
    (hm : x.val * gs.taillePlateau.toNat + y.val < 99) :
    (infosRecues s reste)[x.val * gs.taillePlateau.toNat + y.val]? =
      some (Serveur.chiffre (gs.plateau.cell y x)) := by
  obtain ⟨-, hx, -, hy⟩ := hd
  simp only at hx hy
  obtain ⟨hlt, hmod, hdiv⟩ := carre_index (n := gs.taillePlateau.toNat) (y := y) (x := x) (by omega) (by omega)
  have hlen := Serveur.textePlateau_length hn hs
  have hidx := Serveur.textePlateau_index hn hs hlt
  rw [hmod, hdiv, Cells.lire_fin] at hidx
  rw [infosRecues, List.getElem?_append_left (by rw [List.length_take]; omega), List.getElem?_take_of_lt hm, hidx]

theorem infosRecues_fin {texte : List Char} (h : 99 ≤ texte.length) (reste : List Char) :
    (infosRecues texte reste)[99]? = some nul := by
  have hl : (texte.take 99).length = 99 := by rw [List.length_take]; omega
  rw [infosRecues, List.getElem?_append_right (by omega), hl]
  rfl

theorem infosRecues_reste {texte : List Char} (h : 99 ≤ texte.length) (reste : List Char) (k : Nat) :
    (infosRecues texte reste)[100 + k]? = reste[100 + k]? := by
  have hl : (texte.take 99).length = 99 := by rw [List.length_take]; omega
  rw [infosRecues, List.getElem?_append_right (by omega), hl, show 100 + k - 99 = k + 1 by omega,
    List.getElem?_cons_succ, List.getElem?_drop, Nat.add_comm 99 1, Nat.add_comm]

theorem dechiffrer_chiffre_ne (s : Status) : Client.dechiffrer (Serveur.chiffre s) ≠ .boat := by
  cases s <;> decide

theorem vue_vide {s : Status} {occupe : Prop} [Decidable occupe] :
    Vue s (recouvrir .empty occupe) occupe ↔ s ≠ .hitShot ∧ s ≠ .missedShot := by
  rw [vue_iff (by decide)]
  cases s <;> decide

theorem synchronise_petit {gs : Serveur.GameT} {gc : Client.GameT} (h : Reglages gs gc)
    (hn : gs.taillePlateau ≤ 9 ∨ (gs.taillePlateau = 10 ∧ gs.plateau.cell 9 9 ≠ .hitShot ∧
      gs.plateau.cell 9 9 ≠ .missedShot)) : Synchronise gs gc := by
  intro avant pile
  obtain ⟨s, gc', ack, hs, hsync, hcell⟩ := synchroniser_spec h (by omega) avant pile
  refine ⟨gc', ack, hsync, fun y x hd => ?_⟩
  obtain ⟨c, hc, he⟩ := hcell y x hd
  rw [he]
  have hdd := hd
  obtain ⟨-, hx, -, hy⟩ := hdd
  simp only at hx hy
  by_cases hm : x.val * gs.taillePlateau.toNat + y.val < 99
  · rw [infosRecues_lu h.plateau_le hs _ hd hm, Option.some.injEq] at hc
    rw [← hc]
    exact (vue_iff (dechiffrer_chiffre_ne _) _).mpr rfl
  · -- only the last cell of a 10x10 board lies past the 99 characters read
    have h10 : gs.taillePlateau = 10 := by
      rcases hn with hn | hn
      · exfalso
        have : x.val * gs.taillePlateau.toNat ≤ 8 * 9 := Nat.mul_le_mul (by omega) (by omega)
        omega
      · exact hn.1
    have ht : gs.taillePlateau.toNat = 10 := by omega
    have h99 : x.val = 9 ∧ y.val = 9 := by
      rw [ht] at hm
      omega
    have hyx : y = 9 ∧ x = 9 := ⟨Fin.ext h99.2, Fin.ext h99.1⟩
    have hlen := Serveur.textePlateau_length h.plateau_le hs
    rw [ht] at hlen hc
    rw [h99.1, h99.2, infosRecues_fin (by omega), Option.some.injEq] at hc
    rw [← hc, hyx.1, hyx.2]
    refine vue_vide.mpr ?_
    rcases hn with hn | hn
    · omega
    · exact hn.2

def reste (c : Char) : ReqT := ⟨0, Buf.fill 100 c, Buf.fill 1000 c⟩

def pilePlateau (c : Char) : Client.PilePlateau :=
  ⟨reste c, reste c, Buf.fill maxBuffer c, fun _ _ => .empty⟩

theorem Synchronise.taille {gs : Serveur.GameT} {gc : Client.GameT} (h : Reglages gs gc)
    (hs : Synchronise gs gc) : gs.taillePlateau ≤ 31 := by
  by_contra hn
  obtain ⟨gc', ack, hsync, -⟩ := hs (reste 'x') (pilePlateau 'x')
  simp only [synchroniser, Option.bind_eq_bind, Option.bind_eq_some_iff] at hsync
  obtain ⟨s, hs, octets, hoctets, -⟩ := hsync
  have hlen : 1024 ≤ s.length := by
    rw [Serveur.textePlateau_length h.plateau_le hs]
    calc 1024 = 32 * 32 := by decide
      _ ≤ _ := Nat.mul_le_mul (by omega) (by omega)
  have hnone : (formatReq (reste 'x') (Serveur.requetePlateau s)).infos.str = none := by
    refine text_eq_none.mpr fun hm => ?_
    simp only [formatReq, Serveur.requetePlateau] at hm
    rw [Buf.strncpy_val_of_le _ _ (by omega)] at hm
    rcases List.mem_append.mp hm with hm | hm
    · exact Serveur.textePlateau_nul h.plateau_le hs (List.mem_of_mem_take hm)
    · exact absurd (List.eq_of_mem_replicate (List.mem_of_mem_drop hm)) (by decide)
  simp only [envoyer, serialReq, hnone, Option.bind_eq_bind, Option.bind_none, Option.bind_fun_none] at hoctets
  cases hoctets

theorem Synchronise.vue {gs : Serveur.GameT} {gc : Client.GameT} (h : Reglages gs gc) (hs : Synchronise gs gc)
    {y x : Fin 50} (hd : Serveur.Dans gs.taillePlateau (Serveur.coord y x)) (a : Char) :
    ∃ s c, Serveur.textePlateau gs = some s ∧
      (infosRecues s (reste a).infos.val)[x.val * gs.taillePlateau.toNat + y.val]? = some c ∧
      Vue (gs.plateau.cell y x) (recouvrir (Client.dechiffrer c) (gc.bateau.Occupe gc.tailleBateau y x))
        (gc.bateau.Occupe gc.tailleBateau y x) := by
  obtain ⟨gc', ack, hsync, hvue⟩ := hs (reste a) (pilePlateau a)
  obtain ⟨s, gc₁, ack₁, htexte, hsync₁, hcell⟩ := synchroniser_spec h (hs.taille h) (reste a) (pilePlateau a)
  rw [hsync, Option.some.injEq, Prod.mk.injEq] at hsync₁
  obtain ⟨c, hc, he⟩ := hcell y x hd
  refine ⟨s, c, htexte, hc, ?_⟩
  rw [← he, ← hsync₁.1]
  exact hvue y x hd

theorem Synchronise.dix {gs : Serveur.GameT} {gc : Client.GameT} (h : Reglages gs gc) (hs : Synchronise gs gc) :
    gs.taillePlateau ≤ 10 := by
  by_contra hn
  have h31 := hs.taille h
  let n := gs.taillePlateau.toNat
  have hn11 : 11 ≤ n := by omega
  have hx : 100 / n < 10 := Nat.div_lt_of_lt_mul (by omega)
  have hy : 100 % n < n := Nat.mod_lt _ (by omega)
  let y : Fin 50 := ⟨100 % n, by omega⟩
  let x : Fin 50 := ⟨100 / n, by omega⟩
  have hd : Serveur.Dans gs.taillePlateau (Serveur.coord y x) := by
    refine ⟨Int.natCast_nonneg _, ?_, Int.natCast_nonneg _, ?_⟩
    · show ((100 / n : Nat) : Int) < gs.taillePlateau
      omega
    · show ((100 % n : Nat) : Int) < gs.taillePlateau
      omega
  have hidx : x.val * n + y.val = 100 + 0 := Nat.div_add_mod' 100 n
  have hvu (a : Char) : Vue (gs.plateau.cell y x)
      (recouvrir (Client.dechiffrer a) (gc.bateau.Occupe gc.tailleBateau y x))
      (gc.bateau.Occupe gc.tailleBateau y x) := by
    obtain ⟨s, c, htexte, hc, hv⟩ := hs.vue h hd a
    have hlen : 121 ≤ s.length := by
      rw [Serveur.textePlateau_length h.plateau_le htexte]
      exact Nat.mul_le_mul hn11 hn11
    rw [hidx, infosRecues_reste (by omega)] at hc
    have ha : (reste a).infos.val[100 + 0]? = some a := by
      simp only [reste, Buf.fill, List.getElem?_replicate]
      rfl
    rw [ha, Option.some.injEq] at hc
    rwa [← hc] at hv
  by_cases hhit : gs.plateau.cell y x = .hitShot
  · have h0 : Client.dechiffrer '0' = .empty := by decide
    have hv := hvu '0'
    rw [h0] at hv
    exact (vue_vide.mp hv).1 hhit
  · have h2 : Client.dechiffrer '2' = .hitShot := by decide
    have hv := (vue_iff (by rw [h2]; decide) _).mp (hvu '2')
    rw [h2, dechiffrer_chiffre] at hv
    split at hv
    · cases hv
    · exact hhit hv.symm

theorem Synchronise.coin {gs : Serveur.GameT} {gc : Client.GameT} (h : Reglages gs gc) (hs : Synchronise gs gc)
    (hn : gs.taillePlateau = 10) : gs.plateau.cell 9 9 ≠ .hitShot ∧ gs.plateau.cell 9 9 ≠ .missedShot := by
  have ht : gs.taillePlateau.toNat = 10 := by omega
  obtain ⟨s, c, htexte, hc, hv⟩ := hs.vue h (y := 9) (x := 9) (by rw [hn]; decide) '0'
  have hlen : s.length = 100 := by rw [Serveur.textePlateau_length h.plateau_le htexte, ht]
  rw [ht, show (9 : Fin 50).val * 10 + (9 : Fin 50).val = 99 from rfl, infosRecues_fin (by omega),
    Option.some.injEq] at hc
  rw [← hc, show Client.dechiffrer nul = .empty from by decide] at hv
  exact vue_vide.mp hv

theorem synchronisation_iff (gs : Serveur.GameT) (gc : Client.GameT) (h : Reglages gs gc) :
    Synchronise gs gc ↔ gs.taillePlateau ≤ 9 ∨
      (gs.taillePlateau = 10 ∧ gs.plateau.cell 9 9 ≠ .hitShot ∧ gs.plateau.cell 9 9 ≠ .missedShot) := by
  constructor
  · intro hs
    by_cases h9 : gs.taillePlateau ≤ 9
    · exact .inl h9
    · have h10 : gs.taillePlateau = 10 := by
        have := hs.dix h
        omega
      exact .inr ⟨h10, hs.coin h h10⟩
  · exact synchronise_petit h

def clientDepart (taillePlateau tailleBateau : Int) : Client.GameT where
  nbJoueur := 2
  plateau := fun _ _ => .empty
  taillePlateau := taillePlateau
  bateau := ⟨fun i => ⟨i.val, 0, .empty⟩⟩
  tailleBateau := tailleBateau
  timeout := 15
  etat := .enJeu

theorem reglages_depart {n taille : Int} (h4 : 4 ≤ n) (h50 : n ≤ 50) (h2 : 2 ≤ taille) (h10 : taille ≤ 10)
    (h : 2 * taille ≤ n) (x y : Int) :
    Reglages ((Serveur.GameT.depart 2 n taille).apresTir x y) (clientDepart n taille) := by
  obtain ⟨hn, ht, -⟩ := Serveur.GameT.apresTir_regles (Serveur.GameT.depart 2 n taille) x y
  have hn' : ((Serveur.GameT.depart 2 n taille).apresTir x y).taillePlateau = n := hn
  have ht' : ((Serveur.GameT.depart 2 n taille).apresTir x y).tailleBateau = taille := ht
  refine ⟨by omega, by omega, by omega, by omega, by omega, hn'.symm, ht'.symm, fun i hi => ?_⟩
  rw [hn']
  rw [ht'] at hi
  simp only [clientDepart, Serveur.Dans]
  omega

theorem synchronisation_huit : Synchronise ((Serveur.GameT.depart 2 8 4).apresTir 7 7) (clientDepart 8 4) :=
  (synchronisation_iff ((Serveur.GameT.depart 2 8 4).apresTir 7 7) (clientDepart 8 4)
    (reglages_depart (by decide) (by decide) (by decide) (by decide) (by decide) 7 7)).mpr (.inl (by decide))

theorem synchronisation_onze :
    ∃ gc' ack, synchroniser ((Serveur.GameT.depart 2 11 5).apresTir 9 0) (clientDepart 11 5) (reste 'x')
        (pilePlateau 'x') = some (gc', ack) ∧
      ((Serveur.GameT.depart 2 11 5).apresTir 9 0).plateau.cell 0 9 = .missedShot ∧ gc'.plateau 0 9 = .empty := by
  have h : Reglages ((Serveur.GameT.depart 2 11 5).apresTir 9 0) (clientDepart 11 5) :=
    reglages_depart (by decide) (by decide) (by decide) (by decide) (by decide) 9 0
  obtain ⟨s, gc', ack, hs, hsync, hcell⟩ := synchroniser_spec h (by decide) (reste 'x') (pilePlateau 'x')
  obtain ⟨c, hc, he⟩ := hcell 0 9 (by decide)
  have hlen := Serveur.textePlateau_length h.plateau_le hs
  refine ⟨gc', ack, hsync, by decide, ?_⟩
  have h121 : s.length = 121 := hlen
  have h99 : (infosRecues s (reste 'x').infos.val)[99]? = some c := hc
  rw [infosRecues_fin (by omega), Option.some.injEq] at h99
  rw [he, ← h99]
  decide

end Bnbr
