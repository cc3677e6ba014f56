import Bnbr.Jumelles
import Bnbr.Ouverture

namespace Bnbr.Serveur

open CArray CString Decimal Runs

namespace Salon

variable {s s' t : Salon} {e e' : Fait} {es es' : List Fait} {game game' : MemoireT}

-- the same event, where a whole message may be read over other old contents
inductive Fait.Meme : Fait → Fait → Prop
  | egal (e : Fait) : Meme e e
  | lit {l : Lecture} {buff buff' : Buf maxBuffer} {quoi quoi' : ReqT} (h : ReponseEntiere l quoi)
      (h' : ReponseEntiere l quoi') : Meme (.lit l buff quoi) (.lit l buff' quoi')

-- the old contents only show in the reply the server keeps
inductive Point.Meme : Point → Point → Prop
  | egal (p : Point) : Meme p p
  | decider {c : Connexion} {r r' : ReqT} (h : r.id = r'.id) : Meme (.decider c r) (.decider c r')
  | pseudo {c : Connexion} {r r' : ReqT} : Meme (.pseudo c r) (.pseudo c r')

structure MemesCompteurs (m m' : MemoireT) : Prop where
  nbJoueur : m.nbJoueur = m'.nbJoueur
  maxJoueur : m.maxJoueur = m'.maxJoueur
  etat : m.etat = m'.etat
  taillePlateau : m.taillePlateau = m'.taillePlateau
  tailleBateau : m.tailleBateau = m'.tailleBateau
  timeout : m.timeout = m'.timeout

structure Pareils (s s' : Salon) : Prop where
  point : Point.Meme s.point s'.point
  veille : s.veille = s'.veille
  acceptees : s.acceptees = s'.acceptees
  envoyees : s.envoyees = s'.envoyees
  inscrites : s.inscrites = s'.inscrites
  fermees : s.fermees = s'.fermees
  compteurs : MemesCompteurs s.memoire s'.memoire

theorem MemesCompteurs.joueur {m m' n n' : MemoireT} (h : MemesCompteurs m m') {f f' : ClientT → Option ClientT}
    (hm : m.joueur f = some n) (hm' : m'.joueur f' = some n') : MemesCompteurs n n' := by
  obtain ⟨k, j, -, -, rfl⟩ := MemoireT.joueur_eq_some hm
  obtain ⟨k', j', -, -, rfl⟩ := MemoireT.joueur_eq_some hm'
  exact ⟨h.nbJoueur, h.maxJoueur, h.etat, h.taillePlateau, h.tailleBateau, h.timeout⟩

theorem MemesCompteurs.copie {m m' n : MemoireT} (h : MemesCompteurs m m') {f f' : ClientT → ClientT}
    (hm : m.joueur (fun j => some (f j)) = some n) :
    ∃ n', m'.joueur (fun j => some (f' j)) = some n' ∧ MemesCompteurs n n' := by
  obtain ⟨k, j, hk, -, -⟩ := MemoireT.joueur_eq_some hm
  have hm' := MemoireT.joueur_spec (h.nbJoueur ▸ hk) fun j => some (f' j)
  exact ⟨_, hm', h.joueur hm hm'⟩

theorem ReponseEntiere.id {l : Lecture} {quoi : ReqT} (h : ReponseEntiere l quoi) (quoi' : ReqT)
    (buff buff' : Buf maxBuffer) : ∃ r r', recevoir unserialReq l buff quoi = some r ∧
      recevoir unserialReq l buff' quoi' = some r' ∧ r.id = r'.id := by
  obtain ⟨t, v, ht, hv, -⟩ := h
  refine ⟨_, _, recevoir_texte ht _ buff quoi, recevoir_texte ht _ buff' quoi', ?_⟩
  rw [(unserialReq_suit (text_nul_notMem ht) quoi).id, (unserialReq_suit (text_nul_notMem ht) quoi').id, hv]
  rfl

theorem Fait.Meme.sur (h : Fait.Meme e e') (hs : Pareils s s') (he : e.Sur s) : e'.Sur s' := by
  cases h with
  | lit h h' => exact h'.sure _
  | egal =>
    cases e with
    | accepte fd =>
      intro v hv c hc hf
      exact he v hv c (hs.acceptees ▸ hc) (hs.fermees ▸ hf)
    | _ => exact he

theorem Pas.unique {t' : Salon} (h : Pas s e t) (h' : Pas s e t') : t = t' := by
  cases h <;> cases h' <;> simp_all [Point.ecriture]

end Salon

end Bnbr.Serveur
