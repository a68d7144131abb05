import Mathlib.Data.Prod.Lex
import Quadrature.Proofs.Placement

/-! The order of places in a text. Pieces that follow one another give items that do, at every depth. -/

namespace Quadrature.C

variable {p q : Position} {lo lo' mid hi hi' : Position}

lemma Position.lex_injective : Function.Injective fun p : Position => toLex (p.line, p.column) := by
  rintro ⟨l, c⟩ ⟨l', c'⟩ h
  obtain ⟨rfl, rfl⟩ := Prod.mk.inj (toLex.injective h)
  rfl

instance : LinearOrder Position := LinearOrder.lift' (fun p => toLex (p.line, p.column)) Position.lex_injective

lemma Position.lt_iff : p < q ↔ p.line < q.line ∨ p.line = q.line ∧ p.column < q.column :=
  Prod.Lex.toLex_lt_toLex

lemma Position.lt_next (p : Position) (c : Char) : p < p.next c := by
  rw [Position.lt_iff, Position.next]
  split_ifs
  · exact .inl (Nat.lt_succ_self _)
  · exact .inr ⟨rfl, Nat.lt_add_of_pos_right c.utf8Size_pos⟩

lemma Position.le_after (p : Position) (cs : List Char) : p ≤ p.after cs := by
  induction cs generalizing p with
  | nil => exact le_rfl
  | cons c cs ih => exact (p.lt_next c).le.trans (ih (p.next c))

lemma Position.lt_after (p : Position) {cs : List Char} (h : cs ≠ []) : p < p.after cs := by
  cases cs with
  | nil => exact absurd rfl h
  | cons c cs => exact (p.lt_next c).trans_le ((p.next c).le_after cs)

abbrev Site := Extent × Option Extent

mutual

/-- The declarations and definitions of an item at any depth, but not those in a body. -/
def Item.sites : Item → List Site
  | .definition e _ _ _ body _ => [(e, some body)]
  | .declaration d => [(d.extent, none)]
  | .typeDefinition _ => []
  | .conditional _ items => sitesOf items
  | .linkage _ items => sitesOf items
  | .braces _ items => sitesOf items

def sitesOf : List Item → List Site
  | [] => []
  | item :: rest => item.sites ++ sitesOf rest

end

inductive Spread : Position → List Site → Position → Prop
  | nil {lo hi : Position} : lo ≤ hi → Spread lo [] hi
  | cons {lo hi : Position} {s : Site} {ss : List Site} : lo ≤ s.1.first → s.1.first < s.1.last →
      (∀ b ∈ s.2, s.1.first < b.first ∧ b.last ≤ s.1.last) → Spread s.1.last ss hi → Spread lo (s :: ss) hi

namespace Spread

variable {s s' : Site} {ss ts : List Site}

lemma le (h : Spread lo ss hi) : lo ≤ hi := by
  induction h with
  | nil h => exact h
  | cons hl hs _ _ ih => exact hl.trans (hs.le.trans ih)

lemma mono (h : Spread lo ss hi) (hl : lo' ≤ lo) (hh : hi ≤ hi') : Spread lo' ss hi' := by
  induction h generalizing lo' with
  | nil h => exact .nil (hl.trans (h.trans hh))
  | cons hlo hs hb _ ih => exact .cons (hl.trans hlo) hs hb (ih le_rfl hh)

lemma append (h : Spread lo ss mid) (h' : Spread mid ts hi) : Spread lo (ss ++ ts) hi := by
  induction h with
  | nil h => exact h'.mono h le_rfl
  | cons hlo hs hb _ ih => exact .cons hlo hs hb (ih h')

lemma split (h : Spread lo (ss ++ ts) hi) : ∃ mid, Spread lo ss mid ∧ Spread mid ts hi := by
  induction ss generalizing lo with
  | nil => exact ⟨lo, .nil le_rfl, h⟩
  | cons s ss ih =>
    cases h with
    | cons hlo hs hb h =>
      obtain ⟨mid, hss, hts⟩ := ih h
      exact ⟨mid, .cons hlo hs hb hss, hts⟩

lemma of_mem (h : Spread lo ss hi) (hs : s ∈ ss) : Spread lo [s] hi := by
  induction h with
  | nil h => exact nomatch hs
  | @cons lo hi t ts hlo ht hb h ih =>
    rcases List.mem_cons.mp hs with rfl | hs
    · exact .cons hlo ht hb (.nil h.le)
    · exact (ih hs).mono (hlo.trans ht.le) le_rfl

lemma apart (h : Spread lo ss hi) (hs : s ∈ ss) (hs' : s' ∈ ss) :
    s = s' ∨ s.1.last ≤ s'.1.first ∨ s'.1.last ≤ s.1.first := by
  induction h with
  | nil h => exact nomatch hs
  | @cons lo hi t ts hlo ht hb h ih =>
    have hbehind : ∀ {r : Site}, r ∈ ts → t.1.last ≤ r.1.first := by
      intro r hr
      cases h.of_mem hr with
      | cons hr _ _ _ => exact hr
    rcases List.mem_cons.mp hs with rfl | hin
    · rcases List.mem_cons.mp hs' with rfl | hin'
      · exact .inl rfl
      · exact .inr (.inl (hbehind hin'))
    · rcases List.mem_cons.mp hs' with rfl | hin'
      · exact .inr (.inr (hbehind hin))
      · exact ih hin hin'

end Spread

inductive InOrder : Position → List Piece → Position → Prop
  | nil {lo hi : Position} : lo ≤ hi → InOrder lo [] hi
  | cons {lo hi : Position} {p : Piece} {ps : List Piece} : lo ≤ p.extent.first →
      p.extent.first < p.extent.last →
      (∀ items, p.token.items? = some items → Spread p.extent.first (sitesOf items) p.extent.last) →
      InOrder p.extent.last ps hi → InOrder lo (p :: ps) hi

namespace InOrder

variable {x y : Piece} {ps qs rest : List Piece} {item : Item} {items : List Item}

lemma le (h : InOrder lo ps hi) : lo ≤ hi := by
  induction h with
  | nil h => exact h
  | cons hl hp _ _ ih => exact hl.trans (hp.le.trans ih)

lemma split (h : InOrder lo (ps ++ qs) hi) : ∃ mid, InOrder lo ps mid ∧ InOrder mid qs hi := by
  induction ps generalizing lo with
  | nil => exact ⟨lo, .nil le_rfl, h⟩
  | cons p ps ih =>
    cases h with
    | cons hlo hp hin h =>
      obtain ⟨mid, hps, hqs⟩ := ih h
      exact ⟨mid, .cons hlo hp hin hps, hqs⟩

lemma concat (h : InOrder lo ps mid) (hm : mid ≤ x.extent.first) (hx : x.extent.first < x.extent.last)
    (ht : ∀ items, x.token.items? = some items → Spread x.extent.first (sitesOf items) x.extent.last) :
    InOrder lo (ps ++ [x]) x.extent.last := by
  induction h with
  | nil h => exact .cons (h.trans hm) hx ht (.nil le_rfl)
  | cons hlo hp hin _ ih => exact .cons hlo hp hin (ih hm)

lemma of_mem (h : InOrder lo ps hi) (hx : x ∈ ps) : InOrder lo [x] hi := by
  obtain ⟨ps, qs, rfl⟩ := List.append_of_mem hx
  obtain ⟨mid, hps, hqs⟩ := h.split
  cases hqs with
  | cons hlo hp hin h => exact .cons (hps.le.trans hlo) hp hin (.nil h.le)

lemma spread_of_mem (h : InOrder lo ps hi) (hx : x ∈ ps) (ht : x.token.items? = some items) :
    Spread lo (sitesOf items) hi := by
  cases h.of_mem hx with
  | cons hlo hp hin h => exact (hin items ht).mono hlo h.le

lemma spread_of_spans (h : InOrder lo ps hi) (hx : x :: rest <:+ ps) (hy : y ∈ rest) (hs : item.Spans x y) :
    Spread lo item.sites hi := by
  obtain ⟨before, rfl⟩ := hx
  obtain ⟨mid, hbefore, h⟩ := h.split
  cases h with
  | cons hlo hx _ h =>
    cases h.of_mem hy with
    | cons hxy hy _ hhi =>
      have hlast : x.extent.first < y.extent.last := hx.trans (hxy.trans_lt hy)
      have hfirst : x.extent.first < y.extent.first := hx.trans_le hxy
      have hlo := hbefore.le.trans hlo
      cases hs with
      | definition =>
        rw [Item.sites]
        exact .cons hlo hlast (by simpa using ⟨hfirst, le_rfl⟩) (.nil hhi.le)
      | declaration _ he =>
        rw [Item.sites, he]
        exact .cons hlo hlast (by simp) (.nil hhi.le)

lemma spread_of_readIn (h : InOrder lo ps hi) (hr : item.ReadIn ps) : Spread lo item.sites hi := by
  induction hr with
  | spans hx hy hs => exact h.spread_of_spans hx hy hs
  | typeDefinition =>
    rw [Item.sites]
    exact .nil h.le
  | conditional hx hb hi =>
    rw [Item.sites]
    exact h.spread_of_mem hx (by rw [hb]; exact hi)
  | braces hx hc hi =>
    rw [Item.sites]
    exact h.spread_of_mem hx ((Token.items?_of_curly? hc).trans hi)
  | linkage _ ih =>
    rw [Item.sites, sitesOf, sitesOf, List.append_nil]
    exact ih

lemma spread_of_items {top : Bool} {fuel : Nat} (h : InOrder lo ps hi)
    (hr : itemsReading top fuel ps = .ok items) : Spread lo (sitesOf items) hi := by
  induction fuel generalizing lo ps items with
  | zero =>
    cases ps with
    | nil =>
      cases hr
      exact .nil h.le
    | cons p ps => cases hr
  | succ fuel ih =>
    cases ps with
    | nil =>
      cases hr
      exact .nil h.le
    | cons p ps =>
      rw [itemsReading] at hr
      split at hr
      · next first rest hfirst =>
        obtain ⟨taken, ht, hf⟩ := itemReading_in hfirst
        rw [ht] at h
        obtain ⟨mid, htaken, hrest⟩ := h.split
        cases hm : itemsReading top fuel rest with
        | error e =>
          rw [hm] at hr
          cases hr
        | ok more =>
          rw [hm] at hr
          obtain rfl : first ++ more = items := by simpa [Except.map] using hr
          have hmore := ih hrest hm
          rcases hf with rfl | ⟨item, rfl, hitem⟩
          · exact hmore.mono htaken.le le_rfl
          · exact (htaken.spread_of_readIn hitem).append hmore
      · cases hr

lemma spread_of_blockItems (h : InOrder lo ps hi) (hb : blockItems ps = some items) :
    Spread lo (sitesOf items) hi :=
  h.spread_of_items (itemsReading_of_blockItems hb)

end InOrder

end Quadrature.C
