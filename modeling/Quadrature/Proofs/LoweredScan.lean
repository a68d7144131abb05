import Quadrature.Proofs.ConditionLookahead
import Quadrature.Proofs.FirstLead
import Quadrature.Proofs.Lines
import Quadrature.Proofs.LoweredGroups
import Quadrature.Proofs.Scanning
import Quadrature.Proofs.Written

/-! The scanner on a text that stands some lines further down, behind a piece that has been read and
before a line that starts with `#`: each step does what it does on the text alone. -/

namespace Quadrature.C

variable {n : Nat}

lemma Position.lower_after (p : Position) (cs : List Char) : (p.lower n).after cs = (p.after cs).lower n := by
  induction cs generalizing p with
  | nil => rfl
  | cons c cs ih =>
    have hc : (p.lower n).next c = (p.next c).lower n := by
      simp only [Position.next, Position.lower]
      split_ifs
      · simp only [Nat.add_right_comm]
      · rfl
    rw [Position.after_cons, Position.after_cons, hc, ih]

@[simp] lemma Extent.between_lower (p q : Position) :
    Extent.between (p.lower n) (q.lower n) = (Extent.between p q).lower n := rfl

inductive SameBehindLead : List Piece → List Piece → Prop
  | nil : SameBehindLead [] []
  | cons (p : Piece) (lead : String) (ps : List Piece) :
      SameBehindLead (p :: ps) ({ p with lead := lead } :: ps)

lemma SameBehindLead.append {ps qs : List Piece} (h : SameBehindLead ps qs) (hne : ps ≠ []) (rs : List Piece) :
    SameBehindLead (ps ++ rs) (qs ++ rs) := by
  cases h with
  | nil => exact absurd rfl hne
  | cons p lead ps => exact .cons p lead (ps ++ rs)

lemma SameBehindLead.itemsReading {ps qs : List Piece} (h : SameBehindLead ps qs) (top : Bool) (k : Nat)
    (rs : List Piece) : C.itemsReading top k (qs ++ rs) = C.itemsReading top k (ps ++ rs) := by
  cases h with
  | nil => rfl
  | cons p lead ps => exact itemsReading_lead top k (ps ++ rs)

namespace Scan

open Lexeme

variable {q p p' : Piece} {f f' : Frame} {outer outer' : List Frame} {s s' r : State} {cs u rest : List Char}
  {token : Token}

def Fresh (f : Frame) (outer : List Frame) : Prop := outer = [] ∧ f.pieces = []

structure Frame.Lowers (n : Nat) (f f' : Frame) : Prop where
  opener : f'.opener = f.opener
  text : f'.text = f.text
  start : f'.start = f.start.lower n
  stop : f'.stop = f.stop.lower n
  pieces : f'.pieces = f.pieces.map (Piece.lower n)

/-- The open groups, moved down. The outermost one holds a piece more at its start, and only the blanks
before what stands first in it may differ. -/
inductive Stacks (n : Nat) (q : Piece) : Frame → List Frame → Frame → List Frame → Prop
  | unit {f f' : Frame} {ps : List Piece} : f'.opener = f.opener → f'.pieces.reverse = q :: ps →
      SameBehindLead (f.pieces.reverse.map (Piece.lower n)) ps → Stacks n q f [] f' []
  | group {f f' g g' : Frame} {outer outer' : List Frame} : f.Lowers n f' → f'.lead = f.lead ∨ Fresh g outer →
      Stacks n q g outer g' outer' → Stacks n q f (g :: outer) f' (g' :: outer')

lemma Stacks.opener (h : Stacks n q f outer f' outer') : f'.opener = f.opener := by
  cases h with
  | unit ho _ _ => exact ho
  | group hf _ _ => exact hf.opener

lemma Frame.Lowers.push (h : f.Lowers n f') (p : Piece) : (f.push p).Lowers n (f'.push (p.lower n)) where
  opener := h.opener
  text := by simp only [Frame.push, h.text, Piece.lead_lower, Piece.text_lower]
  start := h.start
  stop := rfl
  pieces := by simp only [Frame.push, h.pieces, List.map_cons]

lemma Stacks.push (h : Stacks n q f outer f' outer') {l : String} (hl : l = p.lead ∨ Fresh f outer) :
    Stacks n q (f.push p) outer (f'.push { p.lower n with lead := l }) outer' := by
  cases h with
  | group hf hlead hg =>
    rcases hl with rfl | hl
    · exact .group (hf.push p) hlead hg
    · exact nomatch hl.1
  | @unit f f' ps ho hp hs =>
    have hpush : (f'.push { p.lower n with lead := l }).pieces.reverse =
        q :: (ps ++ [{ p.lower n with lead := l }]) := by simp [Frame.push, hp]
    refine .unit ho hpush ?_
    simp only [Frame.push, List.reverse_cons, List.map_append, List.map_cons, List.map_nil]
    by_cases hne : f.pieces = []
    · rw [hne] at hs ⊢
      cases hs
      exact .cons _ l []
    · obtain rfl : l = p.lead := hl.resolve_right fun hfresh => hne hfresh.2
      exact hs.append (by simpa using hne) _

lemma Frame.Lowers.close (h : f.Lowers n f') (token : Token) (closing : String) (stop : Position) :
    f'.close (token.lower n) closing (stop.lower n) =
      { (f.close token closing stop).lower n with lead := f'.lead } := by
  simp only [Frame.close, Piece.lower, h.text, h.start, Extent.between_lower]

lemma Frame.Lowers.closeBranch (h : f.Lowers n f') (closing : String) (stop : Position) :
    f'.closeBranch closing (stop.lower n) = { (f.closeBranch closing stop).lower n with lead := f'.lead } := by
  have ht : Token.branch (.ofPieces f'.pieces.reverse) = (Token.branch (.ofPieces f.pieces.reverse)).lower n := by
    rw [h.pieces, ← List.map_reverse, ← lowerOnto_of_nil, Branch.ofPieces_lower]
    rfl
  rw [Frame.closeBranch, ht, h.close, Frame.closeBranch]

lemma Stacks.closeChained (h : Stacks n q f outer f' outer') :
    Stacks n q (Scan.closeChained f outer).1 (Scan.closeChained f outer).2
      (Scan.closeChained f' outer').1 (Scan.closeChained f' outer').2 := by
  induction outer generalizing f f' outer' with
  | nil =>
    cases h with
    | unit ho hp hs => exact .unit ho hp hs
  | cons g outer ih =>
    cases h with
    | group hf hlead hg =>
      rw [Scan.closeChained, Scan.closeChained, hf.opener]
      split
      · rw [hf.stop, hf.closeBranch]
        exact ih (hg.push hlead)
      · exact .group hf hlead hg

structure State.Lowers (n : Nat) (q : Piece) (s s' : State) : Prop where
  position : s'.position = s.position.lower n
  blank : s'.blank = s.blank ∨ Fresh s.frame s.outer
  stack : Stacks n q s.frame s.outer s'.frame s'.outer

lemma State.Lowers.pass (h : s.Lowers n q s') (cs : List Char) : (s.pass cs).Lowers n q (s'.pass cs) where
  position := by rw [State.pass, h.position, Position.lower_after, State.pass]
  blank := h.blank.imp_left fun hb => by rw [State.pass, hb, State.pass]
  stack := h.stack

lemma State.Lowers.comment (h : s.Lowers n q s') (cs : List Char) : (s.comment cs).Lowers n q (s'.comment cs) :=
  ⟨(h.pass cs).position, (h.pass cs).blank, (h.pass cs).stack⟩

lemma State.Lowers.take (h : s.Lowers n q s') (ht : token.lower n = token) (cs : List Char) :
    (s.take token cs).Lowers n q (s'.take token cs) where
  position := by rw [State.take, h.position, Position.lower_after, State.take]
  blank := .inl rfl
  stack := by
    have hp := h.stack.push (l := s'.blank)
      (p := ⟨s.blank, String.ofList cs, .between s.position (s.position.after cs), token⟩) h.blank
    simp only [State.take, h.position, Position.lower_after, Extent.between_lower]
    simpa only [Piece.lower, ht] using hp

lemma State.Lowers.enter (h : s.Lowers n q s') (opener : Opener) (cs : List Char) :
    (s.enter opener cs).Lowers n q (s'.enter opener cs) where
  position := by rw [State.enter, h.position, Position.lower_after, State.enter]
  blank := .inl rfl
  stack := by
    refine .group ⟨rfl, rfl, h.position, ?_, rfl⟩ h.blank h.stack
    simp only [State.enter, h.position, Position.lower_after]

lemma State.Lowers.leave (h : s.Lowers n q s') (hl : s.leave token cs = some r) :
    ∃ r', s'.leave (token.lower n) cs = some r' ∧ r.Lowers n q r' := by
  obtain ⟨hposition, hblank, hstack⟩ := h
  unfold State.leave at hl ⊢
  generalize hout : s.outer = outer at hl hblank hstack
  generalize hout' : s'.outer = outer' at hstack
  generalize hframe : s.frame = f at hl hblank hstack
  generalize hframe' : s'.frame = f' at hstack
  cases hstack with
  | unit => exact nomatch hl
  | group hf hlead hg =>
    obtain rfl := Option.some.inj hl
    obtain hb : s'.blank = s.blank := hblank.resolve_right fun hfresh => nomatch hfresh.1
    refine ⟨_, rfl, ⟨?_, .inl rfl, ?_⟩⟩
    · rw [hposition, Position.lower_after]
    · have hp := hg.push (l := f'.lead)
        (p := f.close token (s.blank ++ String.ofList cs) (s.position.after cs)) hlead
      rw [hb, hposition, Position.lower_after, hf.close]
      exact hp

lemma Stacks.pieces {g : Frame} (h : Stacks n q f (g :: outer) f' outer') :
    f'.pieces.reverse = lowerOnto n [] f.pieces.reverse := by
  cases h with
  | group hf _ _ => rw [hf.pieces, ← List.map_reverse, lowerOnto_of_nil]

lemma exists_outer_of_leave (hl : s.leave token cs = some r) : ∃ g outer, s.outer = g :: outer := by
  unfold State.leave at hl
  split at hl
  · exact nomatch hl
  · next g outer he => exact ⟨g, outer, he⟩

lemma State.Lowers.closeBracket (h : s.Lowers n q s') {c : Char} (hl : s.closeBracket c = some r) :
    ∃ r', s'.closeBracket c = some r' ∧ r.Lowers n q r' := by
  -- brackets close inside of another group, where the blanks are the same
  have hsame : ∀ {token}, s.leave token [c] = some r →
      s'.frame.pieces.reverse = lowerOnto n [] s.frame.pieces.reverse ∧ s'.blank = s.blank := by
    intro token hl
    obtain ⟨g, outer, ho⟩ := exists_outer_of_leave hl
    have hstack := h.stack
    have hblank := h.blank
    rw [ho] at hstack hblank
    exact ⟨hstack.pieces, hblank.resolve_right fun hfresh => List.cons_ne_nil g outer hfresh.1⟩
  unfold State.closeBracket at hl ⊢
  rw [h.stack.opener]
  dsimp only at hl ⊢
  split at hl
  · obtain ⟨hp, -⟩ := hsame hl
    obtain ⟨r', hr', hr⟩ := h.leave hl
    rw [Token.lower, ← Round.ofPieces_lower, ← hp] at hr'
    exact ⟨r', hr', hr⟩
  · obtain ⟨hp, hb⟩ := hsame hl
    obtain ⟨r', hr', hr⟩ := h.leave hl
    rw [Token.lower, ← Square.ofPieces_lower, ← hp, ← hb] at hr'
    exact ⟨r', hr', hr⟩
  · obtain ⟨hp, -⟩ := hsame hl
    obtain ⟨r', hr', hr⟩ := h.leave hl
    rw [Token.lower, ← Curly.ofPieces_lower, ← hp] at hr'
    exact ⟨r', hr', hr⟩
  · cases hl

lemma State.Lowers.closeConditional (h : s.Lowers n q s') (hl : s.closeConditional cs = some r) :
    ∃ r', s'.closeConditional cs = some r' ∧ r.Lowers n q r' := by
  rw [State.closeConditional] at hl
  have hstack := h.stack.closeChained
  obtain ⟨g, outer, ho⟩ := exists_outer_of_leave hl
  dsimp only at ho
  -- the conditional stands inside of another group
  have hblank : s'.blank = s.blank := by
    refine h.blank.resolve_right fun hfresh => ?_
    rw [hfresh.1] at ho
    cases ho
  have hc : State.Lowers n q
      { s with frame := (Scan.closeChained s.frame s.outer).1, outer := (Scan.closeChained s.frame s.outer).2 }
      { s' with frame := (Scan.closeChained s'.frame s'.outer).1, outer := (Scan.closeChained s'.frame s'.outer).2 } :=
    ⟨h.position, .inl hblank, hstack⟩
  obtain ⟨r', hr', hr⟩ := hc.leave hl
  rw [ho] at hstack
  rw [Token.lower, ← Branch.ofPieces_lower, ← hstack.pieces] at hr'
  exact ⟨r', hr', hr⟩

lemma State.Lowers.allowsAlternative (h : s.Lowers n q s') : s'.allowsAlternative = s.allowsAlternative := by
  rw [State.allowsAlternative, h.stack.opener, State.allowsAlternative]

lemma State.Lowers.inBranch (h : s.Lowers n q s') : s'.inBranch = s.inBranch := by
  rw [State.inBranch, h.stack.opener, State.inBranch]

def Follows (n : Nat) (q : Piece) (cs u : List Char) (r : State × List Char) (t : Option (State × List Char)) : Prop :=
  r.2 <:+ cs ∧ r.2.length < cs.length ∧ ∃ s', t = some (s', r.2 ++ '#' :: u) ∧ r.1.Lowers n q s'

lemma Follows.of_drop {k : Nat} (hk : 0 < k) (hl : k ≤ cs.length) (h : s.Lowers n q s') :
    Follows n q cs u (s, cs.drop k) (some (s', (cs ++ '#' :: u).drop k)) := by
  refine ⟨List.drop_suffix k cs, ?_, s', by rw [List.drop_append_of_le_length hl], h⟩
  rw [List.length_drop]
  omega

lemma Follows.measured {act act' : List Char → Option State} {length length' : Option Nat} {r : State × List Char}
    (hlen : ∀ k, length = some k → 0 < k ∧ k ≤ cs.length ∧ length' = some k)
    (hact : ∀ text r, act text = some r → ∃ r', act' text = some r' ∧ r.Lowers n q r')
    (hm : measured cs act length = some r) : Follows n q cs u r (measured (cs ++ '#' :: u) act' length') := by
  cases length with
  | none => exact nomatch hm
  | some k =>
    obtain ⟨hk, hl, rfl⟩ := hlen k rfl
    obtain ⟨s, hs, rfl⟩ := Option.map_eq_some_iff.mp hm
    obtain ⟨s', hs', h⟩ := hact _ s hs
    simp only [Scan.measured, List.take_append_of_le_length hl, hs', Option.map_some]
    exact .of_drop hk hl h

lemma State.Lowers.directive {r : State × List Char} (hu : Unclosed ('#' :: u)) (hcs : Ended ('#' :: cs))
    (h : s.Lowers n q s') (hd : Scan.directive s ('#' :: cs) = some r) :
    Follows n q ('#' :: cs) u r (Scan.directive s' ('#' :: cs ++ '#' :: u)) := by
  have htake : ∀ text r, some (s.take .directive text) = some r →
      ∃ r', some (s'.take .directive text) = some r' ∧ r.Lowers n q r' :=
    fun text r he => ⟨_, rfl, Option.some.inj he ▸ h.take rfl text⟩
  have henter : ∀ opener text r, some (s.enter opener text) = some r →
      ∃ r', some (s'.enter opener text) = some r' ∧ r.Lowers n q r' :=
    fun opener text r he => ⟨_, rfl, Option.some.inj he ▸ h.enter opener text⟩
  rw [Scan.directive] at hd
  rw [Scan.directive, List.cons_append, List.drop_succ_cons, List.drop_zero, Directive.name_hash]
  rw [List.drop_succ_cons, List.drop_zero] at hd
  cases hname : Directive.name cs with
  | none => rw [hname] at hd; cases hd
  | some w =>
    obtain ⟨name, m⟩ := w
    have hm := Directive.name_le hname
    have hrest := hcs.tail.drop m
    rw [hname] at hd
    dsimp only at hd ⊢
    rw [List.drop_succ_cons] at hd ⊢
    rw [List.drop_append_of_le_length hm, h.allowsAlternative, h.inBranch]
    have hsized : ∀ {f : List Char → Option Nat},
        (∀ k, f (cs.drop m) = some k → k ≤ (cs.drop m).length ∧ f (cs.drop m ++ '#' :: u) = some k) →
        ∀ k, (f (cs.drop m)).map (· + (m + 1)) = some k →
          0 < k ∧ k ≤ ('#' :: cs).length ∧ (f (cs.drop m ++ '#' :: u)).map (· + (m + 1)) = some k := by
      intro f hf k hk
      obtain ⟨i, hi, rfl⟩ := Option.map_eq_some_iff.mp hk
      obtain ⟨hl, hi'⟩ := hf i hi
      rw [List.length_drop] at hl
      rw [hi', List.length_cons]
      exact ⟨by omega, by omega, rfl⟩
    have hone : ∀ k, some (m + 1) = some k → 0 < k ∧ k ≤ ('#' :: cs).length ∧ some (m + 1) = some k := by
      rintro k ⟨rfl⟩
      exact ⟨Nat.succ_pos m, Nat.succ_le_succ hm, rfl⟩
    have hinclusion := hsized fun k => Directive.inclusion_hash hu hrest
    have hdefinition := hsized fun k => Directive.definition_hash hu hrest
    have htest := hsized fun k => Directive.test_hash hu hrest
    have hother := hsized fun k => Directive.other_hash hu hrest
    have hnamed := hsized (f := Directive.named) fun k hk =>
      ⟨Directive.named_le hk, (Directive.named_hash hu hrest).trans hk⟩
    rw [← List.cons_append]
    split at hd
    · exact .measured hinclusion htake hd
    · exact .measured hdefinition htake hd
    · exact .measured htest (henter _) hd
    · exact .measured hnamed (henter _) hd
    · exact .measured hnamed (henter _) hd
    · split_ifs at hd ⊢
      · exact .measured htest (henter _) hd
      · exact .measured hnamed (henter _) hd
      · exact .measured hone (henter _) hd
      · exact .measured hone (fun text r hr => h.closeConditional hr) hd
      · exact .measured hother htake hd

lemma step_space {c : Char} (s : State) (hc : isSpace c = true) (cs : List Char) :
    step s (c :: cs) =
      some (s.pass ((c :: cs).takeWhile isSpace), (c :: cs).dropWhile isSpace) := by
  unfold Scan.step
  dsimp only
  rw [if_pos hc]

lemma step_join {c : Char} {k : Nat} (s : State) (hc : isSpace c = false) (hj : lineJoin (c :: cs) = k + 1) :
    step s (c :: cs) = some (s.pass ((c :: cs).take (k + 1)), (c :: cs).drop (k + 1)) := by
  unfold Scan.step
  dsimp only
  rw [if_neg (by simp [hc]), hj]

lemma step_lexeme {c : Char} (s : State) (hs : isSpace c = false)
    (hj : lineJoin (c :: cs) = 0) (hc : comment (c :: cs) = none) (hb : c ∉ ['#', '(', '[', '{', ')', ']', '}']) :
    step s (c :: cs) = (read (c :: cs)).map fun r => (s.take (.lexeme r.1) ((c :: cs).take r.2), (c :: cs).drop r.2) := by
  unfold Scan.step
  dsimp only
  rw [if_neg (by simp [hs]), hj, hc]
  dsimp only
  split <;> first
    | exact absurd (by decide) hb
    | cases read (c :: cs) <;> rfl

lemma State.Lowers.step {r : State × List Char} (hu : Unclosed ('#' :: u)) (hcs : Ended cs) (h : s.Lowers n q s')
    (hs : Scan.step s cs = some r) : Follows n q cs u r (Scan.step s' (cs ++ '#' :: u)) := by
  cases cs with
  | nil => exact nomatch hs
  | cons c cs =>
    by_cases hsp : isSpace c = true
    · rw [step_space s hsp] at hs
      rw [List.cons_append, step_space s' hsp, ← List.cons_append, takeWhile_hash (by decide),
        dropWhile_hash (by decide)]
      obtain rfl := Option.some.inj hs
      refine ⟨List.dropWhile_suffix _, ?_, _, rfl, h.pass _⟩
      rw [List.dropWhile_cons, if_pos hsp]
      exact Nat.lt_succ_of_le (List.dropWhile_suffix _).length_le
    have hsp : isSpace c = false := by simpa using hsp
    have hj' := lineJoin_hash (u := u) (c :: cs)
    have hc' := comment_hash hu hcs
    cases hj : lineJoin (c :: cs) with
    | succ k =>
      have hl := lineJoin_le (c :: cs)
      rw [hj] at hj' hl
      rw [step_join s hsp hj] at hs
      rw [List.cons_append] at hj' ⊢
      rw [step_join s' hsp hj', ← List.cons_append, List.take_append_of_le_length hl]
      obtain rfl := Option.some.inj hs
      exact .of_drop (Nat.succ_pos k) hl (h.pass _)
    | zero =>
      rw [hj] at hj'
      cases hc : Lexeme.comment (c :: cs) with
      | some k =>
        obtain ⟨hk, hl⟩ := comment_bounds hc
        rw [hc] at hc'
        rw [step_comment hsp hj hc] at hs
        rw [List.cons_append] at hj' hc' ⊢
        rw [step_comment hsp hj' hc', ← List.cons_append, List.take_append_of_le_length hl]
        obtain rfl := Option.some.inj hs
        exact .of_drop hk hl (h.comment _)
      | none =>
        rw [hc] at hc'
        have hopen : ∀ opener, Follows n q (c :: cs) u (s.enter opener [c], cs)
            (some (s'.enter opener [c], cs ++ '#' :: u)) :=
          fun opener => ⟨List.suffix_cons c cs, Nat.lt_succ_self _, _, rfl, h.enter opener [c]⟩
        have hclose : (s.closeBracket c).map (fun t => (t, cs)) = some r →
            Follows n q (c :: cs) u r ((s'.closeBracket c).map fun t => (t, cs ++ '#' :: u)) := by
          intro hr
          obtain ⟨t, ht, rfl⟩ := Option.map_eq_some_iff.mp hr
          obtain ⟨t', ht', hl⟩ := h.closeBracket ht
          rw [ht']
          exact ⟨List.suffix_cons c cs, Nat.lt_succ_self _, _, rfl, hl⟩
        by_cases hb : c ∈ ['#', '(', '[', '{', ')', ']', '}']
        · simp only [List.mem_cons, List.not_mem_nil, or_false] at hb
          rcases hb with rfl | rfl | rfl | rfl | rfl | rfl | rfl
          · exact h.directive hu hcs hs
          · exact Option.some.inj hs ▸ hopen .round
          · exact Option.some.inj hs ▸ hopen .square
          · exact Option.some.inj hs ▸ hopen .curly
          · exact hclose hs
          · exact hclose hs
          · exact hclose hs
        · rw [step_lexeme s hsp hj hc hb] at hs
          obtain ⟨⟨sort, k⟩, hr, rfl⟩ := Option.map_eq_some_iff.mp hs
          obtain ⟨hl, hr'⟩ := read_hash hu hcs hr
          rw [List.cons_append] at hj' hc' hr' ⊢
          rw [step_lexeme s' hsp hj' hc' hb, hr', Option.map_some, ← List.cons_append,
            List.take_append_of_le_length hl]
          exact .of_drop (read_pos hr) hl (h.take rfl _)

lemma State.Lowers.run {fuel : Nat} (hu : Unclosed ('#' :: u)) (hcs : Ended cs) (h : s.Lowers n q s')
    (hr : Scan.run fuel s cs = .ok r) : ∃ r', Reaches s' (cs ++ '#' :: u) r' ('#' :: u) ∧ r.Lowers n q r' := by
  induction fuel generalizing cs s s' with
  | zero =>
    cases cs with
    | nil =>
      obtain rfl := Except.ok.inj hr
      exact ⟨s', .refl _ _, h⟩
    | cons c cs => cases hr
  | succ fuel ih =>
    cases cs with
    | nil =>
      obtain rfl := Except.ok.inj hr
      exact ⟨s', .refl _ _, h⟩
    | cons c cs =>
      rw [Scan.run] at hr
      · cases hs : Scan.step s (c :: cs) with
        | none => rw [hs] at hr; cases hr
        | some t =>
          rw [hs] at hr
          obtain ⟨hsuffix, hlt, t', ht', hl⟩ := h.step hu hcs hs
          obtain ⟨r', hreach, hl'⟩ := ih (hcs.suffix hsuffix) hl hr
          refine ⟨r', (reaches_of_step ht' ?_).trans hreach, hl'⟩
          simp only [List.length_append]
          omega
      · simp

end Scan

end Quadrature.C
