import Quadrature.Proofs.Masking
import Quadrature.SourceFile

/-! Text that is blanked is never read: whatever takes its place, masking and reading go the same way. -/

namespace Quadrature.C.Guard

open Text

/-- A text that may stand in the place of the body of a line: it has as many bytes, no line end in it,
and is no directive. -/
structure Replaces (line text : List Char) : Prop where
  length : byteLength text = byteLength (body line)
  noFeed : '\n' ∉ text
  noReturn : '\r' ∉ text
  noDirective : (text.dropWhile isBlank).head? ≠ some '#'

inductive RewrittenLines : List Bool → List (List Char) → List (List Char) → Prop
  | nil : RewrittenLines [] [] []
  | keep {b : Bool} {bs : List Bool} {ls ls' : List (List Char)} (line : List Char) :
      RewrittenLines bs ls ls' → RewrittenLines (b :: bs) (line :: ls) (line :: ls')
  | replace {b : Bool} {bs : List Bool} {line text : List Char} {ls ls' : List (List Char)} :
      b = true → Replaces line text → RewrittenLines bs ls ls' →
      RewrittenLines (b :: bs) (line :: ls) ((text ++ terminator line) :: ls')

/-- The second text is the first one with other texts in any of the lines that masking blanks. -/
def Rewritten (source target : String) : Prop :=
  ∃ ls, RewrittenLines (blankedLines .initial (lines source.toList)) (lines source.toList) ls ∧
    target.toList = ls.flatten

lemma RewrittenLines.areLines {bs : List Bool} {ls ls' : List (List Char)} (h : RewrittenLines bs ls ls')
    (ha : AreLines ls) : AreLines ls' := by
  induction h with
  | nil => exact .nil
  | keep line h ih =>
    cases ha with
    | last hne hl =>
      cases h
      exact .last hne hl
    | cons hb ha => exact .cons hb (ih ha)
  | replace _ hr h ih =>
    cases ha with
    | last hne hl =>
      cases h
      exact areLines_replace_last hne hl hr.noFeed hr.length
    | cons hb ha => exact areLines_replace_cons hb hr.noFeed (ih ha)

lemma Replaces.body_eq {line text : List Char} (h : Replaces line text) :
    body (text ++ terminator line) = text := by
  have he : ∀ c ∈ (terminator line).reverse, (c == '\n' || c == '\r') = true := by
    intro c hc
    simpa using mem_terminator line (List.mem_reverse.mp hc)
  have ht : text.reverse.dropWhile (fun c => c == '\n' || c == '\r') = text.reverse := by
    rw [List.dropWhile_eq_self_iff]
    intro hl hc
    have hm : text.reverse[0] ∈ text := List.mem_reverse.mp (List.getElem_mem hl)
    rcases (by simpa using hc : text.reverse[0] = '\n' ∨ text.reverse[0] = '\r') with hc | hc
    · exact h.noFeed (hc ▸ hm)
    · exact h.noReturn (hc ▸ hm)
  rw [body, dropEndWhile, List.reverse_append, List.dropWhile_append_of_pos he, ht, List.reverse_reverse]

lemma Replaces.blank_eq {line text : List Char} (h : Replaces line text) :
    blank (text ++ terminator line) = blank line := by
  have ht : terminator (text ++ terminator line) = terminator line := by
    have hh := body_append_terminator (text ++ terminator line)
    rw [h.body_eq] at hh
    exact List.append_cancel_left hh
  rw [blank, blank, ht, h.body_eq, h.length]

lemma Replaces.isDirective_eq {line text : List Char} (h : Replaces line text) {st : State}
    (hc : st.continued = false) : st.isDirective (text ++ terminator line) = false := by
  rw [State.isDirective, hc, h.body_eq, Bool.false_or, beq_eq_false_iff_ne]
  exact h.noDirective

lemma State.next_of_text {st : State} {line : List Char} (h : st.isDirective line = false) :
    st.next line = st := by
  rw [State.next, h, if_neg Bool.false_ne_true]

lemma maskLines_rewritten {ls ls' : List (List Char)} {st : State}
    (h : RewrittenLines (blankedLines st ls) ls ls') : maskLines st ls' = maskLines st ls := by
  -- a line is replaced only where the state stays as it is, so both runs are in one state throughout
  induction ls generalizing st ls' with
  | nil =>
    cases h
    rfl
  | cons line rest ih =>
    rw [blankedLines] at h
    cases h with
    | keep _ h => rw [maskLines, maskLines, ih h]
    | @replace _ _ _ text _ _ hb hr h =>
      obtain ⟨hd, he⟩ := Bool.and_eq_true_iff.mp hb
      rw [Bool.not_eq_true'] at hd
      have hd' : st.isDirective (text ++ terminator line) = false :=
        hr.isDirective_eq (Bool.or_eq_false_iff.mp hd).1
      have hb' : (!st.isDirective (text ++ terminator line) && st.excludes) = true := by rw [hd', he]; rfl
      rw [State.next_of_text hd] at h
      rw [maskLines, maskLines, State.next_of_text hd', State.next_of_text hd, ih h, st.mask_eq_ite,
        st.mask_eq_ite, if_pos hb', if_pos hb, hr.blank_eq]

lemma mask_rewritten {source target : String} (h : Rewritten source target) :
    mask target = mask source := by
  obtain ⟨ls, hr, ht⟩ := h
  rw [mask, ht, lines_flatten_eq (hr.areLines (areLines_lines _)), maskLines_rewritten hr, mask]

lemma replaces_spaces (line : List Char) :
    Replaces line (List.replicate (byteLength (body line)) ' ') where
  length := byteLength_spaces _
  noFeed := newline_not_mem_spaces _
  noReturn hm := absurd (List.eq_of_mem_replicate hm) (by decide)
  noDirective := by
    have hb : ∀ c ∈ List.replicate (byteLength (body line)) ' ', isBlank c = true := by
      intro c hc
      rw [List.eq_of_mem_replicate hc]
      rfl
    simp [List.dropWhile_eq_nil_iff.mpr hb]

lemma length_blankedLines (ls : List (List Char)) (st : State) :
    (blankedLines st ls).length = ls.length := by
  induction ls generalizing st with
  | nil => rfl
  | cons line rest ih => rw [blankedLines, List.length_cons, List.length_cons, ih]

lemma rewrittenLines_blankFlagged {bs : List Bool} {ls : List (List Char)} (h : bs.length = ls.length) :
    RewrittenLines bs ls (blankFlagged bs ls) := by
  induction ls generalizing bs with
  | nil =>
    obtain rfl := List.eq_nil_of_length_eq_zero h
    exact .nil
  | cons line rest ih =>
    obtain ⟨b, bs, rfl⟩ := List.exists_cons_of_length_eq_add_one h
    have hh := ih (Nat.succ.inj h)
    cases b with
    | true => exact .replace rfl (replaces_spaces line) hh
    | false => exact .keep line hh

lemma rewritten_mask (source : String) : Rewritten source (mask source) := by
  refine ⟨_, rewrittenLines_blankFlagged (length_blankedLines _ _), ?_⟩
  rw [mask, String.toList_ofList, maskLines_eq_blankFlagged]

/-- The flagged lines are those that masking blanks. Other text in them changes neither the masked
source nor what is read from it, be it an outline or a failure; and masking a masked source changes
nothing. -/
theorem blanked_text_is_never_read :
    (∀ source, lines (mask source).toList =
      blankFlagged (blankedLines .initial (lines source.toList)) (lines source.toList)) ∧
    (∀ source target, Rewritten source target →
      mask target = mask source ∧ FrontEnd.c.read target = FrontEnd.c.read source) ∧
    ∀ source, mask (mask source) = mask source := by
  refine ⟨?_, ?_, ?_⟩
  · intro source
    rw [lines_mask, maskLines_eq_blankFlagged]
  · intro source target h
    have hm := mask_rewritten h
    exact ⟨hm, by simp only [FrontEnd.c, readSource, hm]⟩
  · intro source
    exact mask_rewritten (rewritten_mask source)

theorem blanked_text_is_never_read_with_backslash :
    let source := "#ifdef __cplusplus\nclass A;\r\n#endif\nint f(int);\n"
    let target := "#ifdef __cplusplus\né /*\"#\\\r\n#endif\nint f(int);\n"
    Rewritten source target ∧ FrontEnd.c.read target = FrontEnd.c.read source := by
  intro source target
  have hl : lines source.toList = ["#ifdef __cplusplus\n".toList, "class A;\r\n".toList,
      "#endif\n".toList, "int f(int);\n".toList] := by decide +kernel
  have hb : blankedLines .initial (lines source.toList) = [false, true, false, false] := by decide +kernel
  have hr : Replaces "class A;\r\n".toList "é /*\"#\\".toList :=
    ⟨by decide +kernel, by decide +kernel, by decide +kernel, by decide +kernel⟩
  have h : Rewritten source target := by
    refine ⟨["#ifdef __cplusplus\n".toList, "é /*\"#\\".toList ++ terminator "class A;\r\n".toList,
      "#endif\n".toList, "int f(int);\n".toList], ?_, ?_⟩
    · rw [hb, hl]
      exact .keep _ (.replace rfl hr (.keep _ (.keep _ .nil)))
    · decide +kernel
  exact ⟨h, (blanked_text_is_never_read.2.1 source target h).2⟩

end Quadrature.C.Guard
