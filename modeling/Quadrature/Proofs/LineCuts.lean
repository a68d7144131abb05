import Quadrature.Proofs.Lines

/-! The text of an extent, for any four numbers: what stands in the source between the start of one line and a
place in a later one, without the blanks at both ends. -/

namespace Quadrature.Text

/-! ## Lines of a text -/

/-- The line of a number, which counts from one, with its line feed if it has one, and what stands before and
behind it. -/
structure LineAt (source : List Char) (number : Nat) (before line after : List Char) : Prop where
  split : source = before ++ (line ++ after)
  place : Complete before ∧ newlines before + 1 = number
  nonempty : line ≠ []
  whole : (∃ b, '\n' ∉ b ∧ line = b ++ ['\n']) ∨ '\n' ∉ line ∧ after = []

def HasLine (source : List Char) (number : Nat) : Prop :=
  ∃ before line after, LineAt source number before line after

lemma AreLines.lineAt {xs ys : List (List Char)} {line : List Char} (h : AreLines (xs ++ line :: ys)) :
    LineAt (xs ++ line :: ys).flatten (xs.length + 1) xs.flatten line ys.flatten := by
  induction xs with
  | nil =>
    refine ⟨by simp, ⟨.nil, rfl⟩, ?_, ?_⟩
    · cases h with
      | last hne _ => exact hne
      | cons _ _ => simp
    · cases h with
      | last _ hb => exact .inr ⟨hb, rfl⟩
      | cons hb _ => exact .inl ⟨_, hb, rfl⟩
  | cons x xs ih =>
    -- a line before another one ends with a line feed
    obtain ⟨b, hb, rfl, hs⟩ : ∃ b, '\n' ∉ b ∧ x = b ++ ['\n'] ∧ AreLines (xs ++ line :: ys) := by
      cases hl : xs ++ line :: ys with
      | nil => simp at hl
      | cons y zs =>
        rw [List.cons_append, hl] at h
        cases h with
        | cons hb hs => exact ⟨_, hb, rfl, hs⟩
    obtain ⟨hsplit, ⟨hcomplete, hnumber⟩, hne, hwhole⟩ := ih hs
    refine ⟨by simp, ⟨?_, ?_⟩, hne, hwhole⟩
    · rw [List.flatten_cons, List.append_assoc]
      exact .line hb hcomplete
    · have hcount : newlines (b ++ ['\n']) = 1 := by simp [newlines, List.count_eq_zero.mpr hb]
      rw [List.flatten_cons, newlines_append, hcount, List.length_cons]
      omega

lemma LineAt.lines_eq {source before line after : List Char} {number : Nat}
    (h : LineAt source number before line after) : lines source = lines before ++ line :: lines after := by
  obtain ⟨rfl, ⟨hcomplete, -⟩, hne, hwhole⟩ := h
  rw [hcomplete.lines_append]
  congr 1
  rcases hwhole with ⟨b, hb, rfl⟩ | ⟨hline, rfl⟩
  · rw [List.append_assoc, List.singleton_append, lines_append_newline b after hb]
  · rw [List.append_nil, lines_of_not_mem line hline hne]
    rfl

lemma lineAt_iff {source before line after : List Char} {number : Nat} :
    LineAt source number before line after ↔
      ∃ xs ys, lines source = xs ++ line :: ys ∧ xs.length + 1 = number ∧ before = xs.flatten ∧
        after = ys.flatten := by
  constructor
  · intro h
    refine ⟨_, _, h.lines_eq, ?_, (flatten_lines before).symm, (flatten_lines after).symm⟩
    rw [h.place.1.length_lines, h.place.2]
  · rintro ⟨xs, ys, hl, rfl, rfl, rfl⟩
    have hs := areLines_lines source
    rw [hl] at hs
    have h := hs.lineAt
    rwa [← hl, flatten_lines] at h

lemma LineAt.unique {source before line after before' line' after' : List Char} {number : Nat}
    (h : LineAt source number before line after) (h' : LineAt source number before' line' after') :
    before' = before ∧ line' = line := by
  obtain ⟨xs, ys, hl, hn, rfl, rfl⟩ := lineAt_iff.mp h
  obtain ⟨xs', ys', hl', hn', rfl, rfl⟩ := lineAt_iff.mp h'
  obtain ⟨rfl, hcons⟩ := List.append_inj (hl.symm.trans hl') (by omega)
  exact ⟨rfl, (List.cons.inj hcons).1.symm⟩

lemma hasLine_iff {source : List Char} {number : Nat} :
    HasLine source number ↔ 0 < number ∧ number ≤ (lines source).length := by
  constructor
  · rintro ⟨before, line, after, h⟩
    obtain ⟨xs, ys, hl, rfl, -⟩ := lineAt_iff.mp h
    rw [hl, List.length_append, List.length_cons]
    omega
  · rintro ⟨hpos, hle⟩
    have hlt : number - 1 < (lines source).length := by omega
    have hsplit : lines source = (lines source).take (number - 1) ++
        (lines source)[number - 1] :: (lines source).drop (number - 1 + 1) := by
      rw [← List.drop_eq_getElem_cons hlt, List.take_append_drop]
    refine ⟨_, _, _, lineAt_iff.mpr ⟨_, _, hsplit, ?_, rfl, rfl⟩⟩
    rw [List.length_take]
    omega

/-! ## Cuts and blanks -/

structure CutWithin (bytes : Nat) (text kept : List Char) : Prop where
  isPrefix : kept <+: text
  fits : byteLength kept ≤ bytes
  greatest : ∀ p, p <+: text → byteLength p ≤ bytes → byteLength p ≤ byteLength kept

lemma byteLength_append (a b : List Char) : byteLength (a ++ b) = byteLength a + byteLength b := by
  induction a with
  | nil => simp
  | cons c a ih => rw [List.cons_append, byteLength_cons, byteLength_cons, ih, Nat.add_assoc]

lemma byteLength_le_of_prefix {p text : List Char} (h : p <+: text) : byteLength p ≤ byteLength text := by
  obtain ⟨r, rfl⟩ := h
  rw [byteLength_append]
  omega

lemma cutWithin_takeBytes (n : Nat) (text : List Char) : CutWithin n text (takeBytes n text) := by
  induction text generalizing n with
  | nil =>
    refine ⟨List.prefix_rfl, Nat.zero_le n, ?_⟩
    intro p hp _
    rw [List.prefix_nil.mp hp]
    exact Nat.le_refl _
  | cons c text ih =>
    obtain ⟨hbegin, hfits, hgreatest⟩ := ih (n - c.utf8Size)
    rw [takeBytes]
    split_ifs with hc
    · refine ⟨List.cons_prefix_cons.mpr ⟨rfl, hbegin⟩, ?_, ?_⟩
      · rw [byteLength_cons]
        omega
      · intro p hp hn
        cases p with
        | nil => exact Nat.zero_le _
        | cons b p =>
          obtain ⟨rfl, htail⟩ := List.cons_prefix_cons.mp hp
          rw [byteLength_cons] at hn
          have := hgreatest p htail (by omega)
          rw [byteLength_cons, byteLength_cons]
          omega
    · refine ⟨List.nil_prefix, Nat.zero_le n, ?_⟩
      intro p hp hn
      cases p with
      | nil => exact Nat.le_refl _
      | cons b p =>
        obtain ⟨rfl, -⟩ := List.cons_prefix_cons.mp hp
        rw [byteLength_cons] at hn
        omega

lemma CutWithin.min {n : Nat} {text kept : List Char} (h : CutWithin n text kept) :
    CutWithin (Nat.min n (byteLength text)) text kept := by
  refine ⟨h.isPrefix, Nat.le_min.mpr ⟨h.fits, byteLength_le_of_prefix h.isPrefix⟩, ?_⟩
  intro p hp hn
  exact h.greatest p hp (Nat.le_min.mp hn).1

structure Trimmed (text trimmed : List Char) : Prop where
  split : ∃ lead trail, text = lead ++ (trimmed ++ trail) ∧ ∀ c ∈ lead ++ trail, isBlank c = true
  ends : ∀ c, c ∈ trimmed.head? ∨ c ∈ trimmed.getLast? → isBlank c = false

lemma isBlank_of_mem_head?_dropWhile {cs : List Char} {c : Char} (h : c ∈ (cs.dropWhile isBlank).head?) :
    isBlank c = false := by
  have hn := List.head?_dropWhile_not isBlank cs
  rw [Option.mem_def.mp h] at hn
  exact hn

lemma exists_dropEndWhile_append (cs : List Char) :
    ∃ trail, cs = dropEndWhile isBlank cs ++ trail ∧ ∀ c ∈ trail, isBlank c = true := by
  refine ⟨(cs.reverse.takeWhile isBlank).reverse, ?_, ?_⟩
  · rw [dropEndWhile, ← List.reverse_append, List.takeWhile_append_dropWhile, List.reverse_reverse]
  · intro c hc
    exact List.mem_takeWhile_imp (List.mem_reverse.mp hc)

lemma trimmed_trim (cs : List Char) : Trimmed cs (trim (String.ofList cs)).toList := by
  rw [trim, String.toList_ofList, String.toList_ofList]
  obtain ⟨trail, htrail, hblank⟩ := exists_dropEndWhile_append (cs.dropWhile isBlank)
  refine ⟨⟨cs.takeWhile isBlank, trail, ?_, ?_⟩, ?_⟩
  · rw [← htrail, List.takeWhile_append_dropWhile]
  · exact List.forall_mem_append.mpr ⟨fun c hc => List.mem_takeWhile_imp hc, hblank⟩
  · rintro c (hc | hc)
    · have hhead : c ∈ (cs.dropWhile isBlank).head? := by
        rw [htrail, List.head?_append, Option.mem_def.mp hc]
        rfl
      exact isBlank_of_mem_head?_dropWhile hhead
    · rw [dropEndWhile, List.getLast?_reverse] at hc
      exact isBlank_of_mem_head?_dropWhile hc

lemma trim_eq_empty_iff {s : String} : trim s = "" ↔ ∀ c ∈ s.toList, isBlank c = true := by
  obtain ⟨⟨lead, trail, hs, hblank⟩, hends⟩ := trimmed_trim s.toList
  rw [String.ofList_toList] at hs hends
  rw [← String.toList_inj, String.toList_empty]
  constructor
  · intro h
    rw [hs, h, List.nil_append]
    exact hblank
  · intro h
    rw [List.eq_nil_iff_forall_not_mem]
    intro c hc
    obtain ⟨d, hd⟩ := Option.ne_none_iff_exists'.mp (mt List.head?_eq_none_iff.mp (List.ne_nil_of_mem hc))
    have hmem : d ∈ s.toList := by
      rw [hs]
      exact List.mem_append_right lead (List.mem_append_left trail (List.mem_of_mem_head? hd))
    exact Bool.false_ne_true ((hends d (.inl hd)).symm.trans (h d hmem))

end Quadrature.Text

namespace Quadrature.C

open Text

variable {e : Extent} {source : String} {kept ls more : List (List Char)} {l : List Char}

lemma Extent.slice_of_length_le (hkept : (lines source.toList).drop (e.startLine - 1) = kept)
    (h : kept.length ≤ e.endLine - max e.startLine 1) :
    e.slice source = trim (String.ofList kept.flatten) := by
  rw [Extent.slice, hkept, List.take_of_length_le h, List.drop_eq_nil_of_le h, List.append_nil]

lemma Extent.slice_of_split (hkept : (lines source.toList).drop (e.startLine - 1) = ls ++ l :: more)
    (h : ls.length = e.endLine - max e.startLine 1) :
    e.slice source = trim (String.ofList (ls.flatten ++ takeBytes (e.endColumn - 1) l)) := by
  rw [Extent.slice, hkept, ← h, List.take_left, List.drop_left]

def Extent.firstLine (e : Extent) : Nat := max e.startLine 1

def Extent.lastLine (e : Extent) : Nat := max e.endLine e.firstLine

variable {before line after before' line' after' : List Char}

lemma drop_lines_of_length {xs ys : List (List Char)} (hl : lines source.toList = xs ++ line :: ys)
    (hn : xs.length + 1 = e.firstLine) : (lines source.toList).drop (e.startLine - 1) = line :: ys := by
  rw [Extent.firstLine] at hn
  rw [hl, show e.startLine - 1 = xs.length by omega, List.drop_left]

lemma slice_without_first (h : ¬ HasLine source.toList e.firstLine) : e.slice source = "" := by
  have hd : (lines source.toList).drop (e.startLine - 1) = [] := by
    rw [hasLine_iff, Extent.firstLine] at h
    apply List.drop_eq_nil_of_le
    omega
  rw [Extent.slice_of_length_le hd (Nat.zero_le _)]
  rfl

lemma trimmed_slice_without_last (h : LineAt source.toList e.firstLine before line after)
    (hlast : ¬ HasLine source.toList e.lastLine) : Trimmed (line ++ after) (e.slice source).toList := by
  obtain ⟨xs, ys, hl, hn, rfl, rfl⟩ := lineAt_iff.mp h
  have hlength : (lines source.toList).length = xs.length + (line :: ys).length := by
    rw [hl, List.length_append]
  have hshort : (line :: ys).length ≤ e.endLine - max e.startLine 1 := by
    rw [hasLine_iff, Extent.lastLine] at hlast
    rw [Extent.firstLine] at hlast hn
    omega
  rw [Extent.slice_of_length_le (drop_lines_of_length hl hn) hshort]
  exact trimmed_trim _

lemma trimmed_slice_up_to_last (h : LineAt source.toList e.firstLine before line after)
    (h' : LineAt source.toList e.lastLine before' line' after') :
    ∃ text rest, line ++ after = text ++ rest ∧ Trimmed text (e.slice source).toList ∧
      before ++ text = before' ++ takeBytes (e.endColumn - 1) line' := by
  obtain ⟨xs, ys, hl, hn, rfl, rfl⟩ := lineAt_iff.mp h
  obtain ⟨xs', ys', hl', hn', rfl, rfl⟩ := lineAt_iff.mp h'
  rw [Extent.lastLine] at hn'
  -- `ms` are the whole lines of the text
  obtain ⟨ms, rfl⟩ : xs <+: xs' :=
    List.prefix_of_prefix_length_le ⟨_, hl.symm⟩ ⟨_, hl'.symm⟩ (by omega)
  have hms : line :: ys = ms ++ line' :: ys' := by
    rw [List.append_assoc] at hl'
    exact List.append_cancel_left (hl.symm.trans hl')
  have hwhole : ms.length = e.endLine - max e.startLine 1 := by
    rw [List.length_append] at hn'
    rw [Extent.firstLine] at hn hn'
    omega
  obtain ⟨cut, hline⟩ := (cutWithin_takeBytes (e.endColumn - 1) line').isPrefix
  refine ⟨ms.flatten ++ takeBytes (e.endColumn - 1) line', cut ++ ys'.flatten, ?_, ?_, ?_⟩
  · calc line ++ ys.flatten = ms.flatten ++ (line' ++ ys'.flatten) := by
          simpa using congrArg List.flatten hms
      _ = ms.flatten ++ ((takeBytes (e.endColumn - 1) line' ++ cut) ++ ys'.flatten) := by rw [hline]
      _ = ms.flatten ++ takeBytes (e.endColumn - 1) line' ++ (cut ++ ys'.flatten) := by
          simp only [List.append_assoc]
  · rw [Extent.slice_of_split ((drop_lines_of_length hl hn).trans hms) hwhole]
    exact trimmed_trim _
  · rw [List.flatten_append, List.append_assoc]

/-- The text of an extent is empty if there is no line where it starts. Else it is what stands in the source
from the start of that line to a place in the line where the extent ends, without the blanks at both ends: the
last boundary of characters before the end column, or the end of a source that does not have the line. -/
theorem slice_cuts_between_lines (e : Extent) (source : String) :
    (¬ HasLine source.toList e.firstLine → e.slice source = "") ∧
    ∀ before line after, LineAt source.toList e.firstLine before line after →
      ∃ text rest, line ++ after = text ++ rest ∧ Trimmed text (e.slice source).toList ∧
        (¬ HasLine source.toList e.lastLine → rest = []) ∧
        ∀ before' line' after', LineAt source.toList e.lastLine before' line' after' →
          ∃ kept, before ++ text = before' ++ kept ∧
            CutWithin (min (e.endColumn - 1) (byteLength line')) line' kept := by
  refine ⟨slice_without_first, ?_⟩
  intro before line after h
  by_cases hlast : HasLine source.toList e.lastLine
  · obtain ⟨before', line', after', h'⟩ := hlast
    obtain ⟨text, rest, hsplit, htrimmed, hend⟩ := trimmed_slice_up_to_last h h'
    refine ⟨text, rest, hsplit, htrimmed, fun hno => absurd ⟨_, _, _, h'⟩ hno, ?_⟩
    intro before₂ line₂ after₂ h₂
    obtain ⟨rfl, rfl⟩ := h'.unique h₂
    exact ⟨_, hend, (cutWithin_takeBytes _ _).min⟩
  · refine ⟨line ++ after, [], by simp, trimmed_slice_without_last h hlast, fun _ => rfl, ?_⟩
    intro before' line' after' h'
    exact absurd ⟨_, _, _, h'⟩ hlast

/-- The cut falls between the two bytes of a character, and the extent starts before the first line. -/
theorem slice_cuts_before_character :
    let e : Extent := ⟨0, 7, 2, 3⟩
    let source := "a\nbé\nc\n"
    HasLine source.toList e.firstLine ∧ e.slice source = "a\nb" ∧
      ∃ text rest, source.toList = text ++ rest ∧ Trimmed text "a\nb".toList ∧
        ∃ kept, text = "a\n".toList ++ kept ∧ CutWithin 2 "bé\n".toList kept := by
  intro e source
  have hfirst : LineAt source.toList e.firstLine [] "a\n".toList "bé\nc\n".toList :=
    ⟨by decide, ⟨.nil, rfl⟩, by decide, .inl ⟨['a'], by decide, by decide⟩⟩
  have hlast : LineAt source.toList e.lastLine "a\n".toList "bé\n".toList "c\n".toList :=
    ⟨by decide, ⟨.line (b := ['a']) (by decide) .nil, rfl⟩, by decide, .inl ⟨['b', 'é'], by decide, by decide⟩⟩
  have hslice : e.slice source = "a\nb" := by decide
  obtain ⟨-, hcuts⟩ := slice_cuts_between_lines e source
  obtain ⟨text, rest, hsplit, htrimmed, -, hend⟩ := hcuts _ _ _ hfirst
  obtain ⟨kept, htext, hcut⟩ := hend _ _ _ hlast
  rw [hslice] at htrimmed
  exact ⟨⟨_, _, _, hfirst⟩, hslice, text, rest, hfirst.split.trans hsplit, htrimmed, kept, htext, hcut⟩

end Quadrature.C
