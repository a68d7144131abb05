import Quadrature.FunctionDeclaration
import Quadrature.Proofs.Masking
import Quadrature.Proofs.Placement

/-! The text of an extent, cut out by lines and byte columns, ends with what stands between the two
places of the extent; it does so in the original of a masked text too. -/

namespace Quadrature.C.Guard

open Text

lemma EndsLine.append {cs : List Char} (h : EndsLine cs) (more : List Char) : EndsLine (cs ++ more) := by
  obtain ⟨n, rest, rfl⟩ := h
  exact ⟨n, rest ++ more, by simp⟩

lemma Blanked.split_at {m s a r : List Char} {c : Char} (h : Blanked m s) (hm : m = a ++ c :: r)
    (hc : c ≠ ' ') : ∃ a' r', s = a' ++ c :: r' ∧ Blanked a a' := by
  induction h generalizing a with
  | nil => exact absurd hm (by simp)
  | @keep m s d hs ih =>
    cases a with
    | nil =>
      obtain rfl := (List.cons.inj hm).1
      exact ⟨[], s, rfl, .nil⟩
    | cons e a =>
      obtain ⟨rfl, ht⟩ := List.cons.inj hm
      obtain ⟨a', r', rfl, ha⟩ := ih ht
      exact ⟨d :: a', r', rfl, .keep d ha⟩
  | @blank m s d hd hs ih =>
    -- `c` stands behind the spaces of one character, never between them
    rcases List.append_eq_append_iff.mp hm with ⟨a₂, rfl, ht⟩ | ⟨t, ht, hr⟩
    · obtain ⟨a', r', rfl, ha⟩ := ih ht
      exact ⟨d :: a', r', rfl, .blank d (fun he => hd (he.append (c :: r'))) ha⟩
    · cases t with
      | nil =>
        obtain ⟨a', r', rfl, ha⟩ := ih (a := []) hr.symm
        refine ⟨d :: a', r', rfl, ?_⟩
        rw [List.append_nil] at ht
        rw [← ht, ← List.append_nil (List.replicate _ ' ')]
        exact .blank d (fun he => hd (he.append (c :: r'))) ha
      | cons e t =>
        obtain rfl := (List.cons.inj hr).1
        have hmem : c ∈ List.replicate d.utf8Size ' ' := ht ▸ by simp
        exact absurd (List.eq_of_mem_replicate hmem) hc

lemma Blanked.covers {m s : List Char} {e : Extent} {z : Char} (h : Blanked m s)
    (hc : e.Covers m z) (hz : isBlank z = false) : e.Covers s z := by
  have hspace : ∀ c, isBlank c = false → c ≠ ' ' := by
    rintro c hb rfl
    exact nomatch hb
  obtain ⟨a, b, rest, rfl, rfl, ⟨c, hcb, hc⟩, hzb⟩ := hc
  obtain ⟨b₀, rfl⟩ := List.getLast?_eq_some_iff.mp hzb
  obtain ⟨x, r', rfl, hx⟩ := h.split_at (a := a ++ b₀) (r := rest) (by simp) (hspace z hz)
  cases b₀ with
  | nil =>
    rw [List.append_nil] at hx
    refine ⟨x, [z], r', by simp, ?_, ⟨c, hcb, hc⟩, rfl⟩
    simp only [List.nil_append, Position.after_append, hx.after_eq]
  | cons d b₀ =>
    obtain rfl : d = c := by simpa using hcb
    obtain ⟨a', w, rfl, ha⟩ := hx.split_at rfl (hspace d hc)
    refine ⟨a', d :: w ++ [z], r', by simp, ?_, ⟨d, rfl, hc⟩, List.getLast?_concat⟩
    have hp := hx.after_eq Position.start
    rw [← List.append_assoc, ← List.append_assoc, Position.after_append, hp,
      Position.after_append _ (a' ++ d :: w), ha.after_eq]

end Quadrature.C.Guard

namespace Quadrature.Text

lemma toList_trim_append {x b : List Char} (hh : ∃ c ∈ b.head?, isBlank c = false)
    (hl : ∃ z ∈ b.getLast?, isBlank z = false) :
    (trim (String.ofList (x ++ b))).toList = x.dropWhile isBlank ++ b := by
  obtain ⟨c, hc, hcb⟩ := hh
  obtain ⟨z, hz, hzb⟩ := hl
  have hb : b.dropWhile isBlank = b := by
    cases b with
    | nil => rfl
    | cons d b =>
      obtain rfl : d = c := by simpa using hc
      rw [List.dropWhile_cons, hcb, if_neg Bool.false_ne_true]
  have hd : (x ++ b).dropWhile isBlank = x.dropWhile isBlank ++ b := by
    rw [List.dropWhile_append, hb]
    split
    · next he => rw [List.isEmpty_iff.mp he, List.nil_append]
    · rfl
  obtain ⟨b₀, rfl⟩ := List.getLast?_eq_some_iff.mp hz
  rw [trim, String.toList_ofList, String.toList_ofList, hd, ← List.append_assoc]
  exact List.rdropWhile_concat_neg _ _ _ (by simp [hzb])

end Quadrature.Text

namespace Quadrature.C

open Text

lemma Position.start_after {a b : List Char} (ha : Complete a) (hb : '\n' ∉ b) :
    Position.start.after (a ++ b) = ⟨1 + newlines a, 1 + byteLength b⟩ := by
  rw [Position.after_append, Position.start, Position.start_after_complete ha,
    Position.after_of_not_mem _ hb]

lemma Extent.slice_between (a b rest : List Char) :
    ∃ x, (Extent.between (Position.start.after a) (Position.start.after (a ++ b))).slice
      (String.ofList (a ++ (b ++ rest))) = trim (String.ofList (x ++ b)) := by
  obtain ⟨a₁, a₂, rfl, ha₁, ha₂⟩ := exists_complete_append a
  -- `y₁` are whole lines of the slice and `y₂` is its part of the last line
  obtain ⟨y₁, y₂, hy, hy₁, hy₂⟩ := exists_complete_append (a₂ ++ b)
  refine ⟨a₂, ?_⟩
  have hend : a₁ ++ a₂ ++ b = a₁ ++ y₁ ++ y₂ := by rw [List.append_assoc, hy, List.append_assoc]
  have htext : a₁ ++ a₂ ++ (b ++ rest) = a₁ ++ (y₁ ++ (y₂ ++ rest)) := by
    rw [← List.append_assoc, hend, List.append_assoc, List.append_assoc]
  have hkept : (lines (a₁ ++ (y₁ ++ (y₂ ++ rest)))).drop (1 + newlines a₁ - 1) =
      lines y₁ ++ lines (y₂ ++ rest) := by
    rw [ha₁.lines_append, hy₁.lines_append, Nat.add_sub_cancel_left, ← ha₁.length_lines,
      List.drop_left]
  have hwhole : 1 + (newlines a₁ + newlines y₁) - max (1 + newlines a₁) 1 = (lines y₁).length := by
    rw [hy₁.length_lines]
    omega
  rw [hend, htext, Position.start_after ha₁ ha₂, Position.start_after (ha₁.append hy₁) hy₂,
    newlines_append, Extent.slice, String.toList_ofList]
  simp only [Extent.between]
  rw [hkept, hwhole, List.drop_left, List.take_left, flatten_lines, Nat.add_sub_cancel_left, hy]
  rcases lines_append_of_not_mem hy₂ rest with ⟨t, ls, hl⟩ | ⟨hl, rfl⟩
  · rw [hl]
    dsimp only
    rw [takeBytes_append, takeBytes_zero, List.append_nil]
  · rw [hl]

lemma Extent.Covers.slice {source : String} {e : Extent} {z : Char} (h : e.Covers source.toList z)
    (hz : isBlank z = false) :
    ∃ a b rest x, source.toList = a ++ (b ++ rest) ∧
      e = .between (Position.start.after a) (Position.start.after (a ++ b)) ∧
      (e.slice source).toList = x ++ b ∧ (trim (e.slice source)).toList.getLast? = some z := by
  obtain ⟨a, b, rest, hs, rfl, hh, hl⟩ := h
  obtain ⟨x, hx⟩ := Extent.slice_between a b rest
  rw [← hs, String.ofList_toList] at hx
  have ht := toList_trim_append (x := x) hh ⟨z, hl, hz⟩
  rw [← hx] at ht
  refine ⟨a, b, rest, _, hs, rfl, ht, ?_⟩
  have htt := toList_trim_append (x := x.dropWhile isBlank) hh ⟨z, hl, hz⟩
  rw [← ht, String.ofList_toList] at htt
  rw [htt, List.getLast?_append, Option.mem_def.mp hl, Option.some_or]

end Quadrature.C
