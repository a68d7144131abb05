import Quadrature.Proofs.Ancestors

/-! Places are found by the parts of a path alone. -/

namespace Quadrature.Store

open Text Quadrature.Path

variable {s : Store} {p q : Place} {path dir : String} {ps xs : List String}

lemma step_of_not_isSegment {part : String} (h : isSegment part = false) (hp : s.at? p = some .directory) :
    s.step p part = .ok p := by
  have hpart : (part = "" || part = ".") = true := by
    simp only [isSegment, Bool.and_eq_false_iff, bne_eq_false_iff_eq] at h
    simpa using h
  rw [step, hp]
  dsimp only
  rw [if_pos hpart]

lemma walk_segments (h : s.walk p ps = .ok q) : s.walk p (ps.filter isSegment) = .ok q := by
  induction ps generalizing p with
  | nil => exact h
  | cons part ps ih =>
    rw [walk] at h
    cases hs : s.step p part with
    | error e => rw [hs] at h; cases h
    | ok r =>
      rw [hs] at h
      cases hseg : isSegment part with
      | true =>
        rw [List.filter_cons_of_pos hseg, walk, hs]
        exact ih h
      | false =>
        rw [step_of_not_isSegment hseg (step_ok hs), Except.ok.injEq] at hs
        rw [List.filter_cons_of_neg (by simp [hseg]), hs]
        exact ih h

lemma walk_of_segments (hne : xs ≠ []) (h : s.walk p (ps.filter isSegment ++ xs) = .ok q) :
    s.walk p (ps ++ xs) = .ok q := by
  induction ps generalizing p with
  | nil => exact h
  | cons part ps ih =>
    cases hseg : isSegment part with
    | true =>
      rw [List.filter_cons_of_pos hseg, List.cons_append, walk] at h
      rw [List.cons_append, walk]
      cases hs : s.step p part with
      | error e => rw [hs] at h; cases h
      | ok r =>
        rw [hs] at h
        exact ih h
    | false =>
      rw [List.filter_cons_of_neg (by simp [hseg])] at h
      obtain ⟨y, ys, hy⟩ := List.exists_cons_of_ne_nil (List.append_ne_nil_of_right_ne_nil (ps.filter isSegment) hne)
      have hd : s.at? p = some .directory := by
        rw [hy, walk] at h
        cases hs : s.step p y with
        | error e => rw [hs] at h; cases h
        | ok r => exact step_ok hs
      rw [List.cons_append, walk, step_of_not_isSegment hseg hd]
      exact ih h

lemma locate_eq_ok_iff :
    s.locate path = .ok p ↔ checkPath path = .ok () ∧ s.walk (s.start path) (pathParts path) = .ok p := by
  rw [locate]
  cases checkPath path <;> simp

lemma checkPath_eq_ok_iff :
    checkPath path = .ok () ↔
      Char.ofNat 0 ∉ path.toList ∧ path ≠ "" ∧ byteLength path.toList < 4096 := by
  rw [checkPath]
  split_ifs with h0 he hl <;> simp_all

lemma pathParts_join {x : String} (h : ∀ y ∈ x :: xs, '/' ∉ y.toList) :
    pathParts (Text.join "/" (x :: xs)) = x :: xs := by
  rw [pathParts, splitOn_join h, List.map_map]
  exact (List.map_congr_left fun y _ => String.ofList_toList).trans (List.map_id _)

lemma isAbsolute_join {x : String} (hx : x ≠ "") (h : '/' ∉ x.toList) :
    isAbsolute (Text.join "/" (x :: xs)) = false := by
  obtain ⟨c, cs, hc⟩ := List.exists_cons_of_ne_nil (fun he => hx (String.toList_eq_nil_iff.mp he))
  have hne : c ≠ '/' := by
    rintro rfl
    exact h (by rw [hc]; exact List.mem_cons_self)
  cases xs with
  | nil => simp [isAbsolute, Text.join, hc, hne]
  | cons y ys => simp [isAbsolute, toList_join_cons, hc, hne]

lemma locate_join_of_above {y : String} (h : Above dir path (y :: xs)) (hl : s.locate path = .ok p) :
    s.locate (Path.join dir (Text.join "/" (y :: xs))) = .ok p := by
  have hxs : ∀ x ∈ y :: xs, isSegment x = true ∧ '/' ∉ x.toList ∧ x.toList ⊆ path.toList :=
    fun x hx => mem_segments (h.segments ▸ List.mem_append_right _ hx)
  obtain ⟨hy, hslash, -⟩ := hxs y List.mem_cons_self
  have hrel : isAbsolute (Text.join "/" (y :: xs)) = false := isAbsolute_join (ne_of_isSegment hy).1 hslash
  obtain ⟨hcheck, hwalk⟩ := locate_eq_ok_iff.mp hl
  obtain ⟨hnul, -, hlength⟩ := checkPath_eq_ok_iff.mp hcheck
  rw [join_eq hrel, locate_eq_ok_iff, checkPath_eq_ok_iff]
  refine ⟨⟨?_, ?_, Nat.lt_of_le_of_lt h.fits hlength⟩, ?_⟩
  · intro hm
    rw [String.toList_append, List.mem_append] at hm
    rcases hm with hm | hm
    · exact (mem_lead hm).elim (by decide) fun hd => hnul (h.subset hd)
    · exact (mem_join hm).elim (by decide) fun ⟨x, hx, hc⟩ => hnul ((hxs x hx).2.2 hc)
  · intro he
    have hparts := pathParts_join fun x hx => (hxs x hx).2.1
    rw [(String.append_eq_empty_iff.mp he).2] at hparts
    exact (ne_of_isSegment hy).1 (List.cons.inj hparts).1.symm
  · obtain ⟨ps, hps, hparts⟩ := exists_parts_lead dir (Text.join "/" (y :: xs))
    rw [hparts, pathParts_join fun x hx => (hxs x hx).2.1, start, isAbsolute_lead_append dir hrel, h.absolute]
    refine walk_of_segments (List.cons_ne_nil y xs) ?_
    rw [hps, ← h.segments, segments_eq]
    exact walk_segments hwalk

end Quadrature.Store
