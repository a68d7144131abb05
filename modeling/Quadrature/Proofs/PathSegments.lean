import Quadrature.Proofs.LineCuts
import Quadrature.Proofs.Stores

/-! The parts that a path goes through: those between its slashes, less the empty ones and the lone dots. -/

namespace Quadrature.Text

variable {sep c : Char} {a b p : List Char}

lemma splitOn_ne_nil (sep : Char) (a : List Char) : splitOn sep a ≠ [] := by
  cases a with
  | nil => simp [splitOn]
  | cons c a =>
    rw [splitOn]
    split_ifs
    · simp
    · split <;> simp

lemma splitOn_append_sep (a b : List Char) :
    splitOn sep (a ++ sep :: b) = splitOn sep a ++ splitOn sep b := by
  induction a with
  | nil => simp [splitOn]
  | cons c a ih =>
    by_cases hc : c = sep
    · rw [List.cons_append, splitOn, if_pos hc, ih, splitOn, if_pos hc, List.cons_append]
    · rw [List.cons_append, splitOn, if_neg hc, ih, splitOn, if_neg hc]
      cases h : splitOn sep a with
      | nil => exact absurd h (splitOn_ne_nil sep a)
      | cons p ps => rfl

lemma mem_splitOn (h : p ∈ splitOn sep a) : sep ∉ p ∧ p ⊆ a := by
  induction a generalizing p with
  | nil =>
    obtain rfl : p = [] := by simpa [splitOn] using h
    simp
  | cons c a ih =>
    rw [splitOn] at h
    split_ifs at h with hc
    · rcases List.mem_cons.mp h with rfl | h
      · simp
      · exact ⟨(ih h).1, List.subset_cons_of_subset c (ih h).2⟩
    · split at h
      · next he => exact absurd he (splitOn_ne_nil sep a)
      · next q qs hq =>
        rw [hq] at ih
        rcases List.mem_cons.mp h with rfl | h
        · obtain ⟨hs, ha⟩ := ih List.mem_cons_self
          exact ⟨by simp [hs, Ne.symm hc], List.cons_subset_cons c ha⟩
        · obtain ⟨hs, ha⟩ := ih (List.mem_cons_of_mem q h)
          exact ⟨hs, List.subset_cons_of_subset c ha⟩

lemma toList_join_cons (x y : String) (ys : List String) :
    (join "/" (x :: y :: ys)).toList = x.toList ++ '/' :: (join "/" (y :: ys)).toList := by
  simp [join]

lemma splitOn_join {x : String} {xs : List String} (h : ∀ y ∈ x :: xs, '/' ∉ y.toList) :
    splitOn '/' (join "/" (x :: xs)).toList = (x :: xs).map String.toList := by
  induction xs generalizing x with
  | nil => exact splitOn_of_not_mem (h x List.mem_cons_self)
  | cons y ys ih =>
    rw [toList_join_cons, splitOn_append_sep, splitOn_of_not_mem (h x List.mem_cons_self),
      ih fun z hz => h z (List.mem_cons_of_mem x hz)]
    rfl

lemma mem_join {xs : List String} (h : c ∈ (join "/" xs).toList) : c = '/' ∨ ∃ x ∈ xs, c ∈ x.toList := by
  induction xs with
  | nil => simp [join] at h
  | cons x xs ih =>
    cases xs with
    | nil => exact .inr ⟨x, List.mem_cons_self, h⟩
    | cons y ys =>
      rw [toList_join_cons, List.mem_append, List.mem_cons] at h
      rcases h with h | h | h
      · exact .inr ⟨x, List.mem_cons_self, h⟩
      · exact .inl h
      · exact (ih h).imp_right fun ⟨z, hz, hc⟩ => ⟨z, List.mem_cons_of_mem x hz, hc⟩

end Quadrature.Text

namespace Quadrature.Path

open Text Store

variable {path dir x : String} {a xs : List String} {cs rs : List Char}

/-! ## Segments -/

def Component.segment? : Component → Option String
  | .root => none
  | .current => none
  | .up => some ".."
  | .name s => some s

/-- The components of a path as they are written, but for the root and a lone dot. -/
def segments (path : String) : List String := (components path).filterMap Component.segment?

def isSegment (part : String) : Bool := part != "" && part != "."

def segmentsOf (cs : List Char) : List String := ((splitOn '/' cs).map String.ofList).filter isSegment

lemma filterMap_components {β : Type} {f : Component → Option β} (hroot : f .root = none)
    (hcurrent : f .current = none) (path : String) :
    (components path).filterMap f = (segmentsOf path.toList).filterMap fun p => f (.ofPart p) := by
  have hparts : ((parts path).map Component.ofPart).filterMap f =
      (segmentsOf path.toList).filterMap fun p => f (.ofPart p) := by
    rw [parts, segmentsOf]
    split
    · next tail htail =>
      have hdot : Component.ofPart "." = .current := if_pos rfl
      rw [htail, List.map_cons, hdot, List.filterMap_cons_none hcurrent, List.filterMap_map,
        List.filter_cons_of_neg (by decide)]
      rfl
    · rw [List.filterMap_map]
      rfl
  rw [components]
  split_ifs
  · rw [List.filterMap_cons_none hroot, hparts]
  · exact hparts

lemma ne_of_isSegment {p : String} (h : isSegment p = true) : p ≠ "" ∧ p ≠ "." := by
  simpa [isSegment] using h

lemma isSegment_of_mem {p : String} (h : p ∈ segmentsOf cs) : isSegment p = true := (List.mem_filter.mp h).2

lemma segments_eq (path : String) : segments path = segmentsOf path.toList := by
  rw [segments, filterMap_components rfl rfl]
  refine (List.filterMap_congr fun p hp => ?_).trans List.filterMap_some
  rw [Component.ofPart, if_neg (ne_of_isSegment (isSegment_of_mem hp)).2]
  split_ifs with hup
  · rw [hup]; rfl
  · rfl

lemma names_eq (path : String) : names path = (segments path).filter (· ≠ "..") := by
  rw [names, filterMap_components rfl rfl, segments_eq, ← List.filterMap_eq_filter]
  refine List.filterMap_congr fun p hp => ?_
  rw [Component.ofPart, if_neg (ne_of_isSegment (isSegment_of_mem hp)).2]
  by_cases hup : p = ".." <;> simp [hup, Component.name?, Option.guard]

lemma mem_segments {p : String} (h : p ∈ segments path) :
    isSegment p = true ∧ '/' ∉ p.toList ∧ p.toList ⊆ path.toList := by
  rw [segments_eq] at h
  obtain ⟨hp, hs⟩ := List.mem_filter.mp h
  obtain ⟨q, hq, rfl⟩ := List.mem_map.mp hp
  rw [String.toList_ofList]
  exact ⟨hs, mem_splitOn hq⟩

lemma segmentsOf_append_slash (a b : List Char) :
    segmentsOf (a ++ '/' :: b) = segmentsOf a ++ segmentsOf b := by
  rw [segmentsOf, splitOn_append_sep, List.map_append, List.filter_append]
  rfl

lemma segmentsOf_of_not_mem (h : '/' ∉ cs) : segmentsOf cs = [String.ofList cs].filter isSegment := by
  rw [segmentsOf, splitOn_of_not_mem h]
  rfl

end Quadrature.Path
