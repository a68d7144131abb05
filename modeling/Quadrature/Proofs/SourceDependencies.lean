import Quadrature.Proofs.Extraction
import Quadrature.Proofs.Paths
import Mathlib.Data.List.DropRight

/-! The include that a declaration gets for the file it was read from: which end of the file's path it is, and when
it leads back to the file. -/

namespace Quadrature

open Quadrature.Path Store

variable {d e : FunctionDeclaration} {path : String} {n : Nat}

lemma rtake_filter {α : Type} {p : α → Bool} {xs : List α} (h : ∀ x ∈ xs.rtake n, p x = true) :
    (xs.filter p).rtake n = xs.rtake n := by
  rcases Nat.le_total n xs.length with hn | hn
  · have hsplit : xs.filter p = (xs.take (xs.length - n)).filter p ++ xs.rtake n := by
      conv_lhs => rw [← List.take_append_drop (xs.length - n) xs, List.filter_append]
      rw [← List.rtake, List.filter_eq_self.mpr h]
    have hlength : (xs.rtake n).length = n := by
      rw [List.rtake, List.length_drop]
      omega
    rw [hsplit, List.rtake, List.length_append, hlength, Nat.add_sub_cancel, List.drop_left]
  · have hall : xs.rtake n = xs := by rw [List.rtake, Nat.sub_eq_zero_of_le hn, List.drop_zero]
    rw [hall] at h
    rw [List.filter_eq_self.mpr h]

lemma mem_names {x : String} (h : x ∈ names path) : x ≠ ".." ∧ x ∈ segments path := by
  rw [names_eq, List.mem_filter, decide_eq_true_eq] at h
  exact h.symm

lemma FunctionDeclaration.addSourceDependency_eq_ok_iff (hp : d.path? = some path) :
    d.addSourceDependency n = .ok e ↔ 0 < n ∧ Text.trim (Text.join "/" ((names path).rtake n)) ≠ "" ∧
      e = { d with dependencies := d.dependencies ++ [Text.join "/" ((names path).rtake n)] } := by
  rw [addSourceDependency, hp]
  by_cases hn : n < 1
  · simp [Nat.lt_one_iff.mp hn]
  · rw [if_neg hn]
    dsimp only
    rw [addDependency_eq_ok_iff, ← List.rtake]
    exact ⟨fun h => ⟨by omega, h⟩, fun h => h.2⟩

lemma FunctionDeclaration.addSourceDependency_ok (hp : d.path? = some path) (h : d.addSourceDependency n = .ok e) :
    ∃ x xs, (names path).rtake n = x :: xs ∧
      e = { d with dependencies := d.dependencies ++ [Text.join "/" (x :: xs)] } := by
  obtain ⟨-, hblank, he⟩ := (addSourceDependency_eq_ok_iff hp).mp h
  cases hx : (names path).rtake n with
  | nil =>
    rw [hx] at hblank
    exact absurd rfl hblank
  | cons x xs => exact ⟨x, xs, rfl, hx ▸ he⟩

/-- The include of a declaration's own file is made of the last names of its path, with every step up left out. It
is the end of the path that was asked for exactly if there is no step up in that end. And whenever it is an end of
the path at all, it leads from a directory above to the file. -/
theorem source_dependency_is_suffix_iff (hp : d.path? = some path) (h : d.addSourceDependency n = .ok e) :
    ∃ dependency, e = { d with dependencies := d.dependencies ++ [dependency] } ∧
      pathParts dependency = (names path).rtake n ∧
      (pathParts dependency = (segments path).rtake n ↔ ".." ∉ (segments path).rtake n) ∧
      (pathParts dependency <:+ segments path →
        ∃ dir, ancestor (pathParts dependency).length path = some dir ∧
          ∀ s p, Store.locate s path = .ok p → s.locate (Path.join dir dependency) = .ok p) := by
  obtain ⟨x, xs, hnames, rfl⟩ := FunctionDeclaration.addSourceDependency_ok hp h
  have hmem : ∀ y ∈ x :: xs, y ≠ ".." ∧ y ∈ segments path :=
    fun y hy => mem_names (List.mem_of_mem_drop (hnames ▸ hy))
  have hparts : pathParts (Text.join "/" (x :: xs)) = x :: xs :=
    pathParts_join fun y hy => (mem_segments (hmem y hy).2).2.1
  refine ⟨_, rfl, hparts.trans hnames.symm, ⟨fun he hup => ?_, fun hup => ?_⟩, ?_⟩
  · rw [← he, hparts] at hup
    exact (hmem _ hup).1 rfl
  · rw [hparts, ← hnames, names_eq]
    exact rtake_filter fun y hy => decide_eq_true fun he => hup (he ▸ hy)
  · rw [hparts]
    rintro ⟨a, ha⟩
    obtain ⟨dir, -, habove⟩ := exists_above x xs ha.symm
    exact ⟨dir, habove.ancestor, fun s p hl => locate_join_of_above habove hl⟩

theorem source_dependency_skips_step_up :
    let d : FunctionDeclaration :=
      { name := "area", returnType := "double", arguments := [⟨"double", "r"⟩],
        source := some ⟨"include/../area.h", ⟨1, 1, 1, 23⟩⟩ }
    let files : Store := { entries := [(["include"], .directory), (["area.h"], .text "double area(double r);")] }
    ∃ e dependency, d.addSourceDependency 2 = .ok e ∧ e.dependencies = [dependency] ∧
      pathParts dependency = ["include", "area.h"] ∧ (segments "include/../area.h").rtake 2 = ["..", "area.h"] ∧
      pathParts dependency ≠ (segments "include/../area.h").rtake 2 ∧
      ∀ m < 4, (ancestor m "include/../area.h").any (fun dir =>
        (files.locate (Path.join dir "include/area.h")).toOption =
          (files.locate "include/../area.h").toOption) = false := by
  intro d files
  have hsegments : (segments "include/../area.h").rtake 2 = ["..", "area.h"] := by decide
  obtain ⟨dependency, he, hparts, hiff, -⟩ := source_dependency_is_suffix_iff (d := d) (n := 2) rfl rfl
  refine ⟨_, dependency, rfl, congrArg FunctionDeclaration.dependencies he, hparts.trans (by decide), hsegments, ?_, ?_⟩
  · rw [ne_eq, hiff, hsegments]
    simp
  · decide +kernel

end Quadrature
