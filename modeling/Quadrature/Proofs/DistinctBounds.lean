import Quadrature.Proofs.GeneratedCode
import Mathlib.Data.List.Nodup

/-! When the arguments of an integral have different names. Suffixes keep the bounds of different bases apart,
so that only a base made up for an unnamed argument can meet another one: that of an argument which has this
very name in the integrand. -/

namespace Quadrature.Integral

def basesFrom (index : Nat) : List String → List String
  | [] => []
  | name :: names => boundBase index name :: basesFrom (index + 1) names

def boundEnds (base : String) : List String := [base ++ "_min", base ++ "_max"]

lemma names_boundsFrom (as : List Argument) (index : Nat) :
    (boundsFrom index as).map Argument.name = (basesFrom index (as.map Argument.name)).flatMap boundEnds := by
  induction as generalizing index with
  | nil => rfl
  | cons a as ih =>
    rw [boundsFrom, List.map_append, ih, List.map_cons, basesFrom, List.flatMap_cons]
    rfl

/-! ## Suffixes -/

lemma append_ne_append {s t : String} (h : s.toList.getLast? ≠ t.toList.getLast?) (hs : s ≠ "") (ht : t ≠ "")
    (x y : String) : x ++ s ≠ y ++ t := by
  intro he
  have hlast := congrArg (fun u => u.toList.getLast?) he
  simp only [String.toList_append] at hlast
  rw [List.getLast?_append_of_ne_nil _ (by simpa using hs), List.getLast?_append_of_ne_nil _ (by simpa using ht)]
    at hlast
  exact h hlast

lemma disjoint_boundEnds (x y : String) : List.Disjoint (boundEnds x) (boundEnds y) ↔ x ≠ y := by
  have hmm : ∀ x y : String, x ++ "_min" ≠ y ++ "_max" := append_ne_append (by decide) (by decide) (by decide)
  simp [boundEnds, hmm, fun x y => (hmm x y).symm, eq_comm]

lemma nodup_flatMap_boundEnds (bases : List String) : (bases.flatMap boundEnds).Nodup ↔ bases.Nodup := by
  have hends : ∀ x ∈ bases, (boundEnds x).Nodup := fun x _ => by simp [boundEnds]
  rw [List.nodup_flatMap, and_iff_right hends, List.Nodup]
  exact List.Pairwise.iff disjoint_boundEnds

lemma errorName_not_mem (bases : List String) : errorName ∉ bases.flatMap boundEnds := by
  have hmin := append_ne_append (s := errorName) (t := "_min") (by decide) (by decide) (by decide) ""
  have hmax := append_ne_append (s := errorName) (t := "_max") (by decide) (by decide) (by decide) ""
  rw [String.empty_append] at hmin hmax
  simp [boundEnds, hmin, hmax]

/-! ## Bases -/

def coined (index : Nat) : String := "var_" ++ toString (index + 1)

lemma coined_injective : Function.Injective coined := by
  intro k l h
  have hdigits : Nat.toDigits 10 (k + 1) = Nat.toDigits 10 (l + 1) := by
    have h' := congrArg String.toList h
    simpa [coined, Nat.toString_eq_ofList_toDigits] using h'
  -- digits are read back as the number they were written for
  have hread := congrArg (fun ds => Nat.ofDigitChars 10 ds 0) hdigits
  simpa using hread

/-- The bases that are made up for unnamed arguments, the first of which may stand at an index. -/
def coinedFrom (index : Nat) : List String → List String
  | [] => []
  | name :: names =>
    if name = "" then coined index :: coinedFrom (index + 1) names else coinedFrom (index + 1) names

lemma mem_coinedFrom {x : String} (names : List String) (index : Nat) :
    x ∈ coinedFrom index names ↔ ∃ k, names[k]? = some "" ∧ x = coined (index + k) := by
  induction names generalizing index with
  | nil => simp [coinedFrom]
  | cons name names ih =>
    rw [← Nat.or_exists_add_one, coinedFrom]
    simp only [List.getElem?_cons_zero, List.getElem?_cons_succ, Option.some.injEq, Nat.add_zero,
      ← Nat.add_assoc, Nat.add_right_comm index _ 1, ← ih]
    split_ifs with hn
    · simp [hn]
    · simp [hn]

lemma nodup_coinedFrom (names : List String) (index : Nat) : (coinedFrom index names).Nodup := by
  induction names generalizing index with
  | nil => exact List.nodup_nil
  | cons name names ih =>
    have hfirst : coined index ∉ coinedFrom (index + 1) names := by
      rw [mem_coinedFrom]
      rintro ⟨k, -, hk⟩
      have := coined_injective hk
      omega
    rw [coinedFrom]
    split_ifs
    · exact List.nodup_cons.mpr ⟨hfirst, ih _⟩
    · exact ih _

lemma perm_basesFrom (names : List String) (index : Nat) :
    (basesFrom index names).Perm (names.filter (· ≠ "") ++ coinedFrom index names) := by
  induction names generalizing index with
  | nil => exact .nil
  | cons name names ih =>
    rw [basesFrom, coinedFrom, boundBase]
    split_ifs with hn
    · rw [List.filter_cons_of_neg (by simpa using hn)]
      exact ((ih (index + 1)).cons (coined index)).trans List.perm_middle.symm
    · rw [List.filter_cons_of_pos (by simpa using hn)]
      exact (ih (index + 1)).cons name

lemma coined_ne_empty (k : Nat) : coined k ≠ "" := by
  simp [coined, String.append_eq_empty_iff]

lemma nodup_basesFrom (names : List String) (index : Nat) :
    (basesFrom index names).Nodup ↔ (names.filter (· ≠ "")).Nodup ∧
      ∀ k, names[k]? = some "" → coined (index + k) ∉ names := by
  rw [(perm_basesFrom names index).nodup_iff, List.nodup_append', and_iff_right (nodup_coinedFrom names index)]
  refine and_congr_right fun _ => ⟨?_, ?_⟩
  · intro h k hk hm
    have hfilter : coined (index + k) ∈ names.filter (· ≠ "") :=
      List.mem_filter.mpr ⟨hm, by simpa using coined_ne_empty _⟩
    exact h hfilter ((mem_coinedFrom names index).mpr ⟨k, hk, rfl⟩)
  · intro h x hx hc
    obtain ⟨k, hk, rfl⟩ := (mem_coinedFrom names index).mp hc
    exact h k hk (List.mem_of_mem_filter hx)

end Quadrature.Integral

namespace Quadrature

open Integral

/-- The arguments of an integral have different names exactly if the named arguments of the integrand have, and
none of them is called what an unnamed argument gets for a name: `var_`, and its place. -/
theorem integral_argument_names_distinct_iff {d : FunctionDeclaration} {name : Option String} {i : Integral}
    (h : Integral.derive d name = .ok i) :
    i.declaration.argumentNames.Nodup ↔ (d.argumentNames.filter (· ≠ "")).Nodup ∧
      ∀ k, d.argumentNames[k]? = some "" → "var_" ++ toString (k + 1) ∉ d.argumentNames := by
  have hnames : i.declaration.argumentNames =
      (basesFrom 0 d.argumentNames).flatMap boundEnds ++ [errorName] := by
    rw [FunctionDeclaration.argumentNames, (built_of_derive h).arguments, List.map_append, names_boundsFrom]
    rfl
  have herror : List.Disjoint ((basesFrom 0 d.argumentNames).flatMap boundEnds) [errorName] :=
    List.disjoint_singleton.mpr (errorName_not_mem _)
  have hbases := nodup_basesFrom d.argumentNames 0
  simp only [Nat.zero_add] at hbases
  rw [hnames, List.nodup_append', and_iff_left ⟨List.nodup_singleton _, herror⟩, nodup_flatMap_boundEnds, hbases]
  rfl

theorem integral_argument_name_twice :
    let d : FunctionDeclaration :=
      { name := "f", returnType := "double", arguments := [⟨"double", ""⟩, ⟨"double", "var_1"⟩] }
    ∃ i, Integral.derive d none = .ok i ∧ (d.argumentNames.filter (· ≠ "")).Nodup ∧
      i.declaration.argumentNames = ["var_1_min", "var_1_max", "var_1_min", "var_1_max", "error"] ∧
      ¬ i.declaration.argumentNames.Nodup := by
  intro d
  obtain ⟨i, hi, hnames⟩ : ∃ i : Integral, Integral.derive d none = .ok i ∧
      i.declaration.argumentNames = ["var_1_min", "var_1_max", "var_1_min", "var_1_max", "error"] :=
    ⟨_, rfl, by decide⟩
  refine ⟨i, hi, by decide, hnames, ?_⟩
  rw [integral_argument_names_distinct_iff hi]
  rintro ⟨-, hk⟩
  exact hk 0 rfl (by decide)

end Quadrature
