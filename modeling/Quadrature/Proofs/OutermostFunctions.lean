import Quadrature.Proofs.Extraction

/-! The walk over an outline agrees with a recursive reading of it: the functions with no function above
them are recorded in pre-order, up to the first that cannot be. -/

namespace Quadrature

namespace C

mutual

def Node.preorder (above : List Node) : Node → List (List Node × Node)
  | ⟨kind, spelling, type, extent, children⟩ =>
    (above, ⟨kind, spelling, type, extent, children⟩) ::
      preorderIn (⟨kind, spelling, type, extent, children⟩ :: above) children

def preorderIn (above : List Node) : List Node → List (List Node × Node)
  | [] => []
  | n :: ns => n.preorder above ++ preorderIn above ns

end

def isOutermost (p : List Node × Node) : Bool :=
  p.2.kind = .function && !p.1.any (·.kind = .function)

def Node.outermostFunctions (root : Node) : List Node :=
  ((root.preorder []).filter isOutermost).map Prod.snd

mutual

lemma Node.outermost_preorder (above : List Node) (n : Node) :
    ((n.preorder above).filter isOutermost).map Prod.snd =
      if above.any (·.kind = .function) then [] else n.functions := by
  cases n with
  | mk kind spelling type extent children =>
    have hc := outermost_preorderIn (⟨kind, spelling, type, extent, children⟩ :: above) children
    rw [List.any_cons] at hc
    rw [Node.preorder, List.filter_cons, isOutermost]
    -- a function hides what is below it, and is hidden itself by one above
    cases ha : above.any (·.kind = .function) with
    | true => simpa [ha] using hc
    | false =>
      by_cases hk : kind = .function
      · simpa [ha, hk, Node.functions] using hc
      · simpa [ha, hk, Node.functions] using hc

lemma outermost_preorderIn (above ns : List Node) :
    ((preorderIn above ns).filter isOutermost).map Prod.snd =
      if above.any (·.kind = .function) then [] else functionsIn ns := by
  cases ns with
  | nil => simp [preorderIn, functionsIn]
  | cons n ns =>
    rw [preorderIn, List.filter_append, List.map_append, n.outermost_preorder,
      outermost_preorderIn above ns, functionsIn]
    split <;> rfl

end

lemma Node.outermostFunctions_eq (root : Node) : root.outermostFunctions = root.functions :=
  root.outermost_preorder []

end C

namespace Extraction

open C

lemma mapM_eq_ok_iff {ε α β : Type} {f : α → Except ε β} {xs : List α} {ys : List β} :
    xs.mapM f = .ok ys ↔ List.Forall₂ (fun x y => f x = .ok y) xs ys := by
  refine ⟨forall₂_of_mapM, fun h => ?_⟩
  induction h with
  | nil => rfl
  | cons hx _ ih => rw [List.mapM_cons, hx, ih]; rfl

lemma mapM_eq_error_iff {ε α β : Type} {f : α → Except ε β} {xs : List α} {e : ε} :
    xs.mapM f = .error e ↔
      ∃ before x after, xs = before ++ x :: after ∧ (∀ y ∈ before, ∃ z, f y = .ok z) ∧ f x = .error e := by
  constructor
  · intro h
    induction xs with
    | nil => cases h
    | cons x xs ih =>
      rw [List.mapM_cons] at h
      cases hx : f x with
      | error d =>
        rw [hx] at h
        obtain rfl : d = e := Except.error.inj h
        exact ⟨[], x, xs, rfl, by simp, hx⟩
      | ok z =>
        cases hxs : xs.mapM f with
        | ok zs => rw [hx, hxs] at h; cases h
        | error d =>
          rw [hx, hxs] at h
          obtain ⟨before, y, after, rfl, hb, hy⟩ := ih (hxs.trans h)
          exact ⟨x :: before, y, after, rfl, List.forall_mem_cons.mpr ⟨⟨z, hx⟩, hb⟩, hy⟩
  · rintro ⟨before, x, after, rfl, hb, hx⟩
    induction before with
    | nil => rw [List.nil_append, List.mapM_cons, hx]; rfl
    | cons y before ih =>
      obtain ⟨⟨z, hz⟩, hb⟩ := List.forall_mem_cons.mp hb
      rw [List.cons_append, List.mapM_cons, hz]
      show (before ++ x :: after).mapM f >>= _ = _
      rw [ih hb]
      rfl

lemma record_eq_error_iff {path : String} {n : Node} {e : Failure} :
    record path n = .error e ↔
      n.parameterNames.length ≠ n.argumentTypeNames.length ∧
        e = .parameterCounts path n.spelling n.parameterNames.length n.argumentTypeNames.length ∨
      n.parameterNames.length = n.argumentTypeNames.length ∧ n.spelling = "" ∧ e = .declarationUnnamed := by
  by_cases hc : n.parameterNames.length = n.argumentTypeNames.length
  · by_cases hs : n.spelling = ""
    · rw [record_of_unnamed path hc hs]
      constructor
      · intro h
        exact .inr ⟨hc, hs, (Except.error.inj h).symm⟩
      · rintro (⟨hne, -⟩ | ⟨-, -, rfl⟩)
        · exact absurd hc hne
        · rfl
    · rw [record_of_named path hc hs]
      constructor
      · intro h
        cases h
      · rintro (⟨hne, -⟩ | ⟨-, he, -⟩)
        · exact absurd hc hne
        · exact absurd he hs
  · rw [record_of_counts_ne path hc]
    constructor
    · intro h
      exact .inl ⟨hc, (Except.error.inj h).symm⟩
    · rintro (⟨-, rfl⟩ | ⟨he, -⟩)
      · rfl
      · exact absurd he hc

/-- Extraction records the functions that stand in no function, in pre-order. It gives all of their
declarations, or the failure of the first that cannot be recorded: parameters that do not match the
argument types, or else an empty name. -/
theorem walk_records_outermost_functions (path : String) (root : Node) :
    declarations path root = root.outermostFunctions.mapM (record path) ∧
    (∀ ds, declarations path root = .ok ds ↔
      List.Forall₂ (fun n d => record path n = .ok d) root.outermostFunctions ds) ∧
    (∀ e, declarations path root = .error e ↔
      ∃ before n after, root.outermostFunctions = before ++ n :: after ∧
        (∀ m ∈ before, ∃ d, record path m = .ok d) ∧ record path n = .error e) ∧
    ∀ n e, record path n = .error e ↔
      (n.parameterNames.length ≠ n.argumentTypeNames.length ∧
        e = .parameterCounts path n.spelling n.parameterNames.length n.argumentTypeNames.length ∧
        e.kind = .parse) ∨
      (n.parameterNames.length = n.argumentTypeNames.length ∧ n.spelling = "" ∧
        e = .declarationUnnamed ∧ e.kind = .validation) := by
  have hd : declarations path root = root.outermostFunctions.mapM (record path) := by
    rw [declarations_eq, root.outermostFunctions_eq]
  refine ⟨hd, ?_, ?_, ?_⟩
  · intro ds
    rw [hd, mapM_eq_ok_iff]
  · intro e
    rw [hd, mapM_eq_error_iff]
  · intro n e
    rw [record_eq_error_iff]
    apply or_congr
    · refine and_congr_right fun _ => ⟨?_, And.left⟩
      rintro rfl
      exact ⟨rfl, rfl⟩
    · refine and_congr_right fun _ => and_congr_right fun _ => ⟨?_, And.left⟩
      rintro rfl
      exact ⟨rfl, rfl⟩

end Extraction

end Quadrature
