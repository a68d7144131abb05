import Quadrature.Proofs.TemplateShapes

/-! A template in which every path has a shape, on every branch, renders in all scopes that hold values of these
shapes, and it looks at nothing else. -/

namespace Quadrature.Template

variable {scope : Scope} {shapes : Shapes} {shape item : Shape} {v w : Json} {name : String}

lemma find?_cons_of_ne {path : List String} {key : String} (h : path.head? ≠ some key) (v : Json) :
    Scope.find? ((key, v) :: scope) path = scope.find? path := by
  cases path with
  | nil => rfl
  | cons s ss =>
    have hs : (s == key) = false := by simpa using h
    rw [Scope.find?, Scope.find?, List.lookup_cons, hs]

lemma Scope.Holds.inside (h : scope.Holds shapes) (hname : name ≠ "loop") (hv : item.Fits v)
    (index length : Nat) :
    Scope.Holds ((name, v) :: ("loop", loopValue index length) :: scope) (shapes.inside name item) := by
  have hloop : ∀ ss : List String, Scope.find? ((name, v) :: ("loop", loopValue index length) :: scope)
      ("loop" :: ss) = follow (loopValue index length) ss := by
    intro ss
    rw [find?_cons_of_ne (by simpa using hname.symm), Scope.find?, List.lookup_cons_self]
    rfl
  intro e he
  simp only [Shapes.inside, List.mem_cons] at he
  rcases he with rfl | rfl | rfl | rfl | rfl | he
  · exact ⟨v, by simp [Scope.find?, follow], hv⟩
  · exact ⟨_, hloop _, _, rfl⟩
  · exact ⟨_, hloop _, _, rfl⟩
  · exact ⟨_, hloop _, _, rfl⟩
  · exact ⟨_, hloop _, _, rfl⟩
  · obtain ⟨hm, hp⟩ := List.mem_filter.mp he
    obtain ⟨hn, hl⟩ := of_decide_eq_true hp
    obtain ⟨w, hw, hf⟩ := h e hm
    exact ⟨w, by rw [find?_cons_of_ne hn, find?_cons_of_ne hl, hw], hf⟩

lemma concat_some {os : List (Option String)} (h : ∀ o ∈ os, ∃ t, o = some t) : ∃ t, concat os = some t := by
  induction os with
  | nil => exact ⟨"", rfl⟩
  | cons o os ih =>
    obtain ⟨t, rfl⟩ := h o List.mem_cons_self
    obtain ⟨u, hu⟩ := ih fun o' ho' => h o' (List.mem_cons_of_mem _ ho')
    exact ⟨t ++ u, by rw [concat, hu]; rfl⟩

lemma Scope.Holds.of_mem_iterations (h : scope.Holds shapes) (hname : name ≠ "loop") {length index : Nat}
    {xs : List Json} (hx : ∀ x ∈ xs, item.Fits x) {s : Scope} (hs : s ∈ iterations scope name length index xs) :
    s.Holds (shapes.inside name item) := by
  induction xs generalizing index with
  | nil => cases hs
  | cons x xs ih =>
    rcases List.mem_cons.mp hs with rfl | hs
    · exact h.inside hname (hx x List.mem_cons_self) index length
    · exact ih (fun y hy => hx y (List.mem_cons_of_mem x hy)) hs

mutual

lemma Segment.render_some : (s : Segment) → (scope : Scope) → (shapes : Shapes) → scope.Holds shapes →
    s.isShaped shapes = true → ∃ t, s.render scope = some t
  | .text t, _, _, _, _ => ⟨t, rfl⟩
  | .value e, scope, shapes, h, hs => by
    obtain ⟨shape, he⟩ := Option.isSome_iff_exists.mp hs
    obtain ⟨v, hv, -⟩ := (e.hasShape_of_shape? he).eval_fits h
    exact ⟨printed v, by rw [Segment.render, hv]; rfl⟩
  | .choose c yes no, scope, shapes, h, hs => by
    rw [Segment.isShaped, Bool.and_eq_true, Bool.and_eq_true] at hs
    obtain ⟨shape, hc⟩ := Option.isSome_iff_exists.mp hs.1.1
    obtain ⟨v, hv, -⟩ := (c.hasShape_of_shape? hc).eval_fits h
    obtain ⟨ty, hy⟩ := renderAll_some yes scope shapes h hs.1.2
    obtain ⟨tn, hn⟩ := renderAll_some no scope shapes h hs.2
    have hholds : c.holds scope = some (truthy v) := by rw [Expr.holds, hv, truth_some]
    cases ht : truthy v with
    | false => exact ⟨tn, by rw [Segment.render, hholds, ht]; exact hn⟩
    | true => exact ⟨ty, by rw [Segment.render, hholds, ht]; exact hy⟩
  | .each name source body otherwise, scope, shapes, h, hs => by
    rw [Segment.isShaped] at hs
    split at hs
    · next item he =>
      rw [Bool.and_eq_true, Bool.and_eq_true, decide_eq_true_eq] at hs
      obtain ⟨⟨hname, hbody⟩, hother⟩ := hs
      obtain ⟨_, hv, xs, rfl, hx⟩ := (source.hasShape_of_shape? he).eval_fits h
      cases xs with
      | nil =>
        obtain ⟨t, ht⟩ := renderAll_some otherwise scope shapes h hother
        exact ⟨t, by rw [Segment.render, hv]; exact ht⟩
      | cons x xs =>
        rw [Segment.render, hv]
        apply concat_some
        intro o ho
        obtain ⟨s, hs, rfl⟩ := List.mem_map.mp ho
        exact renderAll_some body s _ (h.of_mem_iterations hname hx hs) hbody
    · cases hs

lemma renderAll_some : (ss : List Segment) → (scope : Scope) → (shapes : Shapes) → scope.Holds shapes →
    areShaped shapes ss = true → ∃ t, renderAll scope ss = some t
  | [], _, _, _, _ => ⟨"", rfl⟩
  | s :: ss, scope, shapes, h, hs => by
    rw [areShaped, Bool.and_eq_true] at hs
    obtain ⟨t, ht⟩ := s.render_some scope shapes h hs.1
    obtain ⟨u, hu⟩ := renderAll_some ss scope shapes h hs.2
    exact ⟨t ++ u, by rw [renderAll, ht, hu]; rfl⟩

end

/-! ## Scopes that agree

A template renders to the same text in two scopes that agree at the paths it asks for. -/

/-- The two scopes hold the same at every path that has a shape. -/
def Scope.Agrees (shapes : Shapes) (s t : Scope) : Prop := ∀ e ∈ shapes, s.find? e.1 = t.find? e.1

lemma find?_cons_congr {s t : Scope} {path : List String} {key : String} {v : Json}
    (h : path.head? ≠ some key → s.find? path = t.find? path) :
    Scope.find? ((key, v) :: s) path = Scope.find? ((key, v) :: t) path := by
  by_cases hk : path.head? = some key
  · obtain ⟨ss, rfl⟩ := List.head?_eq_some_iff.mp hk
    rw [Scope.find?, Scope.find?, List.lookup_cons_self, List.lookup_cons_self]
  · rw [find?_cons_of_ne hk, find?_cons_of_ne hk, h hk]

lemma Scope.Agrees.inside {s t : Scope} (h : Scope.Agrees shapes s t) (name : String) (item : Shape) (v w : Json) :
    Scope.Agrees (shapes.inside name item) ((name, v) :: ("loop", w) :: s) ((name, v) :: ("loop", w) :: t) := by
  intro e he
  refine find?_cons_congr fun hn => find?_cons_congr fun hl => ?_
  simp only [Shapes.inside, List.mem_cons] at he
  rcases he with rfl | rfl | rfl | rfl | rfl | he
  · exact absurd rfl hn
  · exact absurd rfl hl
  · exact absurd rfl hl
  · exact absurd rfl hl
  · exact absurd rfl hl
  · exact h e (List.mem_filter.mp he).1

lemma Expr.HasShape.eval_congr {s t : Scope} (h : Scope.Agrees shapes s t) {e : Expr} (hs : e.HasShape shapes shape) :
    e.eval s = e.eval t := by
  induction hs with
  | text _ => rfl
  | whole _ => rfl
  | @path steps shape hp =>
    obtain ⟨before, after, rfl, -⟩ := List.lookup_eq_some_iff.mp hp
    exact h (steps, shape) (by simp)
  | textLength _ ih => rw [Expr.eval, Expr.eval, ih]
  | listLength _ ih => rw [Expr.eval, Expr.eval, ih]
  | join _ _ ihs ihe => rw [Expr.eval, Expr.eval, ihs, ihe]
  | range _ ih =>
    rw [Expr.eval, Expr.eval, ih]
    rfl
  | compare _ _ _ ihl ihr => rw [Expr.eval, Expr.eval, ihl, ihr]
  | both _ _ ihl ihr => rw [Expr.eval, Expr.eval, ihl, ihr]
  | either _ _ ihl ihr => rw [Expr.eval, Expr.eval, ihl, ihr]
  | negation _ ih => rw [Expr.eval, Expr.eval, ih]

lemma map_iterations_congr {s t : Scope} {body : Template} {length : Nat}
    (h : ∀ v w, renderAll ((name, v) :: ("loop", w) :: s) body = renderAll ((name, v) :: ("loop", w) :: t) body)
    (index : Nat) (xs : List Json) :
    ((iterations s name length index xs).map fun u => renderAll u body) =
      (iterations t name length index xs).map fun u => renderAll u body := by
  induction xs generalizing index with
  | nil => rfl
  | cons x xs ih => rw [iterations, iterations, List.map_cons, List.map_cons, h, ih]

mutual

lemma Segment.render_congr : (p : Segment) → (s t : Scope) → (shapes : Shapes) → Scope.Agrees shapes s t →
    p.isShaped shapes = true → p.render s = p.render t
  | .text _, _, _, _, _, _ => rfl
  | .value e, s, t, shapes, h, hs => by
    obtain ⟨shape, he⟩ := Option.isSome_iff_exists.mp hs
    rw [Segment.render, Segment.render, (e.hasShape_of_shape? he).eval_congr h]
  | .choose c yes no, s, t, shapes, h, hs => by
    rw [Segment.isShaped, Bool.and_eq_true, Bool.and_eq_true] at hs
    obtain ⟨shape, hc⟩ := Option.isSome_iff_exists.mp hs.1.1
    rw [Segment.render, Segment.render, Expr.holds, Expr.holds, (c.hasShape_of_shape? hc).eval_congr h,
      renderAll_congr yes s t shapes h hs.1.2, renderAll_congr no s t shapes h hs.2]
  | .each name source body otherwise, s, t, shapes, h, hs => by
    rw [Segment.isShaped] at hs
    split at hs
    · next item he =>
      rw [Bool.and_eq_true, Bool.and_eq_true] at hs
      have hbody : ∀ v w, renderAll ((name, v) :: ("loop", w) :: s) body =
          renderAll ((name, v) :: ("loop", w) :: t) body :=
        fun v w => renderAll_congr body _ _ _ (h.inside name item v w) hs.1.2
      rw [Segment.render, Segment.render, (source.hasShape_of_shape? he).eval_congr h,
        renderAll_congr otherwise s t shapes h hs.2]
      simp only [map_iterations_congr hbody]
    · cases hs

lemma renderAll_congr : (ps : List Segment) → (s t : Scope) → (shapes : Shapes) → Scope.Agrees shapes s t →
    areShaped shapes ps = true → renderAll s ps = renderAll t ps
  | [], _, _, _, _, _ => rfl
  | p :: ps, s, t, shapes, h, hs => by
    rw [areShaped, Bool.and_eq_true] at hs
    rw [renderAll, renderAll, p.render_congr s t shapes h hs.1, renderAll_congr ps s t shapes h hs.2]

end

end Quadrature.Template
