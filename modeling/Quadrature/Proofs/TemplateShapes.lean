import Quadrature.Template.Render
import Mathlib.Data.List.Basic

/-! Shapes of the values that templates ask for. An expression that has a shape has a value of this shape. -/

namespace Quadrature.Template

inductive Shape where
  | text
  | whole
  | flag
  | list (item : Shape)
deriving DecidableEq

def Shape.Fits : Shape → Json → Prop
  | .text, v => ∃ s, v = .text s
  | .whole, v => ∃ n : Nat, v = .natural n
  | .flag, v => ∃ b, v = .flag b
  | .list item, v => ∃ xs, v = .list xs ∧ ∀ x ∈ xs, item.Fits x

abbrev Shapes := List (List String × Shape)

def Scope.Holds (scope : Scope) (shapes : Shapes) : Prop :=
  ∀ e ∈ shapes, ∃ v, scope.find? e.1 = some v ∧ e.2.Fits v

def Shapes.inside (shapes : Shapes) (name : String) (item : Shape) : Shapes :=
  ([name], item) :: (["loop", "index"], .whole) :: (["loop", "index0"], .whole) ::
    (["loop", "first"], .flag) :: (["loop", "last"], .flag) ::
    shapes.filter fun e => e.1.head? ≠ some name ∧ e.1.head? ≠ some "loop"

def Comparison.accepts (op : Comparison) (left right : Shape) : Bool :=
  op = .equal || op = .unequal || (left = .whole && right = .whole)

def Expr.isZero : Expr → Bool
  | .literal (.integer 0) => true
  | _ => false

def Expr.shape? (shapes : Shapes) : Expr → Option Shape
  | .literal (.text _) => some .text
  | .literal (.integer n) => if 0 ≤ n then some .whole else none
  | .literal _ => none
  | .path steps => shapes.lookup steps
  | .length e =>
    match e.shape? shapes with
    | some .text | some (.list _) => some .whole
    | _ => none
  | .join separator e =>
    match separator.shape? shapes, e.shape? shapes with
    | some .text, some (.list _) => some .text
    | _, _ => none
  | .range first limit =>
    match limit.shape? shapes with
    | some .whole => if first.isZero then some (.list .whole) else none
    | _ => none
  | .unknown _ => none
  | .compare op l r =>
    match l.shape? shapes, r.shape? shapes with
    | some a, some b => if op.accepts a b then some .flag else none
    | _, _ => none
  | .both l r | .either l r =>
    match l.shape? shapes, r.shape? shapes with
    | some _, some _ => some .flag
    | _, _ => none
  | .negation e => (e.shape? shapes).map fun _ => .flag

mutual

/-- Whether every expression of a segment has a shape, whichever branch is taken. -/
def Segment.isShaped (shapes : Shapes) : Segment → Bool
  | .text _ => true
  | .value e => (e.shape? shapes).isSome
  | .choose c yes no => (c.shape? shapes).isSome && areShaped shapes yes && areShaped shapes no
  | .each name source body otherwise =>
    match source.shape? shapes with
    | some (.list item) =>
      name ≠ "loop" && areShaped (shapes.inside name item) body && areShaped shapes otherwise
    | _ => false

def areShaped (shapes : Shapes) : List Segment → Bool
  | [] => true
  | s :: ss => s.isShaped shapes && areShaped shapes ss

end

variable {scope : Scope} {shapes : Shapes} {shape item : Shape} {v w : Json} {name : String}

lemma Scope.Holds.lookup (h : scope.Holds shapes) {path : List String} (hs : shapes.lookup path = some shape) :
    ∃ v, scope.find? path = some v ∧ shape.Fits v := by
  induction shapes with
  | nil => cases hs
  | cons e shapes ih =>
    rw [List.lookup_cons] at hs
    split at hs
    · next he =>
      obtain rfl := eq_of_beq he
      obtain rfl := Option.some.inj hs
      exact h e List.mem_cons_self
    · exact ih (fun e' he' => h e' (List.mem_cons_of_mem e he')) hs

lemma ratio?_natural (n : Nat) : ratio? (.natural n) = some ((n : Int), 1) := rfl

lemma compareValues_accepts {op : Comparison} {a b : Shape} (h : op.accepts a b = true) (hv : a.Fits v)
    (hw : b.Fits w) : ∃ t, compareValues op v w = some t := by
  simp only [Comparison.accepts, Bool.or_eq_true, Bool.and_eq_true, decide_eq_true_eq] at h
  unfold compareValues
  rcases h with (rfl | rfl) | ⟨rfl, rfl⟩
  · split <;> exact ⟨_, rfl⟩
  · split <;> exact ⟨_, rfl⟩
  · obtain ⟨n, rfl⟩ := hv
    obtain ⟨m, rfl⟩ := hw
    rw [ratio?_natural, ratio?_natural]
    exact ⟨_, rfl⟩

lemma eq_of_isZero {e : Expr} (h : e.isZero = true) : e = .literal (.integer 0) := by
  unfold Expr.isZero at h
  split at h
  · rfl
  · cases h

lemma rangeOf_natural (n : Nat) :
    rangeOf (.integer 0) (.natural n) = some (.list ((List.range n).map .natural)) := by
  simp [rangeOf, Json.natural]

lemma truth_some (e : Expr) (v : Json) : truth e (some v) = some (truthy v) := by
  cases e <;> rfl

namespace Expr

inductive HasShape (shapes : Shapes) : Expr → Shape → Prop
  | text (s : String) : HasShape shapes (.literal (.text s)) .text
  | whole (n : Nat) : HasShape shapes (.literal (.natural n)) .whole
  | path {steps : List String} {shape : Shape} : shapes.lookup steps = some shape →
      HasShape shapes (.path steps) shape
  | textLength {e : Expr} : HasShape shapes e .text → HasShape shapes (.length e) .whole
  | listLength {e : Expr} {item : Shape} : HasShape shapes e (.list item) → HasShape shapes (.length e) .whole
  | join {separator e : Expr} {item : Shape} : HasShape shapes separator .text → HasShape shapes e (.list item) →
      HasShape shapes (.join separator e) .text
  | range {limit : Expr} : HasShape shapes limit .whole →
      HasShape shapes (.range (.literal (.integer 0)) limit) (.list .whole)
  | compare {op : Comparison} {l r : Expr} {a b : Shape} : HasShape shapes l a → HasShape shapes r b →
      op.accepts a b = true → HasShape shapes (.compare op l r) .flag
  | both {l r : Expr} {a b : Shape} : HasShape shapes l a → HasShape shapes r b → HasShape shapes (.both l r) .flag
  | either {l r : Expr} {a b : Shape} : HasShape shapes l a → HasShape shapes r b →
      HasShape shapes (.either l r) .flag
  | negation {e : Expr} {a : Shape} : HasShape shapes e a → HasShape shapes (.negation e) .flag

lemma hasShape_literal (h : (Expr.literal v).shape? shapes = some shape) : HasShape shapes (.literal v) shape := by
  cases v with
  | text s =>
    obtain rfl := Option.some.inj h
    exact .text s
  | integer n =>
    rw [shape?] at h
    split_ifs at h with hn
    obtain rfl := Option.some.inj h
    rw [← Int.toNat_of_nonneg hn]
    exact .whole n.toNat
  | _ => cases h

lemma hasShape_of_shape? (e : Expr) (h : e.shape? shapes = some shape) : HasShape shapes e shape := by
  induction e generalizing shape with
  | literal v => exact hasShape_literal h
  | path steps => exact .path h
  | length e ih =>
    rw [shape?] at h
    split at h
    · next he => exact Option.some.inj h ▸ .textLength (ih he)
    · next he => exact Option.some.inj h ▸ .listLength (ih he)
    · cases h
  | join separator e ihs ihe =>
    rw [shape?] at h
    split at h
    · next hs he => exact Option.some.inj h ▸ .join (ihs hs) (ihe he)
    · cases h
  | range first limit _ ih =>
    rw [shape?] at h
    split at h
    · next he =>
      split_ifs at h with hz
      obtain rfl := eq_of_isZero hz
      exact Option.some.inj h ▸ .range (ih he)
    · cases h
  | unknown _ => cases h
  | compare op l r ihl ihr =>
    rw [shape?] at h
    split at h
    · next hl hr =>
      split_ifs at h with ha
      exact Option.some.inj h ▸ .compare (ihl hl) (ihr hr) ha
    · cases h
  | both l r ihl ihr =>
    rw [shape?] at h
    split at h
    · next hl hr => exact Option.some.inj h ▸ .both (ihl hl) (ihr hr)
    · cases h
  | either l r ihl ihr =>
    rw [shape?] at h
    split at h
    · next hl hr => exact Option.some.inj h ▸ .either (ihl hl) (ihr hr)
    · cases h
  | negation e ih =>
    rw [shape?] at h
    obtain ⟨a, he, rfl⟩ := Option.map_eq_some_iff.mp h
    exact .negation (ih he)

variable {e l r : Expr} {n : Nat}

lemma eval_length (he : e.eval scope = some v) (hn : lengthOf v = some n) :
    (Expr.length e).eval scope = some (.natural n) := by
  simp [eval, he, hn]

lemma eval_range (he : e.eval scope = some (.natural n)) :
    (Expr.range (.literal (.integer 0)) e).eval scope = some (.list ((List.range n).map .natural)) := by
  simp only [eval, he, Option.bind_some, rangeOf_natural]

lemma eval_compare {op : Comparison} {b : Bool} (hl : l.eval scope = some v) (hr : r.eval scope = some w)
    (hb : compareValues op v w = some b) : (Expr.compare op l r).eval scope = some (.flag b) := by
  simp [eval, hl, hr, hb]

lemma eval_both (hl : l.eval scope = some v) (hr : r.eval scope = some w) :
    (Expr.both l r).eval scope = some (.flag (truthy v && truthy w)) := by
  cases ht : truthy v <;> simp [eval, hl, hr, truth_some, ht]

lemma eval_either (hl : l.eval scope = some v) (hr : r.eval scope = some w) :
    (Expr.either l r).eval scope = some (.flag (truthy v || truthy w)) := by
  cases ht : truthy v <;> simp [eval, hl, hr, truth_some, ht]

lemma eval_negation (he : e.eval scope = some v) :
    (Expr.negation e).eval scope = some (.flag (!truthy v)) := by
  simp [eval, he, truth_some]

lemma HasShape.eval_fits (h : scope.Holds shapes) (hs : HasShape shapes e shape) :
    ∃ v, e.eval scope = some v ∧ shape.Fits v := by
  induction hs with
  | text s => exact ⟨_, rfl, s, rfl⟩
  | whole n => exact ⟨_, rfl, n, rfl⟩
  | path hp => exact h.lookup hp
  | textLength _ ih =>
    obtain ⟨_, hv, s, rfl⟩ := ih
    exact ⟨_, eval_length hv rfl, _, rfl⟩
  | listLength _ ih =>
    obtain ⟨_, hv, xs, rfl, -⟩ := ih
    exact ⟨_, eval_length hv rfl, _, rfl⟩
  | join _ _ ihs ihe =>
    obtain ⟨_, hv, s, rfl⟩ := ihs
    obtain ⟨_, hw, xs, rfl, -⟩ := ihe
    exact ⟨_, by simp [eval, hv, hw, joined]; rfl, _, rfl⟩
  | range _ ih =>
    obtain ⟨_, hv, n, rfl⟩ := ih
    refine ⟨_, eval_range hv, _, rfl, fun x hx => ?_⟩
    obtain ⟨k, -, rfl⟩ := List.mem_map.mp hx
    exact ⟨k, rfl⟩
  | compare _ _ ha ihl ihr =>
    obtain ⟨v, hv, hfv⟩ := ihl
    obtain ⟨w, hw, hfw⟩ := ihr
    obtain ⟨b, hb⟩ := compareValues_accepts ha hfv hfw
    exact ⟨_, eval_compare hv hw hb, b, rfl⟩
  | both _ _ ihl ihr =>
    obtain ⟨v, hv, -⟩ := ihl
    obtain ⟨w, hw, -⟩ := ihr
    exact ⟨_, eval_both hv hw, _, rfl⟩
  | either _ _ ihl ihr =>
    obtain ⟨v, hv, -⟩ := ihl
    obtain ⟨w, hw, -⟩ := ihr
    exact ⟨_, eval_either hv hw, _, rfl⟩
  | negation _ ih =>
    obtain ⟨v, hv, -⟩ := ih
    exact ⟨_, eval_negation hv, _, rfl⟩

end Expr

end Quadrature.Template
