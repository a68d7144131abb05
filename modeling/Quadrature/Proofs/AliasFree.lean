import Quadrature.C.Outline
import Quadrature.Proofs.Extraction

/-! Types and outlines without aliases. What is extracted from an outline does not depend on the names by
which its types go: taking all of them away, at any depth, changes no declaration. -/

namespace Quadrature.C

mutual

/-- The type with what they stand for in place of all aliases in it. -/
def CType.bare : CType → CType
  | .basic kind spelling => .basic kind spelling
  | .named _ t => t.bare
  | .pointer t => .pointer t.bare
  | .array t sized => .array t.bare sized
  | .function r as prototyped => .function r.bare (bareTypes as) prototyped

def bareTypes : List CType → List CType
  | [] => []
  | t :: ts => t.bare :: bareTypes ts

end

lemma bareTypes_eq_map (ts : List CType) : bareTypes ts = ts.map CType.bare := by
  induction ts with
  | nil => rfl
  | cons t ts ih => rw [bareTypes, ih, List.map_cons]

namespace CType

lemma bare_canonical (t : CType) : t.canonical.bare = t.bare := by
  fun_induction canonical t with
  | case1 name t ih => rw [ih, bare]
  | case2 t => rfl

lemma canonical_ne_named (t : CType) (name : String) (u : CType) : t.canonical ≠ .named name u := by
  fun_induction canonical t with
  | case1 _ t ih => exact ih
  | case2 t ht => exact ht name u

lemma canonical_bare (t : CType) : t.bare.canonical = t.bare := by
  rw [← bare_canonical]
  cases h : t.canonical with
  | named name u => exact absurd h (canonical_ne_named t name u)
  | _ => simp only [bare, canonical]

lemma kind_bare (t : CType) : t.bare.kind = t.canonical.kind := by
  rw [← bare_canonical]
  cases h : t.canonical with
  | named name u => exact absurd h (canonical_ne_named t name u)
  | _ => simp only [bare, kind]

lemma name_bare (t : CType) : t.bare.name = t.name := by
  rw [name, name, canonical_bare, kind_bare]

lemma isFunction_bare (t : CType) : t.bare.isFunction = t.isFunction := by
  rw [isFunction, isFunction, canonical_bare, kind_bare]

lemma result?_bare (t : CType) : t.bare.result? = t.result?.map bare := by
  rw [result?, result?, canonical_bare, ← bare_canonical]
  cases h : t.canonical with
  | named name u => exact absurd h (canonical_ne_named t name u)
  | _ => simp only [bare, Option.map_some, Option.map_none]

lemma arguments_bare (t : CType) : t.bare.arguments = bareTypes t.arguments := by
  rw [arguments, arguments, canonical_bare, ← bare_canonical]
  cases h : t.canonical with
  | named name u => exact absurd h (canonical_ne_named t name u)
  | _ => simp only [bare, bareTypes]

lemma bare_decayed (t : CType) : t.decayed.bare = t.bare.decayed := by
  have hbare : t.bare = t.canonical.bare := t.bare_canonical.symm
  cases h : t.canonical with
  | named name u => exact absurd h (canonical_ne_named t name u)
  | basic kind spelling =>
    rw [decayed, decayed, canonical_bare, hbare, h]
    simp only [bare]
    split_ifs
    · simp only [bare]
    · simp only [bare]
    · rw [hbare, h, bare]
  | pointer u =>
    rw [decayed, decayed, canonical_bare, hbare, h]
    simp only [bare]
    rw [hbare, h, bare]
  | _ =>
    rw [decayed, decayed, canonical_bare, hbare, h]
    simp only [bare]

end CType

mutual

def Node.bare : Node → Node
  | ⟨kind, spelling, type, extent, children⟩ => ⟨kind, spelling, type.map CType.bare, extent, bareNodes children⟩

def bareNodes : List Node → List Node
  | [] => []
  | n :: ns => n.bare :: bareNodes ns

end

lemma bareNodes_eq_map (ns : List Node) : bareNodes ns = ns.map Node.bare := by
  induction ns with
  | nil => rfl
  | cons n ns ih => rw [bareNodes, ih, List.map_cons]

lemma bareNodes_append (ms ns : List Node) : bareNodes (ms ++ ns) = bareNodes ms ++ bareNodes ns := by
  simp only [bareNodes_eq_map, List.map_append]

@[simp] lemma Node.kind_bare (n : Node) : n.bare.kind = n.kind := by
  cases n
  simp only [Node.bare]

@[simp] lemma Node.spelling_bare (n : Node) : n.bare.spelling = n.spelling := by
  cases n
  simp only [Node.bare]

@[simp] lemma Node.type_bare (n : Node) : n.bare.type = n.type.map CType.bare := by
  cases n
  simp only [Node.bare]

@[simp] lemma Node.extent_bare (n : Node) : n.bare.extent = n.extent := by
  cases n
  simp only [Node.bare]

@[simp] lemma Node.children_bare (n : Node) : n.bare.children = n.children.map Node.bare := by
  cases n
  simp only [Node.bare, bareNodes_eq_map]

end Quadrature.C

namespace Quadrature.Extraction

open C

lemma record_bare (path : String) (n : Node) : record path n.bare = record path n := by
  have hnames : n.bare.parameterNames = n.parameterNames := by
    simp only [Node.parameterNames, Node.children_bare, List.filter_map, List.map_map, Function.comp_def,
      Node.kind_bare, Node.spelling_bare]
  have htypes : n.bare.argumentTypeNames = n.argumentTypeNames := by
    rw [Node.argumentTypeNames, Node.argumentTypeNames, Node.type_bare]
    cases n.type with
    | none => rfl
    | some t =>
      simp only [Option.map_some, CType.arguments_bare, bareTypes_eq_map, List.map_map, Function.comp_def,
        CType.name_bare]
  have hresult : n.bare.returnTypeName = n.returnTypeName := by
    rw [Node.returnTypeName, Node.returnTypeName, Node.type_bare]
    cases n.type with
    | none => rfl
    | some t =>
      simp only [Option.map_some, Option.bind_some, CType.result?_bare]
      cases t.result? with
      | none => rfl
      | some r => exact r.name_bare
  rw [record, record, hnames, htypes, hresult, Node.spelling_bare, Node.extent_bare]

lemma declarations_bare (path : String) (n : Node) : declarations path n.bare = declarations path n := by
  rw [declarations_eq, declarations_eq, Node.functions_map Node.kind_bare Node.children_bare, List.mapM_map]
  congr 1
  funext m
  exact record_bare path m

end Quadrature.Extraction
