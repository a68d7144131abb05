import Quadrature.Proofs.Extraction
import Quadrature.Proofs.LoweredDeclarators

/-! The outline of items moved down, and the declarations found in it: they are those of the items, with
the lines of their extents moved. -/

namespace Quadrature.C

mutual

def Node.lower (n : Nat) : Node → Node
  | ⟨kind, spelling, type, extent, children⟩ => ⟨kind, spelling, type, extent.lower n, lowerNodes n children⟩

def lowerNodes (n : Nat) : List Node → List Node
  | [] => []
  | m :: ms => m.lower n :: lowerNodes n ms

end

def Declared.lower (n : Nat) (d : Declared) : Declared := ⟨d.name, d.type, lowerNodes n d.parameters⟩

variable {n : Nat} {aliases old : Aliases}

lemma lowerNodes_eq_map (ms : List Node) : lowerNodes n ms = ms.map (Node.lower n) := by
  induction ms with
  | nil => rfl
  | cons m ms ih => rw [lowerNodes, ih, List.map_cons]

lemma lowerNodes_append (ms ns : List Node) : lowerNodes n (ms ++ ns) = lowerNodes n ms ++ lowerNodes n ns := by
  simp only [lowerNodes_eq_map, List.map_append]

@[simp] lemma Node.type_lower (m : Node) : (m.lower n).type = m.type := by
  cases m
  simp only [Node.lower]

@[simp] lemma Node.kind_lower (m : Node) : (m.lower n).kind = m.kind := by
  cases m
  simp only [Node.lower]

@[simp] lemma Node.spelling_lower (m : Node) : (m.lower n).spelling = m.spelling := by
  cases m
  simp only [Node.lower]

@[simp] lemma Node.extent_lower (m : Node) : (m.lower n).extent = m.extent.lower n := by
  cases m
  simp only [Node.lower]

@[simp] lemma Node.children_lower (m : Node) : (m.lower n).children = lowerNodes n m.children := by
  cases m
  simp only [Node.lower]

lemma Parameters.isNone_lower (ps : Parameters) : (ps.lower n).isNone = ps.isNone := by
  cases ps <;> rfl

lemma Parameters.isOldStyle_lower (ps : Parameters) : (ps.lower n).isOldStyle = ps.isOldStyle := by
  cases ps with
  | none => rfl
  | name _ _ _ => rfl
  | variadic rest => exact rest.isOldStyle_lower
  | typed _ _ _ rest => exact rest.isOldStyle_lower

lemma Parameters.named_lower (ps : Parameters) : (ps.lower n).named old = lowerNodes n (ps.named old) := by
  cases ps with
  | none => rfl
  | name text e rest =>
    simp only [Parameters.lower, Parameters.named, rest.named_lower, lowerNodes, Node.lower]
  | variadic rest => exact rest.named_lower
  | typed _ _ _ rest => exact rest.named_lower

lemma Parameters.isVoid_lower (ps : Parameters) : (ps.lower n).isVoid aliases = ps.isVoid aliases := by
  cases ps with
  | none => rfl
  | name _ _ _ => rfl
  | variadic _ => rfl
  | typed s d e rest => cases d <;> cases rest <;> rfl

lemma Parameters.select_lower (ps : Parameters) (typed : List Node) :
    (ps.lower n).select aliases old (lowerNodes n typed) = lowerNodes n (ps.select aliases old typed) := by
  simp only [Parameters.select, Parameters.isOldStyle_lower, Parameters.isVoid_lower, Parameters.named_lower]
  split_ifs <;> rfl

lemma filterMap_type_lower (ms : List Node) : (lowerNodes n ms).filterMap Node.type = ms.filterMap Node.type := by
  simp only [lowerNodes_eq_map, List.filterMap_map]
  congr 1
  funext m
  exact m.type_lower

mutual

lemma Declarator.declare_lower (old : Aliases) (type : CType) (ms : List Node) : (d : Declarator) →
    (d.lower n).declare aliases old type (lowerNodes n ms) = (d.declare aliases old type ms).lower n
  | .absent => by simp only [Declarator.lower, Declarator.declare, Declared.lower]
  | .hidden => by simp only [Declarator.lower, Declarator.declare, Declared.lower]
  | .name text => by simp only [Declarator.lower, Declarator.declare, Declared.lower]
  | .pointer d => by
    simp only [Declarator.lower, Declarator.declare]
    exact d.declare_lower old _ ms
  | .array sized d => by
    simp only [Declarator.lower, Declarator.declare]
    exact d.declare_lower old _ ms
  | .function ps d => by
    simp only [Declarator.lower, Declarator.declare, ps.typedNodes_lower, Parameters.select_lower,
      filterMap_type_lower, Parameters.isNone_lower, Parameters.isOldStyle_lower]
    exact d.declare_lower old _ _
  | .parens d => by
    simp only [Declarator.lower, Declarator.declare]
    exact d.declare_lower old _ ms
  | .initialised d => by
    simp only [Declarator.lower, Declarator.declare]
    exact d.declare_lower old _ ms

lemma Parameters.typedNodes_lower (ps : Parameters) :
    (ps.lower n).typedNodes aliases = lowerNodes n (ps.typedNodes aliases) := by
  cases ps with
  | none => simp only [Parameters.lower, Parameters.typedNodes, lowerNodes]
  | name _ _ rest =>
    simp only [Parameters.lower, Parameters.typedNodes]
    exact rest.typedNodes_lower
  | variadic rest =>
    simp only [Parameters.lower, Parameters.typedNodes]
    exact rest.typedNodes_lower
  | typed s d e rest =>
    have hd : (d.lower n).declare aliases [] (s.type aliases) [] = (d.declare aliases [] (s.type aliases) []).lower n := by
      simpa only [lowerNodes] using d.declare_lower [] (s.type aliases) []
    simp only [Parameters.lower, Parameters.typedNodes, rest.typedNodes_lower, lowerNodes, Node.lower, hd,
      Declared.lower]

end

lemma declare_lower_nil (old : Aliases) (type : CType) (d : Declarator) :
    (d.lower n).declare aliases old type [] = (d.declare aliases old type []).lower n := by
  simpa only [lowerNodes] using d.declare_lower (n := n) old type []

lemma oldStyleTypes_lower (ds : List Declaration) :
    oldStyleTypes aliases (ds.map (Declaration.lower n)) = oldStyleTypes aliases ds := by
  simp only [oldStyleTypes, List.flatMap_map, Declaration.lower, List.map_map, Function.comp_def,
    declare_lower_nil, Declared.lower]

lemma Declared.parameterNodes_lower (d : Declared) (e : Extent) :
    (d.lower n).parameterNodes (e.lower n) = lowerNodes n (d.parameterNodes e) := by
  have hempty : (lowerNodes n d.parameters).isEmpty = d.parameters.isEmpty := by
    rw [lowerNodes_eq_map, List.isEmpty_map]
  simp only [Declared.parameterNodes, Declared.lower, hempty]
  split_ifs
  · simp only [lowerNodes_eq_map, List.map_map, Function.comp_def, Node.lower, List.map_nil]
  · rfl

lemma Declared.functionNode_lower (d : Declared) (e : Extent) (body : List Node) :
    (d.lower n).functionNode (e.lower n) (lowerNodes n body) = (d.functionNode e body).map (Node.lower n) := by
  rw [Declared.functionNode, Declared.functionNode, Declared.parameterNodes_lower, ← lowerNodes_append]
  change (if (d.name == "" || !d.type.isFunction) = true then none else some _) = _
  by_cases h : (d.name == "" || !d.type.isFunction) = true
  · rw [if_pos h, if_pos h, Option.map_none]
  · rw [if_neg h, if_neg h, Option.map_some]
    simp only [Node.lower]
    rfl

lemma Declaration.functionNodes_lower (d : Declaration) :
    (d.lower n).functionNodes aliases = lowerNodes n (d.functionNodes aliases) := by
  have hf : ∀ declarator : Declarator,
      ((declarator.lower n).declare aliases [] (d.specifier.type aliases) []).functionNode (d.extent.lower n) [] =
        ((declarator.declare aliases [] (d.specifier.type aliases) []).functionNode d.extent []).map (Node.lower n) := by
    intro declarator
    rw [declare_lower_nil]
    exact Declared.functionNode_lower _ _ []
  simp only [Declaration.functionNodes, Declaration.lower, List.filterMap_map, Function.comp_def, hf,
    lowerNodes_eq_map, List.map_filterMap]

lemma aliasNodes_lower (aliases : Aliases) (base : CType) (e : Extent) (ds : List Declarator) :
    aliasNodes aliases base (e.lower n) (ds.map (Declarator.lower n)) =
      (lowerNodes n (aliasNodes aliases base e ds).1, (aliasNodes aliases base e ds).2) := by
  induction ds generalizing aliases with
  | nil => rfl
  | cons d ds ih =>
    simp only [List.map_cons, aliasNodes, declare_lower_nil, Declared.lower, ih]
    split_ifs
    · rfl
    · simp only [lowerNodes, Node.lower]

mutual

lemma Item.outline_lower (aliases : Aliases) : (i : Item) →
    (i.lower n).outline aliases = (lowerNodes n (i.outline aliases).1, (i.outline aliases).2)
  | .definition e s d old body locals => by
    have hbody : Node.mk .body "" none (body.lower n)
          ((locals.map (Declaration.lower n)).flatMap (·.functionNodes aliases)) =
        Node.lower n (Node.mk .body "" none body (locals.flatMap (·.functionNodes aliases))) := by
      simp only [Node.lower, List.flatMap_map, Declaration.functionNodes_lower]
      rw [lowerNodes_eq_map, List.map_flatMap]
      simp only [lowerNodes_eq_map]
    simp only [Item.lower, Item.outline, oldStyleTypes_lower, declare_lower_nil]
    rw [hbody]
    have hf := Declared.functionNode_lower (n := n)
      (d.declare aliases (oldStyleTypes aliases old) (s.type aliases) []) e
      [Node.mk .body "" none body (locals.flatMap (·.functionNodes aliases))]
    simp only [lowerNodes] at hf
    rw [hf]
    cases Declared.functionNode _ e _ <;> simp only [Option.map_none, Option.map_some, Option.toList, lowerNodes]
  | .declaration d => by
    simp only [Item.lower, Item.outline, Declaration.functionNodes_lower]
  | .typeDefinition d => by
    simp only [Item.lower, Item.outline, Declaration.lower, aliasNodes_lower]
  | .conditional e items => by
    simp only [Item.lower, Item.outline, outlineItems_lower aliases items, lowerNodes, Node.lower]
  | .linkage e items => by
    simp only [Item.lower, Item.outline, outlineItems_lower aliases items, lowerNodes, Node.lower]
  | .braces e items => by
    simp only [Item.lower, Item.outline, outlineItems_lower aliases items, lowerNodes, Node.lower]

lemma outlineItems_lower (aliases : Aliases) : (items : List Item) →
    outlineItems aliases (lowerItems n items) =
      (lowerNodes n (outlineItems aliases items).1, (outlineItems aliases items).2)
  | [] => by simp only [lowerItems, outlineItems, lowerNodes]
  | i :: items => by
    simp only [lowerItems, outlineItems, i.outline_lower aliases, outlineItems_lower _ items, lowerNodes_append]

end

lemma functionsIn_lower (ms : List Node) : functionsIn (lowerNodes n ms) = lowerNodes n (functionsIn ms) := by
  simp only [lowerNodes_eq_map]
  exact functionsIn_map Node.kind_lower (fun m => by rw [Node.children_lower, lowerNodes_eq_map]) ms

end Quadrature.C

namespace Quadrature

open C

variable {n : Nat}

def FunctionDeclaration.lower (n : Nat) (d : FunctionDeclaration) : FunctionDeclaration :=
  { d with source := d.source.map fun b => { b with extent := b.extent.lower n } }

namespace Extraction

lemma record_lower (path : String) (m : Node) :
    record path (m.lower n) = (record path m).map (FunctionDeclaration.lower n) := by
  have hnames : (m.lower n).parameterNames = m.parameterNames := by
    simp only [Node.parameterNames, Node.children_lower, lowerNodes_eq_map, List.filter_map, List.map_map,
      Function.comp_def, Node.kind_lower, Node.spelling_lower]
  have htypes : (m.lower n).argumentTypeNames = m.argumentTypeNames := by
    simp only [Node.argumentTypeNames, Node.type_lower]
  have hresult : (m.lower n).returnTypeName = m.returnTypeName := by
    simp only [Node.returnTypeName, Node.type_lower]
  rw [record, record, hnames, htypes, hresult, Node.spelling_lower, Node.extent_lower]
  by_cases h : m.parameterNames.length ≠ m.argumentTypeNames.length
  · rw [if_pos h, if_pos h]
    rfl
  · rw [if_neg h, if_neg h]
    cases FunctionDeclaration.make m.spelling m.returnTypeName m.argumentTypeNames m.parameterNames <;> rfl

lemma mapM_record_lower (path : String) (ms : List Node) :
    (lowerNodes n ms).mapM (record path) = (ms.mapM (record path)).map (List.map (FunctionDeclaration.lower n)) := by
  induction ms with
  | nil => rfl
  | cons m ms ih =>
    rw [lowerNodes, List.mapM_cons, List.mapM_cons, record_lower, ih]
    cases record path m with
    | error f => rfl
    | ok d => cases ms.mapM (record path) <;> rfl

end Extraction

end Quadrature
