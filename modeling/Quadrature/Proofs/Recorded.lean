import Quadrature.Proofs.DeclarationText
import Quadrature.Proofs.ParameterText

/-! What is recorded for a prototype: its name, its types and the names of its parameters. -/

namespace Quadrature.C

variable {t w : String} {xs : List (Extent × Specifier × Declarator)}

def declaredBy (e : Specifier × Declarator) : Declared := e.2.declare [] [] (e.1.type []) []

def parameterNode (x : Extent × Specifier × Declarator) : Node :=
  { kind := .parameter, spelling := (declaredBy x.2).name, type := some (declaredBy x.2).type.decayed,
    extent := x.1 }

def argumentOf (e : Specifier × Declarator) : Argument := ⟨(declaredBy e).type.decayed.name, (declaredBy e).name⟩

lemma arguments_of_snd {es : List (Specifier × Declarator)} (h : xs.map Prod.snd = es) :
    (xs.map fun x => (⟨(declaredBy x.2).type.decayed.name, (declaredBy x.2).name⟩ : Argument)) =
      es.map argumentOf := by
  rw [← h, List.map_map]
  rfl

lemma typedNodes_ofEntries (xs : List (Extent × Specifier × Declarator)) :
    (Parameters.ofEntries xs).typedNodes [] = xs.map parameterNode := by
  induction xs with
  | nil => rw [Parameters.ofEntries, Parameters.typedNodes, List.map_nil]
  | cons x xs ih => rw [Parameters.ofEntries, Parameters.typedNodes, ih]; rfl

lemma isOldStyle_ofEntries (xs : List (Extent × Specifier × Declarator)) :
    (Parameters.ofEntries xs).isOldStyle = false := by
  induction xs with
  | nil => rfl
  | cons x xs ih => rw [Parameters.ofEntries, Parameters.isOldStyle, ih]

def prototypeNode (t w : String) (xs : List (Extent × Specifier × Declarator)) (e : Extent) : Node :=
  { kind := .function, spelling := w,
    type := some
      (.function ((plainSpecifier t).type []) (xs.map fun x => (declaredBy x.2).type.decayed) (!xs.isEmpty)),
    extent := e, children := xs.map parameterNode }

lemma declare_prototype (hv : (Parameters.ofEntries xs).isVoid [] = false) (type : CType) :
    (Declarator.function (.ofEntries xs) (.name w)).declare [] [] type [] =
      ⟨w, .function type (xs.map fun x => (declaredBy x.2).type.decayed) (!xs.isEmpty),
        xs.map parameterNode⟩ := by
  have hsel : (Parameters.ofEntries xs).select [] [] ((Parameters.ofEntries xs).typedNodes []) =
      xs.map parameterNode := by
    rw [Parameters.select, isOldStyle_ofEntries, hv, typedNodes_ofEntries]
    rfl
  have hnone : (Parameters.ofEntries xs).isNone = xs.isEmpty := by
    cases xs with
    | nil => rfl
    | cons x xs => rfl
  have htypes : (xs.map parameterNode).filterMap Node.type =
      xs.map fun x => (declaredBy x.2).type.decayed := by
    rw [List.filterMap_map, ← List.filterMap_eq_map]
    rfl
  rw [Declarator.declare, Declarator.declare, hsel, htypes, hnone, isOldStyle_ofEntries, Bool.not_false,
    Bool.and_true]

def signatureNode (type : CType) (w : String) (xs : List (Extent × Specifier × Declarator)) (e : Extent) : Node :=
  { kind := .function, spelling := w,
    type := some (.function type (xs.map fun x => (declaredBy x.2).type.decayed) (!xs.isEmpty)),
    extent := e, children := xs.map parameterNode }

lemma functionNodes_signature (hw : w ≠ "") (hv : (Parameters.ofEntries xs).isVoid [] = false)
    (specifier : Specifier) (e : Extent) :
    Declaration.functionNodes [] ⟨e, specifier, [.function (.ofEntries xs) (.name w)]⟩ =
      [signatureNode (specifier.type []) w xs e] := by
  have hnode : Declared.functionNode
      ⟨w, .function (specifier.type []) (xs.map fun x => (declaredBy x.2).type.decayed)
        (!xs.isEmpty), xs.map parameterNode⟩ e [] = some (signatureNode (specifier.type []) w xs e) := by
    cases xs <;> simp [Declared.functionNode, hw, CType.isFunction, CType.canonical, CType.kind,
      Kind.isFunction, Declared.parameterNodes, CType.arguments, signatureNode]
  simp only [Declaration.functionNodes, declare_prototype hv, List.filterMap_cons, hnode, List.filterMap_nil]

lemma itemsReading_of_item {top : Bool} {items : List Item} {ps : List Piece} (hne : ps ≠ [])
    (h : itemReading top ps = some (items, [])) : itemsReading top ps.length ps = .ok items := by
  cases ps with
  | nil => exact absurd rfl hne
  | cons p ps =>
    rw [List.length_cons, itemsReading, h]
    simp [itemsReading, Except.map]

lemma originsOf_signature (hv : (Parameters.ofEntries xs).isVoid [] = false) (hw : w ≠ "")
    (specifier : Specifier) (e : Extent) :
    originsOf [] [.declaration ⟨e, specifier, [.function (.ofEntries xs) (.name w)]⟩] =
      [(.prototype, signatureNode (specifier.type []) w xs e)] := by
  rw [originsOf, Item.origins, functionNodes_signature hw hv, originsOf]
  rfl

lemma originsOf_prototype (hv : (Parameters.ofEntries xs).isVoid [] = false) (hw : w ≠ "") (e : Extent) :
    originsOf [] [.declaration ⟨e, plainSpecifier t, [.function (.ofEntries xs) (.name w)]⟩] =
      [(.prototype, prototypeNode t w xs e)] :=
  originsOf_signature hv hw (plainSpecifier t) e

lemma declaredBy_entry (a : Argument) :
    declaredBy (Scan.entry a) = ⟨a.name, (plainSpecifier a.type).type [], []⟩ := by
  by_cases hn : a.name = ""
  · rw [Scan.entry, if_pos hn, hn]
    rfl
  · rw [Scan.entry, if_neg hn]
    rfl

lemma plainTypes_name : ∀ t ∈ plainTypes, ((plainSpecifier t).type []).name = t ∧
    ((plainSpecifier t).type []).decayed.name = t := by
  decide +kernel

lemma parameterNames_signature (type : CType) (w : String) (xs : List (Extent × Specifier × Declarator))
    (e : Extent) : (signatureNode type w xs e).parameterNames = xs.map fun x => (declaredBy x.2).name := by
  rw [Node.parameterNames, signatureNode, List.filter_eq_self.mpr, List.map_map]
  · rfl
  · intro n hn
    obtain ⟨x, -, rfl⟩ := List.mem_map.mp hn
    rfl

def prototypeRecord (t w : String) (xs : List (Extent × Specifier × Declarator)) (path : String)
    (e : Extent) : FunctionDeclaration :=
  { name := w, returnType := t, source := some ⟨path, e⟩,
    arguments := xs.map fun x => ⟨(declaredBy x.2).type.decayed.name, (declaredBy x.2).name⟩ }

lemma record_signature (hw : w ≠ "") (type : CType) (path : String) (e : Extent) :
    Extraction.record path (signatureNode type w xs e) =
      .ok { name := w, returnType := type.name, source := some ⟨path, e⟩,
            arguments := xs.map fun x => ⟨(declaredBy x.2).type.decayed.name, (declaredBy x.2).name⟩ } := by
  have htypes : (signatureNode type w xs e).argumentTypeNames =
      xs.map fun x => (declaredBy x.2).type.decayed.name := by
    simp [Node.argumentTypeNames, signatureNode, CType.arguments, CType.canonical]
  have hret : (signatureNode type w xs e).returnTypeName = type.name := by
    simp [Node.returnTypeName, signatureNode, CType.result?, CType.canonical]
  simp only [Extraction.record, htypes, hret, parameterNames_signature, FunctionDeclaration.make,
    List.length_map, List.zipWith_map, List.zipWith_self]
  simp [signatureNode, hw, FunctionDeclaration.withSource]

lemma record_prototype (ht : t ∈ plainTypes) (hw : w ≠ "") (path : String) (e : Extent) :
    Extraction.record path (prototypeNode t w xs e) = .ok (prototypeRecord t w xs path e) := by
  have h : Extraction.record path (prototypeNode t w xs e) = _ :=
    record_signature hw ((plainSpecifier t).type []) path e
  rwa [(plainTypes_name t ht).1] at h

lemma functions_of_origins {u : SourceUnit} {n : Node} (h : originsOf [] u.items = [(.prototype, n)]) :
    u.outline.functions = [n] := by
  rw [Node.functions_of_ne (by simp [SourceUnit.outline]), SourceUnit.outline, ← map_originsOf, h]
  rfl

lemma declarations_prototype {u : SourceUnit} {e : Extent}
    (h : originsOf [] u.items = [(.prototype, prototypeNode t w xs e)]) (ht : t ∈ plainTypes) (hw : w ≠ "")
    (path : String) : Extraction.declarations path u.outline = .ok [prototypeRecord t w xs path e] := by
  rw [Extraction.declarations_eq, functions_of_origins h]
  simp [record_prototype ht hw]

end Quadrature.C

namespace Quadrature

open C

variable {t w path content : String} {xs : List (Extent × Specifier × Declarator)} {e : Extent}
  {files : Store} {u : SourceUnit}

lemma load_prototype (hf : files.readText path = .ok content)
    (hu : SourceUnit.read (Guard.mask content) = .ok u)
    (ho : originsOf [] u.items = [(.prototype, prototypeNode t w xs e)]) (ht : t ∈ plainTypes)
    (hw : w ≠ "") :
    ∃ d, SourceFile.load files path = .ok ⟨path, [d]⟩ ∧ d.name = w ∧ d.returnType = t ∧
      d.argumentTypes = xs.map (fun x => (declaredBy x.2).type.decayed.name) ∧
      d.argumentNames = xs.map (fun x => (declaredBy x.2).name) ∧ d.hasBody files = false := by
  have hcov := covers_originsOf hu (.prototype, prototypeNode t w xs e) (by simp [ho])
  have hbody := (recordedText_of_covers hf (record_prototype ht hw path e) hcov).body
  refine ⟨prototypeRecord t w xs path e, ?_, rfl, rfl, ?_, ?_, by simpa using hbody⟩
  · rw [SourceFile.load_eq hf, readSource, hu]
    simp only [declarations_prototype ho ht hw]
    rfl
  · simp [FunctionDeclaration.argumentTypes, prototypeRecord]
  · simp [FunctionDeclaration.argumentNames, prototypeRecord]

end Quadrature
