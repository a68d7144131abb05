import Quadrature.Proofs.OldStyleParameters

/-! What is recorded of a definition, wherever it stands in a source unit. -/

namespace Quadrature.C

variable {aliases types types' : Aliases} {old old' : List Declaration} {ps qs : Parameters}
  {rest : List Derivation} {x : String} {t : CType}

def recorded (aliases types : Aliases) (base : CType) (name : String) (ps : Parameters)
    (rest : List Derivation) : FunctionDeclaration where
  name := name
  returnType := (derivedType aliases types rest base).name
  arguments := (ps.nodes aliases types).map Node.argument

structure Item.RecordedAs (aliases : Aliases) (item : Item) (e : Extent) (d : FunctionDeclaration)
    (n : Node) : Prop where
  outline : item.outline aliases = ([n], aliases)
  kind : n.kind = .function
  record : ∀ path, Extraction.record path n = .ok (d.withSource path e)

lemma zipWith_arguments {nodes : List Node} (h : ∀ n ∈ nodes, n.IsTypedParameter) :
    ((nodes.filterMap Node.type).map CType.name).zipWith Argument.mk (nodes.map Node.spelling) =
      nodes.map Node.argument := by
  induction nodes with
  | nil => rfl
  | cons n nodes ih =>
    obtain ⟨hn, hnodes⟩ := List.forall_mem_cons.mp h
    obtain ⟨t, ht⟩ := Option.isSome_iff_exists.mp hn.typed
    rw [List.filterMap_cons_some ht, List.map_cons, List.map_cons, List.zipWith_cons_cons, ih hnodes,
      List.map_cons, Node.argument, ht]
    rfl

lemma record_function (path : String) {name : String} (hname : name ≠ "") (base : CType) (e : Extent)
    {body : Node} (hb : body.kind = .body) :
    Extraction.record path
        { kind := .function, spelling := name, type := some (derivedType aliases types (.function ps :: rest) base),
          extent := e, children := ps.nodes aliases types ++ [body] } =
      .ok ((recorded aliases types base name ps rest).withSource path e) := by
  have hkinds : ∀ p ∈ ps.nodes aliases types, p.IsTypedParameter := select_kinds aliases types ps
  have hparameters : (ps.nodes aliases types ++ [body]).filter (·.kind = .parameter) = ps.nodes aliases types := by
    rw [List.filter_append, List.filter_eq_self.mpr fun p hp => by simp [(hkinds p hp).kind]]
    simp [hb]
  have hlength := congrArg List.length (map_type_eq_filterMap _ fun p hp => (hkinds p hp).typed)
  rw [Extraction.record_of_named path ?_ hname]
  · simp only [Node.parameterNames, hparameters]
    exact congrArg Except.ok (by rw [FunctionDeclaration.withSource, recorded, ← zipWith_arguments hkinds]; rfl)
  · simp only [Node.parameterNames, hparameters]
    simpa [Node.argumentTypeNames, derivedType, Derivation.of, CType.arguments, CType.canonical] using hlength

lemma recordedAs_definition {d : Declarator} (hname : d.declaredName ≠ "")
    (hds : d.derivations = .function ps :: rest) (e : Extent) (s : Specifier) (old : List Declaration)
    (b : Extent) (locals : List Declaration) :
    ∃ n, Item.RecordedAs aliases (.definition e s d old b locals) e
      (recorded aliases (oldStyleTypes aliases old) (s.type aliases) d.declaredName ps rest) n := by
  have hfunction : (derivedType aliases (oldStyleTypes aliases old) (.function ps :: rest)
      (s.type aliases)).isFunction = true :=
    isFunction_derivedType.mpr (.inl ⟨ps, rest, rfl⟩)
  let body : Node := { kind := .body, extent := b, children := locals.flatMap (·.functionNodes aliases) }
  let n : Node :=
    { kind := .function, spelling := d.declaredName, extent := e,
      type := some (derivedType aliases (oldStyleTypes aliases old) (.function ps :: rest) (s.type aliases)),
      children := ps.nodes aliases (oldStyleTypes aliases old) ++ [body] }
  refine ⟨n, ?_, rfl, fun path => record_function path hname (s.type aliases) e rfl⟩
  have hnode : (d.declare aliases (oldStyleTypes aliases old) (s.type aliases) []).functionNode e [body] =
      some n := by
    rw [d.declare_eq, hds, Declared.functionNode_eq_some_iff hname]
    refine ⟨hfunction, ?_⟩
    rw [nearestParameters]
    exact congrArg (fun ms => ({ n with children := ms ++ [body] } : Node))
      (parameterNodes_of_function d.declaredName ps _ e).symm
  rw [Item.outline, hnode]
  rfl

/-! ## Definitions in their surroundings -/

inductive Block where
  | conditional | linkage | braces
  deriving DecidableEq, Repr

def Block.around : Block → Extent → List Item → Item
  | .conditional => .conditional
  | .linkage => .linkage
  | .braces => .braces

inductive Surroundings where
  | between (before after : List Item)
  | inside (before : List Item) (block : Block) (extent : Extent) (inner : Surroundings) (after : List Item)

def Surroundings.around (item : Item) : Surroundings → List Item
  | .between before after => before ++ item :: after
  | .inside before block extent inner after => before ++ block.around extent (inner.around item) :: after

def Surroundings.known (aliases : Aliases) : Surroundings → Aliases
  | .between before _ => (outlineItems aliases before).2
  | .inside before _ _ inner _ => inner.known (outlineItems aliases before).2

lemma Surroundings.namesAlone {item : Item} (c : Surroundings) (h : ∀ i ∈ c.around item, i.NamesAlone) :
    item.NamesAlone := by
  induction c with
  | between before after =>
    exact h item (List.mem_append_right before List.mem_cons_self)
  | inside before block extent inner after ih =>
    have hblock := h (block.around extent (inner.around item)) (List.mem_append_right before List.mem_cons_self)
    apply ih
    cases block with
    | conditional => cases hblock with | conditional h => exact h
    | linkage => cases hblock with | linkage h => exact h
    | braces => cases hblock with | braces h => exact h

lemma outlineItems_around (aliases : Aliases) (block : Block) (e : Extent) (items after : List Item) :
    functionsIn (outlineItems aliases (block.around e items :: after)).1 =
        functionsIn (outlineItems aliases items).1 ++
          functionsIn (outlineItems (outlineItems aliases items).2 after).1 ∧
      (outlineItems aliases (block.around e items :: after)).2 =
        (outlineItems (outlineItems aliases items).2 after).2 := by
  cases block <;> simp [Block.around, outlineItems, Item.outline, functionsIn, Node.functions]

lemma signed_of_mem_functionsIn (aliases : Aliases) (items : List Item) :
    ∀ n ∈ functionsIn (outlineItems aliases items).1, ∃ t, n.Signed t := by
  intro n hn
  obtain ⟨c, hc, hw, hk⟩ := within_of_mem_functionsIn _ n hn
  exact outlineItems_allSigned aliases items c hc n hw hk

lemma Surroundings.exists_functions (c : Surroundings) (aliases : Aliases) :
    ∃ front back final, (∀ n ∈ front ++ back, ∃ t, n.Signed t) ∧
      ∀ item e d n, Item.RecordedAs (c.known aliases) item e d n →
        functionsIn (outlineItems aliases (c.around item)).1 = front ++ n :: back ∧
          (outlineItems aliases (c.around item)).2 = final := by
  induction c generalizing aliases with
  | between before after =>
    refine ⟨functionsIn (outlineItems aliases before).1,
      functionsIn (outlineItems (outlineItems aliases before).2 after).1,
      (outlineItems (outlineItems aliases before).2 after).2, ?_, ?_⟩
    · intro n hn
      rcases List.mem_append.mp hn with hn | hn
      · exact signed_of_mem_functionsIn _ _ n hn
      · exact signed_of_mem_functionsIn _ _ n hn
    · intro item e d n h
      rw [Surroundings.known] at h
      rw [Surroundings.around, outlineItems_append, outlineItems, h.outline, functionsIn_append,
        List.singleton_append, functionsIn, Node.functions_of_function h.kind, List.singleton_append]
      exact ⟨rfl, rfl⟩
  | inside before block extent inner after ih =>
    obtain ⟨front, back, final, hsigned, hinner⟩ := ih (outlineItems aliases before).2
    refine ⟨functionsIn (outlineItems aliases before).1 ++ front,
      back ++ functionsIn (outlineItems final after).1, (outlineItems final after).2, ?_, ?_⟩
    · intro n hn
      simp only [List.mem_append] at hn hsigned
      rcases hn with (hn | hn) | hn | hn
      · exact signed_of_mem_functionsIn _ _ n hn
      · exact hsigned n (.inl hn)
      · exact hsigned n (.inr hn)
      · exact signed_of_mem_functionsIn _ _ n hn
    · intro item e d n h
      obtain ⟨hfunctions, hfinal⟩ := hinner item e d n h
      obtain ⟨hblock, haliases⟩ := outlineItems_around (outlineItems aliases before).2 block extent
        (inner.around item) after
      rw [Surroundings.around, outlineItems_append, functionsIn_append, hblock, haliases, hfunctions, hfinal]
      exact ⟨by simp, rfl⟩

lemma Surroundings.declarations_around (c : Surroundings) (path : String) (extent : Extent) :
    ∃ before after, ∀ item e d n, Item.RecordedAs (c.known []) item e d n →
      Extraction.declarations path (SourceUnit.outline ⟨c.around item, extent⟩) =
        .ok (before ++ d.withSource path e :: after) := by
  obtain ⟨front, back, final, hsigned, hfunctions⟩ := c.exists_functions []
  have hrecord : ∀ n ∈ front ++ back, ∃ d, Extraction.record path n = .ok d := by
    intro n hn
    obtain ⟨t, ht⟩ := hsigned n hn
    exact record_ok path ht
  rw [List.forall_mem_append] at hrecord
  obtain ⟨before, hbefore⟩ := Extraction.mapM_ok hrecord.1
  obtain ⟨after, hafter⟩ := Extraction.mapM_ok hrecord.2
  refine ⟨before, after, ?_⟩
  intro item e d n h
  rw [Extraction.declarations_eq, Node.functions_of_ne (by simp [SourceUnit.outline]), SourceUnit.outline,
    (hfunctions item e d n h).1, Extraction.mapM_eq_ok_iff]
  exact List.rel_append (Extraction.mapM_eq_ok_iff.mp hbefore)
    (.cons (h.record path) (Extraction.mapM_eq_ok_iff.mp hafter))

/-- Wherever a definition and its body have their places, it is extracted as `d`, between what is extracted of
its surroundings. -/
def Surroundings.Extracts (c : Surroundings) (path : String) (extent : Extent)
    (before after : List FunctionDeclaration) (d : FunctionDeclaration) (s : Specifier) (k : Declarator)
    (old : List Declaration) : Prop :=
  ∀ e b locals,
    Extraction.declarations path (SourceUnit.outline ⟨c.around (.definition e s k old b locals), extent⟩) =
      .ok (before ++ d.withSource path e :: after)

lemma Surroundings.exists_extracts (c : Surroundings) (path : String) (extent : Extent) :
    ∃ before after, ∀ s k old ps rest, k.declaredName ≠ "" → k.derivations = .function ps :: rest →
      c.Extracts path extent before after
        (recorded (c.known []) (oldStyleTypes (c.known []) old) (s.type (c.known [])) k.declaredName ps rest)
        s k old := by
  obtain ⟨before, after, h⟩ := c.declarations_around path extent
  refine ⟨before, after, ?_⟩
  intro s k old ps rest hname hds e b locals
  obtain ⟨n, hn⟩ := recordedAs_definition hname hds e s old b locals
  exact h _ e _ n hn

end Quadrature.C
