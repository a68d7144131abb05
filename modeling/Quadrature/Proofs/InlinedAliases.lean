import Quadrature.Proofs.AliasInlining

/-! Inlining an alias leaves the outline as it is, up to the names by which its types go, and so leaves what is
extracted from it. -/

namespace Quadrature.C

variable {a : PlainAlias} {aliases aliases' : Aliases} {t t' : CType}

lemma declare_inline_nil (h : Resolves a aliases aliases') (ht : t'.bare = t.bare) (d : Declarator) :
    ((d.inline a).declare aliases' [] t' []).bare = (d.declare aliases [] t []).bare :=
  d.declare_inline h rfl ht rfl

lemma oldStyleTypes_inline (h : Resolves a aliases aliases') (ds : List Declaration) :
    bareAliases (oldStyleTypes aliases' (ds.map (Declaration.inline a))) =
      bareAliases (oldStyleTypes aliases ds) := by
  have hd : ∀ (s : Specifier) (d : Declarator),
      (((d.inline a).declare aliases' [] ((s.inline a).type aliases') []).name,
        ((d.inline a).declare aliases' [] ((s.inline a).type aliases') []).type.decayed.bare) =
      ((d.declare aliases [] (s.type aliases) []).name,
        (d.declare aliases [] (s.type aliases) []).type.decayed.bare) := by
    intro s d
    obtain ⟨hname, htype, -⟩ := Declared.mk.inj (declare_inline_nil h (h s) d)
    rw [hname, CType.bare_decayed, htype, CType.bare_decayed]
  simp only [bareAliases, oldStyleTypes, List.map_reverse, List.map_flatMap, List.flatMap_map, List.map_map,
    Function.comp_def, Declaration.inline, hd]

lemma Declared.parameterNodes_bare (d : Declared) (e : Extent) :
    d.bare.parameterNodes e = bareNodes (d.parameterNodes e) := by
  simp only [Declared.parameterNodes, Declared.bare, bareNodes_eq_map, List.isEmpty_map, CType.arguments_bare,
    bareTypes_eq_map]
  split_ifs
  · simp only [List.map_map, Function.comp_def, Node.bare, Option.map_some, bareNodes]
  · rfl

lemma Declared.functionNode_bare (d : Declared) (e : Extent) (body : List Node) :
    d.bare.functionNode e (bareNodes body) = (d.functionNode e body).map Node.bare := by
  simp only [Declared.functionNode, Declared.parameterNodes_bare, ← bareNodes_append]
  simp only [Declared.bare, CType.isFunction_bare]
  split_ifs
  · rfl
  · simp only [Option.map_some, Node.bare]

lemma functionNode_congr {d d' : Declared} {body body' : List Node} (e : Extent) (hd : d'.bare = d.bare)
    (hb : bareNodes body' = bareNodes body) :
    (d'.functionNode e body').map Node.bare = (d.functionNode e body).map Node.bare := by
  rw [← Declared.functionNode_bare, ← Declared.functionNode_bare, hd, hb]

lemma Declaration.functionNodes_inline (h : Resolves a aliases aliases') (d : Declaration) :
    bareNodes ((d.inline a).functionNodes aliases') = bareNodes (d.functionNodes aliases) := by
  have hf : ∀ declarator : Declarator,
      (((declarator.inline a).declare aliases' [] ((d.specifier.inline a).type aliases') []).functionNode
        d.extent []).map Node.bare =
      ((declarator.declare aliases [] (d.specifier.type aliases) []).functionNode d.extent []).map Node.bare :=
    fun declarator => functionNode_congr d.extent (declare_inline_nil h (h d.specifier) declarator) rfl
  simp only [Declaration.functionNodes, Declaration.inline, bareNodes_eq_map, List.map_filterMap,
    List.filterMap_map, Function.comp_def, hf]

lemma bareNodes_body_inline (h : Resolves a aliases aliases') (e : Extent) (ds : List Declaration) :
    bareNodes [⟨.body, "", none, e, (ds.map (Declaration.inline a)).flatMap (·.functionNodes aliases')⟩] =
      bareNodes [⟨.body, "", none, e, ds.flatMap (·.functionNodes aliases)⟩] := by
  have hmap : ∀ d : Declaration, ((d.inline a).functionNodes aliases').map Node.bare =
      (d.functionNodes aliases).map Node.bare := by
    intro d
    rw [← bareNodes_eq_map, d.functionNodes_inline h, bareNodes_eq_map]
  simp only [bareNodes, Node.bare, bareNodes_eq_map, List.flatMap_map, List.map_flatMap, hmap]

structure Corresponds (a : PlainAlias) (r r' : List Node × Aliases) : Prop where
  nodes : bareNodes r'.1 = bareNodes r.1
  agree : Agree a r.2 r'.2

lemma Declarator.name_declare {old : Aliases} (t : CType) (ms : List Node) (d : Declarator) :
    (d.declare aliases old t ms).name = d.declaredName := by
  cases d with
  | absent => simp only [Declarator.declare, Declarator.declaredName]
  | hidden => simp only [Declarator.declare, Declarator.declaredName]
  | name text => simp only [Declarator.declare, Declarator.declaredName]
  | pointer d =>
    simp only [Declarator.declare, Declarator.declaredName]
    exact d.name_declare _ ms
  | array _ d =>
    simp only [Declarator.declare, Declarator.declaredName]
    exact d.name_declare _ ms
  | function _ d =>
    simp only [Declarator.declare, Declarator.declaredName]
    exact d.name_declare _ _
  | parens d =>
    simp only [Declarator.declare, Declarator.declaredName]
    exact d.name_declare t ms
  | initialised d =>
    simp only [Declarator.declare, Declarator.declaredName]
    exact d.name_declare t ms

lemma Declarator.declare_of_isName {name : String} {d : Declarator} (h : d.isName name = true) :
    d.declare aliases [] t [] = ⟨name, t, []⟩ := by
  cases d with
  | name text =>
    obtain rfl := of_decide_eq_true h
    simp only [Declarator.declare]
  | parens d =>
    simp only [Declarator.declare]
    exact declare_of_isName h
  | _ => cases h

lemma aliasNodes_inline (h : Agree a aliases aliases') (ht : t'.bare = t.bare) (e : Extent) {ds : List Declarator}
    (hds : a.name ∉ ds.map Declarator.declaredName) :
    Corresponds a (aliasNodes aliases t e ds) (aliasNodes aliases' t' e (ds.map (Declarator.inline a))) := by
  induction ds generalizing aliases aliases' with
  | nil => exact ⟨rfl, h⟩
  | cons d ds ih =>
    rw [List.map_cons, List.mem_cons, not_or] at hds
    obtain ⟨hname, htype, -⟩ := Declared.mk.inj (declare_inline_nil h.resolves ht d)
    rw [List.map_cons, aliasNodes, aliasNodes, hname]
    by_cases hempty : ((d.declare aliases [] t []).name == "") = true
    · rw [if_pos hempty, if_pos hempty]
      exact ih h hds.2
    · have hne : (d.declare aliases [] t []).name ≠ a.name := by
        rw [d.name_declare]
        exact Ne.symm hds.1
      have hbare : (CType.named (d.declare aliases [] t []).name
            ((d.inline a).declare aliases' [] t' []).type.canonical).bare =
          (CType.named (d.declare aliases [] t []).name (d.declare aliases [] t []).type.canonical).bare := by
        simp only [CType.bare, CType.bare_canonical, htype]
      obtain ⟨hnodes, hagree⟩ := ih (h.cons hne hbare) hds.2
      rw [if_neg hempty, if_neg hempty]
      refine ⟨?_, hagree⟩
      simp only [bareNodes, Node.bare, Option.map_some, hbare, hnodes]

mutual

lemma Item.outline_inline {aliases aliases' : Aliases} (h : Agree a aliases aliases') : (i : Item) →
    a.name ∉ i.aliasNames → Corresponds a (i.outline aliases) ((i.inline a).outline aliases')
  | .definition e s d old body locals, _ => by
    have hd : ((d.inline a).declare aliases' (oldStyleTypes aliases' (old.map (Declaration.inline a)))
          ((s.inline a).type aliases') []).bare =
        (d.declare aliases (oldStyleTypes aliases old) (s.type aliases) []).bare :=
      d.declare_inline h.resolves (oldStyleTypes_inline h.resolves old) (h.resolves s) rfl
    have hf := functionNode_congr e hd (bareNodes_body_inline h.resolves body locals)
    simp only [Item.inline, Item.outline]
    refine ⟨?_, h⟩
    simp only [bareNodes_eq_map, ← Option.toList_map, hf]
  | .declaration d, _ => by
    simp only [Item.inline, Item.outline]
    exact ⟨d.functionNodes_inline h.resolves, h⟩
  | .typeDefinition d, hi => by
    simp only [Item.inline, Item.outline]
    exact aliasNodes_inline h (h.resolves d.specifier) d.extent hi
  | .conditional e items, hi => by
    obtain ⟨hnodes, hagree⟩ := outlineItems_inline h items hi
    simp only [Item.inline, Item.outline]
    exact ⟨by simp only [bareNodes, Node.bare, hnodes], hagree⟩
  | .linkage e items, hi => by
    obtain ⟨hnodes, hagree⟩ := outlineItems_inline h items hi
    simp only [Item.inline, Item.outline]
    exact ⟨by simp only [bareNodes, Node.bare, hnodes], hagree⟩
  | .braces e items, hi => by
    obtain ⟨hnodes, hagree⟩ := outlineItems_inline h items hi
    simp only [Item.inline, Item.outline]
    exact ⟨by simp only [bareNodes, Node.bare, hnodes], hagree⟩

lemma outlineItems_inline {aliases aliases' : Aliases} (h : Agree a aliases aliases') : (items : List Item) →
    a.name ∉ aliasNamesIn items →
      Corresponds a (outlineItems aliases items) (outlineItems aliases' (inlineItems a items))
  | [], _ => by
    simp only [inlineItems, outlineItems]
    exact ⟨rfl, h⟩
  | i :: items, hi => by
    rw [aliasNamesIn, List.mem_append, not_or] at hi
    obtain ⟨hfirst, hagree⟩ := i.outline_inline h hi.1
    obtain ⟨hmore, hagree⟩ := outlineItems_inline hagree items hi.2
    simp only [inlineItems, outlineItems]
    exact ⟨by simp only [bareNodes_append, hfirst, hmore], hagree⟩

end

/-! ## From the definition on -/

lemma agree_defined (a : PlainAlias) (aliases : Aliases) (hb : t.bare = (a.type.type []).bare) :
    Agree a ((a.name, .named a.name t.canonical) :: aliases) ((a.name, .named a.name t.canonical) :: aliases) :=
  ⟨rfl, _, List.lookup_cons_self, by rw [CType.bare, CType.bare_canonical, hb]⟩

lemma aliasNodes_definition {d : Declarator} (hd : d.isName a.name = true) (hb : t.bare = (a.type.type []).bare)
    (e : Extent) {ds : List Declarator} (hds : a.name ∉ ds.map Declarator.declaredName)
    (before : List Declarator) (aliases : Aliases) :
    Corresponds a (aliasNodes aliases t e (before ++ d :: ds))
      (aliasNodes aliases t e (before ++ d :: ds.map (Declarator.inline a))) := by
  -- declarators before the name change nothing; those behind it see the name already
  induction before generalizing aliases with
  | nil =>
    have hne : ¬ (a.name == "") = true := by simpa using a.named
    obtain ⟨hnodes, hagree⟩ := aliasNodes_inline (agree_defined a aliases hb) rfl e hds
    rw [List.nil_append, List.nil_append, aliasNodes, aliasNodes, Declarator.declare_of_isName hd, if_neg hne,
      if_neg hne]
    exact ⟨by simp only [bareNodes, hnodes], hagree⟩
  | cons b before ih =>
    rw [List.cons_append, List.cons_append, aliasNodes, aliasNodes]
    split_ifs
    · exact ih aliases
    · obtain ⟨hnodes, hagree⟩ := ih (((b.declare aliases [] t []).name, _) :: aliases)
      exact ⟨by simp only [bareNodes, hnodes], hagree⟩

lemma Inlined.corresponds {items items' : List Item} (h : Inlined a items items') (aliases : Aliases) :
    Corresponds a (outlineItems aliases items) (outlineItems aliases items') := by
  -- a block hands its aliases on to what follows it, so the three kinds of blocks go alike
  induction h generalizing aliases with
  | @definition e before after d items hname hafter hitems =>
    obtain ⟨hfirst, hagree⟩ := aliasNodes_definition hname (congrArg CType.bare (a.type_type aliases)) e
      hafter before aliases
    obtain ⟨hmore, hagree⟩ := outlineItems_inline hagree items hitems
    simp only [outlineItems, Item.outline]
    exact ⟨by simp only [bareNodes_append, hfirst, hmore], hagree⟩
  | behind item _ ih =>
    obtain ⟨hnodes, hagree⟩ := ih (item.outline aliases).2
    simp only [outlineItems]
    exact ⟨by simp only [bareNodes_append, hnodes], hagree⟩
  | @conditional e inner inner' items _ hitems ih =>
    obtain ⟨hinner, hagree⟩ := ih aliases
    obtain ⟨hmore, hagree⟩ := outlineItems_inline hagree items hitems
    simp only [outlineItems, Item.outline]
    exact ⟨by simp only [bareNodes_append, bareNodes, Node.bare, hinner, hmore], hagree⟩
  | @linkage e inner inner' items _ hitems ih =>
    obtain ⟨hinner, hagree⟩ := ih aliases
    obtain ⟨hmore, hagree⟩ := outlineItems_inline hagree items hitems
    simp only [outlineItems, Item.outline]
    exact ⟨by simp only [bareNodes_append, bareNodes, Node.bare, hinner, hmore], hagree⟩
  | @braces e inner inner' items _ hitems ih =>
    obtain ⟨hinner, hagree⟩ := ih aliases
    obtain ⟨hmore, hagree⟩ := outlineItems_inline hagree items hitems
    simp only [outlineItems, Item.outline]
    exact ⟨by simp only [bareNodes_append, bareNodes, Node.bare, hinner, hmore], hagree⟩

end Quadrature.C

namespace Quadrature

open C

/-- An alias for a plain type may be inlined: where a name is defined for a primitive or a sized type, at any
depth, and nothing defines it again, writing the type for every later use of the name changes nothing of what
is extracted. -/
theorem inlined_alias_keeps_declarations (a : PlainAlias) {items items' : List Item} (h : Inlined a items items')
    (path : String) (extent : Extent) :
    Extraction.declarations path (SourceUnit.outline ⟨items', extent⟩) =
      Extraction.declarations path (SourceUnit.outline ⟨items, extent⟩) := by
  have hbare : (SourceUnit.outline ⟨items', extent⟩).bare = (SourceUnit.outline ⟨items, extent⟩).bare := by
    simp only [SourceUnit.outline, Node.bare, (h.corresponds []).nodes]
  rw [← Extraction.declarations_bare, hbare, Extraction.declarations_bare]

/-- With `real` for `long double` defined in a branch, between a pointer and a function that uses it, and used
behind the branch by a prototype, by an old-style definition and by another alias. -/
theorem inlined_alias_keeps_declarations_of_reals :
    let e : Extent := ⟨1, 1, 1, 1⟩
    let a : PlainAlias := ⟨"real", .sized "long double", by decide, rfl⟩
    let items := fun real : Specifier =>
      [Item.conditional e [.typeDefinition ⟨e, .sized "long double",
          [.pointer (.name "ref"), .parens (.name "real"), .function (.typed real .absent e .none) (.name "unary")]⟩],
        .declaration ⟨e, real, [.function (.typed real (.array true (.name "x")) e .none) (.name "f")]⟩,
        .definition e real (.function (.name "x" e (.name "y" e .none)) (.name "g"))
          [⟨e, real, [.pointer (.name "y"), .name "x"]⟩] e [],
        .typeDefinition ⟨e, real, [.name "number"]⟩,
        .declaration ⟨e, .named "unary", [.name "h"]⟩,
        .declaration ⟨e, .named "number", [.function (.typed (.named "ref") .absent e .none) (.name "k")]⟩]
    Inlined a (items (.named "real")) (items (.sized "long double")) ∧
      ∃ ds, Extraction.declarations "a.h" (SourceUnit.outline ⟨items (.named "real"), e⟩) = .ok ds ∧
        Extraction.declarations "a.h" (SourceUnit.outline ⟨items (.sized "long double"), e⟩) = .ok ds ∧
        ds.map FunctionDeclaration.signature =
          ["long double f(pointer x)", "long double g(long double x, pointer y)", "long double h(long double)",
            "long double k(pointer)"] := by
  intro e a items
  have h : Inlined a (items (.named "real")) (items (.sized "long double")) :=
    .conditional (@Inlined.definition a e [.pointer (.name "ref")]
      [.function (.typed (.named "real") .absent e .none) (.name "unary")] (.parens (.name "real")) []
      rfl (by decide) (by decide)) (by decide)
  have hs : (Extraction.declarations "a.h" (SourceUnit.outline ⟨items (.named "real"), e⟩)).toOption.any (fun ds =>
      ds.map FunctionDeclaration.signature =
        ["long double f(pointer x)", "long double g(long double x, pointer y)", "long double h(long double)",
          "long double k(pointer)"]) = true := by
    decide +kernel
  have hkeep := inlined_alias_keeps_declarations a h "a.h" e
  cases hd : Extraction.declarations "a.h" (SourceUnit.outline ⟨items (.named "real"), e⟩) with
  | error f => rw [hd] at hs; cases hs
  | ok ds =>
    rw [hd] at hs hkeep
    exact ⟨h, ds, rfl, hkeep, of_decide_eq_true hs⟩

end Quadrature
