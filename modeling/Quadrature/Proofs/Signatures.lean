import Quadrature.Proofs.Extraction

/-! The functions of an outline have a name, a function type and one parameter for each argument of that
type, in order. Extraction therefore succeeds on every outline that the C reader gives. -/

namespace Quadrature.C

inductive Node.Within (m : Node) : Node → Prop
  | self : Node.Within m m
  | child {n c : Node} : c ∈ n.children → Node.Within m c → Node.Within m n

def Node.parameters (n : Node) : List Node := n.children.filter (·.kind = .parameter)

structure Node.Signed (n : Node) (t : CType) : Prop where
  named : n.spelling ≠ ""
  type : n.type = some t
  isFunction : t.canonical.kind.isFunction = true
  parameters : n.parameters.map Node.type = t.arguments.map some

def Node.AllSigned (root : Node) : Prop :=
  ∀ n : Node, n.Within root → n.kind = .function → ∃ t, n.Signed t

lemma Node.allSigned_of_children {n : Node} (hk : n.kind = .function → ∃ t, n.Signed t)
    (hc : ∀ c ∈ n.children, c.AllSigned) : n.AllSigned := by
  intro m hm
  cases hm with
  | self => exact hk
  | child hmem hw => exact hc _ hmem m hw

structure Node.IsTypedParameter (p : Node) : Prop where
  kind : p.kind = .parameter
  typed : p.type.isSome = true
  leaf : p.children = []

/-- The parameters found on the way to a name are typed parameter nodes, and where a function is
declared with a list of its own they match the arguments of its type. -/
structure Coherent (type : CType) (parameters : List Node) : Prop where
  kinds : ∀ p ∈ parameters, p.IsTypedParameter
  arguments : type.isFunction = true → parameters ≠ [] →
    parameters.map Node.type = type.arguments.map some

lemma typedNodes_kinds (aliases : Aliases) : (ps : Parameters) →
    ∀ p ∈ ps.typedNodes aliases, p.IsTypedParameter
  | .none => by simp [Parameters.typedNodes]
  | .name _ _ rest | .variadic rest => by
    simpa only [Parameters.typedNodes] using typedNodes_kinds aliases rest
  | .typed _ _ _ rest => by
    intro p hp
    simp only [Parameters.typedNodes, List.mem_cons] at hp
    rcases hp with rfl | hp
    · exact ⟨rfl, rfl, rfl⟩
    · exact typedNodes_kinds aliases rest p hp

lemma named_kinds (old : Aliases) : (ps : Parameters) → ∀ p ∈ ps.named old, p.IsTypedParameter
  | .none => by simp [Parameters.named]
  | .name _ _ rest => by
    intro p hp
    simp only [Parameters.named, List.mem_cons] at hp
    rcases hp with rfl | hp
    · exact ⟨rfl, rfl, rfl⟩
    · exact named_kinds old rest p hp
  | .variadic rest | .typed _ _ _ rest => by
    simpa only [Parameters.named] using named_kinds old rest

lemma select_kinds (aliases old : Aliases) (ps : Parameters) :
    ∀ p ∈ ps.select aliases old (ps.typedNodes aliases), p.IsTypedParameter := by
  unfold Parameters.select
  split
  · exact named_kinds old ps
  · split
    · simp
    · exact typedNodes_kinds aliases ps

lemma map_type_eq_filterMap (nodes : List Node) (h : ∀ p ∈ nodes, p.type.isSome) :
    nodes.map Node.type = (nodes.filterMap Node.type).map some := by
  induction nodes with
  | nil => rfl
  | cons p ps ih =>
    obtain ⟨t, ht⟩ := Option.isSome_iff_exists.mp (h p List.mem_cons_self)
    have hs := ih fun q hq => h q (List.mem_cons_of_mem p hq)
    rw [List.filterMap_cons_some ht, List.map_cons, List.map_cons, ht, hs]

lemma Coherent.of_not_function {type : CType} {parameters : List Node} (s : CType)
    (h : Coherent type parameters) (hs : s.isFunction = false) : Coherent s parameters :=
  ⟨h.kinds, fun hf => by simp [hs] at hf⟩

lemma coherent_function (aliases old : Aliases) (result : CType) (ps : Parameters) (b : Bool) :
    Coherent
      (.function result ((ps.select aliases old (ps.typedNodes aliases)).filterMap Node.type) b)
      (ps.select aliases old (ps.typedNodes aliases)) := by
  have hk := select_kinds aliases old ps
  exact ⟨hk, fun _ _ => map_type_eq_filterMap _ fun p hp => (hk p hp).typed⟩

lemma declare_coherent (aliases old : Aliases) : (d : Declarator) → (type : CType) →
    (parameters : List Node) → Coherent type parameters →
    Coherent (d.declare aliases old type parameters).type
      (d.declare aliases old type parameters).parameters
  | .absent, _, _, h | .hidden, _, _, h | .name _, _, _, h => by
    simpa only [Declarator.declare] using h
  | .pointer inner, _, _, h => by
    simp only [Declarator.declare]
    exact declare_coherent aliases old inner _ _ (h.of_not_function _ rfl)
  | .array sized inner, _, _, h => by
    simp only [Declarator.declare]
    refine declare_coherent aliases old inner _ _ (h.of_not_function _ ?_)
    cases sized <;> rfl
  | .function ps inner, type, _, _ => by
    -- type and parameters are replaced at once, by lists that come from the same nodes
    simp only [Declarator.declare]
    exact declare_coherent aliases old inner _ _ (coherent_function aliases old type ps _)
  | .parens inner, type, _, h | .initialised inner, type, _, h => by
    simp only [Declarator.declare]
    exact declare_coherent aliases old inner type _ h

lemma coherent_base (type : CType) : Coherent type [] := ⟨by simp, by simp⟩

lemma parameterNodes_kinds {d : Declared} (h : Coherent d.type d.parameters) (e : Extent) :
    ∀ p ∈ d.parameterNodes e, p.kind = .parameter ∧ p.children = [] := by
  unfold Declared.parameterNodes
  split
  · intro p hp
    obtain ⟨t, _, rfl⟩ := List.mem_map.mp hp
    exact ⟨rfl, rfl⟩
  · exact fun p hp => ⟨(h.kinds p hp).kind, (h.kinds p hp).leaf⟩

lemma parameterNodes_types {d : Declared} (h : Coherent d.type d.parameters)
    (hf : d.type.isFunction = true) (e : Extent) :
    (d.parameterNodes e).map Node.type = d.type.arguments.map some := by
  unfold Declared.parameterNodes
  split
  · simp [List.map_map, Function.comp_def]
  · next hp => exact h.arguments hf (by simpa using hp)

lemma functionNode_allSigned {d : Declared} (h : Coherent d.type d.parameters) {e : Extent}
    {body : List Node} (hb : ∀ b ∈ body, b.kind = .body ∧ b.AllSigned) {n : Node}
    (hn : d.functionNode e body = some n) : n.AllSigned := by
  simp only [Declared.functionNode, Option.ite_none_left_eq_some, Option.some.injEq,
    Bool.not_eq_true, Bool.or_eq_false_iff, beq_eq_false_iff_ne, Bool.not_eq_false'] at hn
  obtain ⟨⟨hname, hf⟩, rfl⟩ := hn
  have hk := parameterNodes_kinds h e
  apply Node.allSigned_of_children
  · intro _
    refine ⟨d.type, hname, rfl, hf, ?_⟩
    have hps : (d.parameterNodes e).filter (·.kind = .parameter) = d.parameterNodes e :=
      List.filter_eq_self.mpr fun p hp => by simp [(hk p hp).1]
    have hbs : body.filter (·.kind = .parameter) = [] :=
      List.filter_eq_nil_iff.mpr fun b hbm => by simp [(hb b hbm).1]
    simp only [Node.parameters, List.filter_append, hps, hbs, List.append_nil]
    exact parameterNodes_types h hf e
  · intro c hc
    rcases List.mem_append.mp hc with hc | hc
    · apply Node.allSigned_of_children
      · intro hkind
        simp [(hk c hc).1] at hkind
      · simp [(hk c hc).2]
    · exact (hb c hc).2

lemma functionNodes_allSigned (aliases : Aliases) (d : Declaration) :
    ∀ n ∈ d.functionNodes aliases, n.AllSigned := by
  intro n hn
  obtain ⟨declarator, _, hd⟩ := List.mem_filterMap.mp hn
  exact functionNode_allSigned (declare_coherent aliases [] declarator _ _ (coherent_base _))
    (by simp) hd

lemma Node.allSigned_of_kind {n : Node} (hk : n.kind ≠ .function)
    (hc : ∀ c ∈ n.children, c.AllSigned) : n.AllSigned :=
  Node.allSigned_of_children (fun h => absurd h hk) hc

lemma aliasNodes_allSigned (base : CType) (e : Extent) (ds : List Declarator) (aliases : Aliases) :
    ∀ n ∈ (aliasNodes aliases base e ds).1, n.AllSigned := by
  induction ds generalizing aliases with
  | nil => simp [aliasNodes]
  | cons d ds ih =>
    simp only [aliasNodes]
    split
    · exact ih aliases
    · intro n hn
      rcases List.mem_cons.mp hn with rfl | hn
      · exact Node.allSigned_of_kind (by simp) (by simp)
      · exact ih _ n hn

mutual

lemma outline_allSigned (aliases : Aliases) : (item : Item) →
    ∀ n ∈ (item.outline aliases).1, n.AllSigned
  | .definition e specifier declarator old bodyExtent locals => by
    intro n hn
    simp only [Item.outline, Option.mem_toList] at hn
    refine functionNode_allSigned (declare_coherent aliases _ declarator _ _ (coherent_base _)) ?_ hn
    intro b hb
    obtain rfl := List.mem_singleton.mp hb
    refine ⟨rfl, Node.allSigned_of_kind (by simp) fun c hc => ?_⟩
    obtain ⟨d, _, hd⟩ := List.mem_flatMap.mp hc
    exact functionNodes_allSigned aliases d c hd
  | .declaration d => by
    simpa only [Item.outline] using functionNodes_allSigned aliases d
  | .typeDefinition d => by
    simpa only [Item.outline] using aliasNodes_allSigned _ d.extent d.declarators aliases
  | .conditional e items | .linkage e items | .braces e items => by
    intro n hn
    simp only [Item.outline, List.mem_singleton] at hn
    subst hn
    exact Node.allSigned_of_kind (by simp) (outlineItems_allSigned aliases items)

lemma outlineItems_allSigned (aliases : Aliases) : (items : List Item) →
    ∀ n ∈ (outlineItems aliases items).1, n.AllSigned
  | [] => by simp [outlineItems]
  | item :: rest => by
    intro n hn
    simp only [outlineItems, List.mem_append] at hn
    rcases hn with hn | hn
    · exact outline_allSigned aliases item n hn
    · exact outlineItems_allSigned _ rest n hn

end

lemma readSource_allSigned {source : String} {root : Node} (h : readSource source = .ok root) :
    root.AllSigned := by
  unfold readSource at h
  split at h
  · next u _ =>
    obtain rfl := Except.ok.inj h
    exact Node.allSigned_of_kind (by simp [SourceUnit.outline]) (outlineItems_allSigned [] u.items)
  · cases h

mutual

lemma Node.within_of_mem_functions : (root : Node) → ∀ n ∈ root.functions,
    n.Within root ∧ n.kind = .function
  | ⟨kind, spelling, type, extent, children⟩ => by
    intro n hn
    simp only [Node.functions] at hn
    split at hn
    · next hk =>
      obtain rfl := List.mem_singleton.mp hn
      exact ⟨.self, hk⟩
    · obtain ⟨c, hc, hw, hk⟩ := within_of_mem_functionsIn children n hn
      exact ⟨.child hc hw, hk⟩

lemma within_of_mem_functionsIn : (roots : List Node) → ∀ n ∈ functionsIn roots,
    ∃ c ∈ roots, n.Within c ∧ n.kind = .function
  | [] => by simp [functionsIn]
  | root :: roots => by
    intro n hn
    simp only [functionsIn, List.mem_append] at hn
    rcases hn with hn | hn
    · exact ⟨root, List.mem_cons_self, root.within_of_mem_functions n hn⟩
    · obtain ⟨c, hc, hw⟩ := within_of_mem_functionsIn roots n hn
      exact ⟨c, List.mem_cons_of_mem root hc, hw⟩

end

lemma record_ok (path : String) {n : Node} {t : CType} (h : n.Signed t) :
    ∃ d, Extraction.record path n = .ok d := by
  have hl : n.parameterNames.length = n.argumentTypeNames.length := by
    have hm := congrArg List.length h.parameters
    simpa [Node.parameterNames, Node.argumentTypeNames, h.type, Node.parameters] using hm
  exact ⟨_, Extraction.record_of_named path hl h.named⟩

lemma declarations_ok (path : String) {root : Node} (h : root.AllSigned) :
    ∃ ds, Extraction.declarations path root = .ok ds := by
  rw [Extraction.declarations_eq]
  apply Extraction.mapM_ok
  intro n hn
  obtain ⟨hw, hk⟩ := root.within_of_mem_functions n hn
  obtain ⟨t, ht⟩ := h n hw hk
  exact record_ok path ht

end Quadrature.C

namespace Quadrature

open C

theorem accepted_source_extracts :
    (∀ (source : String) (root : Node), readSource source = .ok root →
      (∀ n : Node, n.Within root → n.kind = .function → ∃ t, n.Signed t) ∧
        ∀ path, ∃ ds, Extraction.declarations path root = .ok ds) ∧
    ∀ (files : Store) (path content : String), files.readText path = .ok content →
      (∃ s, SourceFile.load files path = .ok s) ∨
        ∃ e, readSource content = .error e ∧
          SourceFile.load files path = .error (.inFile path (.syntaxError e.line)) := by
  constructor
  · intro source root h
    exact ⟨readSource_allSigned h, fun path => declarations_ok path (readSource_allSigned h)⟩
  · intro files path content h
    rw [SourceFile.load_eq h]
    cases hr : readSource content with
    | error e => exact .inr ⟨e, rfl, rfl⟩
    | ok root =>
      obtain ⟨ds, hd⟩ := declarations_ok path (readSource_allSigned hr)
      exact .inl ⟨⟨path, ds⟩, by simp only [hd]; rfl⟩

theorem accepted_source_extracts_oldStyle :
    let source := "typedef double u(int);\nu f;\nint (*k(a, b))(long) double b[]; \x7b\x7d\n"
    let files : Store := { entries := [(["pick.c"], .text source)] }
    (∃ root, readSource source = .ok root ∧ (∀ n : Node, n.Within root → n.kind = .function →
      ∃ t, n.Signed t) ∧ ∃ ds, Extraction.declarations "pick.c" root = .ok ds) ∧
    files.readText "pick.c" = .ok source ∧ ∃ s, SourceFile.load files "pick.c" = .ok s := by
  intro source files
  have hs : (readSource source).toOption.isSome = true := by decide +kernel
  have hf : files.readText "pick.c" = .ok source := by decide +kernel
  cases hr : readSource source with
  | error e => simp [hr, Except.toOption] at hs
  | ok root =>
    have hroot := accepted_source_extracts.1 source root hr
    refine ⟨⟨root, rfl, hroot.1, hroot.2 "pick.c"⟩, hf, ?_⟩
    rcases accepted_source_extracts.2 files "pick.c" source hf with h | ⟨e, he, _⟩
    · exact h
    · simp [hr] at he

end Quadrature
