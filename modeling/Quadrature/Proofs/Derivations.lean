import Quadrature.Proofs.InlinedAliases

/-! Declarators are applied from the outside in and read from the name outward. Both give one type, and
parentheses count for nothing in it. -/

namespace Quadrature.C

variable {aliases old : Aliases}

inductive Derivation where
  | pointer
  | array (sized : Bool)
  | function (parameters : Parameters)

def Declarator.derivations : Declarator → List Derivation
  | .absent | .hidden | .name _ => []
  | .pointer inner => inner.derivations ++ [.pointer]
  | .array sized inner => inner.derivations ++ [.array sized]
  | .function ps inner => inner.derivations ++ [.function ps]
  | .parens inner | .initialised inner => inner.derivations

def Parameters.nodes (aliases old : Aliases) (ps : Parameters) : List Node :=
  ps.select aliases old (ps.typedNodes aliases)

def Derivation.of (aliases old : Aliases) : Derivation → CType → CType
  | .pointer, t => .pointer t
  | .array sized, t => .array t sized
  | .function ps, t =>
    .function t ((ps.nodes aliases old).filterMap Node.type) (!ps.isNone && !ps.isOldStyle)

/-- The first derivation of the second, of the third, and so on to the base. -/
def derivedType (aliases old : Aliases) (ds : List Derivation) (base : CType) : CType :=
  ds.foldr (Derivation.of aliases old) base

def nearestParameters (aliases old : Aliases) (ds : List Derivation) (parameters : List Node) : List Node :=
  match ds with
  | [] => parameters
  | .function ps :: _ => ps.nodes aliases old
  | .pointer :: ds | .array _ :: ds => nearestParameters aliases old ds parameters

lemma derivedType_append (ds es : List Derivation) (base : CType) :
    derivedType aliases old (ds ++ es) base = derivedType aliases old ds (derivedType aliases old es base) :=
  List.foldr_append

lemma nearestParameters_append (ds es : List Derivation) (parameters : List Node) :
    nearestParameters aliases old (ds ++ es) parameters =
      nearestParameters aliases old ds (nearestParameters aliases old es parameters) := by
  induction ds with
  | nil => rfl
  | cons d ds ih =>
    cases d with
    | pointer => exact ih
    | array => exact ih
    | function ps => rfl

lemma Declarator.declare_eq (base : CType) (parameters : List Node) (d : Declarator) :
    d.declare aliases old base parameters =
      ⟨d.declaredName, derivedType aliases old d.derivations base,
        nearestParameters aliases old d.derivations parameters⟩ := by
  -- the outermost declarator is applied first and is the last of the derivations
  cases d with
  | absent => rfl
  | hidden => rfl
  | name text => rfl
  | pointer inner =>
    rw [Declarator.declare, inner.declare_eq, Declarator.derivations, derivedType_append,
      nearestParameters_append]
    rfl
  | array sized inner =>
    rw [Declarator.declare, inner.declare_eq, Declarator.derivations, derivedType_append,
      nearestParameters_append]
    rfl
  | function ps inner =>
    rw [Declarator.declare, inner.declare_eq, Declarator.derivations, derivedType_append,
      nearestParameters_append]
    rfl
  | parens inner =>
    rw [Declarator.declare, inner.declare_eq]
    rfl
  | initialised inner =>
    rw [Declarator.declare, inner.declare_eq]
    rfl

/-! ## Emitted functions -/

lemma isFunction_derivedType {ds : List Derivation} {base : CType} :
    (derivedType aliases old ds base).isFunction = true ↔
      (∃ ps rest, ds = .function ps :: rest) ∨ ds = [] ∧ base.isFunction = true := by
  cases ds with
  | nil => simp [derivedType]
  | cons d ds =>
    cases d with
    | pointer => simp [derivedType, Derivation.of, CType.isFunction, CType.canonical, CType.kind, Kind.isFunction]
    | array sized =>
      cases sized <;>
        simp [derivedType, Derivation.of, CType.isFunction, CType.canonical, CType.kind, Kind.isFunction]
    | function ps =>
      simp only [derivedType, List.foldr_cons, Derivation.of, CType.isFunction, CType.canonical, CType.kind]
      cases !ps.isNone && !ps.isOldStyle <;> simp [Kind.isFunction]

lemma parameterNodes_of_function (name : String) (ps : Parameters) (t : CType) (extent : Extent) :
    Declared.parameterNodes ⟨name, (Derivation.function ps).of aliases old t, ps.nodes aliases old⟩ extent =
      ps.nodes aliases old := by
  cases hn : ps.nodes aliases old with
  | nil => simp [Declared.parameterNodes, Derivation.of, CType.arguments, CType.canonical, hn]
  | cons n ns => rfl

lemma Declared.functionNode_eq_some_iff {d : Declared} (hd : d.name ≠ "") {extent : Extent}
    {body : List Node} {n : Node} :
    d.functionNode extent body = some n ↔
      d.type.isFunction = true ∧
        n = { kind := .function, spelling := d.name, type := some d.type, extent := extent,
              children := d.parameterNodes extent ++ body } := by
  rw [Declared.functionNode, beq_eq_false_iff_ne.mpr hd, Bool.false_or]
  cases d.type.isFunction with
  | true => simp [eq_comm]
  | false => simp

/-! ## Parentheses -/

/-- A declarator with its parentheses left out. Those around nothing are around no declarator and stay. -/
def Declarator.enclosed : Declarator → Declarator
  | .absent => .parens .absent
  | d => d

mutual

def Declarator.unparenthesised : Declarator → Declarator
  | .absent => .absent
  | .hidden => .hidden
  | .name text => .name text
  | .pointer inner => .pointer inner.unparenthesised
  | .array sized inner => .array sized inner.unparenthesised
  | .function ps inner => .function ps.unparenthesised inner.unparenthesised
  | .parens inner => inner.unparenthesised.enclosed
  | .initialised inner => .initialised inner.unparenthesised

def Parameters.unparenthesised : Parameters → Parameters
  | .none => .none
  | .name text extent rest => .name text extent rest.unparenthesised
  | .variadic rest => .variadic rest.unparenthesised
  | .typed specifier declarator extent rest =>
    .typed specifier declarator.unparenthesised extent rest.unparenthesised

end

lemma Declarator.declare_enclosed (t : CType) (ms : List Node) (d : Declarator) :
    d.enclosed.declare aliases old t ms = d.declare aliases old t ms := by
  cases d <;> rfl

lemma Declarator.enclosed_ne_absent (d : Declarator) : d.enclosed ≠ .absent := by
  cases d <;> simp [Declarator.enclosed]

lemma Declarator.unparenthesised_eq_absent {d : Declarator} : d.unparenthesised = .absent ↔ d = .absent := by
  cases d with
  | parens inner => simp [Declarator.unparenthesised, Declarator.enclosed_ne_absent]
  | _ => simp [Declarator.unparenthesised]

lemma Parameters.isNone_unparenthesised (ps : Parameters) : ps.unparenthesised.isNone = ps.isNone := by
  cases ps <;> simp only [Parameters.unparenthesised, Parameters.isNone]

lemma Parameters.isOldStyle_unparenthesised (ps : Parameters) :
    ps.unparenthesised.isOldStyle = ps.isOldStyle := by
  cases ps with
  | none => rfl
  | name text extent rest => rfl
  | variadic rest => exact rest.isOldStyle_unparenthesised
  | typed specifier declarator extent rest => exact rest.isOldStyle_unparenthesised

lemma Parameters.named_unparenthesised (ps : Parameters) : ps.unparenthesised.named old = ps.named old := by
  cases ps with
  | none => rfl
  | name text extent rest =>
    simp only [Parameters.unparenthesised, Parameters.named]
    rw [rest.named_unparenthesised]
  | variadic rest => exact rest.named_unparenthesised
  | typed specifier declarator extent rest => exact rest.named_unparenthesised

lemma Parameters.isVoid_of_ne_absent {specifier : Specifier} {d : Declarator} {extent : Extent}
    {rest : Parameters} (hd : d ≠ .absent) :
    (Parameters.typed specifier d extent rest).isVoid aliases = false := by
  cases d with
  | absent => exact absurd rfl hd
  | _ => rfl

lemma Parameters.isVoid_unparenthesised (ps : Parameters) :
    ps.unparenthesised.isVoid aliases = ps.isVoid aliases := by
  cases ps with
  | none => rfl
  | name text extent rest => rfl
  | variadic rest => rfl
  | typed specifier declarator extent rest =>
    by_cases hd : declarator = .absent
    · subst hd
      cases rest <;> rfl
    · rw [Parameters.unparenthesised, isVoid_of_ne_absent hd,
        isVoid_of_ne_absent (mt Declarator.unparenthesised_eq_absent.mp hd)]

mutual

lemma Declarator.declare_unparenthesised (old : Aliases) (t : CType) (ms : List Node) (d : Declarator) :
    d.unparenthesised.declare aliases old t ms = d.declare aliases old t ms := by
  cases d with
  | absent => rfl
  | hidden => rfl
  | name text => rfl
  | pointer inner =>
    rw [Declarator.unparenthesised, Declarator.declare, inner.declare_unparenthesised, Declarator.declare]
  | array sized inner =>
    rw [Declarator.unparenthesised, Declarator.declare, inner.declare_unparenthesised, Declarator.declare]
  | function ps inner =>
    rw [Declarator.unparenthesised, Declarator.declare, inner.declare_unparenthesised,
      ps.isNone_unparenthesised, ps.isOldStyle_unparenthesised, Parameters.select,
      ps.isOldStyle_unparenthesised, ps.named_unparenthesised, ps.isVoid_unparenthesised,
      ps.typedNodes_unparenthesised, Declarator.declare, Parameters.select]
  | parens inner =>
    rw [Declarator.unparenthesised, Declarator.declare_enclosed, inner.declare_unparenthesised,
      Declarator.declare]
  | initialised inner =>
    rw [Declarator.unparenthesised, Declarator.declare, inner.declare_unparenthesised, Declarator.declare]

lemma Parameters.typedNodes_unparenthesised (ps : Parameters) :
    ps.unparenthesised.typedNodes aliases = ps.typedNodes aliases := by
  cases ps with
  | none => rfl
  | name text extent rest =>
    rw [Parameters.unparenthesised, Parameters.typedNodes, rest.typedNodes_unparenthesised,
      Parameters.typedNodes]
  | variadic rest =>
    rw [Parameters.unparenthesised, Parameters.typedNodes, rest.typedNodes_unparenthesised,
      Parameters.typedNodes]
  | typed specifier declarator extent rest =>
    rw [Parameters.unparenthesised, Parameters.typedNodes, rest.typedNodes_unparenthesised,
      declarator.declare_unparenthesised, Parameters.typedNodes]

end

lemma declare_congr_parentheses {d e : Declarator} (h : e.unparenthesised = d.unparenthesised)
    (old : Aliases) (base : CType) : e.declare aliases old base [] = d.declare aliases old base [] := by
  rw [← e.declare_unparenthesised, h, d.declare_unparenthesised]

/-! ## Reading from the name outward -/

/-- The function that is emitted for a declarator: there is one exactly if the derivation nearest to the name
is a function's, or there is none and the base is a function. Its parameters come from that derivation, and
its result from the others. -/
structure EmitsFunction (aliases : Aliases) (d : Declarator) (base : CType) (emitted : Option Node) :
    Prop where
  isSome_iff : emitted.isSome = true ↔
    (∃ ps rest, d.derivations = .function ps :: rest) ∨ d.derivations = [] ∧ base.isFunction = true
  named : ∀ n ∈ emitted, n.kind = .function ∧ n.spelling = d.declaredName
  typed : ∀ n ∈ emitted, n.type = some (derivedType aliases [] d.derivations base)
  nearest : ∀ n ∈ emitted, ∀ ps rest, d.derivations = .function ps :: rest →
    n.children = ps.nodes aliases [] ∧
      n.type.bind CType.result? = some (derivedType aliases [] rest base)

lemma emitsFunction_functionNode {d : Declarator} (hd : d.declaredName ≠ "") (base : CType)
    (extent : Extent) :
    EmitsFunction aliases d base ((d.declare aliases [] base []).functionNode extent []) := by
  rw [d.declare_eq]
  have hn := @Declared.functionNode_eq_some_iff
    ⟨d.declaredName, derivedType aliases [] d.derivations base,
      nearestParameters aliases [] d.derivations []⟩ hd extent []
  refine ⟨?_, ?_, ?_, ?_⟩
  · rw [Option.isSome_iff_exists, ← isFunction_derivedType]
    exact ⟨fun ⟨n, h⟩ => (hn.mp h).1, fun h => ⟨_, hn.mpr ⟨h, rfl⟩⟩⟩
  · intro n h
    obtain ⟨-, rfl⟩ := hn.mp h
    exact ⟨rfl, rfl⟩
  · intro n h
    obtain ⟨-, rfl⟩ := hn.mp h
    rfl
  · intro n h ps rest hds
    obtain ⟨-, rfl⟩ := hn.mp h
    rw [hds]
    exact ⟨(List.append_nil _).trans (parameterNodes_of_function _ ps _ extent), rfl⟩

lemma functionNodes_split (extent : Extent) (specifier : Specifier) (before after : List Declarator)
    (d : Declarator) :
    Declaration.functionNodes aliases ⟨extent, specifier, before ++ d :: after⟩ =
      Declaration.functionNodes aliases ⟨extent, specifier, before⟩ ++
        (((d.declare aliases [] (specifier.type aliases) []).functionNode extent []).toList ++
          Declaration.functionNodes aliases ⟨extent, specifier, after⟩) := by
  simp only [Declaration.functionNodes, List.filterMap_append, List.filterMap_cons]
  cases (d.declare aliases [] (specifier.type aliases) []).functionNode extent [] <;> rfl

/-- A declarator gives the first of its derivations from the name outward of the second, and so on to the
base; each declaration emits for it what is read so. Parentheses around declarators change nothing. -/
theorem declarator_reads_outward (aliases : Aliases) {d : Declarator} (hd : d.declaredName ≠ "") :
    (∀ old base, (d.declare aliases old base []).name = d.declaredName ∧
      (d.declare aliases old base []).type = derivedType aliases old d.derivations base) ∧
    (∀ extent specifier before after, ∃ emitted : Option Node,
      Declaration.functionNodes aliases ⟨extent, specifier, before ++ d :: after⟩ =
        Declaration.functionNodes aliases ⟨extent, specifier, before⟩ ++
          (emitted.toList ++ Declaration.functionNodes aliases ⟨extent, specifier, after⟩) ∧
      EmitsFunction aliases d (specifier.type aliases) emitted) ∧
    ∀ e : Declarator, e.unparenthesised = d.unparenthesised →
      (∀ old base, e.declare aliases old base [] = d.declare aliases old base []) ∧
      ∀ extent specifier before after,
        Declaration.functionNodes aliases ⟨extent, specifier, before ++ e :: after⟩ =
          Declaration.functionNodes aliases ⟨extent, specifier, before ++ d :: after⟩ := by
  refine ⟨?_, ?_, ?_⟩
  · intro old base
    rw [d.declare_eq]
    exact ⟨rfl, rfl⟩
  · intro extent specifier before after
    exact ⟨_, functionNodes_split extent specifier before after d, emitsFunction_functionNode hd _ extent⟩
  · intro e he
    refine ⟨declare_congr_parentheses he, ?_⟩
    intro extent specifier before after
    rw [functionNodes_split, functionNodes_split, declare_congr_parentheses he]

theorem declarator_reads_outward_to_function_pointer :
    let here : Extent := ⟨1, 1, 1, 29⟩
    let argument := Parameters.typed (.primitive "int") (.name "c") here .none
    let result := Parameters.typed (.primitive "double") .absent here .none
    let d := Declarator.function result (.parens (.pointer (.function argument (.name "getop"))))
    let e := Declarator.function result (.pointer (.parens (.function argument (.parens (.name "getop")))))
    d.declaredName ≠ "" ∧ d.derivations = [.function argument, .pointer, .function result] ∧
      ∃ n : Node, Declaration.functionNodes [] ⟨here, .primitive "int", [e]⟩ = [n] ∧
        n.children.map Node.spelling = ["c"] ∧
        n.type.bind CType.result? =
          some (.pointer (.function .int [.basic .double "double"] true)) := by
  intro here argument result d e
  have hd : d.declaredName ≠ "" := by decide
  obtain ⟨-, hemits, hparens⟩ := declarator_reads_outward [] hd
  have hds : d.derivations = [.function argument, .pointer, .function result] := rfl
  obtain ⟨emitted, hnodes, hread⟩ := hemits here (.primitive "int") [] []
  obtain ⟨n, rfl⟩ := Option.isSome_iff_exists.mp (hread.isSome_iff.mpr (.inl ⟨_, _, hds⟩))
  obtain ⟨hchildren, hresult⟩ := hread.nearest n rfl _ _ hds
  refine ⟨hd, hds, n, ?_, by rw [hchildren]; rfl, hresult⟩
  exact ((hparens e rfl).2 here (.primitive "int") [] []).trans hnodes

end Quadrature.C
