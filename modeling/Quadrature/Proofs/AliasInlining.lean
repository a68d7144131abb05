import Quadrature.C.Reader
import Quadrature.Proofs.AliasFree

/-! Writing a plain type for the name that is defined for it. In a tree the words for primitive types and sizes are no
names, so that nothing defines them. -/

namespace Quadrature.C

/-! ## Writing a type for a name -/

def Specifier.isPlain : Specifier → Bool
  | .primitive _ | .sized _ => true
  | _ => false

structure PlainAlias where
  name : String
  type : Specifier
  named : name ≠ ""
  plain : type.isPlain = true

def Specifier.inline (a : PlainAlias) : Specifier → Specifier
  | .named used => if used = a.name then a.type else .named used
  | specifier => specifier

mutual

def Declarator.inline (a : PlainAlias) : Declarator → Declarator
  | .absent => .absent
  | .hidden => .hidden
  | .name text => .name text
  | .pointer inner => .pointer (inner.inline a)
  | .array sized inner => .array sized (inner.inline a)
  | .function ps inner => .function (ps.inline a) (inner.inline a)
  | .parens inner => .parens (inner.inline a)
  | .initialised inner => .initialised (inner.inline a)

def Parameters.inline (a : PlainAlias) : Parameters → Parameters
  | .none => .none
  | .name text extent rest => .name text extent (rest.inline a)
  | .variadic rest => .variadic (rest.inline a)
  | .typed specifier declarator extent rest =>
    .typed (specifier.inline a) (declarator.inline a) extent (rest.inline a)

end

def Declaration.inline (a : PlainAlias) (d : Declaration) : Declaration :=
  ⟨d.extent, d.specifier.inline a, d.declarators.map (Declarator.inline a)⟩

mutual

def Item.inline (a : PlainAlias) : Item → Item
  | .definition extent specifier declarator old bodyExtent locals =>
    .definition extent (specifier.inline a) (declarator.inline a)
      (old.map (Declaration.inline a)) bodyExtent (locals.map (Declaration.inline a))
  | .declaration d => .declaration (d.inline a)
  | .typeDefinition d => .typeDefinition (d.inline a)
  | .conditional extent items => .conditional extent (inlineItems a items)
  | .linkage extent items => .linkage extent (inlineItems a items)
  | .braces extent items => .braces extent (inlineItems a items)

def inlineItems (a : PlainAlias) : List Item → List Item
  | [] => []
  | item :: items => item.inline a :: inlineItems a items

end

def Declarator.declaredName : Declarator → String
  | .absent | .hidden => ""
  | .name text => text
  | .pointer inner | .array _ inner | .function _ inner | .parens inner | .initialised inner =>
    inner.declaredName

def Declarator.isName (name : String) : Declarator → Bool
  | .name text => text = name
  | .parens inner => inner.isName name
  | _ => false

mutual

def Item.aliasNames : Item → List String
  | .typeDefinition d => d.declarators.map Declarator.declaredName
  | .conditional _ items | .linkage _ items | .braces _ items => aliasNamesIn items
  | .definition .. | .declaration _ => []

def aliasNamesIn : List Item → List String
  | [] => []
  | item :: items => item.aliasNames ++ aliasNamesIn items

end

/-- Items before and after inlining. Somewhere among them, at any depth, a name is defined for a type, and
nothing behind that defines it again. All uses of the name behind its definition, and no others, give way
to the type. -/
inductive Inlined (a : PlainAlias) : List Item → List Item → Prop
  | definition {extent : Extent} {before after : List Declarator} {declarator : Declarator} {items : List Item}
      (hname : declarator.isName a.name = true) (hafter : a.name ∉ after.map Declarator.declaredName)
      (hitems : a.name ∉ aliasNamesIn items) :
      Inlined a
        (.typeDefinition ⟨extent, a.type, before ++ declarator :: after⟩ :: items)
        (.typeDefinition ⟨extent, a.type, before ++ declarator :: after.map (Declarator.inline a)⟩ ::
          inlineItems a items)
  | behind (item : Item) {items items' : List Item} (h : Inlined a items items') :
      Inlined a (item :: items) (item :: items')
  | conditional {extent : Extent} {inner inner' items : List Item} (h : Inlined a inner inner')
      (hitems : a.name ∉ aliasNamesIn items) :
      Inlined a (.conditional extent inner :: items) (.conditional extent inner' :: inlineItems a items)
  | linkage {extent : Extent} {inner inner' items : List Item} (h : Inlined a inner inner')
      (hitems : a.name ∉ aliasNamesIn items) :
      Inlined a (.linkage extent inner :: items) (.linkage extent inner' :: inlineItems a items)
  | braces {extent : Extent} {inner inner' items : List Item} (h : Inlined a inner inner')
      (hitems : a.name ∉ aliasNamesIn items) :
      Inlined a (.braces extent inner :: items) (.braces extent inner' :: inlineItems a items)

/-! ## Aliases that agree -/

def bareAliases (aliases : Aliases) : Aliases := aliases.map fun e => (e.1, e.2.bare)

lemma lookup_bareAliases (aliases : Aliases) (m : String) :
    (bareAliases aliases).lookup m = (aliases.lookup m).map CType.bare := by
  induction aliases with
  | nil => rfl
  | cons e aliases ih =>
    rw [bareAliases, List.map_cons, List.lookup_cons, List.lookup_cons]
    cases m == e.1 with
    | true => rfl
    | false => exact ih

/-- The aliases known before and after inlining: they stand for the same types, and the name stands for the
inlined one. -/
structure Agree (a : PlainAlias) (aliases aliases' : Aliases) : Prop where
  same : bareAliases aliases' = bareAliases aliases
  stands : ∃ t, aliases.lookup a.name = some t ∧ t.bare = (a.type.type []).bare

variable {a : PlainAlias} {aliases aliases' : Aliases} {t t' : CType}

lemma Agree.cons (h : Agree a aliases aliases') {m : String} (hm : m ≠ a.name) (ht : t'.bare = t.bare) :
    Agree a ((m, t) :: aliases) ((m, t') :: aliases') := by
  refine ⟨?_, ?_⟩
  · simp only [bareAliases, List.map_cons, ht]
    exact congrArg _ h.same
  · rw [List.lookup_cons, beq_false_of_ne hm.symm]
    exact h.stands

lemma PlainAlias.type_type (a : PlainAlias) (aliases : Aliases) : a.type.type aliases = a.type.type [] := by
  have hp := a.plain
  cases ht : a.type with
  | primitive _ => rfl
  | sized _ => rfl
  | _ => rw [ht] at hp; cases hp

def Resolves (a : PlainAlias) (aliases aliases' : Aliases) : Prop :=
  ∀ s : Specifier, ((s.inline a).type aliases').bare = (s.type aliases).bare

lemma Agree.resolves (h : Agree a aliases aliases') :
    Resolves a aliases aliases' := by
  intro s
  cases s with
  | named used =>
    by_cases hu : used = a.name
    · obtain ⟨t, hl, ht⟩ := h.stands
      rw [Specifier.inline, if_pos hu, a.type_type, hu, Specifier.type, hl, ht]
    · rw [Specifier.inline, if_neg hu, Specifier.type, Specifier.type]
      have hl := congrArg (List.lookup used) h.same
      rw [lookup_bareAliases, lookup_bareAliases] at hl
      cases ha : aliases.lookup used with
      | none =>
        have ha' : aliases'.lookup used = none := by rwa [ha, Option.map_none, Option.map_eq_none_iff] at hl
        rw [ha']
      | some t =>
        rw [ha, Option.map_some, Option.map_eq_some_iff] at hl
        obtain ⟨t', ha', ht⟩ := hl
        rw [ha']
        exact ht
  | _ => rfl

/-! ## Declarators -/

def Declared.bare (d : Declared) : Declared := ⟨d.name, d.type.bare, bareNodes d.parameters⟩

lemma Parameters.isNone_inline (ps : Parameters) : (ps.inline a).isNone = ps.isNone := by
  cases ps <;> simp only [Parameters.inline, Parameters.isNone]

lemma Parameters.isOldStyle_inline (ps : Parameters) : (ps.inline a).isOldStyle = ps.isOldStyle := by
  cases ps with
  | none => simp only [Parameters.inline]
  | name _ _ rest => simp only [Parameters.inline, Parameters.isOldStyle]
  | variadic rest =>
    simp only [Parameters.inline, Parameters.isOldStyle]
    exact rest.isOldStyle_inline
  | typed _ _ _ rest =>
    simp only [Parameters.inline, Parameters.isOldStyle]
    exact rest.isOldStyle_inline

lemma Parameters.named_inline {old old' : Aliases} (hold : bareAliases old' = bareAliases old) (ps : Parameters) :
    bareNodes ((ps.inline a).named old') = bareNodes (ps.named old) := by
  cases ps with
  | none => simp only [Parameters.inline, Parameters.named]
  | name text extent rest =>
    have hl := congrArg (List.lookup text) hold
    rw [lookup_bareAliases, lookup_bareAliases] at hl
    have ht : ((old'.lookup text).getD .int).bare = ((old.lookup text).getD .int).bare := by
      rw [← Option.getD_map CType.bare, ← Option.getD_map CType.bare, hl]
    simp only [Parameters.inline, Parameters.named, bareNodes, Node.bare, Option.map_some, ht,
      rest.named_inline hold]
  | variadic rest =>
    simp only [Parameters.inline, Parameters.named]
    exact rest.named_inline hold
  | typed _ _ _ rest =>
    simp only [Parameters.inline, Parameters.named]
    exact rest.named_inline hold

lemma Parameters.isVoid_inline (h : Resolves a aliases aliases') (ps : Parameters) :
    (ps.inline a).isVoid aliases' = ps.isVoid aliases := by
  cases ps with
  | none => simp only [Parameters.inline, Parameters.isVoid]
  | name _ _ _ => simp only [Parameters.inline, Parameters.isVoid]
  | variadic _ => simp only [Parameters.inline, Parameters.isVoid]
  | typed s d e rest =>
    cases d <;> cases rest <;>
      simp only [Parameters.inline, Declarator.inline, Parameters.isVoid, ← CType.kind_bare, h s]

lemma filterMap_type_bareNodes (ns : List Node) :
    (bareNodes ns).filterMap Node.type = bareTypes (ns.filterMap Node.type) := by
  simp only [bareNodes_eq_map, bareTypes_eq_map, List.filterMap_map, List.map_filterMap, Function.comp_def,
    Node.type_bare]

lemma Parameters.select_inline {old old' : Aliases} {typed typed' : List Node} (h : Resolves a aliases aliases')
    (hold : bareAliases old' = bareAliases old) (ps : Parameters) (ht : bareNodes typed' = bareNodes typed) :
    bareNodes ((ps.inline a).select aliases' old' typed') = bareNodes (ps.select aliases old typed) := by
  simp only [Parameters.select, Parameters.isOldStyle_inline, Parameters.isVoid_inline h]
  split_ifs
  · exact ps.named_inline hold
  · rfl
  · exact ht

mutual

lemma Declarator.declare_inline {old old' : Aliases} {t t' : CType} {ms ms' : List Node}
    (h : Resolves a aliases aliases') (hold : bareAliases old' = bareAliases old) (ht : t'.bare = t.bare)
    (hms : bareNodes ms' = bareNodes ms) : (d : Declarator) →
      ((d.inline a).declare aliases' old' t' ms').bare = (d.declare aliases old t ms).bare
  | .absent => by simp only [Declarator.inline, Declarator.declare, Declared.bare, ht, hms]
  | .hidden => by simp only [Declarator.inline, Declarator.declare, Declared.bare, ht, hms]
  | .name text => by simp only [Declarator.inline, Declarator.declare, Declared.bare, ht, hms]
  | .pointer d => by
    simp only [Declarator.inline, Declarator.declare]
    exact d.declare_inline h hold (by simp only [CType.bare, ht]) hms
  | .array sized d => by
    simp only [Declarator.inline, Declarator.declare]
    exact d.declare_inline h hold (by simp only [CType.bare, ht]) hms
  | .function ps d => by
    have hnodes := ps.select_inline h hold (ps.typedNodes_inline h)
    have htypes := congrArg (List.filterMap Node.type) hnodes
    rw [filterMap_type_bareNodes, filterMap_type_bareNodes] at htypes
    simp only [Declarator.inline, Declarator.declare, Parameters.isNone_inline, Parameters.isOldStyle_inline]
    exact d.declare_inline h hold (by simp only [CType.bare, ht, htypes]) hnodes
  | .parens d => by
    simp only [Declarator.inline, Declarator.declare]
    exact d.declare_inline h hold ht hms
  | .initialised d => by
    simp only [Declarator.inline, Declarator.declare]
    exact d.declare_inline h hold ht hms

lemma Parameters.typedNodes_inline (h : Resolves a aliases aliases') (ps : Parameters) :
    bareNodes ((ps.inline a).typedNodes aliases') = bareNodes (ps.typedNodes aliases) := by
  cases ps with
  | none => simp only [Parameters.inline, Parameters.typedNodes]
  | name _ _ rest =>
    simp only [Parameters.inline, Parameters.typedNodes]
    exact rest.typedNodes_inline h
  | variadic rest =>
    simp only [Parameters.inline, Parameters.typedNodes]
    exact rest.typedNodes_inline h
  | typed s d e rest =>
    have hd : ((d.inline a).declare aliases' [] ((s.inline a).type aliases') []).bare =
        (d.declare aliases [] (s.type aliases) []).bare := d.declare_inline h rfl (h s) rfl
    obtain ⟨hname, htype, -⟩ := Declared.mk.inj hd
    simp only [Parameters.inline, Parameters.typedNodes, bareNodes, Node.bare, Option.map_some,
      CType.bare_decayed, rest.typedNodes_inline h]
    rw [hname, htype]

end

end Quadrature.C
