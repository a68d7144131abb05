import Quadrature.Proofs.NameLists
import Quadrature.Proofs.OutermostFunctions
import Quadrature.Proofs.Signatures
import Mathlib.Data.List.Nodup

/-! An old-style definition lists the names of its parameters and declares their types behind the list. -/

namespace Quadrature.C

variable {aliases types types' : Aliases} {old old' : List Declaration} {ps qs : Parameters}
  {rest : List Derivation} {x : String} {t : CType}

/-! ## The types of names -/

def declarators (old : List Declaration) : List (Specifier × Declarator) :=
  old.flatMap fun d => d.declarators.map (d.specifier, ·)

def declaredNames (old : List Declaration) : List String :=
  ((declarators old).filter (·.2.declaredName ≠ "")).map (·.2.declaredName)

def declaredType (aliases : Aliases) (p : Specifier × Declarator) : CType :=
  (p.2.declare aliases [] (p.1.type aliases) []).type

lemma mem_oldStyleTypes :
    (x, t) ∈ oldStyleTypes aliases old ↔
      ∃ p ∈ declarators old, p.2.declaredName = x ∧ (declaredType aliases p).decayed = t := by
  have hmap : oldStyleTypes aliases old =
      ((declarators old).map fun p => (p.2.declaredName, (declaredType aliases p).decayed)).reverse := by
    simp only [oldStyleTypes, declarators, List.map_flatMap, List.map_map, Function.comp_def,
      Declarator.name_declare, declaredType]
  rw [hmap, List.mem_reverse, List.mem_map]
  simp only [Prod.mk.injEq]

lemma eq_of_mem_oldStyleTypes {t' : CType} (hd : (declaredNames old).Nodup) (hx : x ≠ "")
    (h : (x, t) ∈ oldStyleTypes aliases old) (h' : (x, t') ∈ oldStyleTypes aliases old) : t = t' := by
  obtain ⟨p, hp, rfl, rfl⟩ := mem_oldStyleTypes.mp h
  obtain ⟨q, hq, hname, rfl⟩ := mem_oldStyleTypes.mp h'
  have hpq : p = q := by
    apply List.inj_on_of_nodup_map hd
    · exact List.mem_filter.mpr ⟨hp, by simpa using hx⟩
    · exact List.mem_filter.mpr ⟨hq, by simpa [hname] using hx⟩
    · exact hname.symm
  rw [hpq]

lemma lookup_eq_some_of_unique (hm : (x, t) ∈ types) (hu : ∀ t', (x, t') ∈ types → t' = t) :
    types.lookup x = some t := by
  cases hl : types.lookup x with
  | none => simpa using List.lookup_eq_none_iff.mp hl (x, t) hm
  | some t' =>
    obtain ⟨before, after, rfl, -⟩ := List.lookup_eq_some_iff.mp hl
    rw [hu t' (by simp)]

lemma lookup_eq_none_of_forall_not_mem (h : ∀ t, (x, t) ∉ types) : types.lookup x = none := by
  apply List.lookup_eq_none_iff.mpr
  rintro ⟨y, t⟩ hm
  have hne : x ≠ y := by
    rintro rfl
    exact h t hm
  simpa using hne

lemma lookup_eq_of_mem_iff (hu : ∀ t t', (x, t) ∈ types → (x, t') ∈ types → t = t')
    (h : ∀ t, (x, t) ∈ types' ↔ (x, t) ∈ types) : types'.lookup x = types.lookup x := by
  by_cases hm : ∃ t, (x, t) ∈ types
  · obtain ⟨t, ht⟩ := hm
    rw [lookup_eq_some_of_unique ht fun t' ht' => hu t' t ht' ht,
      lookup_eq_some_of_unique ((h t).mpr ht) fun t' ht' => hu t' t ((h t').mp ht') ht]
  · rw [not_exists] at hm
    rw [lookup_eq_none_of_forall_not_mem hm, lookup_eq_none_of_forall_not_mem fun t ht => hm t ((h t).mp ht)]

/-- The type that declarations give to a name: `int` if they do not declare it. -/
inductive GivesType (aliases : Aliases) (old : List Declaration) (x : String) : CType → Prop
  | declared {p : Specifier × Declarator} : p ∈ declarators old → p.2.declaredName = x →
      GivesType aliases old x (declaredType aliases p)
  | undeclared : x ∉ declaredNames old → GivesType aliases old x .int

lemma GivesType.lookup (hd : (declaredNames old).Nodup) (hx : x ≠ "") (h : GivesType aliases old x t) :
    ((oldStyleTypes aliases old).lookup x).getD .int = t.decayed := by
  cases h with
  | @declared p hp hname =>
    have hm : (x, (declaredType aliases p).decayed) ∈ oldStyleTypes aliases old :=
      mem_oldStyleTypes.mpr ⟨p, hp, hname, rfl⟩
    rw [lookup_eq_some_of_unique hm fun t' ht' => eq_of_mem_oldStyleTypes hd hx ht' hm, Option.getD_some]
  | undeclared hn =>
    have hm : ∀ t, (x, t) ∉ oldStyleTypes aliases old := by
      intro t ht
      obtain ⟨p, hp, hname, -⟩ := mem_oldStyleTypes.mp ht
      apply hn
      exact List.mem_map.mpr ⟨p, List.mem_filter.mpr ⟨hp, by simpa [hname] using hx⟩, hname⟩
    rw [lookup_eq_none_of_forall_not_mem hm]
    rfl

/-! ## Lists of names -/

inductive Parameters.AreNames : Parameters → Prop
  | none : AreNames .none
  | variadic {ps : Parameters} : AreNames ps → AreNames (.variadic ps)
  | name {x : String} {e : Extent} {ps : Parameters} : x ≠ "" → AreNames ps → AreNames (.name x e ps)

def Parameters.identifiers : Parameters → List String
  | .none => []
  | .name x _ rest => x :: rest.identifiers
  | .variadic rest | .typed _ _ _ rest => rest.identifiers

/-- A list of names, and the list that declares each of them with the type that the declarations give it. -/
inductive PrototypeOf (aliases : Aliases) (old : List Declaration) : Parameters → Parameters → Prop
  | none : PrototypeOf aliases old .none .none
  | variadic {ps qs : Parameters} : PrototypeOf aliases old ps qs →
      PrototypeOf aliases old (.variadic ps) (.variadic qs)
  | name {x : String} {e e' : Extent} {s : Specifier} {d : Declarator} {ps qs : Parameters} : x ≠ "" →
      d.declaredName = x → GivesType aliases old x (declaredType aliases (s, d)) →
      PrototypeOf aliases old ps qs → PrototypeOf aliases old (.name x e ps) (.typed s d e' qs)

lemma Parameters.AreNames.exists_prototypeOf (h : ps.AreNames) (aliases : Aliases) (old : List Declaration) :
    ∃ qs, PrototypeOf aliases old ps qs := by
  induction h with
  | none => exact ⟨.none, .none⟩
  | variadic _ ih =>
    obtain ⟨qs, hq⟩ := ih
    exact ⟨.variadic qs, .variadic hq⟩
  | @name x e ps hx _ ih =>
    obtain ⟨qs, hq⟩ := ih
    by_cases hm : ∃ p ∈ declarators old, p.2.declaredName = x
    · obtain ⟨p, hp, hname⟩ := hm
      exact ⟨.typed p.1 p.2 e qs, .name hx hname (.declared hp hname) hq⟩
    · refine ⟨.typed (.primitive "int") (.name x) e qs, .name hx rfl (.undeclared ?_) hq⟩
      intro hx
      obtain ⟨p, hp, hname⟩ := List.mem_map.mp hx
      exact hm ⟨p, List.mem_of_mem_filter hp, hname⟩

lemma PrototypeOf.isOldStyle_eq_false (h : PrototypeOf aliases old ps qs) : qs.isOldStyle = false := by
  induction h with
  | none => rfl
  | variadic _ ih => exact ih
  | name _ _ _ _ ih => exact ih

lemma PrototypeOf.isVoid_eq_false (h : PrototypeOf aliases old ps qs) : qs.isVoid aliases = false := by
  cases h with
  | none => rfl
  | variadic _ => rfl
  | name hx hname _ _ =>
    apply Parameters.isVoid_of_ne_absent
    rintro rfl
    exact hx hname.symm

lemma Parameters.AreNames.typedNodes (h : ps.AreNames) : ps.typedNodes aliases = [] := by
  induction h with
  | none => rfl
  | variadic _ ih => rw [Parameters.typedNodes, ih]
  | name _ _ ih => rw [Parameters.typedNodes, ih]

lemma Parameters.AreNames.named_of_isOldStyle_eq_false (h : ps.AreNames) (hold : ps.isOldStyle = false) :
    ps.named types = [] := by
  induction h with
  | none => rfl
  | variadic _ ih => exact ih hold
  | name _ _ _ => cases hold

lemma Parameters.AreNames.nodes (h : ps.AreNames) : ps.nodes aliases types = ps.named types := by
  rw [Parameters.nodes, Parameters.select]
  cases hold : ps.isOldStyle with
  | true => rfl
  | false =>
    rw [h.typedNodes, h.named_of_isOldStyle_eq_false hold]
    split_ifs <;> rfl

lemma Parameters.AreNames.empty_not_mem (h : ps.AreNames) : "" ∉ ps.identifiers := by
  induction h with
  | none => simp [Parameters.identifiers]
  | variadic _ ih => exact ih
  | name hx _ ih =>
    rw [Parameters.identifiers, List.mem_cons, not_or]
    exact ⟨Ne.symm hx, ih⟩

lemma PrototypeOf.areNames (h : PrototypeOf aliases old ps qs) : ps.AreNames := by
  induction h with
  | none => exact .none
  | variadic _ ih => exact .variadic ih
  | name hx _ _ _ ih => exact .name hx ih

lemma Parameters.named_congr (ps : Parameters)
    (h : ∀ x ∈ ps.identifiers, types'.lookup x = types.lookup x) : ps.named types' = ps.named types := by
  cases ps with
  | none => rfl
  | name x e rest =>
    obtain ⟨hx, hrest⟩ := List.forall_mem_cons.mp h
    rw [Parameters.named, Parameters.named, hx, rest.named_congr hrest]
  | variadic rest => exact rest.named_congr h
  | typed s d e rest => exact rest.named_congr h

/-! ## What is recorded of a parameter list -/

def Node.argument (n : Node) : Argument :=
  ⟨(n.type.map CType.name).getD "", n.spelling⟩

lemma PrototypeOf.map_argument (hd : (declaredNames old).Nodup) (h : PrototypeOf aliases old ps qs) :
    (ps.named (oldStyleTypes aliases old)).map Node.argument = (qs.typedNodes aliases).map Node.argument := by
  induction h with
  | none => rfl
  | variadic _ ih => exact ih
  | @name x e e' s d ps qs hx hname htype _ ih =>
    have hlookup := htype.lookup hd hx
    rw [Parameters.named, Parameters.typedNodes, List.map_cons, List.map_cons, ih, hlookup]
    simp only [Node.argument, d.name_declare, hname, declaredType]

lemma PrototypeOf.arguments_eq (hd : (declaredNames old).Nodup) (h : PrototypeOf aliases old ps qs) :
    (ps.nodes aliases (oldStyleTypes aliases old)).map Node.argument =
      (qs.nodes aliases []).map Node.argument := by
  have hq : qs.nodes aliases [] = qs.typedNodes aliases := by
    rw [Parameters.nodes, Parameters.select, h.isOldStyle_eq_false, h.isVoid_eq_false]
    rfl
  rw [h.areNames.nodes, hq, h.map_argument hd]

lemma Parameters.AreNames.nodes_congr (h : ps.AreNames) (hd : (declaredNames old).Nodup)
    (hsame : ∀ p : Specifier × Declarator, p.2.declaredName ∈ ps.identifiers →
      (p ∈ declarators old' ↔ p ∈ declarators old)) :
    ps.nodes aliases (oldStyleTypes aliases old') = ps.nodes aliases (oldStyleTypes aliases old) := by
  rw [h.nodes, h.nodes]
  apply ps.named_congr
  intro x hx
  have hne : x ≠ "" := fun he => h.empty_not_mem (he ▸ hx)
  apply lookup_eq_of_mem_iff (fun t t' => eq_of_mem_oldStyleTypes hd hne)
  intro t
  rw [mem_oldStyleTypes, mem_oldStyleTypes]
  constructor
  · rintro ⟨p, hp, rfl, ht⟩
    exact ⟨p, (hsame p hx).mp hp, rfl, ht⟩
  · rintro ⟨p, hp, rfl, ht⟩
    exact ⟨p, (hsame p hx).mpr hp, rfl, ht⟩

lemma name_derivedType (base : CType) (rest : List Derivation) :
    (derivedType aliases types rest base).name = (derivedType aliases types' rest base).name := by
  cases rest with
  | nil => rfl
  | cons d rest =>
    cases d with
    | pointer => rfl
    | array sized => rfl
    | function ps => rfl

end Quadrature.C
