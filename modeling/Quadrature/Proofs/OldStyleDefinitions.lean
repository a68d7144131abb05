import Quadrature.Proofs.Surroundings

/-! An old-style definition is extracted as the definition that writes the types into the list. -/

namespace Quadrature.C

variable {aliases types types' : Aliases} {old old' : List Declaration} {ps qs : Parameters}
  {rest : List Derivation} {x : String} {t : CType}

def Derivation.around : Derivation → Declarator → Declarator
  | .pointer => .pointer
  | .array sized => .array sized
  | .function ps => .function ps

def Declarator.derive (d : Declarator) (ds : List Derivation) : Declarator :=
  ds.foldl (fun d x => x.around d) d

lemma Derivation.derivations_around (x : Derivation) (d : Declarator) :
    (x.around d).derivations = d.derivations ++ [x] ∧ (x.around d).declaredName = d.declaredName := by
  cases x <;> exact ⟨rfl, rfl⟩

lemma Declarator.derivations_derive (ds : List Derivation) (d : Declarator) :
    (d.derive ds).derivations = d.derivations ++ ds ∧ (d.derive ds).declaredName = d.declaredName := by
  induction ds generalizing d with
  | nil => exact ⟨(List.append_nil _).symm, rfl⟩
  | cons x ds ih =>
    obtain ⟨hx, hname⟩ := x.derivations_around d
    obtain ⟨hds, hsame⟩ := ih (x.around d)
    rw [hx, List.append_assoc] at hds
    exact ⟨hds, hsame.trans hname⟩

structure TakesTypes (aliases : Aliases) (old : List Declaration) (ps : Parameters)
    (d : FunctionDeclaration) : Prop where
  names : d.argumentNames = ps.identifiers
  types : List.Forall₂ (fun x t => ∃ type, GivesType aliases old x type ∧ t = type.decayed.name)
    ps.identifiers d.argumentTypes

lemma PrototypeOf.forall₂_types (hd : (declaredNames old).Nodup) (h : PrototypeOf aliases old ps qs) :
    List.Forall₂ (fun x n => n.spelling = x ∧
        ∃ type, GivesType aliases old x type ∧ n.argument.type = type.decayed.name)
      ps.identifiers (ps.named (oldStyleTypes aliases old)) := by
  induction h with
  | none => exact .nil
  | variadic _ ih => exact ih
  | name hx _ htype _ ih =>
    refine .cons ⟨rfl, _, htype, ?_⟩ ih
    rw [← htype.lookup hd hx]
    rfl

lemma takesTypes_recorded (hd : (declaredNames old).Nodup) (h : ps.AreNames) (base : CType) (name : String) :
    TakesTypes aliases old ps (recorded aliases (oldStyleTypes aliases old) base name ps rest) := by
  obtain ⟨qs, hq⟩ := h.exists_prototypeOf aliases old
  have hnodes := hq.forall₂_types hd
  constructor
  · rw [recorded, FunctionDeclaration.argumentNames, h.nodes, List.map_map]
    have hspelling : List.Forall₂ (· = ·) ps.identifiers
        ((ps.named (oldStyleTypes aliases old)).map (Argument.name ∘ Node.argument)) :=
      List.forall₂_map_right_iff.mpr (hnodes.imp fun _ _ hn => hn.1.symm)
    exact (List.forall₂_eq_eq_eq ▸ hspelling).symm
  · rw [recorded, FunctionDeclaration.argumentTypes, h.nodes, List.map_map]
    exact List.forall₂_map_right_iff.mpr (hnodes.imp fun _ _ hn => hn.2)

lemma recorded_congr (base : CType) (name : String)
    (h : (ps.nodes aliases types).map Node.argument = (qs.nodes aliases types').map Node.argument) :
    recorded aliases types base name ps rest = recorded aliases types' base name qs rest := by
  rw [recorded, recorded, h, name_derivedType]

end Quadrature.C

namespace Quadrature

open C

/-- A definition whose list gives only names is extracted with the types that its declarations give them, as is
the definition that writes the types into the list; the order and the groups of the declarations, and the other
names that they declare, do not matter. What is read as such a definition has nothing else on its name: it
returns the type that it starts with. -/
theorem old_style_definition_extracts_as_prototype {aliases : Aliases} {old : List Declaration}
    {k : Declarator} {ps : Parameters} {rest : List Derivation} (hname : k.declaredName ≠ "")
    (hds : k.derivations = .function ps :: rest) (hps : ps.AreNames) (hdistinct : (declaredNames old).Nodup)
    (s : Specifier) :
    (∃ (p : Declarator) (qs : Parameters), PrototypeOf aliases old ps qs ∧
      p.derivations = .function qs :: rest ∧ p.declaredName = k.declaredName) ∧
    (∃ d : FunctionDeclaration, d.name = k.declaredName ∧
      d.returnType = (derivedType aliases [] rest (s.type aliases)).name ∧ TakesTypes aliases old ps d ∧
      ∀ (c : Surroundings) (path : String) (extent : Extent), c.known [] = aliases →
        ∃ before after, c.Extracts path extent before after d s k old ∧
          (∀ (p : Declarator) (qs : Parameters), PrototypeOf aliases old ps qs →
            p.derivations = .function qs :: rest → p.declaredName = k.declaredName →
              c.Extracts path extent before after d s p []) ∧
          ∀ old', (∀ p : Specifier × Declarator, p.2.declaredName ∈ ps.identifiers →
              (p ∈ declarators old' ↔ p ∈ declarators old)) →
            c.Extracts path extent before after d s k old') ∧
    ∀ (source : String) (u : SourceUnit) (c : Surroundings) (e b : Extent) (locals : List Declaration),
      SourceUnit.read source = .ok u → u.items = c.around (.definition e s k old b locals) →
        ps.isOldStyle = true → rest = [] := by
  refine ⟨?_, ?_, ?_⟩
  · obtain ⟨qs, hq⟩ := hps.exists_prototypeOf aliases old
    obtain ⟨hderivations, hsame⟩ := Declarator.derivations_derive (.function qs :: rest) (.name k.declaredName)
    exact ⟨_, qs, hq, hderivations, hsame⟩
  · refine ⟨recorded aliases (oldStyleTypes aliases old) (s.type aliases) k.declaredName ps rest, rfl,
      name_derivedType _ rest, takesTypes_recorded hdistinct hps _ _, ?_⟩
    rintro c path extent rfl
    obtain ⟨before, after, hextracts⟩ := c.exists_extracts path extent
    refine ⟨before, after, hextracts s k old ps rest hname hds, ?_, ?_⟩
    · intro p qs hq hp hpname
      rw [recorded_congr _ _ (hq.arguments_eq hdistinct), ← hpname]
      exact hextracts s p [] qs rest (hpname ▸ hname) hp
    · intro old' hsame
      rw [← recorded_congr _ _ (congrArg (List.map Node.argument) (hps.nodes_congr hdistinct hsame))]
      exact hextracts s k old' ps rest hname hds
  · intro source u c e b locals hread hitems hold
    have halone : Item.NamesAlone (.definition e s k old b locals) :=
      c.namesAlone (hitems ▸ SourceUnit.namesAlone_of_read hread)
    cases halone with
    | definition h => exact h ps rest hds hold

/-- With an alias that is known in the branch of the definition, an array, a name that has no declaration and one
that is in no list. With a pointer in front of the name, the list of names is lost. -/
theorem old_style_definition_extracts_as_prototype_in_branch :
    let e : Extent := ⟨1, 1, 1, 1⟩
    let c : Surroundings := .inside [.typeDefinition ⟨e, .primitive "double", [.name "real"]⟩] .conditional e
      (.between [] []) []
    let k := Declarator.function (.name "v" e (.name "n" e (.name "m" e .none))) (.name "f")
    let n : Declaration := ⟨e, .primitive "int", [.pointer (.name "n")]⟩
    let v : Declaration := ⟨e, .named "real", [.name "spare", .array true (.name "v")]⟩
    let p := Declarator.function (.typed (.named "real") (.array true (.name "v")) e
      (.typed (.primitive "int") (.pointer (.name "n")) e (.typed (.primitive "int") (.name "m") e .none))) (.name "f")
    let extracted := fun (d : Declarator) (old : List Declaration) =>
      Extraction.declarations "a.c"
        (SourceUnit.outline ⟨c.around (.definition e (.named "real") d old e []), e⟩)
    let signatures := fun source : String =>
      ((readSource source).toOption.bind fun root => (Extraction.declarations "a.c" root).toOption).map
        (List.map FunctionDeclaration.signature)
    (∃ ds, extracted k [n, v] = .ok ds ∧ extracted p [] = .ok ds ∧
      extracted k [⟨e, .named "real", [.array true (.name "v")]⟩, n] = .ok ds ∧
      ds.map FunctionDeclaration.signature = ["double f(pointer v, pointer n, int m)"]) ∧
    signatures "double f(a) double a; \x7b return 0; \x7d" = some ["double f(double a)"] ∧
    signatures "double *f(double a) \x7b return 0; \x7d" = some ["pointer f(double a)"] ∧
    signatures "double *f(a) double a; \x7b return 0; \x7d" = some ["pointer f(unexposed)"] := by
  intro e c k n v p extracted signatures
  have hps : Parameters.AreNames (.name "v" e (.name "n" e (.name "m" e .none))) :=
    .name (by decide) (.name (by decide) (.name (by decide) .none))
  have hprototype : PrototypeOf (c.known []) [n, v] (.name "v" e (.name "n" e (.name "m" e .none)))
      (.typed (.named "real") (.array true (.name "v")) e
        (.typed (.primitive "int") (.pointer (.name "n")) e (.typed (.primitive "int") (.name "m") e .none))) := by
    refine .name (by decide) rfl (.declared ?_ rfl) (.name (by decide) rfl (.declared ?_ rfl)
      (.name (by decide) rfl (.undeclared (by decide)) .none))
    · exact List.mem_cons_of_mem _ (List.mem_cons_of_mem _ List.mem_cons_self)
    · exact List.mem_cons_self
  obtain ⟨-, ⟨d, -, -, -, hextracts⟩, -⟩ := @old_style_definition_extracts_as_prototype (c.known []) [n, v] k
    _ [] (by decide) rfl hps (by decide) (.named "real")
  obtain ⟨before, after, hold, hnew, hsame⟩ := hextracts c "a.c" e rfl
  have hsignature : (extracted k [n, v]).toOption.map (List.map FunctionDeclaration.signature) =
      some ["double f(pointer v, pointer n, int m)"] := by decide +kernel
  refine ⟨⟨_, hold e e [], hnew p _ hprototype rfl rfl e e [], hsame _ ?_ e e [], ?_⟩, ?_, ?_, ?_⟩
  · intro q hq
    have hspare : q ≠ (.named "real", .name "spare") := by
      rintro rfl
      revert hq
      decide
    change q ∈ [(Specifier.named "real", Declarator.array true (.name "v")), (.primitive "int", .pointer (.name "n"))] ↔
      q ∈ [(Specifier.primitive "int", Declarator.pointer (.name "n")), (.named "real", .name "spare"),
        (.named "real", .array true (.name "v"))]
    simp only [List.mem_cons, List.not_mem_nil, or_false, hspare, false_or]
    exact or_comm
  · rw [show extracted k [n, v] = _ from hold e e []] at hsignature
    exact Option.some.inj hsignature
  · decide +kernel
  · decide +kernel
  · decide +kernel

end Quadrature
