import Quadrature.C.Node
import Quadrature.C.Tree
import Quadrature.C.Word

/-!
What a source unit declares: the types behind specifiers and declarators, and the outline of
functions, parameters and aliases.
-/

namespace Quadrature.C

abbrev Aliases := List (String × CType)

def standardAlias : String → Option Kind
  | "int8_t" => some .sChar
  | "uint8_t" | "char8_t" => some .uChar
  | "int16_t" => some .short
  | "uint16_t" => some .uShort
  | "int32_t" => some .int
  | "uint32_t" => some .uInt
  | "int64_t" | "ssize_t" | "ptrdiff_t" | "intptr_t" => some .long
  | "uint64_t" | "size_t" | "uintptr_t" => some .uLong
  | "wchar_t" => some .wChar
  | _ => none

def unexplained (name : String) : CType :=
  match standardAlias name with
  | some k => .named name (.basic k name)
  | none => .basic .unexposed name

def primitiveType (name : String) : CType :=
  match name with
  | "void" => .basic .void name
  | "bool" | "_Bool" => .basic .bool name
  | "char" => .basic .charS name
  | "int" => .basic .int name
  | "float" => .basic .float name
  | "double" => .basic .double name
  | "char16_t" => .basic .char16 name
  | "char32_t" => .basic .char32 name
  | "nullptr_t" => .basic .nullPtr name
  | _ => unexplained name

/-- The words of a sized type, counted; `base` is the last word that is none of the four. -/
structure SizeWords where
  unsigned : Bool
  signed : Bool
  shorts : Nat
  longs : Nat
  base : String
  deriving DecidableEq, Repr

def SizeWords.none : SizeWords := ⟨false, false, 0, 0, ""⟩

def SizeWords.add (s : SizeWords) (word : String) : SizeWords :=
  match word with
  | "unsigned" => { s with unsigned := true }
  | "signed" => { s with signed := true }
  | "short" => { s with shorts := s.shorts + 1 }
  | "long" => { s with longs := s.longs + 1 }
  | _ => { s with base := word }

def SizeWords.ofList (words : List String) : SizeWords :=
  words.foldl SizeWords.add .none

def SizeWords.integer (s : SizeWords) : Kind :=
  if 0 < s.shorts then if s.unsigned then .uShort else .short
  else if 2 ≤ s.longs then if s.unsigned then .uLongLong else .longLong
  else if s.longs = 1 then if s.unsigned then .uLong else .long
  else if s.unsigned then .uInt else .int

def SizeWords.kind (s : SizeWords) : Kind :=
  match s.base with
  | "double" => if 0 < s.longs then .longDouble else .double
  | "char" => if s.unsigned then .uChar else if s.signed then .sChar else .charS
  | "__int128" => if s.unsigned then .uInt128 else .int128
  | _ => s.integer

def sizedKind (text : String) : Kind :=
  (SizeWords.ofList (Text.words text)).kind

def Tag.word : Tag → String
  | .struct => "struct"
  | .union => "union"
  | .enumeration => "enum"

def Tag.kind : Tag → Kind
  | .enumeration => .enumeration
  | _ => .record

def Specifier.type (aliases : Aliases) : Specifier → CType
  | .primitive name => primitiveType name
  | .sized text => .basic (sizedKind text) text
  | .named name =>
    match aliases.lookup name with
    | some t => t
    | none => if name == "_Bool" then .basic .bool name else unexplained name
  | .tagged tag name =>
    .basic tag.kind (if name == "" then tag.word else tag.word ++ " " ++ name)
  | .call text => .basic .unexposed text

structure Declared where
  name : String
  type : CType
  parameters : List Node

def Parameters.isNone : Parameters → Bool
  | .none => true
  | _ => false

def Parameters.isOldStyle : Parameters → Bool
  | .none => false
  | .name _ _ _ => true
  | .variadic rest => rest.isOldStyle
  | .typed _ _ _ rest => rest.isOldStyle

/-- The names of an old-style list, with the types that declarations give them, `int` where they give
none. -/
def Parameters.named (old : Aliases) : Parameters → List Node
  | .none => []
  | .name text extent rest =>
    { kind := .parameter, spelling := text, type := some ((old.lookup text).getD .int),
      extent := extent } :: rest.named old
  | .variadic rest => rest.named old
  | .typed _ _ _ rest => rest.named old

def Parameters.isVoid (aliases : Aliases) : Parameters → Bool
  | .typed specifier .absent _ .none => (specifier.type aliases).canonical.kind == .void
  | _ => false

def Parameters.select (aliases old : Aliases) (ps : Parameters) (typed : List Node) : List Node :=
  if ps.isOldStyle then ps.named old
  else if ps.isVoid aliases then []
  else typed

mutual

/-- Applies a declarator to a type, from the outside in. Names without types get theirs from
`old`. -/
def Declarator.declare (aliases old : Aliases) (type : CType) (parameters : List Node) :
    Declarator → Declared
  | .absent => ⟨"", type, parameters⟩
  | .hidden => ⟨"", type, parameters⟩
  | .name text => ⟨text, type, parameters⟩
  | .pointer inner => inner.declare aliases old (.pointer type) parameters
  | .array sized inner => inner.declare aliases old (.array type sized) parameters
  | .function ps inner =>
    let nodes := ps.select aliases old (ps.typedNodes aliases)
    inner.declare aliases old
      (.function type (nodes.filterMap Node.type) (!ps.isNone && !ps.isOldStyle)) nodes
  | .parens inner => inner.declare aliases old type parameters
  | .initialised inner => inner.declare aliases old type parameters

def Parameters.typedNodes (aliases : Aliases) : Parameters → List Node
  | .none => []
  | .name _ _ rest => rest.typedNodes aliases
  | .variadic rest => rest.typedNodes aliases
  | .typed specifier declarator extent rest =>
    let declared := declarator.declare aliases [] (specifier.type aliases) []
    { kind := .parameter, spelling := declared.name, type := some declared.type.decayed,
      extent := extent } :: rest.typedNodes aliases

end

def oldStyleTypes (aliases : Aliases) (old : List Declaration) : Aliases :=
  (old.flatMap fun d => d.declarators.map fun declarator =>
    let declared := declarator.declare aliases [] (d.specifier.type aliases) []
    (declared.name, declared.type.decayed)).reverse

/-- The parameters of a declared function. One declared through an alias has no list of its own, and
its parameters come from its type. -/
def Declared.parameterNodes (d : Declared) (extent : Extent) : List Node :=
  if d.parameters.isEmpty then
    d.type.arguments.map fun t => { kind := .parameter, type := some t, extent := extent }
  else d.parameters

def Declared.functionNode (d : Declared) (extent : Extent) (body : List Node) : Option Node :=
  if d.name == "" || !d.type.isFunction then none
  else some { kind := .function, spelling := d.name, type := some d.type, extent := extent,
              children := d.parameterNodes extent ++ body }

def Declaration.functionNodes (aliases : Aliases) (d : Declaration) : List Node :=
  d.declarators.filterMap fun declarator =>
    (declarator.declare aliases [] (d.specifier.type aliases) []).functionNode d.extent []

def aliasNodes (aliases : Aliases) (base : CType) (extent : Extent) :
    List Declarator → List Node × Aliases
  | [] => ([], aliases)
  | declarator :: rest =>
    let declared := declarator.declare aliases [] base []
    if declared.name == "" then aliasNodes aliases base extent rest
    else
      let t := CType.named declared.name declared.type.canonical
      let more := aliasNodes ((declared.name, t) :: aliases) base extent rest
      ({ kind := .typeAlias, spelling := declared.name, type := some t, extent := extent } ::
        more.1, more.2)

mutual

def Item.outline (aliases : Aliases) : Item → List Node × Aliases
  | .definition extent specifier declarator old bodyExtent locals =>
    let declared := declarator.declare aliases (oldStyleTypes aliases old)
      (specifier.type aliases) []
    let body : Node :=
      { kind := .body, extent := bodyExtent,
        children := locals.flatMap (·.functionNodes aliases) }
    ((declared.functionNode extent [body]).toList, aliases)
  | .declaration d => (d.functionNodes aliases, aliases)
  | .typeDefinition d => aliasNodes aliases (d.specifier.type aliases) d.extent d.declarators
  | .conditional extent items =>
    let inner := outlineItems aliases items
    ([{ kind := .conditional, extent := extent, children := inner.1 }], inner.2)
  | .linkage extent items =>
    let inner := outlineItems aliases items
    ([{ kind := .unexposed, extent := extent, children := inner.1 }], inner.2)
  | .braces extent items =>
    let inner := outlineItems aliases items
    ([{ kind := .unexposed, extent := extent, children := inner.1 }], inner.2)

def outlineItems (aliases : Aliases) : List Item → List Node × Aliases
  | [] => ([], aliases)
  | item :: rest =>
    let first := item.outline aliases
    let more := outlineItems first.2 rest
    (first.1 ++ more.1, more.2)

end

end Quadrature.C
