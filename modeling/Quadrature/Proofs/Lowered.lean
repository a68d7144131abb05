import Quadrature.C.Group
import Mathlib.Data.List.Basic

/-! Source moved down by some lines. What is read from moved pieces is what was read before, moved as
well; a branch behind them changes nothing, since no reading goes past it. -/

namespace Quadrature.C

def Position.lower (n : Nat) (p : Position) : Position := ⟨p.line + n, p.column⟩

def Extent.lower (n : Nat) (e : Extent) : Extent := ⟨e.startLine + n, e.startColumn, e.endLine + n, e.endColumn⟩

def Ranked.map {α β : Type} (f : α → β) (r : Ranked α) : Ranked β := ⟨r.rank, f r.value⟩

mutual

def Declarator.lower (n : Nat) : Declarator → Declarator
  | .absent => .absent
  | .hidden => .hidden
  | .name text => .name text
  | .pointer d => .pointer (d.lower n)
  | .array sized d => .array sized (d.lower n)
  | .function ps d => .function (ps.lower n) (d.lower n)
  | .parens d => .parens (d.lower n)
  | .initialised d => .initialised (d.lower n)

def Parameters.lower (n : Nat) : Parameters → Parameters
  | .none => .none
  | .name text e rest => .name text (e.lower n) (rest.lower n)
  | .variadic rest => .variadic (rest.lower n)
  | .typed s d e rest => .typed s (d.lower n) (e.lower n) (rest.lower n)

end

def Declaration.lower (n : Nat) (d : Declaration) : Declaration :=
  ⟨d.extent.lower n, d.specifier, d.declarators.map (Declarator.lower n)⟩

mutual

def Item.lower (n : Nat) : Item → Item
  | .definition e s d old body locals =>
    .definition (e.lower n) s (d.lower n) (old.map (Declaration.lower n)) (body.lower n)
      (locals.map (Declaration.lower n))
  | .declaration d => .declaration (d.lower n)
  | .typeDefinition d => .typeDefinition (d.lower n)
  | .conditional e items => .conditional (e.lower n) (lowerItems n items)
  | .linkage e items => .linkage (e.lower n) (lowerItems n items)
  | .braces e items => .braces (e.lower n) (lowerItems n items)

def lowerItems (n : Nat) : List Item → List Item
  | [] => []
  | i :: is => i.lower n :: lowerItems n is

end

def Round.lower (n : Nat) (r : Round) : Round :=
  { r with
    parameters := r.parameters.map (Ranked.map (Parameters.lower n))
    names := r.names.map (Parameters.lower n)
    declarator := r.declarator.map (Ranked.map (Declarator.lower n))
    typeDeclarator := r.typeDeclarator.map (Ranked.map (Declarator.lower n))
    abstractDeclarator := r.abstractDeclarator.map (Ranked.map (Declarator.lower n)) }

def Curly.lower (n : Nat) (c : Curly) : Curly := { c with items := c.items.map (lowerItems n) }

def Branch.lower (n : Nat) (b : Branch) : Branch := { b with items := b.items.map (lowerItems n) }

def Token.lower (n : Nat) : Token → Token
  | .lexeme sort => .lexeme sort
  | .round r => .round (r.lower n)
  | .square s => .square s
  | .curly c => .curly (c.lower n)
  | .branch b => .branch (b.lower n)
  | .directive => .directive

def Piece.lower (n : Nat) (p : Piece) : Piece := ⟨p.lead, p.text, p.extent.lower n, p.token.lower n⟩

/-- Nothing, or a single branch. -/
inductive Quiet : List Piece → Prop
  | nil : Quiet []
  | branch (lead text : String) (extent : Extent) (b : Branch) : Quiet [⟨lead, text, extent, .branch b⟩]

def lowerOnto (n : Nat) (t ps : List Piece) : List Piece := ps.map (Piece.lower n) ++ t

variable {n : Nat} {p : Piece} {t ps : List Piece}

/-! ## Pieces -/

@[simp] lemma lowerOnto_nil : lowerOnto n t [] = t := rfl

@[simp] lemma lowerOnto_cons : lowerOnto n t (p :: ps) = p.lower n :: lowerOnto n t ps := rfl

lemma lowerOnto_of_nil : lowerOnto n [] ps = ps.map (Piece.lower n) := List.append_nil _

@[simp] lemma length_lowerOnto : (lowerOnto n t ps).length = ps.length + t.length := by
  simp [lowerOnto]

lemma lowerItems_eq_map (items : List Item) : lowerItems n items = items.map (Item.lower n) := by
  induction items with
  | nil => rfl
  | cons i items ih => rw [lowerItems, ih, List.map_cons]

namespace Piece

@[simp] lemma text_lower : (p.lower n).text = p.text := rfl

@[simp] lemma lead_lower : (p.lower n).lead = p.lead := rfl

@[simp] lemma extent_lower : (p.lower n).extent = p.extent.lower n := rfl

@[simp] lemma token_lower : (p.lower n).token = p.token.lower n := rfl

@[simp] lemma word?_lower : (p.lower n).word? = p.word? := by
  obtain ⟨lead, text, extent, token⟩ := p
  cases token <;> rfl

@[simp] lemma isWord_lower (w : String) : (p.lower n).isWord w = p.isWord w := by
  simp [isWord]

@[simp] lemma isAny_lower (ws : List String) : (p.lower n).isAny ws = p.isAny ws := by
  simp [isAny]

@[simp] lemma isMark_lower (m : String) : (p.lower n).isMark m = p.isMark m := by
  obtain ⟨lead, text, extent, token⟩ := p
  cases token <;> rfl

@[simp] lemma isAnyMark_lower (ms : List String) : (p.lower n).isAnyMark ms = p.isAnyMark ms := by
  obtain ⟨lead, text, extent, token⟩ := p
  cases token <;> rfl

@[simp] lemma isString_lower : (p.lower n).isString = p.isString := by
  obtain ⟨lead, text, extent, token⟩ := p
  cases token <;> rfl

@[simp] lemma round?_lower : (p.lower n).round? = p.round?.map (Round.lower n) := by
  obtain ⟨lead, text, extent, token⟩ := p
  cases token <;> rfl

@[simp] lemma square?_lower : (p.lower n).square? = p.square? := by
  obtain ⟨lead, text, extent, token⟩ := p
  cases token <;> rfl

@[simp] lemma curly?_lower : (p.lower n).curly? = p.curly?.map (Curly.lower n) := by
  obtain ⟨lead, text, extent, token⟩ := p
  cases token <;> rfl

lemma isRound_lower {reads : Round → Bool} (h : ∀ r, reads (r.lower n) = reads r) :
    (p.lower n).isRound reads = p.isRound reads := by
  simp [isRound, Option.any_map, h]

lemma isCurly_lower {reads : Curly → Bool} (h : ∀ c, reads (c.lower n) = reads c) :
    (p.lower n).isCurly reads = p.isCurly reads := by
  simp [isCurly, Option.any_map, h]

@[simp] lemma isSquare_lower (reads : Square → Bool) : (p.lower n).isSquare reads = p.isSquare reads := by
  simp [isSquare]

@[simp] lemma isRound_attributeList_lower : (p.lower n).isRound Round.attributeList = p.isRound Round.attributeList :=
  isRound_lower fun _ => rfl

@[simp] lemma isRound_alignment_lower : (p.lower n).isRound Round.alignment = p.isRound Round.alignment :=
  isRound_lower fun _ => rfl

@[simp] lemma isRound_word_lower : (p.lower n).isRound Round.word = p.isRound Round.word :=
  isRound_lower fun _ => rfl

@[simp] lemma isRound_assembly_lower : (p.lower n).isRound Round.assembly = p.isRound Round.assembly :=
  isRound_lower fun _ => rfl

@[simp] lemma isRound_arguments_lower : (p.lower n).isRound Round.arguments = p.isRound Round.arguments :=
  isRound_lower fun _ => rfl

@[simp] lemma isRound_selection_lower : (p.lower n).isRound Round.selection = p.isRound Round.selection :=
  isRound_lower fun _ => rfl

@[simp] lemma isRound_member_lower : (p.lower n).isRound Round.member = p.isRound Round.member :=
  isRound_lower fun _ => rfl

@[simp] lemma isRound_expression_lower : (p.lower n).isRound Round.expression = p.isRound Round.expression :=
  isRound_lower fun _ => rfl

@[simp] lemma isRound_loop_lower : (p.lower n).isRound Round.loop = p.isRound Round.loop :=
  isRound_lower fun _ => rfl

@[simp] lemma isRound_typeName_lower : (p.lower n).isRound (·.typeName.isSome) = p.isRound (·.typeName.isSome) :=
  isRound_lower fun _ => rfl

@[simp] lemma isCurly_enumerators_lower : (p.lower n).isCurly Curly.enumerators = p.isCurly Curly.enumerators :=
  isCurly_lower fun _ => rfl

@[simp] lemma isCurly_initializer_lower : (p.lower n).isCurly Curly.initializer = p.isCurly Curly.initializer :=
  isCurly_lower fun _ => rfl

@[simp] lemma isCurly_items_lower : (p.lower n).isCurly (·.items.isSome) = p.isCurly (·.items.isSome) :=
  isCurly_lower fun _ => by simp [Curly.lower]

lemma source_lower (ps : List Piece) : source (ps.map (lower n)) = source ps := by
  cases ps with
  | nil => rfl
  | cons p ps => simp [source, Function.comp_def]

section Branches

variable (lead text : String) (extent : Extent) (b : Branch)

@[simp] lemma word?_branch : (⟨lead, text, extent, .branch b⟩ : Piece).word? = none := rfl

@[simp] lemma isWord_branch (w : String) : (⟨lead, text, extent, .branch b⟩ : Piece).isWord w = false := rfl

@[simp] lemma isAny_branch (ws : List String) : (⟨lead, text, extent, .branch b⟩ : Piece).isAny ws = false := rfl

@[simp] lemma isMark_branch (m : String) : (⟨lead, text, extent, .branch b⟩ : Piece).isMark m = false := rfl

@[simp] lemma isAnyMark_branch (ms : List String) :
    (⟨lead, text, extent, .branch b⟩ : Piece).isAnyMark ms = false := rfl

@[simp] lemma isString_branch : (⟨lead, text, extent, .branch b⟩ : Piece).isString = false := rfl

@[simp] lemma round?_branch : (⟨lead, text, extent, .branch b⟩ : Piece).round? = none := rfl

@[simp] lemma square?_branch : (⟨lead, text, extent, .branch b⟩ : Piece).square? = none := rfl

@[simp] lemma curly?_branch : (⟨lead, text, extent, .branch b⟩ : Piece).curly? = none := rfl

@[simp] lemma isRound_branch (reads : Round → Bool) :
    (⟨lead, text, extent, .branch b⟩ : Piece).isRound reads = false := rfl

@[simp] lemma isSquare_branch (reads : Square → Bool) :
    (⟨lead, text, extent, .branch b⟩ : Piece).isSquare reads = false := rfl

@[simp] lemma isCurly_branch (reads : Curly → Bool) :
    (⟨lead, text, extent, .branch b⟩ : Piece).isCurly reads = false := rfl

end Branches

end Piece

end Quadrature.C
