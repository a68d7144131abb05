import Quadrature.Text.Blank

/-!
Places in a source text. Lines and columns count from one, columns in bytes; the end of an extent
is exclusive.
-/

namespace Quadrature.C

structure Position where
  line : Nat
  column : Nat
  deriving DecidableEq, Repr, Inhabited

def Position.start : Position := ⟨1, 1⟩

def Position.next (p : Position) (c : Char) : Position :=
  if c = '\n' then ⟨p.line + 1, 1⟩ else ⟨p.line, p.column + c.utf8Size⟩

def Position.after (p : Position) (cs : List Char) : Position :=
  cs.foldl Position.next p

structure Extent where
  startLine : Nat
  startColumn : Nat
  endLine : Nat
  endColumn : Nat
  deriving DecidableEq, Repr, Inhabited

def Extent.between (p q : Position) : Extent := ⟨p.line, p.column, q.line, q.column⟩

def Extent.first (e : Extent) : Position := ⟨e.startLine, e.startColumn⟩

def Extent.last (e : Extent) : Position := ⟨e.endLine, e.endColumn⟩

def Extent.upTo (e f : Extent) : Extent := ⟨e.startLine, e.startColumn, f.endLine, f.endColumn⟩

/-- The text of an extent: whole lines from the start line, the end line up to the end column, and
no blanks at either end. The start column plays no part. -/
def Extent.slice (e : Extent) (source : String) : String :=
  let kept := (Text.lines source.toList).drop (e.startLine - 1)
  let whole := e.endLine - max e.startLine 1
  let cut := match kept.drop whole with
    | [] => []
    | l :: _ => Text.takeBytes (e.endColumn - 1) l
  Text.trim (String.ofList ((kept.take whole).flatten ++ cut))

end Quadrature.C
