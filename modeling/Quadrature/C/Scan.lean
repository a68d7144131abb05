import Quadrature.C.Group
import Quadrature.C.Directive

/-!
From a source text to its pieces. The scanner keeps the groups that are still open; a group becomes
a piece of the group around it when it closes.
-/

namespace Quadrature.C.Scan

/-- What opened a group. A branch of a conditional may have alternatives after it, and is chained
when it is an alternative itself. -/
inductive Opener where
  | unit | round | square | curly
  | branch (alternatives chained : Bool)
  deriving DecidableEq, Repr

structure Frame where
  opener : Opener
  lead : String
  text : String
  start : Position
  stop : Position
  pieces : List Piece

def Frame.push (f : Frame) (p : Piece) : Frame :=
  { f with
    text := f.text ++ p.lead ++ p.text
    stop := p.extent.last
    pieces := p :: f.pieces }

def Frame.close (f : Frame) (token : Token) (closing : String) (stop : Position) : Piece where
  lead := f.lead
  text := f.text ++ closing
  extent := .between f.start stop
  token := token

def Frame.closeBranch (f : Frame) (closing : String) (stop : Position) : Piece :=
  f.close (.branch (.ofPieces f.pieces.reverse)) closing stop

structure State where
  position : Position
  first : Option Position
  blank : String
  frame : Frame
  outer : List Frame

def State.initial (p : Position) : State where
  position := p
  first := none
  blank := ""
  frame := ⟨.unit, "", "", p, p, []⟩
  outer := []

def State.pass (s : State) (cs : List Char) : State :=
  { s with
    position := s.position.after cs
    blank := s.blank ++ String.ofList cs }

def State.comment (s : State) (cs : List Char) : State :=
  { s.pass cs with first := s.first.or (some s.position) }

def State.take (s : State) (token : Token) (cs : List Char) : State :=
  let stop := s.position.after cs
  { s with
    position := stop
    first := s.first.or (some s.position)
    blank := ""
    frame := s.frame.push ⟨s.blank, String.ofList cs, .between s.position stop, token⟩ }

def State.enter (s : State) (opener : Opener) (cs : List Char) : State :=
  let stop := s.position.after cs
  { s with
    position := stop
    first := s.first.or (some s.position)
    blank := ""
    frame := ⟨opener, s.blank, String.ofList cs, s.position, stop, []⟩
    outer := s.frame :: s.outer }

def State.leave (s : State) (token : Token) (cs : List Char) : Option State :=
  match s.outer with
  | [] => none
  | parent :: outer =>
    let stop := s.position.after cs
    let piece := s.frame.close token (s.blank ++ String.ofList cs) stop
    some { s with
      position := stop
      blank := ""
      frame := parent.push piece
      outer := outer }

def State.closeBracket (s : State) (c : Char) : Option State :=
  let pieces := s.frame.pieces.reverse
  match c, s.frame.opener with
  | ')', .round => s.leave (.round (.ofPieces pieces)) [c]
  | ']', .square => s.leave (.square (.ofPieces pieces s.blank)) [c]
  | '}', .curly => s.leave (.curly (.ofPieces pieces)) [c]
  | _, _ => none

def closeChained (f : Frame) : List Frame → Frame × List Frame
  | [] => (f, [])
  | parent :: outer =>
    match f.opener with
    | .branch _ true => closeChained (parent.push (f.closeBranch "" f.stop)) outer
    | _ => (f, parent :: outer)

def State.closeConditional (s : State) (cs : List Char) : Option State :=
  let (frame, outer) := closeChained s.frame s.outer
  State.leave { s with frame := frame, outer := outer }
    (.branch (.ofPieces frame.pieces.reverse)) cs

def State.allowsAlternative (s : State) : Bool :=
  match s.frame.opener with
  | .branch alternatives _ => alternatives
  | _ => false

def State.inBranch (s : State) : Bool :=
  match s.frame.opener with
  | .branch _ _ => true
  | _ => false

def measured (cs : List Char) (act : List Char → Option State) (length : Option Nat) :
    Option (State × List Char) :=
  match length with
  | some n => (act (cs.take n)).map fun s' => (s', cs.drop n)
  | none => none

/-- A directive. Directives that close or continue a conditional count as such only right inside
one; anywhere else they are directives without a form of their own. -/
def directive (s : State) (cs : List Char) : Option (State × List Char) :=
  match Directive.name (cs.drop 1) with
  | none => none
  | some (name, m) =>
    let rest := cs.drop (m + 1)
    let sized := fun (n : Option Nat) => n.map (· + (m + 1))
    let enter := fun opener text => some (s.enter opener text)
    let take := fun text => some (s.take .directive text)
    match name with
    | "include" => measured cs take (sized (Directive.inclusion rest))
    | "define" => measured cs take (sized (Directive.definition rest))
    | "if" => measured cs (enter (.branch true false)) (sized (Directive.test rest))
    | "ifdef" | "ifndef" =>
      measured cs (enter (.branch true false)) (sized (Directive.named rest))
    | _ =>
      if name == "elif" && s.allowsAlternative then
        measured cs (enter (.branch true true)) (sized (Directive.test rest))
      else if (name == "elifdef" || name == "elifndef") && s.allowsAlternative then
        measured cs (enter (.branch true true)) (sized (Directive.named rest))
      else if name == "else" && s.allowsAlternative then
        measured cs (enter (.branch false true)) (some (m + 1))
      else if name == "endif" && s.inBranch then
        measured cs s.closeConditional (some (m + 1))
      else measured cs take (sized (Directive.other rest))

def step (s : State) (cs : List Char) : Option (State × List Char) :=
  match cs with
  | [] => none
  | c :: rest =>
    if Lexeme.isSpace c then
      some (s.pass (cs.takeWhile Lexeme.isSpace), cs.dropWhile Lexeme.isSpace)
    else match Lexeme.lineJoin cs with
      | n + 1 => some (s.pass (cs.take (n + 1)), cs.drop (n + 1))
      | 0 =>
        match Lexeme.comment cs with
        | some n => some (s.comment (cs.take n), cs.drop n)
        | none =>
          match c with
          | '#' => directive s cs
          | '(' => some (s.enter .round [c], rest)
          | '[' => some (s.enter .square [c], rest)
          | '{' => some (s.enter .curly [c], rest)
          | ')' | ']' | '}' => (s.closeBracket c).map fun s' => (s', rest)
          | _ =>
            match Lexeme.read cs with
            | some (sort, n) => some (s.take (.lexeme sort) (cs.take n), cs.drop n)
            | none => none

def run : Nat → State → List Char → Except Position State
  | _, s, [] => .ok s
  | 0, s, _ => .error s.position
  | fuel + 1, s, cs =>
    match step s cs with
    | some (s', rest) => run fuel s' rest
    | none => .error s.position

def start (cs : List Char) : State × List Char :=
  match cs with
  | c :: rest =>
    if c.toNat = 0xFEFF then (.initial (Position.start.next c), rest)
    else (.initial .start, cs)
  | [] => (.initial .start, [])

structure Scanned where
  pieces : List Piece
  extent : Extent

def text (cs : List Char) : Except Position Scanned :=
  let (s, rest) := start cs
  match run rest.length s rest with
  | .error p => .error p
  | .ok s' =>
    match s'.outer with
    | [] => .ok ⟨s'.frame.pieces.reverse, .between (s'.first.getD s'.position) s'.position⟩
    | _ => .error s'.frame.start

end Quadrature.C.Scan

namespace Quadrature.C

structure SourceUnit where
  items : List Item
  extent : Extent
  deriving Repr

def SourceUnit.read (source : String) : Except Position SourceUnit :=
  match Scan.text source.toList with
  | .error p => .error p
  | .ok scanned =>
    (itemsReading true scanned.pieces.length scanned.pieces).map fun items =>
      ⟨items, scanned.extent⟩

end Quadrature.C
