import Quadrature.Json.Reader
import Quadrature.Text.Blank

/-!
The pieces of a template's source: plain text, tags and comments. A tag is cut into symbols. A hyphen
at either end of a tag takes away the blanks of the text on that side.
-/

namespace Quadrature.Template

inductive Symbol where
  | word (text : String)
  | number (value : Json)
  | quote (text : String)
  | mark (text : String)
deriving Repr

inductive TagKind where
  | print
  | control
  | comment
deriving DecidableEq, Repr

inductive Piece where
  | text (content : List Char)
  | tag (kind : TagKind) (trimBefore trimAfter : Bool) (symbols : List Symbol)
deriving Repr

def isWordStart (c : Char) : Bool := ('a' ≤ c && c ≤ 'z') || ('A' ≤ c && c ≤ 'Z') || c == '_'

def isWordChar (c : Char) : Bool := isWordStart c || ('0' ≤ c && c ≤ '9')

def isGap (c : Char) : Bool := c == ' ' || c == '\t' || c == '\n' || c == '\r'

def untilQuote (q : Char) : List Char → Option (List Char × List Char)
  | [] => none
  | c :: cs => if c = q then some ([], cs) else (untilQuote q cs).map fun (s, r) => (c :: s, r)

def longMarks : List (Char × Char) := [('=', '='), ('!', '='), ('>', '='), ('<', '=')]

def shortMarks : List Char := ['.', '|', '(', ')', '=', ',', '>', '<']

def symbol? (cs : List Char) : Option (Symbol × List Char) :=
  match cs with
  | [] => none
  | c :: r =>
    if isWordStart c then
      let (w, r) := cs.span isWordChar
      some (.word (String.ofList w), r)
    else if c.isDigit || (c = '-' && (r.head?.map Char.isDigit).getD false) then
      (Json.number? cs).map fun (v, r) => (.number v, r)
    else if c = '"' || c = '\'' || c = Char.ofNat 96 then
      (untilQuote c r).map fun (s, r) => (.quote (String.ofList s), r)
    else
      match r with
      | d :: r' =>
        if longMarks.contains (c, d) then some (.mark (String.ofList [c, d]), r')
        else if shortMarks.contains c then some (.mark (String.ofList [c]), r)
        else none
      | [] => if shortMarks.contains c then some (.mark (String.ofList [c]), r) else none

def TagKind.closer : TagKind → Char
  | .print => '\x7d'
  | .control => '%'
  | .comment => '#'

def tagEnd? (kind : TagKind) (cs : List Char) : Option (Bool × List Char) :=
  let (hyphen, r) := match cs with
    | '-' :: r => (true, r)
    | r => (false, r)
  match r with
  | c :: '\x7d' :: rest => if c = kind.closer then some (hyphen, rest) else none
  | _ => none

def symbols? (kind : TagKind) : Nat → List Char → Option (List Symbol × Bool × List Char)
  | 0, _ => none
  | fuel + 1, cs =>
    let cs := cs.dropWhile isGap
    match tagEnd? kind cs with
    | some (hyphen, rest) => some ([], hyphen, rest)
    | none =>
      match symbol? cs with
      | none => none
      | some (s, rest) => (symbols? kind fuel rest).map fun (ss, h, r) => (s :: ss, h, r)

def afterComment : List Char → Option (Bool × List Char)
  | [] => none
  | c :: cs =>
    match tagEnd? .comment (c :: cs) with
    | some out => some out
    | none => afterComment cs

def opening? : List Char → Option (TagKind × Bool × List Char)
  | '\x7b' :: c :: r =>
    let kind? := if c = '\x7b' then some TagKind.print
      else if c = '%' then some .control
      else if c = '#' then some .comment
      else none
    kind?.map fun kind =>
      match r with
      | '-' :: r => (kind, true, r)
      | r => (kind, false, r)
  | _ => none

def addChar (c : Char) : List Piece → List Piece
  | .text s :: ps => .text (c :: s) :: ps
  | ps => .text [c] :: ps

def pieces? : Nat → List Char → Option (List Piece)
  | _, [] => some []
  | 0, _ => none
  | fuel + 1, c :: cs =>
    match opening? (c :: cs) with
    | none => (pieces? fuel cs).map (addChar c)
    | some (.comment, before, r) =>
      match afterComment r with
      | none => none
      | some (after, r) => (pieces? fuel r).map (.tag .comment before after [] :: ·)
    | some (kind, before, r) =>
      match symbols? kind (r.length + 1) r with
      | none => none
      | some (ss, after, r) => (pieces? fuel r).map (.tag kind before after ss :: ·)

/-- Takes away the blanks next to hyphens; the flag tells of one just before. -/
def trimPieces : Bool → List Piece → List Piece
  | _, [] => []
  | before, .text s :: ps =>
    let s := if before then s.dropWhile Text.isBlank else s
    let s := match ps with
      | .tag _ true _ _ :: _ => Text.dropEndWhile Text.isBlank s
      | _ => s
    .text s :: trimPieces false ps
  | _, .tag k b a ss :: ps => .tag k b a ss :: trimPieces a ps

end Quadrature.Template
