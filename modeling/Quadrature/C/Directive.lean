import Quadrature.C.Lexeme

/-!
The lines of preprocessor directives. Each function measures how far its part of a directive reaches
from the start of a text, and is `none` where the directive is not well formed.
-/

namespace Quadrature.C.Directive

open Lexeme

def name (cs : List Char) : Option (String × Nat) :=
  let gap := count (fun c => c == ' ' || c == '\t') cs
  let word := (cs.drop gap).takeWhile fun c => c.isAlphanum || c == '_'
  match word with
  | [] => none
  | c :: _ => if c == '_' then none else some (String.ofList word, gap + word.length)

def lineEnd : List Char → Nat
  | '\n' :: _ => 1
  | '\r' :: '\n' :: _ => 2
  | _ => 0

def separators : Nat → List Char → Nat
  | 0, _ => 0
  | fuel + 1, cs =>
    match count isSpace cs + lineJoin (cs.dropWhile isSpace) with
    | 0 => 0
    | n => n + separators fuel (cs.drop n)

/-- The end of a line after its last word: comments and a line end right behind the word or the last
comment. -/
def lineTail : Nat → List Char → Option Nat
  | 0, _ => none
  | fuel + 1, cs =>
    match lineEnd cs with
    | n + 1 => some (n + 1)
    | 0 =>
      let gap := separators cs.length cs
      match comment (cs.drop gap) with
      | some n => (lineTail fuel (cs.drop (gap + n))).map (· + (gap + n))
      | none => none

/-- The rest of a directive's free text; `skip` characters are taken along. It ends before a line
end that no backslash joins and before a comment with a closing mark. A slash takes the next
character along. -/
def freeText (skip : Nat) : List Char → Nat
  | [] => 0
  | c :: cs =>
    match skip with
    | n + 1 => 1 + freeText n cs
    | 0 =>
      if c = '\n' then 0
      else if c = '/' then
        match cs.head? with
        | none => 0
        | some d => if d = '*' then 0 else 1 + freeText 1 cs
      else 1 + freeText (lineJoin (c :: cs) - 1) cs

/-- Free text up to the end of its line. Without any, the line end stands right behind what comes
before; blanks in between reach to the next word, wherever it stands. -/
def freeLine : Nat → List Char → Option Nat
  | 0, _ => none
  | fuel + 1, cs =>
    match lineEnd cs with
    | n + 1 => some (n + 1)
    | 0 =>
      let gap := separators cs.length cs
      let rest := cs.drop gap
      match comment rest with
      | some n => (freeLine fuel (rest.drop n)).map (· + (gap + n))
      | none =>
        match rest with
        | [] => none
        | _ :: tail =>
          let text := 1 + freeText 0 tail
          (lineTail rest.length (rest.drop text)).map (· + (gap + text))

def other (cs : List Char) : Option Nat :=
  freeLine (cs.length + 1) cs

def named (cs : List Char) : Option Nat :=
  let gap := skip cs
  match identifier (cs.drop gap) with
  | 0 => none
  | n => some (gap + n)

def parameter (cs : List Char) : Nat :=
  if "...".toList.isPrefixOf cs then 3 else identifier cs

def parameters (first : Bool) : Nat → List Char → Option Nat
  | 0, _ => none
  | fuel + 1, cs =>
    let gap := skip cs
    match cs.drop gap with
    | [] => none
    | c :: rest =>
      if c = ')' && first then some (gap + 1)
      else match parameter (c :: rest) with
        | 0 => none
        | n =>
          let back := skip ((c :: rest).drop n)
          match (c :: rest).drop (n + back) with
          | ')' :: _ => some (gap + n + back + 1)
          | ',' :: rest' => (parameters false fuel rest').map (· + (gap + n + back + 1))
          | _ => none

def definition (cs : List Char) : Option Nat :=
  match named cs with
  | none => none
  | some n =>
    match cs.drop n with
    | '(' :: rest =>
      match parameters true (rest.length + 1) rest with
      | some m => (other (rest.drop m)).map (· + (n + 1 + m))
      | none => none
    | rest => (other rest).map (· + n)

def systemFile : List Char → Option Nat
  | '<' :: rest =>
    let n := count (fun c => c != '>' && c != '\n') rest
    if (rest.drop n).head? == some '>' then some (n + 2) else none
  | _ => none

def inclusion (cs : List Char) : Option Nat :=
  let gap := skip cs
  let rest := cs.drop gap
  let file := (stringLiteral rest).or ((systemFile rest).or
    (match identifier rest with
      | 0 => none
      | n => some n))
  match file with
  | some n => (lineTail (rest.length + 1) (rest.drop n)).map (· + (gap + n))
  | none => none

def lineBlanks : Nat → List Char → Nat
  | 0, _ => 0
  | fuel + 1, cs =>
    let inline := fun c => isSpace c && c != '\n'
    match count inline cs + lineJoin (cs.dropWhile inline) with
    | 0 =>
      match comment cs with
      | some n => n + lineBlanks fuel (cs.drop n)
      | none => 0
    | n => n + lineBlanks fuel (cs.drop n)

def definedTest (cs : List Char) : Option Nat :=
  let gap := skip cs
  match cs.drop gap with
  | '(' :: rest =>
    match named rest with
    | some n =>
      let back := skip (rest.drop n)
      if (rest.drop (n + back)).head? == some ')' then some (gap + 1 + n + back + 1) else none
    | none => none
  | _ => named cs

def binaryOperators : List String :=
  ["||", "&&", "==", "!=", ">=", "<=", "<<", ">>", "+", "-", "*", "/", "%", "|", "^", "&", ">", "<"]

inductive Want where
  | operand
  | operation (callable : Bool)
  deriving DecidableEq, Repr

/-- The condition of an `#if` up to its line end. The stack holds the open parentheses, `true` for
those of a call. A line end counts only where the condition may end. -/
def condition : Nat → Want → List Bool → List Char → Option Nat
  | 0, _, _, _ => none
  | fuel + 1, want, stack, cs =>
    let gap := if want ≠ .operand ∧ stack.isEmpty then lineBlanks cs.length cs else skip cs
    let rest := cs.drop gap
    let go := fun n want' stack' =>
      (condition fuel want' stack' (rest.drop n)).map (· + (gap + n))
    match want, rest with
    | _, [] => none
    | .operand, c :: _ =>
      if c = '(' then go 1 .operand (false :: stack)
      else if c = '!' || c = '~' || c = '-' || c = '+' then go 1 .operand stack
      else match read rest with
        | some (.number, n) => go n (.operation false) stack
        | some (.character, n) => go n (.operation false) stack
        | some (.word, n) =>
          if String.ofList (rest.take n) == "defined" then
            match definedTest (rest.drop n) with
            | some m => go (n + m) (.operation false) stack
            | none => none
          else go n (.operation true) stack
        | _ => none
    | .operation callable, c :: tail =>
      if c = '\n' && stack.isEmpty then some (gap + 1)
      else if c = '(' && callable then
        let inner := skip tail
        if (tail.drop inner).head? == some ')' then go (inner + 2) (.operation false) stack
        else go 1 .operand (true :: stack)
      else if c = ')' then
        match stack with
        | [] => none
        | _ :: stack' => go 1 (.operation false) stack'
      else if c = ',' then
        match stack with
        | true :: _ => go 1 .operand stack
        | _ => none
      else match binaryOperators.find? (fun o => o.toList.isPrefixOf rest) with
        | some o => go o.length .operand stack
        | none => none

def test (cs : List Char) : Option Nat :=
  condition (cs.length + 1) .operand [] cs

end Quadrature.C.Directive
