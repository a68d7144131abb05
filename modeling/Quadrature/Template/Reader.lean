import Quadrature.Template.Basic
import Quadrature.Template.Lexer

/-!
Reading templates from their source. Of the operators in an expression a filter binds tightest, then
comparison, `not`, `and` and `or`.
-/

namespace Quadrature.Template

def reserved : List String :=
  ["not", "and", "or", "in", "is", "true", "false", "True", "False", "if", "elif", "else", "endif",
    "for", "endfor"]

def pathSteps : List Symbol → List String × List Symbol
  | .mark "." :: .word w :: r => let (ss, r) := pathSteps r; (w :: ss, r)
  | r => ([], r)

def comparison? : String → Option Comparison
  | "==" => some .equal
  | "!=" => some .unequal
  | "<" => some .less
  | "<=" => some .atMost
  | ">" => some .greater
  | ">=" => some .atLeast
  | _ => none

def applyFilter (name : String) (arguments : List (String × Expr)) (e : Expr) : Expr :=
  match name with
  | "length" => .length e
  | "join" => .join ((arguments.lookup "sep").getD (.literal (.text ""))) e
  | _ => .unknown name

def applyFunction (name : String) (arguments : List (String × Expr)) : Expr :=
  match name, arguments.lookup "end" with
  | "range", some limit => .range ((arguments.lookup "start").getD (.literal (.integer 0))) limit
  | _, _ => .unknown name

mutual

def atom? : Nat → List Symbol → Option (Expr × List Symbol)
  | 0, _ => none
  | fuel + 1, ss =>
    match ss with
    | .number v :: r => some (.literal v, r)
    | .quote s :: r => some (.literal (.text s), r)
    | .mark "(" :: r =>
      match disjunction? fuel r with
      | some (e, .mark ")" :: r) => some (e, r)
      | _ => none
    | .word w :: .mark "(" :: r =>
      match arguments? fuel r with
      | some (args, r) => some (applyFunction w args, r)
      | none => none
    | .word w :: r =>
      if w = "true" || w = "True" then some (.literal (.flag true), r)
      else if w = "false" || w = "False" then some (.literal (.flag false), r)
      else if reserved.contains w then none
      else let (steps, r) := pathSteps r; some (.path (w :: steps), r)
    | _ => none

def arguments? : Nat → List Symbol → Option (List (String × Expr) × List Symbol)
  | 0, _ => none
  | _ + 1, .mark ")" :: r => some ([], r)
  | fuel + 1, .word w :: .mark "=" :: r =>
    match disjunction? fuel r with
    | some (e, .mark "," :: r) => (arguments? fuel r).map fun (as, r) => ((w, e) :: as, r)
    | some (e, .mark ")" :: r) => some ([(w, e)], r)
    | _ => none
  | _ + 1, _ => none

def filters? : Nat → Expr → List Symbol → Option (Expr × List Symbol)
  | 0, _, _ => none
  | fuel + 1, e, .mark "|" :: .word w :: .mark "(" :: r =>
    match arguments? fuel r with
    | some (args, r) => filters? fuel (applyFilter w args e) r
    | none => none
  | fuel + 1, e, .mark "|" :: .word w :: r => filters? fuel (applyFilter w [] e) r
  | _ + 1, _, .mark "|" :: _ => none
  | _ + 1, e, r => some (e, r)

def filtered? : Nat → List Symbol → Option (Expr × List Symbol)
  | 0, _ => none
  | fuel + 1, ss =>
    match atom? fuel ss with
    | some (e, r) => filters? fuel e r
    | none => none

def relation? : Nat → List Symbol → Option (Expr × List Symbol)
  | 0, _ => none
  | fuel + 1, ss =>
    match filtered? fuel ss with
    | some (l, .mark m :: r) =>
      match comparison? m with
      | some op => (filtered? fuel r).map fun (e, r) => (.compare op l e, r)
      | none => some (l, .mark m :: r)
    | out => out

def negation? : Nat → List Symbol → Option (Expr × List Symbol)
  | 0, _ => none
  | fuel + 1, .word "not" :: r => (negation? fuel r).map fun (e, r) => (.negation e, r)
  | fuel + 1, ss => relation? fuel ss

def conjunction? : Nat → List Symbol → Option (Expr × List Symbol)
  | 0, _ => none
  | fuel + 1, ss =>
    match negation? fuel ss with
    | some (l, .word "and" :: r) => (conjunction? fuel r).map fun (e, r) => (.both l e, r)
    | out => out

def disjunction? : Nat → List Symbol → Option (Expr × List Symbol)
  | 0, _ => none
  | fuel + 1, ss =>
    match conjunction? fuel ss with
    | some (l, .word "or" :: r) => (disjunction? fuel r).map fun (e, r) => (.either l e, r)
    | out => out

end

def expression? (ss : List Symbol) : Option Expr :=
  match disjunction? (8 * ss.length + 8) ss with
  | some (e, []) => some e
  | _ => none

inductive Step where
  | text (content : String)
  | value (expr : Expr)
  | openIf (condition : Expr)
  | elseIf (condition : Expr)
  | otherwise
  | closeIf
  | openFor (name : String) (source : Expr)
  | closeFor
deriving Repr

def control? : List Symbol → Option Step
  | .word "if" :: r => (expression? r).map .openIf
  | .word "elif" :: r => (expression? r).map .elseIf
  | [.word "else"] => some .otherwise
  | [.word "endif"] => some .closeIf
  | .word "for" :: .word x :: .word "in" :: r =>
    if reserved.contains x then none else (expression? r).map (.openFor x)
  | [.word "endfor"] => some .closeFor
  | _ => none

def steps? : List Piece → Option (List Step)
  | [] => some []
  | .text s :: ps => (steps? ps).map (.text (String.ofList s) :: ·)
  | .tag .comment _ _ _ :: ps => steps? ps
  | .tag .print _ _ ss :: ps =>
    (expression? ss).bind fun e => (steps? ps).map (.value e :: ·)
  | .tag .control _ _ ss :: ps =>
    (control? ss).bind fun c => (steps? ps).map (c :: ·)

mutual

def body? : Nat → List Step → Option (List Segment × List Step)
  | 0, _ => none
  | fuel + 1, steps =>
    match steps with
    | .text s :: r => (body? fuel r).map fun (ss, r) => (.text s :: ss, r)
    | .value e :: r => (body? fuel r).map fun (ss, r) => (.value e :: ss, r)
    | .openIf c :: r =>
      match branches? fuel c r with
      | some (s, r) => (body? fuel r).map fun (ss, r) => (s :: ss, r)
      | none => none
    | .openFor x e :: r =>
      match body? fuel r with
      | some (inner, .closeFor :: r) =>
        (body? fuel r).map fun (ss, r) => (.each x e inner [] :: ss, r)
      | some (inner, .otherwise :: r) =>
        match body? fuel r with
        | some (other, .closeFor :: r) =>
          (body? fuel r).map fun (ss, r) => (.each x e inner other :: ss, r)
        | _ => none
      | _ => none
    | r => some ([], r)

def branches? : Nat → Expr → List Step → Option (Segment × List Step)
  | 0, _, _ => none
  | fuel + 1, c, steps =>
    match body? fuel steps with
    | some (yes, .closeIf :: r) => some (.choose c yes [], r)
    | some (yes, .elseIf d :: r) =>
      (branches? fuel d r).map fun (s, r) => (.choose c yes [s], r)
    | some (yes, .otherwise :: r) =>
      match body? fuel r with
      | some (no, .closeIf :: r) => some (.choose c yes no, r)
      | _ => none
    | _ => none

end

def read? (source : String) : Option Template :=
  let cs := source.toList
  (pieces? (cs.length + 1) cs).bind fun ps =>
    (steps? (trimPieces false ps)).bind fun steps =>
      match body? (2 * steps.length + 2) steps with
      | some (t, []) => some t
      | _ => none

end Quadrature.Template
