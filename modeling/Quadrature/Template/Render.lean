import Quadrature.Json.Printer
import Quadrature.Template.Basic
import Quadrature.Text.Blank

/-!
Rendering of templates. Names are looked up in a scope, the innermost first; inside a repetition the
scope also has the current item and `loop`, which tells the item's index and whether it is the first
or the last. A name without a value is false as a condition and cannot be printed.
-/

namespace Quadrature.Template

abbrev Scope := List (String × Json)

def index? (s : String) : Option Nat :=
  if s ≠ "" && s.toList.all Char.isDigit then
    some (s.toList.foldl (fun n c => n * 10 + (c.toNat - 48)) 0)
  else none

def stepDown (v : Json) (step : String) : Option Json :=
  match v with
  | .list xs => (index? step).bind fun i => xs[i]?
  | _ => v.get? step

def follow : Json → List String → Option Json
  | v, [] => some v
  | v, s :: ss => (stepDown v s).bind fun w => follow w ss

def Scope.find? (scope : Scope) : List String → Option Json
  | [] => none
  | s :: ss => (scope.lookup s).bind fun v => follow v ss

/-- Holds of every value but null, false, zero and what is empty. -/
def truthy : Json → Bool
  | .null => false
  | .flag b => b
  | .integer n => n ≠ 0
  | .float b => b.significand ≠ 0
  | .text s => s ≠ ""
  | .list xs => !xs.isEmpty
  | .object ms => !ms.isEmpty

def ratio? : Json → Option (Int × Nat)
  | .integer n => some (n, 1)
  | .float b =>
    let m : Int := if b.negative then -(b.significand : Int) else b.significand
    some (m * (2 ^ b.exponent.toNat : Nat), 2 ^ (-b.exponent).toNat)
  | _ => none

mutual

def same : Json → Json → Bool
  | .null, .null => true
  | .flag a, .flag b => a == b
  | .integer a, .integer b => a == b
  | .float a, .float b => a == b
  | .text a, .text b => a == b
  | .list xs, .list ys => sameItems xs ys
  | .object xs, .object ys => sameMembers xs ys
  | _, _ => false

def sameItems : List Json → List Json → Bool
  | [], [] => true
  | x :: xs, y :: ys => same x y && sameItems xs ys
  | _, _ => false

def sameMembers : List (String × Json) → List (String × Json) → Bool
  | [], [] => true
  | (k, x) :: xs, (l, y) :: ys => k == l && same x y && sameMembers xs ys
  | _, _ => false

end

/-- Compares two values. Only numbers have an order; a number differs from what is none, and neither
comparison for equality holds between the two. -/
def compareValues (op : Comparison) (a b : Json) : Option Bool :=
  match ratio? a, ratio? b with
  | some (m, p), some (n, q) =>
    let l := m * q
    let r := n * p
    some (match op with
      | .equal => l = r
      | .unequal => l ≠ r
      | .less => l < r
      | .atMost => l ≤ r
      | .greater => r < l
      | .atLeast => r ≤ l)
  | none, none =>
    match op with
    | .equal => some (same a b)
    | .unequal => some (!same a b)
    | _ => none
  | _, _ =>
    match op with
    | .equal | .unequal => some false
    | _ => none

def lengthOf : Json → Option Nat
  | .list xs => some xs.length
  | .object ms => some ms.length
  | .text s => some s.length
  | _ => none

def printed : Json → String
  | .null => ""
  | .flag b => if b then "true" else "false"
  | .integer n => toString n
  | .float b => Json.fraction b
  | .text s => s
  | .list xs => "[" ++ Text.join ", " (printedItems xs) ++ "]"
  | .object _ => "[object]"
where
  printedItems : List Json → List String
    | [] => []
    | x :: xs => printed x :: printedItems xs

def joined (separator v : Json) : Option Json :=
  match separator, v with
  | .text s, .list xs => some (.text (Text.join s (xs.map printed)))
  | _, _ => none

def rangeOf (first limit : Json) : Option Json :=
  match first, limit with
  | .integer a, .integer b =>
    if 0 ≤ a ∧ a ≤ b then
      some (.list ((List.range (b - a).toNat).map fun (i : Nat) => .integer (a + (i : Int))))
    else none
  | _, _ => none

/-- The truth of an expression with that value. A path, or a filter on one, without a value is false;
everything else without a value is an error. -/
def truth : Expr → Option Json → Option Bool
  | .path _, v | .length _, v | .join _ _, v =>
    match v with
    | some v => some (truthy v)
    | none => some false
  | _, v => v.map truthy

def Expr.eval (scope : Scope) : Expr → Option Json
  | .literal v => some v
  | .path steps => scope.find? steps
  | .length e => (e.eval scope).bind fun v => (lengthOf v).map Json.natural
  | .join s e => (s.eval scope).bind fun s => (e.eval scope).bind fun v => joined s v
  | .range a b => (a.eval scope).bind fun a => (b.eval scope).bind fun b => rangeOf a b
  | .unknown _ => none
  | .compare op l r =>
    (l.eval scope).bind fun l => (r.eval scope).bind fun r => (compareValues op l r).map .flag
  | .both l r =>
    match truth l (l.eval scope) with
    | some true => (truth r (r.eval scope)).map .flag
    | some false => some (.flag false)
    | none => none
  | .either l r =>
    match truth l (l.eval scope) with
    | some false => (truth r (r.eval scope)).map .flag
    | some true => some (.flag true)
    | none => none
  | .negation e => (truth e (e.eval scope)).map fun b => .flag (!b)

def Expr.holds (scope : Scope) (e : Expr) : Option Bool := truth e (e.eval scope)

def loopValue (index length : Nat) : Json :=
  .object [("index", .natural (index + 1)), ("index0", .natural index), ("first", .flag (index = 0)),
    ("last", .flag (index + 1 = length))]

def iterations (scope : Scope) (name : String) (length : Nat) : Nat → List Json → List Scope
  | _, [] => []
  | i, x :: xs =>
    ((name, x) :: ("loop", loopValue i length) :: scope) :: iterations scope name length (i + 1) xs

def concat : List (Option String) → Option String
  | [] => some ""
  | none :: _ => none
  | some s :: rest => (concat rest).map (s ++ ·)

mutual

def Segment.render (scope : Scope) : Segment → Option String
  | .text s => some s
  | .value e => (e.eval scope).map printed
  | .choose c yes no =>
    match c.holds scope with
    | some true => renderAll scope yes
    | some false => renderAll scope no
    | none => none
  | .each name source body otherwise =>
    match source.eval scope with
    | some (.list []) => renderAll scope otherwise
    | some (.list xs) =>
      concat ((iterations scope name xs.length 0 xs).map fun s => renderAll s body)
    | _ => none

def renderAll (scope : Scope) : List Segment → Option String
  | [] => some ""
  | s :: ss =>
    match s.render scope with
    | none => none
    | some t => (renderAll scope ss).map (t ++ ·)

end

end Quadrature.Template

namespace Quadrature

def Template.render (t : Template) (context : Template.Scope) : Option String :=
  Template.renderAll context t

end Quadrature
