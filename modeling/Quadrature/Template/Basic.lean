import Quadrature.Json.Value

/-!
Templates: text with values printed into it, parts that depend on a condition, and parts repeated for
the items of a list.
-/

namespace Quadrature.Template

inductive Comparison where
  | equal
  | unequal
  | less
  | atMost
  | greater
  | atLeast
deriving DecidableEq, Repr

/-- An expression. A path names a value and the members to go down to; an unknown filter or function
has no value. -/
inductive Expr where
  | literal (value : Json)
  | path (steps : List String)
  | length (subject : Expr)
  | join (separator subject : Expr)
  | range (first limit : Expr)
  | unknown (name : String)
  | compare (op : Comparison) (left right : Expr)
  | both (left right : Expr)
  | either (left right : Expr)
  | negation (subject : Expr)
deriving Repr

inductive Segment where
  | text (content : String)
  | value (expr : Expr)
  | choose (condition : Expr) (yes no : List Segment)
  | each (name : String) (source : Expr) (body otherwise : List Segment)
deriving Repr

end Quadrature.Template

namespace Quadrature

abbrev Template := List Template.Segment

end Quadrature
