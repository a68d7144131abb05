import Quadrature.Json.Value

/-!
Reading JSON. The members of an object are sorted by name, and of two members of one name the later
one counts. A number with neither fraction nor exponent is whole as long as it fits into 64 bits;
every other number, and a negative zero, is a fraction.
-/

namespace Quadrature.Json

def skipBlanks (cs : List Char) : List Char :=
  cs.dropWhile (fun c => c = ' ' || c = '\t' || c = '\n' || c = '\r')

def hexValue? (c : Char) : Option Nat :=
  if '0' ≤ c ∧ c ≤ '9' then some (c.toNat - 48)
  else if 'a' ≤ c ∧ c ≤ 'f' then some (c.toNat - 87)
  else if 'A' ≤ c ∧ c ≤ 'F' then some (c.toNat - 55)
  else none

def hexFour? (a b c d : Char) : Option Nat := do
  return (((← hexValue? a) * 16 + (← hexValue? b)) * 16 + (← hexValue? c)) * 16 + (← hexValue? d)

def numeral (digits : List Char) : Nat :=
  digits.foldl (fun n c => n * 10 + (c.toNat - 48)) 0

/-- The rest of a string after its opening quote. A pair of surrogate escapes is one character. -/
def string? : List Char → List Char → Option (String × List Char)
  | '"' :: cs, acc => some (String.ofList acc.reverse, cs)
  | '\\' :: 'u' :: a :: b :: c :: d :: '\\' :: 'u' :: e :: f :: g :: h :: cs, acc => do
    let high ← hexFour? a b c d
    if 0xD800 ≤ high ∧ high < 0xDC00 then
      let low ← hexFour? e f g h
      if 0xDC00 ≤ low ∧ low < 0xE000 then
        string? cs (Char.ofNat (0x10000 + (high - 0xD800) * 0x400 + (low - 0xDC00)) :: acc)
      else none
    else if 0xDC00 ≤ high ∧ high < 0xE000 then none
    else string? ('\\' :: 'u' :: e :: f :: g :: h :: cs) (Char.ofNat high :: acc)
  | '\\' :: 'u' :: a :: b :: c :: d :: cs, acc => do
    let code ← hexFour? a b c d
    if 0xD800 ≤ code ∧ code < 0xE000 then none else string? cs (Char.ofNat code :: acc)
  | '\\' :: c :: cs, acc =>
    match c with
    | '"' | '\\' | '/' => string? cs (c :: acc)
    | 'b' => string? cs (Char.ofNat 8 :: acc)
    | 'f' => string? cs (Char.ofNat 12 :: acc)
    | 'n' => string? cs ('\n' :: acc)
    | 'r' => string? cs ('\r' :: acc)
    | 't' => string? cs ('\t' :: acc)
    | _ => none
  | c :: cs, acc => if c.toNat < 32 then none else string? cs (c :: acc)
  | [], _ => none

def digits (cs : List Char) : List Char × List Char := cs.span Char.isDigit

def exponent? (cs : List Char) : Option (Option Int × List Char) :=
  match cs with
  | c :: r =>
    if c = 'e' ∨ c = 'E' then
      let (negative, r) := match r with
        | '-' :: r => (true, r)
        | '+' :: r => (false, r)
        | r => (false, r)
      match digits r with
      | ([], _) => none
      | (ds, r) => some (some (if negative then -(numeral ds : Int) else numeral ds), r)
    else some (none, cs)
  | [] => some (none, [])

def fraction? (cs : List Char) : Option (List Char × List Char) :=
  match cs with
  | '.' :: r =>
    match digits r with
    | ([], _) => none
    | (ds, r) => some (ds, r)
  | _ => some ([], cs)

def number? (cs : List Char) : Option (Json × List Char) := do
  let (negative, cs) := match cs with
    | '-' :: r => (true, r)
    | r => (false, r)
  let (whole, cs) := digits cs
  if whole.isEmpty || (whole.head? == some '0' && whole.length > 1) then none
  let (part, cs) ← fraction? cs
  let (power, cs) ← exponent? cs
  let n := numeral whole
  let fits := if negative then 0 < n ∧ n ≤ 2 ^ 63 else n < 2 ^ 64
  if part.isEmpty && power.isNone && fits then
    some (.integer (if negative then -(n : Int) else n), cs)
  else
    let d : Decimal := ⟨negative, numeral (whole ++ part), power.getD 0 - (part.length : Int)⟩
    some (.float (← d.toBinary64?), cs)

/-- Puts a member in its place by name, over a member of the same name. -/
def insertMember (key : String) (value : Json) : List (String × Json) → List (String × Json)
  | [] => [(key, value)]
  | (k, v) :: ms =>
    if key = k then (key, value) :: ms
    else if key < k then (key, value) :: (k, v) :: ms
    else (k, v) :: insertMember key value ms

mutual

def value? : Nat → List Char → Option (Json × List Char)
  | 0, _ => none
  | fuel + 1, cs =>
    match skipBlanks cs with
    | '"' :: r => (string? r []).map fun (s, r) => (.text s, r)
    | '[' :: r =>
      match skipBlanks r with
      | ']' :: r => some (.list [], r)
      | r => items? fuel r []
    | '\x7b' :: r =>
      match skipBlanks r with
      | '\x7d' :: r => some (.object [], r)
      | r => members? fuel r []
    | 'n' :: 'u' :: 'l' :: 'l' :: r => some (.null, r)
    | 't' :: 'r' :: 'u' :: 'e' :: r => some (.flag true, r)
    | 'f' :: 'a' :: 'l' :: 's' :: 'e' :: r => some (.flag false, r)
    | r => number? r

def items? : Nat → List Char → List Json → Option (Json × List Char)
  | 0, _, _ => none
  | fuel + 1, cs, acc => do
    let (x, r) ← value? fuel cs
    match skipBlanks r with
    | ',' :: r => items? fuel r (x :: acc)
    | ']' :: r => some (.list (x :: acc).reverse, r)
    | _ => none

def members? : Nat → List Char → List (String × Json) → Option (Json × List Char)
  | 0, _, _ => none
  | fuel + 1, cs, acc =>
    match skipBlanks cs with
    | '"' :: r => do
      let (key, r) ← string? r []
      match skipBlanks r with
      | ':' :: r =>
        let (v, r) ← value? fuel r
        match skipBlanks r with
        | ',' :: r => members? fuel r (insertMember key v acc)
        | '\x7d' :: r => some (.object (insertMember key v acc), r)
        | _ => none
      | _ => none
    | _ => none

end

def read? (s : String) : Option Json :=
  let cs := s.toList
  match value? (cs.length + 1) cs with
  | some (v, r) => if (skipBlanks r).isEmpty then some v else none
  | none => none

end Quadrature.Json
