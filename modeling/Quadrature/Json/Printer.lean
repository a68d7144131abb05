import Quadrature.Decimal.Shortest
import Quadrature.Json.Value

/-!
The text of JSON values. The compact form has no blanks. The indented form puts each item and member
on a line of its own, two spaces deeper than what holds it; an empty list or object stays on one line.
-/

namespace Quadrature.Json

def hexDigit (n : Nat) : Char := Nat.digitChar n

def escapedChar (c : Char) : List Char :=
  if c = '"' then ['\\', '"']
  else if c = '\\' then ['\\', '\\']
  else if c = '\n' then ['\\', 'n']
  else if c = '\r' then ['\\', 'r']
  else if c = '\t' then ['\\', 't']
  else if c.toNat = 8 then ['\\', 'b']
  else if c.toNat = 12 then ['\\', 'f']
  else if c.toNat < 32 then ['\\', 'u', '0', '0', hexDigit (c.toNat / 16), hexDigit (c.toNat % 16)]
  else [c]

def quoted (s : String) : String :=
  String.ofList ('"' :: s.toList.flatMap escapedChar ++ ['"'])

/-- Digits with a point after the first `whole` of them, and at least one digit on each side. -/
def positional (digits : List Char) (whole : Int) : List Char :=
  if whole ≤ 0 then
    '0' :: '.' :: List.replicate (-whole).toNat '0' ++ digits
  else
    let padded := digits ++ List.replicate (whole.toNat + 1 - digits.length) '0'
    padded.take whole.toNat ++ '.' :: padded.drop whole.toNat

def scientific (digits : List Char) (exponent : Int) : List Char :=
  let tail := digits.drop 1
  let point := if tail.isEmpty then [] else '.' :: tail
  let sign := if exponent < 0 then '-' else '+'
  digits.take 1 ++ point ++ 'e' :: sign :: (toString exponent.natAbs).toList

/-- The shortest text of a fraction: positional from `1e-5` up to `1e16`, scientific elsewhere. -/
def fraction (b : Binary64) : String :=
  let d := b.shortest
  let digits := Nat.toDigits 10 d.digits
  let exponent : Int := d.exponent + (digits.length : Int) - 1
  let body :=
    if -5 ≤ exponent ∧ exponent < 16 then positional digits (exponent + 1)
    else scientific digits exponent
  String.ofList (if d.negative then '-' :: body else body)

mutual

def compact : Json → String
  | .null => "null"
  | .flag b => if b then "true" else "false"
  | .integer n => toString n
  | .float b => fraction b
  | .text s => quoted s
  | .list xs => "[" ++ compactItems xs ++ "]"
  | .object ms => "\x7b" ++ compactMembers ms ++ "\x7d"

def compactItems : List Json → String
  | [] => ""
  | [x] => compact x
  | x :: xs => compact x ++ "," ++ compactItems xs

def compactMembers : List (String × Json) → String
  | [] => ""
  | [(k, v)] => quoted k ++ ":" ++ compact v
  | (k, v) :: ms => quoted k ++ ":" ++ compact v ++ "," ++ compactMembers ms

end

def newline (depth : Nat) : String := String.ofList ('\n' :: List.replicate (2 * depth) ' ')

mutual

def indented (depth : Nat) : Json → String
  | .list [] => "[]"
  | .list (x :: xs) => "[" ++ indentedItems (depth + 1) (x :: xs) ++ newline depth ++ "]"
  | .object [] => "\x7b\x7d"
  | .object (m :: ms) => "\x7b" ++ indentedMembers (depth + 1) (m :: ms) ++ newline depth ++ "\x7d"
  | .null => "null"
  | .flag b => if b then "true" else "false"
  | .integer n => toString n
  | .float b => fraction b
  | .text s => quoted s

def indentedItems (depth : Nat) : List Json → String
  | [] => ""
  | [x] => newline depth ++ indented depth x
  | x :: xs => newline depth ++ indented depth x ++ "," ++ indentedItems depth xs

def indentedMembers (depth : Nat) : List (String × Json) → String
  | [] => ""
  | [(k, v)] => newline depth ++ quoted k ++ ": " ++ indented depth v
  | (k, v) :: ms =>
    newline depth ++ quoted k ++ ": " ++ indented depth v ++ "," ++ indentedMembers depth ms

end

def pretty (v : Json) : String := indented 0 v

end Quadrature.Json
