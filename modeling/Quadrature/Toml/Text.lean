import Quadrature.Json.Reader
import Quadrature.Text.Blank

/-!
TOML strings, read and written. A basic string has escapes, a literal one has none; either may run
over several lines between triple quotes.
-/

namespace Quadrature.Toml

def newline? : List Char → Option (List Char)
  | '\n' :: r => some r
  | '\r' :: '\n' :: r => some r
  | _ => none

def isSpace (c : Char) : Bool := c == ' ' || c == '\t'

def isPlain (c : Char) : Bool := c == '\t' || (0x20 ≤ c.toNat && c.toNat ≠ 0x7F)

def scalar? (n : Nat) : Option Char := if n.isValidChar then some (Char.ofNat n) else none

def hex? : List Char → Option Nat
  | cs => cs.foldl (fun n c => n.bind fun n => (Json.hexValue? c).map (n * 16 + ·)) (some 0)

def escape? : List Char → Option (Char × List Char)
  | 'b' :: r => some (Char.ofNat 8, r)
  | 't' :: r => some ('\t', r)
  | 'n' :: r => some ('\n', r)
  | 'f' :: r => some (Char.ofNat 12, r)
  | 'r' :: r => some ('\r', r)
  | '"' :: r => some ('"', r)
  | '\\' :: r => some ('\\', r)
  | 'u' :: r =>
    if 4 ≤ r.length then
      (hex? (r.take 4)).bind fun n => (scalar? n).map fun c => (c, r.drop 4)
    else none
  | 'U' :: r =>
    if 8 ≤ r.length then
      (hex? (r.take 8)).bind fun n => (scalar? n).map fun c => (c, r.drop 8)
    else none
  | _ => none

def more (c : Char) : Option (List Char × List Char) → Option (List Char × List Char)
  | some (s, r) => some (c :: s, r)
  | none => none

def basic? : Nat → List Char → Option (List Char × List Char)
  | 0, _ => none
  | fuel + 1, cs =>
    match cs with
    | [] => none
    | '"' :: r => some ([], r)
    | '\\' :: r => (escape? r).bind fun (c, r) => more c (basic? fuel r)
    | c :: r => if isPlain c then more c (basic? fuel r) else none

def literal? : List Char → Option (List Char × List Char)
  | [] => none
  | c :: r => if c = '\'' then some ([], r) else if isPlain c then more c (literal? r) else none

def skipLines : List Char → List Char
  | [] => []
  | c :: r =>
    if c = ' ' || c = '\t' || c = '\n' then skipLines r
    else match c, r with
      | '\r', '\n' :: r' => skipLines r'
      | _, _ => c :: r

def afterLineEnd? (cs : List Char) : Option (List Char) :=
  (newline? (cs.dropWhile isSpace)).map skipLines

def longBasic? : Nat → List Char → Option (List Char × List Char)
  | 0, _ => none
  | fuel + 1, cs =>
    match cs with
    | [] => none
    | '"' :: '"' :: '"' :: '"' :: '"' :: r => some (['"', '"'], r)
    | '"' :: '"' :: '"' :: '"' :: r => some (['"'], r)
    | '"' :: '"' :: '"' :: r => some ([], r)
    | '\\' :: r =>
      match escape? r with
      | some (c, r) => more c (longBasic? fuel r)
      | none => (afterLineEnd? r).bind (longBasic? fuel)
    | '\r' :: '\n' :: r => more '\n' (longBasic? fuel r)
    | c :: r => if isPlain c || c = '\n' then more c (longBasic? fuel r) else none

def longLiteral? : Nat → List Char → Option (List Char × List Char)
  | 0, _ => none
  | fuel + 1, cs =>
    match cs with
    | [] => none
    | '\'' :: '\'' :: '\'' :: '\'' :: '\'' :: r => some (['\'', '\''], r)
    | '\'' :: '\'' :: '\'' :: '\'' :: r => some (['\''], r)
    | '\'' :: '\'' :: '\'' :: r => some ([], r)
    | '\r' :: '\n' :: r => more '\n' (longLiteral? fuel r)
    | c :: r => if isPlain c || c = '\n' then more c (longLiteral? fuel r) else none

def afterOpening (cs : List Char) : List Char := (newline? cs).getD cs

def string? (cs : List Char) : Option (String × List Char) :=
  let fuel := cs.length + 1
  let out := match cs with
    | '"' :: '"' :: '"' :: r => longBasic? fuel (afterOpening r)
    | '"' :: r => basic? fuel r
    | '\'' :: '\'' :: '\'' :: r => longLiteral? fuel (afterOpening r)
    | '\'' :: r => literal? r
    | _ => none
  out.map fun (s, r) => (String.ofList s, r)

def isControl (c : Char) : Bool :=
  c ≠ '\t' && c ≠ '\n' && (c.toNat < 0x20 || c.toNat = 0x7F)

def hasTripleQuote : List Char → Bool
  | '\'' :: '\'' :: '\'' :: _ => true
  | _ :: cs => hasTripleQuote cs
  | [] => false

/-- Holds of a text that is written as a literal: one with a quote or a backslash that needs no
escape and does not end the literal. -/
def wantsLiteral (cs : List Char) : Bool :=
  (cs.contains '"' || cs.contains '\\') && !cs.any isControl && !hasTripleQuote cs &&
    cs.getLast? ≠ some '\''

def basicChar (long : Bool) (c : Char) : List Char :=
  if c = '\n' then (if long then ['\n'] else ['\\', 'n'])
  else if c = '\t' then ['\\', 't']
  else if c = '\r' then ['\\', 'r']
  else if c = '"' then ['\\', '"']
  else if c = '\\' then ['\\', '\\']
  else if c.toNat = 8 then ['\\', 'b']
  else if c.toNat = 12 then ['\\', 'f']
  else if c.toNat < 0x20 || c.toNat = 0x7F then
    ['\\', 'u', '0', '0', Nat.digitChar (c.toNat / 16),
      Char.toUpper (Nat.digitChar (c.toNat % 16))]
  else [c]

def written (s : String) : String :=
  let cs := s.toList
  let long := cs.contains '\n'
  if wantsLiteral cs then
    if long then "'''\n" ++ s ++ "'''"
    else if cs.contains '\'' then "'''" ++ s ++ "'''"
    else "'" ++ s ++ "'"
  else
    let body := String.ofList (cs.flatMap (basicChar long))
    if long then "\"\"\"\n" ++ body ++ "\"\"\"" else "\"" ++ body ++ "\""

end Quadrature.Toml
