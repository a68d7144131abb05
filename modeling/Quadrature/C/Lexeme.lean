import Quadrature.Text.Xid

/-!
The lexemes of C. Each function measures how far a lexeme of its sort reaches from the start of a
text, in characters, and is `none` (or zero) where there is none.
-/

namespace Quadrature.C.Lexeme

def isSpace (c : Char) : Bool :=
  c == ' ' || (0x09 ≤ c.toNat && c.toNat ≤ 0x0D)

def isHexDigit (c : Char) : Bool :=
  c.isDigit || ('a' ≤ c && c ≤ 'f') || ('A' ≤ c && c ≤ 'F')

def count (p : Char → Bool) (cs : List Char) : Nat :=
  (cs.takeWhile p).length

def hexDigits (n : Nat) (cs : List Char) : Bool :=
  (cs.take n).length == n && (cs.take n).all isHexDigit

def identifierUnit (own : Char → Bool) : List Char → Nat
  | '\\' :: 'u' :: cs => if hexDigits 4 cs then 6 else 0
  | '\\' :: 'U' :: cs => if hexDigits 8 cs then 10 else 0
  | c :: _ => if own c then 1 else 0
  | [] => 0

/-- The units of an identifier after the first; `skip` characters belong to the unit being read. -/
def identifierRest (skip : Nat) : List Char → Nat
  | [] => 0
  | c :: cs =>
    match skip with
    | n + 1 => 1 + identifierRest n cs
    | 0 =>
      match identifierUnit (fun c => Text.isXidContinue c || c == '$') (c :: cs) with
      | 0 => 0
      | n + 1 => 1 + identifierRest n cs

def identifier (cs : List Char) : Nat :=
  match identifierUnit (fun c => Text.isXidStart c || c == '_' || c == '$') cs with
  | 0 => 0
  | n + 1 => n + 1 + identifierRest 0 (cs.drop (n + 1))

def lineJoin : List Char → Nat
  | '\\' :: '\n' :: _ => 2
  | '\\' :: '\r' :: '\n' :: _ => 3
  | _ => 0

/-- The rest of a comment that ends with its line; `skip` characters are taken along. A backslash
takes the next character along, the line end included; a single one at the end of the text is left
over. -/
def lineComment (skip : Nat) : List Char → Nat
  | [] => 0
  | c :: cs =>
    match skip with
    | n + 1 => 1 + lineComment n cs
    | 0 =>
      if c = '\n' then 0
      else if c ≠ '\\' then 1 + lineComment 0 cs
      else match cs with
        | [] => 0
        | ['\\'] => 2
        | ds =>
          1 + lineComment (if ['\r', '\n'].isPrefixOf ds then 2
            else if ds.head? = some '\\' then 0 else 1) ds

def blockComment : List Char → Option Nat
  | [] => none
  | c :: cs =>
    if c = '*' && cs.head? = some '/' then some 2
    else (blockComment cs).map (· + 1)

def comment : List Char → Option Nat
  | '/' :: '/' :: cs => some (2 + lineComment 0 cs)
  | '/' :: '*' :: cs => (blockComment cs).map (· + 2)
  | _ => none

def blanks : Nat → List Char → Nat
  | 0, _ => 0
  | fuel + 1, cs =>
    match count isSpace cs + lineJoin (cs.dropWhile isSpace) with
    | 0 =>
      match comment cs with
      | some n => n + blanks fuel (cs.drop n)
      | none => 0
    | n => n + blanks fuel (cs.drop n)

def skip (cs : List Char) : Nat :=
  blanks cs.length cs

def digits (isDigit : Char → Bool) : List Char → Nat
  | [] => 0
  | c :: cs =>
    if isDigit c then
      match cs with
      | '\'' :: ds => if ds.head?.any isDigit then 2 + digits isDigit ds else 1
      | ds => 1 + digits isDigit ds
    else 0

def exponent : List Char → Nat
  | c :: cs =>
    if c == 'e' || c == 'E' || c == 'p' || c == 'P' then
      let signed := match cs with
        | '+' :: _ | '-' :: _ => 1
        | _ => 0
      match digits isHexDigit (cs.drop signed) with
      | 0 => 1
      | n => 1 + signed + n
    else 0
  | [] => 0

def numberSuffix (cs : List Char) : Nat :=
  count (fun c => ['u', 'U', 'l', 'L', 'w', 'W', 'f', 'F', 'b', 'B', 'd', 'D'].contains c) cs

/-- A whole number with its radix mark; `glued` tells whether its last digit may also be read as
the mark of an exponent. -/
def wholeNumber (cs : List Char) : Nat × Bool :=
  match cs with
  | '0' :: x :: rest =>
    let hex := digits isHexDigit rest
    let binary := digits Char.isDigit rest
    if (x == 'x' || x == 'X') && hex != 0 then (2 + hex, 2 ≤ hex)
    else if (x == 'b' || x == 'B') && binary != 0 then (2 + binary, false)
    else (digits Char.isDigit cs, false)
  | _ => (digits Char.isDigit cs, false)

/-- The digits of a number, with its radix mark and fraction. The digits of a fraction are
hexadecimal when digits stand before the point. -/
def mantissa (cs : List Char) : Nat × Bool :=
  let (whole, glued) := wholeNumber cs
  match cs.drop whole with
  | '.' :: rest =>
    if whole = 0 then
      match digits Char.isDigit rest with
      | 0 => (0, false)
      | n => (1 + n, false)
    else match digits isHexDigit rest with
      | 0 => (whole + 1, false)
      | n => (whole + 1 + n, true)
  | _ => (whole, glued)

def gluedExponent (last : Option Char) : List Char → Nat
  | c :: cs =>
    if (last == some 'e' || last == some 'E') && (c == '+' || c == '-') then
      match digits isHexDigit cs with
      | 0 => 0
      | n => 1 + n
    else 0
  | [] => 0

def number (cs : List Char) : Nat :=
  match mantissa cs with
  | (0, _) => 0
  | (n, glued) =>
    let rest := cs.drop n
    let e := if glued && exponent rest = 0 then gluedExponent (cs.take n).getLast? rest
      else exponent rest
    n + e + numberSuffix (rest.drop e)

def escape : List Char → Nat
  | '\\' :: 'x' :: cs => if hexDigits 1 cs then 3 else 0
  | '\\' :: 'u' :: cs => if hexDigits 4 cs then 6 else 0
  | '\\' :: 'U' :: cs => if hexDigits 8 cs then 10 else 0
  | '\\' :: _ :: _ => 2
  | _ => 0

/-- The rest of a literal up to its closing quote, and whether it holds anything. A line end may
stand only before the closing quote or an escape. -/
def quotedRest (quote : Char) (filled : Bool) : Nat → List Char → Option Nat
  | 0, _ => none
  | _, [] => none
  | fuel + 1, c :: cs =>
    if c = quote then if filled then some 1 else none
    else if c = '\\' then
      match escape (c :: cs) with
      | 0 => none
      | n => (quotedRest quote true fuel ((c :: cs).drop n)).map (· + n)
    else if c = '\n' then
      let n := skip (c :: cs)
      match (c :: cs).drop n with
      | [] => none
      | d :: ds =>
        if d = quote || d = '\\' then (quotedRest quote filled fuel (d :: ds)).map (· + n) else none
    else (quotedRest quote true fuel cs).map (· + 1)

def stringLiteral : List Char → Option Nat
  | '"' :: cs => (quotedRest '"' true (cs.length + 1) cs).map (· + 1)
  | _ => none

def charLiteral : List Char → Option Nat
  | '\'' :: cs => (quotedRest '\'' false (cs.length + 1) cs).map (· + 1)
  | _ => none

def longMarks : List String :=
  ["...", "<<=", ">>=", "->", "++", "--", "<<", ">>", "<=", ">=", "==", "!=", "&&", "||", "+=",
    "-=", "*=", "/=", "%=", "&=", "^=", "|="]

def shortMarks : List Char :=
  ['+', '-', '*', '/', '%', '&', '|', '^', '~', '!', '=', '<', '>', '?', ':', ';', ',', '.']

def mark (cs : List Char) : Nat :=
  match longMarks.find? (fun m => m.toList.isPrefixOf cs) with
  | some m => m.length
  | none =>
    match cs with
    | [] => 0
    | c :: _ => if shortMarks.contains c then 1 else 0

def encodings : List String := ["L", "u", "U", "u8"]

inductive Class where
  | word | number | string | character | mark
  deriving DecidableEq, Repr

def literal (before : Nat) (cs : List Char) : Option (Class × Nat) :=
  match stringLiteral cs with
  | some n => some (.string, before + n)
  | none => (charLiteral cs).map fun n => (.character, before + n)

def read (cs : List Char) : Option (Class × Nat) :=
  match identifier cs with
  | n + 1 =>
    let after := cs.drop (n + 1)
    if encodings.contains (String.ofList (cs.take (n + 1))) &&
        (after.head? == some '"' || after.head? == some '\'') then
      literal (n + 1) after
    else some (.word, n + 1)
  | 0 =>
    match number cs with
    | n + 1 => some (.number, n + 1)
    | 0 =>
      match cs with
      | '"' :: _ | '\'' :: _ => literal 0 cs
      | _ =>
        match mark cs with
        | 0 => none
        | n => some (.mark, n)

end Quadrature.C.Lexeme
