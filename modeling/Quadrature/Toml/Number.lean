import Quadrature.Json.Reader
import Quadrature.Toml.Value

/-!
TOML numbers and dates. Underscores may stand between digits. Whole numbers have 64 bits with a sign;
they may be written in hexadecimal, octal or binary.
-/

namespace Quadrature.Toml

/-- Digits of a class with single underscores between them, and what follows. The flag tells that a
digit stands in front. -/
def digitsAfter (isDigit : Char → Bool) : Bool → List Char → List Char × List Char
  | _, [] => ([], [])
  | inside, c :: r =>
    if isDigit c then
      let (ds, rest) := digitsAfter isDigit true r
      (c :: ds, rest)
    else if inside && c = '_' then
      match digitsAfter isDigit false r with
      | ([], _) => ([], c :: r)
      | out => out
    else ([], c :: r)

def digitRun (isDigit : Char → Bool) (cs : List Char) : List Char × List Char :=
  digitsAfter isDigit false cs

def inBase (base : Nat) (digits : List Char) : Nat :=
  digits.foldl (fun n c => n * base + (Json.hexValue? c).getD 0) 0

def isHex (c : Char) : Bool := (Json.hexValue? c).isSome

def isOctal (c : Char) : Bool := '0' ≤ c && c ≤ '7'

def isBinary (c : Char) : Bool := c == '0' || c == '1'

def fitting? (negative : Bool) (n : Nat) : Option Value :=
  if negative then if n ≤ 2 ^ 63 then some (.integer (-(n : Int))) else none
  else if n < 2 ^ 63 then some (.integer n) else none

def based? (base : Nat) (isDigit : Char → Bool) (cs : List Char) : Option (Value × List Char) :=
  match digitRun isDigit cs with
  | ([], _) => none
  | (ds, r) => (fitting? false (inBase base ds)).map fun v => (v, r)

def sign (cs : List Char) : Bool × List Char :=
  match cs with
  | '-' :: r => (true, r)
  | '+' :: r => (false, r)
  | r => (false, r)

def wholeDigits (cs : List Char) : List Char × List Char :=
  match cs with
  | '0' :: r => (['0'], r)
  | r => digitRun Char.isDigit r

def fractionDigits? (cs : List Char) : Option (List Char × List Char) :=
  match cs with
  | '.' :: r =>
    match digitRun Char.isDigit r with
    | ([], _) => none
    | (ds, r) => some (ds, r)
  | r => some ([], r)

def exponent? (cs : List Char) : Option (Option Int × List Char) :=
  match cs with
  | c :: r =>
    if c = 'e' || c = 'E' then
      let (negative, r) := sign r
      match digitRun Char.isDigit r with
      | ([], _) => none
      | (ds, r) =>
        let n : Int := inBase 10 ds
        some (some (if negative then -n else n), r)
    else some (none, cs)
  | [] => some (none, [])

/-- A decimal number: whole, or with a fraction or an exponent. A number too large for a fraction is
refused, unless it is negative. -/
def decimal? (negative : Bool) (cs : List Char) : Option (Value × List Char) :=
  let (whole, r) := wholeDigits cs
  if whole.isEmpty then none
  else
    (fractionDigits? r).bind fun (part, r) =>
      (exponent? r).bind fun (power, r) =>
        if part.isEmpty && power.isNone then
          (fitting? negative (inBase 10 whole)).map fun v => (v, r)
        else
          let d : Decimal :=
            ⟨negative, inBase 10 (whole ++ part), power.getD 0 - (part.length : Int)⟩
          if d.toBinary64?.isSome || negative then some (.float, r) else none

def number? (cs : List Char) : Option (Value × List Char) :=
  match cs with
  | '0' :: 'x' :: r => based? 16 isHex r
  | '0' :: 'o' :: r => based? 8 isOctal r
  | '0' :: 'b' :: r => based? 2 isBinary r
  | _ =>
    let (negative, r) := sign cs
    match r with
    | 'i' :: 'n' :: 'f' :: r => some (.float, r)
    | 'n' :: 'a' :: 'n' :: r => some (.float, r)
    | r => decimal? negative r

def twoDigits? (low high : Nat) (cs : List Char) : Option (Nat × List Char) :=
  match cs with
  | a :: b :: r =>
    if a.isDigit && b.isDigit then
      let n := inBase 10 [a, b]
      if low ≤ n && n ≤ high then some (n, r) else none
    else none
  | _ => none

def after? (c : Char) (cs : List Char) : Option (List Char) :=
  match cs with
  | d :: r => if c = d then some r else none
  | [] => none

def isLeapYear (year : Nat) : Bool := year % 4 = 0 && (year % 100 ≠ 0 || year % 400 = 0)

def daysIn (year month : Nat) : Nat :=
  if month = 2 then (if isLeapYear year then 29 else 28)
  else if [4, 6, 9, 11].contains month then 30
  else 31

def date? (cs : List Char) : Option (List Char) := do
  let year := cs.take 4
  if year.length = 4 && year.all Char.isDigit then
    let r ← after? '-' (cs.drop 4)
    let (month, r) ← twoDigits? 1 12 r
    let r ← after? '-' r
    let (_, r) ← twoDigits? 1 (daysIn (inBase 10 year) month) r
    return r
  else none

def secondFraction (cs : List Char) : List Char :=
  match cs with
  | '.' :: r =>
    match r.span Char.isDigit with
    | ([], _) => cs
    | (_, r) => r
  | _ => cs

def time? (cs : List Char) : Option (List Char) := do
  let (_, r) ← twoDigits? 0 23 cs
  let r ← after? ':' r
  let (_, r) ← twoDigits? 0 59 r
  let r ← after? ':' r
  let (_, r) ← twoDigits? 0 60 r
  return secondFraction r

def offset? (cs : List Char) : Option (List Char) :=
  match cs with
  | c :: r =>
    if c = 'Z' || c = 'z' then some r
    else if c = '+' || c = '-' then do
      let (_, r) ← twoDigits? 0 23 r
      let r ← after? ':' r
      let (_, r) ← twoDigits? 0 59 r
      return r
    else some cs
  | [] => some []

def dateTime? (cs : List Char) : Option (List Char) :=
  match date? cs with
  | some r =>
    match r with
    | c :: r' =>
      if c = 'T' || c = 't' || c = ' ' then
        match time? r' with
        | some r'' => offset? r''
        | none => some r
      else some r
    | [] => some []
  | none => time? cs

end Quadrature.Toml
