import Quadrature.Toml.Number
import Quadrature.Toml.Text

/-!
TOML documents: lines that assign a value to a key, and headers that open a table. No key is assigned
twice. A table is opened by one header at most; a dotted key adds to tables that dotted keys have
made, and a table written as a value is closed.
-/

namespace Quadrature.Toml

def isBareChar (c : Char) : Bool :=
  ('a' ≤ c && c ≤ 'z') || ('A' ≤ c && c ≤ 'Z') || ('0' ≤ c && c ≤ '9') || c == '_' || c == '-'

def simpleKey? (cs : List Char) : Option (String × List Char) :=
  match cs with
  | '"' :: r => (basic? (r.length + 1) r).map fun (s, r) => (String.ofList s, r)
  | '\'' :: r => (literal? r).map fun (s, r) => (String.ofList s, r)
  | _ =>
    match cs.span isBareChar with
    | ([], _) => none
    | (s, r) => some (String.ofList s, r)

def key? : Nat → List Char → Option (List String × List Char)
  | 0, _ => none
  | fuel + 1, cs =>
    match simpleKey? (cs.dropWhile isSpace) with
    | none => none
    | some (k, r) =>
      match r.dropWhile isSpace with
      | '.' :: r => (key? fuel r).map fun (ks, r) => (k :: ks, r)
      | r => some ([k], r)

/-- Changes the table at the end of a path, making the tables that are missing. A dotted path does not
enter tables that have a header. -/
def descend (dotted : Bool) (change : Origin → Members → Option Members) :
    List String → Origin → Members → Option Members
  | [], o, ms => change o ms
  | k :: ks, _, ms =>
    match ms.lookup k with
    | none =>
      let o : Origin := if dotted then .dotted else .implied
      (descend dotted change ks o []).map fun inner => ms.put k (.table o inner)
    | some (.table o inner) =>
      if o = .inline || (dotted && o = .header) then none
      else (descend dotted change ks o inner).map fun inner => ms.put k (.table o inner)
    | some (.tables items) =>
      match items.getLast? with
      | some last =>
        (descend dotted change ks .header last).map fun inner =>
          ms.put k (.tables (items.dropLast ++ [inner]))
      | none => none
    | some _ => none

/-- Assigns a value to a key of a table. The tables of a dotted key must be made by dotted keys. -/
def assign (path : List String) (v : Value) (ms : Members) : Option Members :=
  match path.getLast? with
  | none => none
  | some key =>
    let above := path.dropLast
    descend true
      (fun o inner =>
        if (!above.isEmpty && o ≠ .dotted) || (inner.lookup key).isSome then none
        else some (inner.put key v))
      above .header ms

def openTable (path : List String) (root : Members) : Option Members :=
  match path.getLast? with
  | none => none
  | some key =>
    descend false
      (fun _ ms =>
        match ms.lookup key with
        | none => some (ms.put key (.table .header []))
        | some (.table .implied inner) => some (ms.put key (.table .header inner))
        | some _ => none)
      path.dropLast .header root

def openNext (path : List String) (root : Members) : Option Members :=
  match path.getLast? with
  | none => none
  | some key =>
    descend false
      (fun _ ms =>
        match ms.lookup key with
        | none => some (ms.put key (.tables [[]]))
        | some (.tables items) => some (ms.put key (.tables (items ++ [[]])))
        | some _ => none)
      path.dropLast .header root

def within (change : Members → Option Members) : List String → Members → Option Members
  | [], ms => change ms
  | k :: ks, ms =>
    match ms.lookup k with
    | some (.table o inner) =>
      (within change ks inner).map fun inner => ms.put k (.table o inner)
    | some (.tables items) =>
      match items.getLast? with
      | some last =>
        (within change ks last).map fun inner => ms.put k (.tables (items.dropLast ++ [inner]))
      | none => none
    | _ => none

def comment? (cs : List Char) : List Char :=
  cs.dropWhile fun c => c == '\t' || 0x20 ≤ c.toNat

def skipTrivia (cs : List Char) : List Char :=
  match cs.dropWhile isSpace with
  | '#' :: r => comment? r
  | r => r

def skipAll : Nat → List Char → List Char
  | 0, cs => cs
  | fuel + 1, cs =>
    let r := skipTrivia cs
    match newline? r with
    | some r => skipAll fuel r
    | none => r

mutual

def value? : Nat → List Char → Option (Value × List Char)
  | 0, _ => none
  | fuel + 1, cs =>
    match cs with
    | [] => none
    | '[' :: r => items? fuel r []
    | '\x7b' :: r =>
      match r.dropWhile isSpace with
      | '\x7d' :: r => some (.table .inline [], r)
      | r => members? fuel r []
    | 't' :: 'r' :: 'u' :: 'e' :: r => some (.flag true, r)
    | 'f' :: 'a' :: 'l' :: 's' :: 'e' :: r => some (.flag false, r)
    | c :: _ =>
      if c = '"' || c = '\'' then (string? cs).map fun (s, r) => (.text s, r)
      else
        match dateTime? cs with
        | some r => some (.date, r)
        | none => number? cs

def items? : Nat → List Char → List Value → Option (Value × List Char)
  | 0, _, _ => none
  | fuel + 1, cs, acc =>
    match skipAll (cs.length + 1) cs with
    | ']' :: r => some (.list acc.reverse, r)
    | r =>
      match value? fuel r with
      | none => none
      | some (v, r) =>
        match skipAll (r.length + 1) r with
        | ',' :: r => items? fuel r (v :: acc)
        | ']' :: r => some (.list (v :: acc).reverse, r)
        | _ => none

def members? : Nat → List Char → Members → Option (Value × List Char)
  | 0, _, _ => none
  | fuel + 1, cs, acc =>
    match key? (cs.length + 1) cs with
    | some (path, '=' :: r) =>
      match value? fuel (r.dropWhile isSpace) with
      | none => none
      | some (v, r) =>
        match assign path v acc with
        | none => none
        | some acc =>
          match r.dropWhile isSpace with
          | ',' :: r => members? fuel r acc
          | '\x7d' :: r => some (.table .inline acc, r)
          | _ => none
    | _ => none

end

def lineEnd? (cs : List Char) : Option (List Char) :=
  match skipTrivia cs with
  | [] => some []
  | r => newline? r

def headerEnd? (double : Bool) (cs : List Char) : Option (List Char) :=
  match double, cs with
  | true, ']' :: ']' :: r => lineEnd? r
  | false, ']' :: r => lineEnd? r
  | _, _ => none

structure Progress where
  root : Members
  path : List String

def line? (p : Progress) (cs : List Char) : Option (Progress × List Char) :=
  match cs with
  | '[' :: '[' :: r => do
    let (path, r) ← key? (r.length + 1) r
    let r ← headerEnd? true r
    let root ← openNext path p.root
    return (⟨root, path⟩, r)
  | '[' :: r => do
    let (path, r) ← key? (r.length + 1) r
    let r ← headerEnd? false r
    let root ← openTable path p.root
    return (⟨root, path⟩, r)
  | _ => do
    let (path, r) ← key? (cs.length + 1) cs
    let r ← after? '=' r
    let (v, r) ← value? (cs.length + 1) (r.dropWhile isSpace)
    let r ← lineEnd? r
    let root ← within (assign path v) p.path p.root
    return (⟨root, p.path⟩, r)

def lines? : Nat → Progress → List Char → Option Members
  | 0, _, _ => none
  | fuel + 1, p, cs =>
    match skipAll (cs.length + 1) cs with
    | [] => some p.root
    | r =>
      match line? p r with
      | none => none
      | some (p, r) => lines? fuel p r

def read? (source : String) : Option Members :=
  let cs := match source.toList with
    | c :: r => if c.toNat = 0xFEFF then r else c :: r
    | [] => []
  lines? (cs.length + 1) ⟨[], []⟩ cs

end Quadrature.Toml
