import Quadrature.Text.Blank

/-!
Paths as texts. A path is cut at its slashes; empty parts count for nothing, and a lone dot counts
only at the very start of a relative path. The system's own paths are bytes, which may be no text.
-/

namespace Quadrature

structure NativePath where
  bytes : List UInt8
deriving DecidableEq, Repr

namespace NativePath

def ofText (s : String) : NativePath := ⟨s.toUTF8.data.toList⟩

def text? (p : NativePath) : Option String := String.fromUTF8? ⟨p.bytes.toArray⟩

instance : Coe String NativePath := ⟨ofText⟩

/-- Where every name is text, a path that is none leads nowhere. -/
instance : Coe (Option NativePath) (Option String) := ⟨fun p => p.bind text?⟩

end NativePath

end Quadrature

namespace Quadrature.Path

inductive Component where
  | root
  | current
  | up
  | name (text : String)
deriving DecidableEq, Repr

def parts (path : String) : List String :=
  let raw := (Text.splitOn '/' path.toList).map String.ofList
  match raw with
  | "." :: rest => "." :: rest.filter (fun p => p != "" && p != ".")
  | _ => raw.filter (fun p => p != "" && p != ".")

def isAbsolute (path : String) : Bool := path.toList.head? == some '/'

def Component.ofPart (part : String) : Component :=
  if part = "." then .current else if part = ".." then .up else .name part

def components (path : String) : List Component :=
  let rest := (parts path).map Component.ofPart
  if isAbsolute path then .root :: rest else rest

def Component.name? : Component → Option String
  | .name s => some s
  | _ => none

def names (path : String) : List String := (components path).filterMap Component.name?

def fileName? (path : String) : Option String := (components path).getLast?.bind Component.name?

/-- Drops, from the end, slashes and parts that are a lone dot; a dot in front stays. The text is
given and returned backwards. -/
def trimBack : List Char → List Char
  | [] => []
  | c :: cs =>
    if c = '/' then (match cs with | [] => ['/'] | _ => trimBack cs)
    else if c = '.' then
      match cs with
      | '/' :: r => (match r with | [] => ['/'] | _ => trimBack r)
      | _ => c :: cs
    else c :: cs

def dropPart (cs : List Char) : List Char := cs.dropWhile (· ≠ '/')

def parent? (path : String) : Option String :=
  match (components path).getLast? with
  | none => none
  | some .root => none
  | some _ => some (String.ofList (trimBack (dropPart (trimBack path.toList.reverse))).reverse)

def join (directory path : String) : String :=
  if isAbsolute path || directory = "" then path
  else if directory.toList.getLast? == some '/' then directory ++ path
  else directory ++ "/" ++ path

end Quadrature.Path
