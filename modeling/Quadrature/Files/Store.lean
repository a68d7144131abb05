import Quadrature.Files.Path

/-!
The files a program sees, and the directory it works in. Each operation goes through a path part by
part, so that a missing directory, or a file in the place of one, shows before the last part is looked
at.
-/

namespace Quadrature

inductive IoError where
  | notFound
  | fileExists
  | notDirectory
  | isDirectory
  | nameTooLong
  | nulInName
  | invalidText
deriving DecidableEq, Repr

def IoError.message : IoError → String
  | .notFound => "No such file or directory (os error 2)"
  | .fileExists => "File exists (os error 17)"
  | .notDirectory => "Not a directory (os error 20)"
  | .isDirectory => "Is a directory (os error 21)"
  | .nameTooLong => "File name too long (os error 36)"
  | .nulInName => "file name contained an unexpected NUL byte"
  | .invalidText => "stream did not contain valid UTF-8"

inductive Entry where
  | directory
  | text (content : String)
  | bytes (content : List UInt8)
deriving DecidableEq, Repr

abbrev Place := List String

structure Store where
  entries : List (Place × Entry) := []
  workingDirectory : Place := []
deriving DecidableEq, Repr, Inhabited

namespace Store

/-- What stands at a place. The working directory and those above it are always there. -/
def at? (s : Store) (p : Place) : Option Entry :=
  if p.isPrefixOf s.workingDirectory then some .directory else s.entries.lookup p

def putEntry (p : Place) (e : Entry) : List (Place × Entry) → List (Place × Entry)
  | [] => [(p, e)]
  | (q, f) :: es => if p = q then (p, e) :: es else (q, f) :: putEntry p e es

def put (s : Store) (p : Place) (e : Entry) : Store :=
  { s with entries := putEntry p e s.entries }

def erase (s : Store) (p : Place) : Store :=
  { s with entries := s.entries.filter (·.1 ≠ p) }

def checkPath (path : String) : Except IoError Unit :=
  if path.toList.contains (Char.ofNat 0) then .error .nulInName
  else if path = "" then .error .notFound
  else if 4096 ≤ Text.byteLength path.toList then .error .nameTooLong
  else .ok ()

def step (s : Store) (p : Place) (part : String) : Except IoError Place :=
  match s.at? p with
  | none => .error .notFound
  | some .directory =>
    if part = "" || part = "." then .ok p
    else if part = ".." then .ok p.dropLast
    else if 255 < Text.byteLength part.toList then .error .nameTooLong
    else .ok (p ++ [part])
  | some _ => .error .notDirectory

/-- The place that parts lead to from another. The last one need not exist. -/
def walk (s : Store) : Place → List String → Except IoError Place
  | p, [] => .ok p
  | p, part :: rest =>
    match s.step p part with
    | .error e => .error e
    | .ok q => s.walk q rest

def start (s : Store) (path : String) : Place :=
  if Path.isAbsolute path then [] else s.workingDirectory

def pathParts (path : String) : List String := (Text.splitOn '/' path.toList).map String.ofList

def locate (s : Store) (path : String) : Except IoError Place :=
  match checkPath path with
  | .error e => .error e
  | .ok () => s.walk (s.start path) (pathParts path)

def entry (s : Store) (path : String) : Except IoError Entry :=
  match s.locate path with
  | .error e => .error e
  | .ok p =>
    match s.at? p with
    | some e => .ok e
    | none => .error .notFound

def pathExists (s : Store) (path : String) : Bool :=
  match s.entry path with
  | .ok _ => true
  | .error _ => false

def isFile (s : Store) (path : String) : Bool :=
  match s.entry path with
  | .ok .directory => false
  | .ok _ => true
  | .error _ => false

def readText (s : Store) (path : String) : Except IoError String :=
  match s.entry path with
  | .error e => .error e
  | .ok .directory => .error .isDirectory
  | .ok (.text t) => .ok t
  | .ok (.bytes _) => .error .invalidText

/-- Writes a file, over what the file held before. Its directory must exist. A path with a slash at
its end names a directory, so no file can be made there. -/
def writeText (s : Store) (path content : String) : Except IoError Store :=
  match s.locate path with
  | .error e =>
    if path.toList.getLast? == some '/' && e = .notFound &&
        (match s.locate (String.ofList (path.toList.reverse.dropWhile (· = '/')).reverse) with
          | .ok _ => true
          | .error _ => false)
      then .error .isDirectory
    else .error e
  | .ok p =>
    match s.at? p with
    | some .directory => .error .isDirectory
    | _ => .ok (s.put p (.text content))

def makeAlong (s : Store) : Place → List String → Store × Except IoError Unit
  | _, [] => (s, .ok ())
  | p, part :: rest =>
    match s.step p part with
    | .error e => (s, .error e)
    | .ok q =>
      match s.at? q with
      | some .directory => s.makeAlong q rest
      | some _ => (s, .error (if rest.isEmpty then .fileExists else .notDirectory))
      | none => (s.put q .directory).makeAlong q rest

/-- Makes a directory and those above it, as far as they are missing. The ones that have been made stay
when a later one cannot be. -/
def makeDirectories (s : Store) (path : String) : Store × Except IoError Unit :=
  match checkPath path with
  | .error e => (s, .error e)
  | .ok () => s.makeAlong (s.start path) (pathParts path)

def install (s : Store) (p : Place) (e : Entry) : Store :=
  let above := (List.range p.length).map p.take
  let made := above.foldl
    (fun s q => match s.at? q with
      | some _ => s
      | none => s.put q .directory) s
  made.put p e

def pathOf (s : Store) (p : Place) : String :=
  if s.workingDirectory.isPrefixOf p then Text.join "/" (p.drop s.workingDirectory.length)
  else "/" ++ Text.join "/" p

def changedSince (s earlier : Store) : List (String × String) :=
  s.entries.filterMap fun (p, e) =>
    match e with
    | .text t => if earlier.at? p = some e then none else some (s.pathOf p, t)
    | _ => none

end Store

end Quadrature
