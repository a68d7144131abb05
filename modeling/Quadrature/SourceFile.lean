import Quadrature.C.Reader
import Quadrature.Extraction

/-!
Source files and the functions they declare.
-/

namespace Quadrature

structure FrontEnd where
  language : String
  extensions : List String
  read : String → Except Failure C.Node

def FrontEnd.c : FrontEnd where
  language := "c"
  extensions := C.fileExtensions
  read source :=
    match C.readSource source with
    | .ok n => .ok n
    | .error e => .error (.syntaxError e.line)

def FrontEnd.readFile (f : FrontEnd) (files : Store) (path : String) : Except Failure C.Node :=
  match files.readText path with
  | .error e => .error (.unreadable path e)
  | .ok content =>
    match f.read content with
    | .ok n => .ok n
    | .error c => .error (if c.kind = .parse then .inFile path c else c)

structure SourceFile where
  path : String
  declarations : List FunctionDeclaration

namespace SourceFile

def checkPath (files : Store) (path : String) : Except Failure Unit :=
  if path = "" then .error .pathEmpty
  else if !files.pathExists path then .error (.pathMissing path)
  else if !files.isFile path then .error (.pathNotFile path)
  else .ok ()

def loadWith (f : FrontEnd) (files : Store) (path : String) : Except Failure SourceFile :=
  match checkPath files path with
  | .error c => .error c
  | .ok () =>
    match f.readFile files path with
    | .error c => .error c
    | .ok root =>
      match Extraction.declarations path root with
      | .error c => .error c
      | .ok declarations => .ok ⟨path, declarations⟩

def load (files : Store) (path : String) : Except Failure SourceFile := loadWith .c files path

def lookup (s : SourceFile) (name : String) : Option FunctionDeclaration :=
  s.declarations.find? (·.name = name)

def lookupJson (s : SourceFile) (key : Option Json) : Option FunctionDeclaration :=
  (key.bind Json.text?).bind s.lookup

end SourceFile

end Quadrature
