import Quadrature.Generation.Code
import Quadrature.Settings
import Quadrature.SourceFile

/-!
The engine: it generates the code of an integral into files, and it lists what a file declares.
-/

namespace Quadrature

structure GenerateRequest where
  input : String
  function : String
  outputBase : String
  integralName : Option String := none
  dependencies : List String := []
  headerName : Option String := none
  backend : Option Backend := none
  calls : Option Nat := none
  sourceComponents : Option Nat := none
deriving Repr

structure GeneratedFiles where
  header : String
  source : String
deriving DecidableEq, Repr

structure Draft where
  headerPath : String
  sourcePath : String
  code : GeneratedCode

structure DeclarationSummary where
  name : String
  signature : String
  extent : Option C.Extent
  hasBody : Bool
deriving Repr

structure Engine where
  settings : Settings
  templates : TemplateSet

namespace Engine

def ofSettings (files : Store) (settings : Settings) : Except Failure Engine :=
  match (settings.templateDirectory : Option String) with
  | none => .ok ⟨settings, .builtin⟩
  | some directory =>
    match Failure.whileDoing (.loadingTemplates directory)
        (TemplateSet.withOverrides files directory) with
    | .error f => .error f
    | .ok templates => .ok ⟨settings, templates⟩

def make (files : Store) (settingsPath : Option String) : Except Failure Engine :=
  match Settings.loadOrDefault files settingsPath with
  | .error f => .error f
  | .ok settings => ofSettings files settings

def programName : String := "genint 0.1.0"

def banner (time : String) : String := "Generated by " ++ programName ++ " on " ++ time

def withExtension (base ext : String) : String := base ++ "." ++ ext

def integrand (files : Store) (r : GenerateRequest) : Except Failure FunctionDeclaration :=
  match SourceFile.load files r.input with
  | .error f => .error f
  | .ok file =>
    match file.lookup r.function with
    | none => .error (.unknownFunction r.function r.input)
    | some d => .ok d

def integral (e : Engine) (r : GenerateRequest) (integrand : FunctionDeclaration) :
    Except Failure Integral := do
  let i ← Integral.derive integrand r.integralName
  let i ← i.addDependencies r.dependencies
  let components := r.sourceComponents.getD e.settings.generation.sourceComponents
  if 0 < components then
    let included ← integrand.addSourceDependency components
    i.addDependencies included.dependencies
  else return i

def options (e : Engine) (time : String) (r : GenerateRequest) (headerPath : String) :
    Except Failure GenerationOptions := do
  let headerName ← match r.headerName with
    | some name => .ok name
    | none =>
      match Path.fileName? headerPath with
      | some name => .ok name
      | none => .error (.outputBase r.outputBase)
  let o ← GenerationOptions.make headerName
  let o ← o.withCalls (r.calls.getD e.settings.generation.calls)
  return if e.settings.output.includeBanner then o.withBanner (banner time) else o

def draft (e : Engine) (files : Store) (time : String) (r : GenerateRequest) :
    Except Failure Draft := do
  let integrand ← integrand files r
  let i ← e.integral r integrand
  let headerPath := withExtension r.outputBase e.settings.output.headerExtension
  let sourcePath := withExtension r.outputBase e.settings.output.sourceExtension
  let o ← e.options time r headerPath
  let backend := r.backend.getD e.settings.generation.backend
  let code ← generateCode e.templates files backend i o
  return { headerPath, sourcePath, code }

def makeParent (files : Store) (path : String) : Store × Except Failure Unit :=
  match Path.parent? path with
  | none => (files, .ok ())
  | some parent =>
    if parent = "" then (files, .ok ())
    else
      let (made, outcome) := files.makeDirectories parent
      (made, Failure.whileDoing (.creatingDirectory parent) (Failure.ofIo outcome))

def writeFile (files : Store) (path content : String) : Except Failure Store :=
  Failure.whileDoing (.writingFile path) (Failure.ofIo (files.writeText path content))

/-- Writes the header, then the source. What has been written stays when a later step fails. -/
def Draft.write (d : Draft) (files : Store) : Store × Except Failure GeneratedFiles :=
  match makeParent files d.headerPath with
  | (made, .error f) => (made, .error f)
  | (made, .ok ()) =>
    match writeFile made d.headerPath d.code.header with
    | .error f => (made, .error f)
    | .ok half =>
      match writeFile half d.sourcePath d.code.source with
      | .error f => (half, .error f)
      | .ok done => (done, .ok ⟨d.headerPath, d.sourcePath⟩)

def generate (e : Engine) (files : Store) (time : String) (r : GenerateRequest) :
    Store × Except Failure GeneratedFiles :=
  match e.draft files time r with
  | .error f => (files, .error f)
  | .ok d => Draft.write d files

def inspect (files : Store) (path : String) : Except Failure (List DeclarationSummary) :=
  match SourceFile.load files path with
  | .error f => .error f
  | .ok file =>
    .ok (file.declarations.map fun d =>
      { name := d.name, signature := d.signature, extent := d.extent?, hasBody := d.hasBody files })

end Engine

end Quadrature
