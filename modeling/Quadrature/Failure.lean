import Quadrature.Files.Store
import Quadrature.Json.Printer
import Quadrature.Text.Quoted

/-!
Everything that can go wrong, as causes. A cause has a kind and a wording; the message of a failure is
the label of its kind followed by the wording. A failure that is met while something larger is under
way keeps its kind, and its message names the larger activity only.
-/

namespace Quadrature

inductive FailureKind where
  | validation
  | type
  | parse
  | config
  | io
  | template
  | other
deriving DecidableEq, Repr

def FailureKind.label : FailureKind → String
  | .validation => "Validation error: "
  | .type => "Type error: "
  | .parse => "Parse failure: "
  | .config => "Configuration error: "
  | .io => "IO error: "
  | .template => "Template error: "
  | .other => ""

/-- The activities whose name stands in for the cause of a failure. -/
inductive Activity where
  | loadingTemplates (directory : String)
  | creatingDirectory (path : String)
  | writingFile (path : String)
deriving DecidableEq, Repr

def Activity.message : Activity → String
  | .loadingTemplates d => s!"Failed to load templates from {d}"
  | .creatingDirectory p => s!"Failed to create {p}"
  | .writingFile p => s!"Failed to write {p}"

inductive Failure where
  | identifierCharacters (text : String)
  | identifierEmpty
  | identifierStart (text : String)
  | identifierNotText (value : Json)
  | declarationUnnamed
  | argumentCounts (name : String) (types names : Nat)
  | dependencyBlank
  | noPathComponents
  | parameterCounts (path name : String) (parameters types : Nat)
  | pathEmpty
  | pathMissing (path : String)
  | pathNotFile (path : String)
  | unreadable (path : String) (cause : IoError)
  | syntaxError (line : Nat)
  | headerNameBlank
  | tooFewCalls
  | noArguments (integrand : String)
  | noDefinition (integrand : String)
  | templateParse (name : String)
  | templateRender (name : String)
  | templateMissing (name : String)
  | io (cause : IoError)
  | malformedSettings
  | unwritableSettings
  | unwritableDirectory
  | settingsCalls
  | settingsExtension (key value : String)
  | unknownFunction (name path : String)
  | outputBase (base : String)
  | reported (kind : FailureKind) (text : String)
  | inFile (path : String) (cause : Failure)
  | during (activity : Activity) (cause : Failure)
deriving Repr

namespace Failure

def kind : Failure → FailureKind
  | .identifierCharacters _ | .identifierEmpty | .identifierStart _ | .declarationUnnamed
  | .argumentCounts _ _ _ | .dependencyBlank | .noPathComponents | .pathEmpty | .pathMissing _
  | .pathNotFile _ | .headerNameBlank | .tooFewCalls | .noArguments _ | .noDefinition _ =>
    .validation
  | .identifierNotText _ => .type
  | .parameterCounts _ _ _ _ | .unreadable _ _ | .syntaxError _ => .parse
  | .templateParse _ | .templateRender _ | .templateMissing _ => .template
  | .io _ => .io
  | .malformedSettings | .unwritableSettings | .unwritableDirectory | .settingsCalls
  | .settingsExtension _ _ => .config
  | .unknownFunction _ _ | .outputBase _ => .other
  | .reported k _ => k
  | .inFile _ c => c.kind
  | .during _ c => c.kind

def wording : Failure → String
  | .identifierCharacters s =>
    s!"'{s}' must contain only alphanumeric characters and underscores"
  | .identifierEmpty => "An identifier must contain at least one letter"
  | .identifierStart s => s!"'{s}' must start with a letter"
  | .identifierNotText v => "Expected an identifier string, found " ++ v.compact
  | .declarationUnnamed => "A function declaration must have a name"
  | .argumentCounts name types names =>
    s!"Function '{name}' has {types} argument types but {names} argument names"
  | .dependencyBlank => "Dependency cannot be empty"
  | .noPathComponents => "You must use at least one path component in an include dependency"
  | .parameterCounts path name parameters types =>
    s!"{path}: function '{name}' has {parameters} parameter declarations for {types} argument types"
  | .pathEmpty => "The file path must not be empty"
  | .pathMissing p => s!"The file path must point to a file which exists: {p}"
  | .pathNotFile p => s!"The file path must point to a file: {p}"
  | .unreadable p e => s!"Unable to read {p}: " ++ e.message
  | .syntaxError line => s!"Syntax error near line {line}"
  | .headerNameBlank => "The header include name must not be empty"
  | .tooFewCalls => "The number of calls must be at least one"
  | .noArguments f => s!"Cannot integrate '{f}': the integrand takes no arguments"
  | .noDefinition f =>
    s!"The OpenCL backend needs the definition of '{f}', not just its prototype"
  | .templateParse name => s!"Failed to parse '{name}'"
  | .templateRender name => s!"Failed to render '{name}'"
  | .templateMissing name => s!"Template '{name}' not found"
  | .io e => e.message
  | .malformedSettings => "TOML parse error"
  | .unwritableSettings => "out-of-range value for u64 type"
  | .unwritableDirectory => "path contains invalid UTF-8 characters"
  | .settingsCalls => "generation.n_calls must be at least 1"
  | .settingsExtension key value =>
    s!"{key} must be a plain file extension, got " ++ Text.quoted value
  | .unknownFunction name path => s!"No function named '{name}' in {path}"
  | .outputBase base => s!"Invalid output base: {base}"
  | .reported _ text => text
  | .inFile path c => s!"{path}: " ++ c.wording
  | .during a _ => a.message

def message : Failure → String
  | .during a _ => a.message
  | f => f.kind.label ++ f.wording

def whileDoing {α : Type} (a : Activity) : Except Failure α → Except Failure α
  | .ok x => .ok x
  | .error f => .error (.during a f)

end Failure

def Failure.ofIo {α : Type} : Except IoError α → Except Failure α
  | .ok x => .ok x
  | .error e => .error (.io e)

end Quadrature
