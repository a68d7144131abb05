import Quadrature.Files.Path
import Quadrature.Generation.Backend
import Quadrature.Generation.Options
import Quadrature.Toml.Document

/-!
Settings: what is used when a request leaves something open. They are kept in a TOML file with the
sections `generation`, `templates` and `output`; what the file does not say has its default, and what
it says beyond that is ignored.
-/

namespace Quadrature

structure GenerationSettings where
  backend : Backend := .gsl .plain
  calls : Nat := GenerationOptions.defaultCalls
  sourceComponents : Nat := 0
deriving DecidableEq, Repr

structure OutputSettings where
  headerExtension : String := "h"
  sourceExtension : String := "c"
  includeBanner : Bool := true
deriving DecidableEq, Repr

structure Settings where
  generation : GenerationSettings := {}
  templateDirectory : Option NativePath := none
  output : OutputSettings := {}
deriving DecidableEq, Repr

namespace Settings

open Toml

def natural? : Value → Option Nat
  | .integer n => if 0 ≤ n then some n.toNat else none
  | _ => none

def text? : Value → Option String
  | .text s => some s
  | _ => none

def flag? : Value → Option Bool
  | .flag b => some b
  | _ => none

def isEmpty : Value → Bool
  | .list [] | .tables [] | .table _ [] => true
  | _ => false

/-- A backend: its name, or a table whose one member has that name and holds nothing. -/
def backend? : Value → Option Backend
  | .text s => Backend.ofName? s
  | .table _ [(s, v)] => if isEmpty v then Backend.ofName? s else none
  | _ => none

/-- The members of a section. A list gives the first members in order; a date gives none. -/
def section? (keys : List String) : Option Value → Option Members
  | none => some []
  | some (.table _ ms) => some ms
  | some (.list vs) => some (keys.zip vs)
  | some (.tables items) => some (keys.zip (items.map (.table .header)))
  | some .date => some []
  | some _ => none

def read? {α : Type} (ms : Members) (key : String) (decode : Value → Option α) (default : α) :
    Option α :=
  match ms.lookup key with
  | none => some default
  | some v => decode v

def generation? (v : Option Value) : Option GenerationSettings := do
  let ms ← section? ["backend", "n_calls", "source_dependency_components"] v
  let d : GenerationSettings := {}
  return {
    backend := ← read? ms "backend" backend? d.backend
    calls := ← read? ms "n_calls" natural? d.calls
    sourceComponents := ← read? ms "source_dependency_components" natural? d.sourceComponents }

def templates? (v : Option Value) : Option (Option NativePath) := do
  let ms ← section? ["template_dir"] v
  read? ms "template_dir" (fun v => (text? v).map fun d => some d) none

def output? (v : Option Value) : Option OutputSettings := do
  let ms ← section? ["header_extension", "source_extension", "include_banner"] v
  let d : OutputSettings := {}
  return {
    headerExtension := ← read? ms "header_extension" text? d.headerExtension
    sourceExtension := ← read? ms "source_extension" text? d.sourceExtension
    includeBanner := ← read? ms "include_banner" flag? d.includeBanner }

def ofMembers? (ms : Members) : Option Settings := do
  let generation ← generation? (ms.lookup "generation")
  let templateDirectory ← templates? (ms.lookup "templates")
  let output ← output? (ms.lookup "output")
  return { generation, templateDirectory, output }

def isExtension (s : String) : Bool :=
  s ≠ "" && !s.toList.contains '/' && !s.toList.contains '\\'

def check (s : Settings) : Except Failure Unit :=
  if s.generation.calls < 1 then .error .settingsCalls
  else if !isExtension s.output.headerExtension then
    .error (.settingsExtension "output.header_extension" s.output.headerExtension)
  else if !isExtension s.output.sourceExtension then
    .error (.settingsExtension "output.source_extension" s.output.sourceExtension)
  else .ok ()

def read (source : String) : Except Failure Settings :=
  match (Toml.read? source).bind ofMembers? with
  | none => .error .malformedSettings
  | some s =>
    match s.check with
    | .error f => .error f
    | .ok () => .ok s

def load (files : Store) (path : String) : Except Failure Settings :=
  match files.readText path with
  | .error e => .error (.io e)
  | .ok source => read source

def defaultPaths : List String := ["Feynman.toml", "feynman.toml", ".feynman.toml"]

def loadOrDefault (files : Store) (path : Option String) : Except Failure Settings :=
  let candidates := match path with
    | some p => [p]
    | none => defaultPaths
  match candidates.find? files.pathExists with
  | some p => load files p
  | none => .ok {}

def keyLine (key value : String) : String := key ++ " = " ++ value ++ "\n"

def text (s : Settings) (directory : Option String) : String :=
  "[generation]\n" ++
    keyLine "backend" (written s.generation.backend.name) ++
    keyLine "n_calls" (toString s.generation.calls) ++
    keyLine "source_dependency_components" (toString s.generation.sourceComponents) ++
    "\n[templates]\n" ++
    (match directory with
      | some d => keyLine "template_dir" (written d)
      | none => "") ++
    "\n[output]\n" ++
    keyLine "header_extension" (written s.output.headerExtension) ++
    keyLine "source_extension" (written s.output.sourceExtension) ++
    keyLine "include_banner" (if s.output.includeBanner then "true" else "false")

def directoryText? (s : Settings) : Option (Option String) :=
  match s.templateDirectory with
  | none => some none
  | some d => d.text?.map some

/-- Writes settings to a file. What TOML cannot hold is refused before anything is written. -/
def save (s : Settings) (files : Store) (path : String) : Except Failure Store :=
  if 2 ^ 63 ≤ s.generation.calls || 2 ^ 63 ≤ s.generation.sourceComponents then
    .error .unwritableSettings
  else
    match s.directoryText? with
    | none => .error .unwritableDirectory
    | some directory => Failure.ofIo (files.writeText path (s.text directory))

end Settings

end Quadrature
