import Quadrature.CommandLine.Arguments

/-!
The paths that an invocation looks at, so that they can be fetched before it runs.
-/

namespace Quadrature.CommandLine

def Invocation.settingsPaths (i : Invocation) : List String :=
  match i.settingsPath with
  | some p => [p]
  | none => Settings.defaultPaths

def Invocation.filePaths (i : Invocation) (s : Settings) : List String :=
  let templates := match (s.templateDirectory : Option String) with
    | some d => TemplateName.all.map fun n => Path.join d (n.text ++ ".tera")
    | none => []
  let named := match i.command with
    | .generate r =>
      [r.input, Engine.withExtension r.outputBase s.output.headerExtension,
        Engine.withExtension r.outputBase s.output.sourceExtension]
    | .inspect path _ => [path]
  templates ++ named

def waypoints : List String → Place → List String → List (Place × String)
  | _, _, [] => []
  | before, p, part :: rest =>
    let here := before ++ [part]
    let q := if part = "" || part = "." then p else if part = ".." then p.dropLast else p ++ [part]
    (q, Text.join "/" here) :: waypoints here q rest

def pathWaypoints (files : Store) (path : String) : List (Place × String) :=
  (waypoints [] (files.start path) (Store.pathParts path)).filter fun (_, text) => text ≠ ""

end Quadrature.CommandLine
