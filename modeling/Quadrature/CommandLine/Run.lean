import Quadrature.CommandLine.Help

/-!
Runs of the program: what it prints, what becomes of the files, and the code it exits with.
-/

namespace Quadrature.CommandLine

structure Outcome where
  exitCode : Nat
  printed : String
  failure : Option Failure
  files : Store

def extentData (e : C.Extent) : Json :=
  .object [("start_line", .natural e.startLine), ("start_column", .natural e.startColumn),
    ("end_line", .natural e.endLine), ("end_column", .natural e.endColumn)]

def summaryData (s : DeclarationSummary) : Json :=
  .object [("name", .text s.name), ("signature", .text s.signature),
    ("extent", match s.extent with
      | some e => extentData e
      | none => .null),
    ("has_body", .flag s.hasBody)]

def extentText (e : C.Extent) : String :=
  toString e.startLine ++ ":" ++ toString e.startColumn ++ "-" ++ toString e.endLine ++ ":" ++
    toString e.endColumn

def summaryLine (s : DeclarationSummary) : String :=
  (match s.extent with
    | some e => extentText e
    | none => "-") ++ "\t" ++ (if s.hasBody then "definition" else "prototype") ++ "\t" ++ s.signature

def summariesText (json : Bool) (ss : List DeclarationSummary) : String :=
  if json then (Json.list (ss.map summaryData)).pretty ++ "\n"
  else textLines (ss.map summaryLine)

def execute (e : Engine) (files : Store) (time : String) : Command → Outcome
  | .generate r =>
    match e.generate files time r with
    | (files, .ok out) => ⟨0, textLines [out.header, out.source], none, files⟩
    | (files, .error f) => ⟨1, "", some f, files⟩
  | .inspect path json =>
    match Engine.inspect files path with
    | .ok ss => ⟨0, summariesText json ss, none, files⟩
    | .error f => ⟨1, "", some f, files⟩

def Invocation.run (i : Invocation) (files : Store) (time : String) : Outcome :=
  match Engine.make files i.settingsPath with
  | .error f => ⟨1, "", some f, files⟩
  | .ok e => execute e files time i.command

def Stop.outcome (files : Store) : Stop → Outcome
  | .usage => ⟨2, "", none, files⟩
  | .version => ⟨0, Engine.programName ++ "\n", none, files⟩
  | .help level => ⟨0, helpText level, none, files⟩

def run (arguments : List String) (files : Store) (time : String) : Outcome :=
  match read arguments with
  | .error s => s.outcome files
  | .ok i => i.run files time

end Quadrature.CommandLine
