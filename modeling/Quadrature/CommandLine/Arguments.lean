import Quadrature.Engine

/-!
The arguments of the command line. Options may stand anywhere, as `-n 5`, `-n5`, `-n=5`, `--n-calls 5`
or `--n-calls=5`; flags of one letter may be run together. The options for settings and logging may
stand before or after the command; after two hyphens everything is a plain argument.
-/

namespace Quadrature.CommandLine

inductive OptionName where
  | config
  | verbose
  | help
  | version
  | input
  | integrand
  | output
  | outputName
  | dependency
  | header
  | backend
  | calls
  | sourceDependency
  | json
deriving DecidableEq, Repr

inductive Level where
  | program
  | generate
  | inspect
deriving DecidableEq, Repr

namespace OptionName

def short? : OptionName → Option Char
  | .config => some 'c'
  | .verbose => some 'v'
  | .help => some 'h'
  | .version => some 'V'
  | .input => some 'i'
  | .integrand => some 'I'
  | .output => some 'o'
  | .outputName => some 'O'
  | .dependency => some 'd'
  | .header => some 'H'
  | .backend => some 'b'
  | .calls => some 'n'
  | .sourceDependency | .json => none

def long : OptionName → String
  | .config => "config"
  | .verbose => "verbose"
  | .help => "help"
  | .version => "version"
  | .input => "input"
  | .integrand => "integrand"
  | .output => "output"
  | .outputName => "output-name"
  | .dependency => "dependency"
  | .header => "header"
  | .backend => "backend"
  | .calls => "n-calls"
  | .sourceDependency => "source-dependency"
  | .json => "json"

def isFlag : OptionName → Bool
  | .verbose | .help | .version | .json => true
  | _ => false

end OptionName

def Level.options : Level → List OptionName
  | .program => [.config, .verbose, .help, .version]
  | .generate =>
    [.config, .verbose, .help, .input, .integrand, .output, .outputName, .dependency, .header,
      .backend, .calls, .sourceDependency]
  | .inspect => [.config, .verbose, .help, .json]

def unsigned? (s : String) : Option Nat :=
  let ds := match s.toList with
    | '+' :: r => r
    | r => r
  if !ds.isEmpty && ds.all Char.isDigit then
    let n := ds.foldl (fun n c => n * 10 + (c.toNat - 48)) 0
    if n < 2 ^ 64 then some n else none
  else none

def OptionName.takes : OptionName → String → Bool
  | .config, s | .input, s | .output, s => s ≠ ""
  | .backend, s => (Backend.ofName? s).isSome
  | .calls, s => match unsigned? s with
    | some n => 1 ≤ n
    | none => false
  | .sourceDependency, s => (unsigned? s).isSome
  | _, _ => true

structure Given where
  options : List (OptionName × String) := []
  plain : List String := []
  pending : Option OptionName := none
  onlyPlain : Bool := false

inductive Stop where
  | usage
  | version
  | help (level : Level)
deriving DecidableEq, Repr

namespace Given

def has (g : Given) (o : OptionName) : Bool := g.options.any (·.1 = o)

def value? (g : Given) (o : OptionName) : Option String := g.options.lookup o

def note (g : Given) (o : OptionName) (value : String) : Except Stop Given :=
  if (o ≠ .dependency && g.has o) || !o.takes value then .error .usage
  else .ok { g with options := (o, value) :: g.options, pending := none }

def noteFlag (level : Level) (g : Given) (o : OptionName) : Except Stop Given :=
  match o with
  | .help => .error (.help level)
  | .version => .error .version
  | _ => g.note o ""

def readLetters (level : Level) (g : Given) : List Char → Except Stop Given
  | [] => .ok g
  | c :: cs =>
    match level.options.find? (·.short? = some c) with
    | none => .error .usage
    | some o =>
      if o.isFlag then
        match g.noteFlag level o with
        | .error s => .error s
        | .ok g => readLetters level g cs
      else
        match cs with
        | [] => .ok { g with pending := some o }
        | '=' :: value => g.note o (String.ofList value)
        | value => g.note o (String.ofList value)

def readLong (level : Level) (g : Given) (cs : List Char) : Except Stop Given :=
  let name := String.ofList (cs.takeWhile (· ≠ '='))
  let value? := match cs.dropWhile (· ≠ '=') with
    | [] => none
    | _ :: v => some (String.ofList v)
  match level.options.find? (·.long = name) with
  | none => .error .usage
  | some o =>
    if o.isFlag then if value?.isSome then .error .usage else g.noteFlag level o
    else
      match value? with
      | some v => g.note o v
      | none => .ok { g with pending := some o }

/-- Reads one argument. A pending option takes no value that looks like an option. -/
def readOne (level : Level) (g : Given) (argument : String) : Except Stop Given :=
  if g.onlyPlain then .ok { g with plain := argument :: g.plain }
  else
    match argument.toList with
    | '-' :: '-' :: cs =>
      if g.pending.isSome then .error .usage
      else if cs.isEmpty then .ok { g with onlyPlain := true }
      else g.readLong level cs
    | '-' :: c :: cs =>
      if g.pending.isSome then .error .usage else g.readLetters level (c :: cs)
    | _ =>
      match g.pending with
      | some o => g.note o argument
      | none => .ok { g with plain := argument :: g.plain }

def plainLimit : Level → Nat
  | .inspect => 1
  | _ => 0

def readAll (level : Level) (g : Given) : List String → Except Stop Given
  | [] => if g.pending.isSome then .error .usage else .ok g
  | a :: as =>
    match g.readOne level a with
    | .error s => .error s
    | .ok g =>
      if plainLimit level < g.plain.length || g.plain.contains "" then .error .usage
      else g.readAll level as

end Given

inductive Command where
  | generate (request : GenerateRequest)
  | inspect (path : String) (json : Bool)
deriving Repr

structure Invocation where
  settingsPath : Option String
  verbose : Bool
  command : Command
deriving Repr

/-- A setting given after the command counts, or else the one given before it. -/
def invocation (outer inner : Given) (command : Command) : Invocation where
  settingsPath := (inner.value? .config).or (outer.value? .config)
  verbose := outer.has .verbose || inner.has .verbose
  command

def request? (g : Given) : Option GenerateRequest := do
  let input ← g.value? .input
  let function ← g.value? .integrand
  let outputBase ← g.value? .output
  return {
    input, function, outputBase
    integralName := g.value? .outputName
    dependencies := (g.options.filter (·.1 = .dependency)).reverse.map (·.2)
    headerName := g.value? .header
    backend := (g.value? .backend).bind Backend.ofName?
    calls := (g.value? .calls).bind unsigned?
    sourceComponents := (g.value? .sourceDependency).bind unsigned? }

def readGenerate (outer : Given) (arguments : List String) : Except Stop Invocation :=
  match Given.readAll .generate {} arguments with
  | .error s => .error s
  | .ok inner =>
    match request? inner with
    | none => .error .usage
    | some r => .ok (invocation outer inner (.generate r))

def readInspect (outer : Given) (arguments : List String) : Except Stop Invocation :=
  match Given.readAll .inspect {} arguments with
  | .error s => .error s
  | .ok inner =>
    match inner.plain with
    | [path] => .ok (invocation outer inner (.inspect path (inner.has .json)))
    | _ => .error .usage

def readHelp : List String → Stop
  | [] => .help .program
  | ["generate"] => .help .generate
  | ["inspect"] => .help .inspect
  | ["help"] => .help .program
  | _ => .usage

def readProgram (g : Given) : List String → Except Stop Invocation
  | [] => .error .usage
  | a :: as =>
    if g.pending.isNone && !g.onlyPlain && a = "generate" then readGenerate g as
    else if g.pending.isNone && !g.onlyPlain && a = "inspect" then readInspect g as
    else if g.pending.isNone && !g.onlyPlain && a = "help" then .error (readHelp as)
    else
      match g.readOne .program a with
      | .error s => .error s
      | .ok g => if g.plain.isEmpty then readProgram g as else .error .usage

def read (arguments : List String) : Except Stop Invocation := readProgram {} arguments

end Quadrature.CommandLine
