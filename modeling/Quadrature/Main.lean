import Quadrature.CommandLine.Calendar
import Quadrature.CommandLine.Needs
import Quadrature.CommandLine.Run
import Std.Time.DateTime.Timestamp

/-!
The program: it fetches the files that a run looks at, runs, and puts down what the run has changed.
-/

namespace Quadrature.CommandLine

def fetch (path : String) : IO (Option Entry) := do
  try
    let bytes ← IO.FS.readBinFile path
    return some (match String.fromUTF8? bytes with
      | some text => .text text
      | none => .bytes bytes.toList)
  catch e =>
    match e with
    | .noFileOrDirectory .. => return none
    | .inappropriateType .. => return some .directory
    | _ => return none

def fetchAll (files : Store) (paths : List String) : IO Store := do
  let mut files := files
  for path in paths do
    for (place, text) in pathWaypoints files path do
      if (files.at? place).isNone then
        if let some entry ← fetch text then
          files := files.put place entry
  return files

def putDown (before after : Store) : IO Unit := do
  for (path, text) in after.changedSince before do
    if let some parent := Path.parent? path then
      if parent ≠ "" then IO.FS.createDirAll parent
    IO.FS.writeFile path text

def presentTime : IO String := do
  let now ← Std.Time.Timestamp.now
  let nanos := now.toNanosecondsSinceUnixEpoch.toInt.toNat
  return timeText (nanos / 1000000000) (nanos % 1000000000)

def workingPlace : IO Place := do
  return Path.names (toString (← IO.currentDir))

def perform (i : Invocation) : IO Outcome := do
  let start : Store := { workingDirectory := ← workingPlace }
  let files ← fetchAll start i.settingsPaths
  let settings := match Settings.loadOrDefault files i.settingsPath with
    | .ok s => s
    | .error _ => {}
  let files ← fetchAll files (i.filePaths settings)
  let out := i.run files (← presentTime)
  putDown files out.files
  return out

end Quadrature.CommandLine

open Quadrature.CommandLine in
def main (arguments : List String) : IO UInt32 := do
  let out ← match read arguments with
    | .error s => do
      if s = .usage then IO.eprint usageText
      pure (s.outcome {})
    | .ok i => perform i
  IO.print out.printed
  if let some f := out.failure then IO.eprintln ("Error: " ++ f.message)
  return UInt32.ofNat out.exitCode
