import Std.Time.DateTime
import UiPolicy.Program

/-!
# The executable

Collects what a run finds around it, lets the run take its steps, and writes what it has to say. The
run sees files as they were at its beginning.
-/

namespace UiPolicy

/-! ## Reading the surroundings -/

def readVariables : IO Variables := do
  let text ← try IO.FS.readFile "/proc/self/environ" catch _ => pure ""
  return .ofBlock text

/-- The file system with what stands at a place, if anything does. -/
def readPlace (files : Files) (place : List String) : IO Files := do
  try
    return files.withFile place (← IO.FS.readFile (Path.ofNames true place))
  catch
    | .noFileOrDirectory .. => return files
    | _ => return files.withDirectory place

/-- The file system with what stands along a path. -/
def readPath (files : Files) (path : String) : IO Files :=
  (files.placesAlong path).foldlM readPlace files

/-- The file system as far as a run looks at it. What the log and the command want to see hangs on
the configuration, so the configuration is read first. -/
def readFiles (words : List String) (vars : Variables) : IO Files := do
  let start : Files := ⟨.empty, Path.steps (toString (← IO.currentDir))⟩
  let settings ← (Program.settingPaths words vars).foldlM readPath start
  (Program.workPaths words vars settings).foldlM readPath settings

/-- A number with at least two digits. -/
def twoDigits (n : Int) : String :=
  if n < 10 then "0" ++ toString n else toString n

/-- The time now, in coordinated universal time. -/
def readTime : IO String := do
  let t := Std.Time.PlainDateTime.ofWallTime ((← Std.Time.Timestamp.now).toWallTime .zero)
  let nanoseconds := toString t.nanosecond.val
  let padding := String.ofList (List.replicate (9 - nanoseconds.length) '0')
  let day := [toString (t.year : Int), twoDigits t.month.val, twoDigits t.day.val]
  let clock := [twoDigits t.hour.val, twoDigits t.minute.val, twoDigits t.second.val]
  return String.intercalate "-" day ++ "T" ++ String.intercalate ":" clock ++ "." ++ padding ++
    nanoseconds ++ "+00:00"

def noTransport : Transport :=
  ⟨fun _ => .error "no network transport is available"⟩

/-! ## Writing -/

def writeLine : Logging.Sink × String → IO Unit
  | (.stdout, line) => IO.println line
  | (.stderr, line) => IO.eprintln line
  | (.file _, _) => return ()

/-- Adds to a file what the run has added to it. -/
def writeFile (before after : Files) (path : String) : IO Unit := do
  match before.read path, after.read path with
  | .ok old, .ok new =>
    if old ≠ new then
      (← IO.FS.Handle.mk path .append).putStr (String.ofList (new.toList.drop old.length))
  | .error _, .ok new =>
    if let some directory := Path.parent? path then
      if !directory.isEmpty then IO.FS.createDirAll directory
    (← IO.FS.Handle.mk path .append).putStr new
  | _, .error _ => return ()

def writeResult (surroundings : Surroundings) (result : RunResult) : IO UInt32 := do
  let paths := Program.workPaths surroundings.words surroundings.environment surroundings.files
  paths.forM (writeFile surroundings.files result.files)
  result.lines.forM writeLine
  return result.exitCode.toUInt32

end UiPolicy

open UiPolicy in
def main (words : List String) : IO UInt32 := do
  let vars ← readVariables
  let surroundings : Surroundings :=
    ⟨words, vars, ← readFiles words vars, noTransport, ← readTime⟩
  match Program.start surroundings with
  | .error result => writeResult surroundings result
  | .ok run =>
    let before ← IO.monoMsNow
    let executed ← IO.lazyPure fun _ => run.execute
    let after ← IO.monoMsNow
    writeResult surroundings (executed.finish (after - before))
