import TestRig.App.Program
import TestRig.Shell.Machine

/-!
The command line program. It loads the files under the working directory, runs the program
over them with the process environment and the arguments, writes back what the run changed,
prints the log records and the report on standard output and a failure on standard error, and
exits with the run's status.
-/

open TestRig

/-- A log record as a line in the chosen format. -/
def recordLine (json : Bool) (r : Log.Record) : String :=
  if json then "\x7b\"level\":" ++ Text.quote r.level.name ++ ",\"msg\":" ++ Text.quote r.message ++ "\x7d"
  else
    let plain := !r.message.isEmpty && r.message.all fun c => c.toNat > 32 && c != '=' && c != '"'
    "level=" ++ r.level.name ++ " msg=" ++ (if plain then r.message else Text.quote r.message)

def readEnviron : IO (List String) := do
  try
    let data ← IO.FS.readBinFile "/proc/self/environ"
    return ((String.fromUTF8? data).getD "" |>.splitOn (String.singleton (Char.ofNat 0))).filter (· != "")
  catch _ => return []

/-- The directories and files under a directory of the working directory, by their paths
from it; a file comes with its bytes. -/
partial def loadUnder (rel : String) : IO (List (String × Option ByteArray)) := do
  let here ← IO.currentDir
  let dir := if rel.isEmpty then here else here / rel
  let mut found := []
  for e in ← dir.readDir do
    let path := if rel.isEmpty then e.fileName else rel ++ "/" ++ e.fileName
    if ← (here / path).isDir then
      found := found ++ [(path, none)] ++ (← loadUnder path)
    else
      found := found ++ [(path, some (← IO.FS.readBinFile (here / path)))]
  return found

/-- Writes back the files and directories a run made or changed, and removes those it
removed. -/
def writeBack (before after : Files.Tree) (cwd : String) : IO Unit := do
  let old := before.walk cwd
  let new := after.walk cwd
  for (path, isDir) in new do
    if isDir then IO.FS.createDirAll path
    else match after.nodeAt path, before.nodeAt path with
      | some (.file d), some (.file e) => if d.toList != e.toList then IO.FS.writeBinFile path d
      | some (.file d), _ => IO.FS.writeBinFile path d
      | _, _ => pure ()
  for (path, isDir) in old.reverse do
    if (after.nodeAt path).isNone then
      try
        if isDir then IO.FS.removeDirAll path else IO.FS.removeFile path
      catch _ => pure ()

/-- Runs the program and exits with its status. -/
def main (args : List String) : IO UInt32 := do
  let cwd := (← IO.currentDir).toString
  let entries ← loadUnder ""
  let tree := entries.foldl (fun t (path, data) =>
    match data with
    | some d => t.withFile path d
    | none => match t.mkdirAll path with
      | .ok t => t
      | .error _ => t) (Files.Tree.empty cwd)
  let environ ← readEnviron
  let r := App.runProgram Shell.machine tree environ args
  writeBack tree r.files cwd
  let json := r.logFormat == "json"
  let out ← IO.getStdout
  for rec in r.log do
    out.putStrLn (recordLine json rec)
  out.putStr r.stdout
  out.flush
  let err ← IO.getStderr
  err.putStr r.stderr
  err.flush
  return r.exitCode.toUInt32
