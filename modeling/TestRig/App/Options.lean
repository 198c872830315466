import TestRig.Text.Blank
import TestRig.Text.Case
import TestRig.Text.Quoted
import TestRig.Log.Record

/-!
The options of a run of the application: the project file (or directory of files), the format
and level of its log, whether to build only, whether to clean first, and the tests to run (all
when none are named). Normalizing options fills in the defaults for what is unset and refuses
an unknown log format or level and an empty test name.
-/

namespace TestRig.App

open TestRig.Text

def defaultProjectFile : String := "project.yml"

structure Options where
  projectFile : String := ""
  logFormat : String := ""
  logLevel : String := ""
  buildOnly : Bool := false
  clean : Bool := false
  tests : List String := []
  deriving Inhabited, Repr

def parseLevel (s : String) : Except String Log.Level :=
  let level : Option Log.Level := match toLower s with
    | "debug" => some .debug
    | "info" => some .info
    | "warn" => some .warn
    | "error" => some .error
    | _ => none
  match level with
  | none => .error ("invalid log level '" ++ s ++ "': must be 'debug', 'info', 'warn', or 'error'")
  | some l =>
    if ["DEBUG", "INFO", "WARN", "ERROR"].contains (toUpper s) then .ok l
    else .error ("slog: level string " ++ quote s ++ ": unknown name")

/-- The options with defaults filled in, or why they are unusable. -/
def Options.normalize (o : Options) : Except String Options := do
  let o := if isBlankText o.projectFile then { o with projectFile := defaultProjectFile } else o
  let o := if o.logFormat == "" then { o with logFormat := "text" } else o
  let o := if o.logLevel == "" then { o with logLevel := "info" } else o
  if o.logFormat != "text" && o.logFormat != "json" then
    throw ("invalid log format '" ++ o.logFormat ++ "': must be 'text' or 'json'")
  discard (parseLevel o.logLevel)
  if o.tests.any isBlankText then throw "test selection must not contain empty names"
  return o

end TestRig.App
