import TestRig.App.CommandLine
import TestRig.App.Run

/-!
The program behind the command line, as a function of the files, the environment and the
arguments. It reads the command line, loads and checks the project, and builds and runs the
tests with the project's tools on the host. The log records at the chosen level and the report
go to standard output, a failure's message to standard error.
-/

namespace TestRig.App

open TestRig.Build TestRig.Files

structure Finish where
  files : Tree
  exitCode : Nat
  stdout : String := ""
  log : List Log.Record := []
  logFormat : String := "text"
  stderr : String := ""

def testsFailedMessage : String := "unit tests failed"

/-- Runs the program over the files with an environment and arguments, its tools on a
machine. -/
def runProgram (mc : Machine) (fs : Tree) (environ : List String) (args : List String) : Finish :=
  match parseCommandLine args with
  | .help => { files := fs, exitCode := 0, stdout := usageText }
  | .exit code message => { files := fs, exitCode := code, stderr := message ++ "\n" }
  | .run o =>
    match load fs o with
    | .error f => { files := fs, exitCode := 1, stderr := f.message ++ "\n" }
    | .ok a =>
      let level := (parseLevel o.logLevel).toOption.getD .info
      let (result, s) := match (a.run environ (a.hostToolchain mc environ)).run { files := fs } with
        | .ok r s => (r, s)
        | .error e s => ((none, some e), s)
      let done : Finish := { files := s.files, exitCode := 0, stdout := s.console, log := Log.kept level s.log,
                             logFormat := o.logFormat }
      match result with
      | (_, some f) => { done with exitCode := 1, stderr := f.message ++ "\n" }
      | (some summary, none) =>
        if summary.failed then { done with exitCode := 1, stderr := testsFailedMessage ++ "\n" } else done
      | (none, none) => done

end TestRig.App
