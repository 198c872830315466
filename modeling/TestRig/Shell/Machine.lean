import TestRig.Shell.Exec
import TestRig.Build.Tools

/-!
The machine the program's tools run on: the programs of `/bin` and `/usr/bin` found on the
search path `/usr/bin:/bin`, and command lines run by the full shell with `-c`.
-/

namespace TestRig.Shell

open TestRig.Files

def searchPath : String := "/usr/bin:/bin"

def executableFound (exe : String) : Bool :=
  if exe.contains '/' then
    programDirs.contains (Path.dir exe) && onSearchPath (some searchPath) (Path.base exe)
  else onSearchPath (some searchPath) exe

def machine : Build.Machine where
  found := executableFound
  runLine files dir env line :=
    let (files, ex) := runLine files dir env line
    { files, output := ex.output, status := ex.status, signaled := ex.signaled,
      interrupted := ex.interrupted, took := ex.took }

end TestRig.Shell
