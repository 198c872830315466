import TestRig.ProjectFile.Yaml
import TestRig.ProjectFile.Hcl
import TestRig.Files.Tree

/-!
Loading project files from a file tree. YAML files are read in the order given, each over the
model the files before it made. For the configuration language, each path is a file or a
directory whose `.hcl` files below it count, in walk order; a file named twice is read once. A
failure in applying such a file is reported with the file's name before it.
-/

namespace TestRig.ProjectFile

open TestRig.Config TestRig.Files

def unreadable (path : String) (e : IoError) : Fault :=
  .plain ("failed to read config file " ++ path ++ ": " ++ e.message)

/-- The text of a YAML project file, its bytes read as the YAML reader reads them. -/
def readYaml (fs : Tree) (path : String) : Except Fault String := do
  let data ← (fs.readFile path).mapError (unreadable path)
  (Yaml.textOf data).mapError (invalidYaml path)

/-- Reads YAML project files over the defaults, in order. -/
def loadYamlFiles (fs : Tree) (paths : List String) : Except Fault Model :=
  paths.foldlM (fun m path => do
    let text ← readYaml fs path
    let m ← applyYaml m path text
    return { m with files := m.files ++ [path] }) {}

/-- The files in the configuration language that paths name: a file itself, or the `.hcl`
files below a directory in walk order; each file once. -/
def hclFiles (fs : Tree) (paths : List String) : Except Fault (List String) :=
  paths.foldlM (fun acc path => do
    let isDir ← (fs.stat path).mapError (unreadable path)
    let found := if !isDir then [path]
      else
        let abs := fs.resolve path
        (fs.walk abs).filterMap fun (q, qDir) =>
          let rel := Path.join [path, String.ofList (q.toList.drop (abs.length + 1))]
          if !qDir && Path.ext q == ".hcl" then some rel else none
    return found.foldl (fun acc f => if acc.contains f then acc else acc ++ [f]) acc) []

/-- Reads project files in the configuration language over the defaults. -/
def loadHclFiles (fs : Tree) (paths : List String) : Except Fault Model := do
  let files ← hclFiles fs paths
  files.foldlM (fun m file => do
    let text := (fs.readText file).toOption.getD ""
    let (body, ds) := Hcl.parseConfig file text
    if !ds.isEmpty then
      throw (.config file ("failed to parse HCL: " ++ Hcl.diagnosticsText ds))
    let m ← (applyHclBody m body).mapError (.wrap ("in " ++ file))
    return { m with files := m.files ++ [file] }) {}

end TestRig.ProjectFile
