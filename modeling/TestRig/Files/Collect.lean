import TestRig.Files.Glob
import TestRig.Config.Model

/-!
Collecting the files of a project from its path specs. A spec is a directory (its files
directly inside), a directory followed by `/**` (every file below it), a shell pattern (the
files it matches, and the files directly inside the directories it matches), or a single file.
Only files with one of the wanted extensions are kept; paths are cleaned, repeats dropped, and
the result sorted.
-/

namespace TestRig.Files

open TestRig.Config

/-- The name ends with one of the extensions; empty extensions never match. -/
def hasExtension (name : String) (exts : List String) : Bool :=
  exts.any fun e => e != "" && name.endsWith e

/-- The text of the failure when files are collected by extension without any extension. -/
def noExtensions : String := "panic: at least one extension is required"

/-- The files at or below a path with one of the extensions, in walk order: a directory's
entries sorted by name, each directory's files where it stands. -/
def Tree.filesBelow (t : Tree) (root : String) (exts : List String) : List String :=
  let abs := t.resolve root
  match t.nodeAt abs with
  | some .dir =>
    (t.walk abs).filterMap fun (q, isDir) =>
      if isDir || !hasExtension (Path.base q) exts then none
      else some (Path.join [root, String.ofList (q.toList.drop (abs.length + 1))])
  | some (.file _) => if hasExtension (Path.base root) exts then [root] else []
  | none => []

/-- The files directly inside a directory with one of the extensions, sorted by name. -/
def Tree.filesIn (t : Tree) (dir : String) (exts : List String) : List String :=
  let abs := t.resolve dir
  (t.children abs).filterMap fun name =>
    match t.nodeAt (if abs == "/" then "/" ++ name else abs ++ "/" ++ name) with
    | some (.file _) => if hasExtension name exts then some (Path.join [dir, name]) else none
    | _ => none

def Tree.specFiles (t : Tree) (root spec : String) (exts : List String) : Except String (List String) :=
  let full := if !Path.isAbs spec && root != "" then Path.join [root, spec] else spec
  if spec.endsWith "/**" then
    let dir := String.ofList (full.toList.take (full.length - (if full.endsWith "/**" then 3 else 0)))
    if !t.isDir dir then .ok []
    else if exts.isEmpty then .error noExtensions
    else .ok (t.filesBelow dir exts)
  else if spec.any (fun c => c == '*' || c == '?' || c == '[') then do
    let hits ← t.glob full
    return hits.flatMap fun m =>
      if t.isDir m then t.filesIn m exts
      else if hasExtension m exts then [m] else []
  else if !t.isDir full then
    .ok (if hasExtension full exts && t.exists_ full then [full] else [])
  else .ok (t.filesIn full exts)

/-- The files that path specs name under a root, cleaned, without repeats, sorted. -/
def Tree.collect (t : Tree) (root : String) (specs : List String) (exts : List String) :
    Except String (List String) := do
  let found ← specs.foldlM (fun acc spec =>
    if spec == "" then .ok acc
    else do
      let files ← t.specFiles root spec exts
      return files.foldl (fun acc f =>
        let f := Path.clean f
        if acc.contains f then acc else acc ++ [f]) acc) []
  return found.mergeSort (· ≤ ·)

structure Collections where
  tests : List String := []
  sources : List String := []
  headers : List String := []
  assembly : List String := []
  support : List String := []
  deriving Inhabited

/-- Every file of the collections: tests, sources, headers, assembly, then support files. -/
def Collections.all (c : Collections) : List String :=
  c.tests ++ c.sources ++ c.headers ++ c.assembly ++ c.support

/-- The files of a project under a root, by role. -/
def Tree.discover (t : Tree) (root : String) (m : Model) : Except String Collections := do
  let ext := m.extensions
  let candidates ← t.collect root m.paths.test [ext.source]
  let tests := candidates.filter fun f => (Path.base f).startsWith m.project.testFilePrefix
  let sources ← t.collect root m.paths.source [ext.source]
  let support ← t.collect root m.paths.support [ext.source]
  let headers ← t.collect root (m.paths.source ++ m.paths.includes ++ m.paths.test ++ m.paths.support)
    [ext.header]
  let assembly ← if m.project.useAssembly && ext.assembly != "" then
      t.collect root (m.paths.source ++ m.paths.support) [ext.assembly]
    else pure []
  return { tests, sources, headers, assembly, support }

end TestRig.Files
