import TestRig.Build.Setup

/-!
The stages that plan each test before anything is generated or compiled.

* Preparing paths gives a test its directories and result files, makes the directories, and
  removes a result left from an earlier run.
* Reading directives locates the sources a test asks for (headers among them are not linked)
  and checks that the include paths it names are directories.
-/

namespace TestRig.Build

open TestRig.Config TestRig.Files TestRig.Text TestRig.CSource TestRig.Rules

namespace Setup

/-! ### Paths -/

/-- Gives a test its directories and result files and makes the directories. -/
def preparePaths (s : Setup) (t : Testable) : BuildM Testable := do
  let l := s.layout
  let ext := s.model.extensions
  let t := { t with buildDir := l.contextDir, objectDir := l.objectDir t.key,
                    runnerDir := l.runnerDir, resultsDir := l.resultsDir,
                    resultPass := Path.join [l.resultsDir, t.key ++ ext.testPass],
                    resultFail := Path.join [l.resultsDir, t.key ++ ext.testFail] }
  let t := if s.model.project.useMocks then { t with mockDir := l.mockDir t.key } else t
  let t := if s.preprocessing then { t with preprocessDir := l.preprocessDir t.key } else t
  let dirs := [t.objectDir, t.runnerDir, t.resultsDir] ++
    (if s.model.project.useMocks then [t.mockDir] else []) ++
    (if s.preprocessing then [t.preprocessDir] else [])
  dirs.forM fun dir =>
    BuildM.change (·.mkdirAll dir) fun e => .plain ("failed to create '" ++ dir ++ "': " ++ e.message)
  [t.resultPass, t.resultFail].forM fun stale => do
    match (← BuildM.files).remove stale with
    | .ok fs => BuildM.setFiles fs
    | .error e =>
      if e.errno == .notExist then pure ()
      else throw (.plain ("failed to remove stale result '" ++ stale ++ "': " ++ e.message))
  return t

/-! ### Directives -/

/-- Locates the sources a test asks for and checks its include paths. -/
def readTestDirectives (s : Setup) (t : Testable) : BuildM Testable := do
  let d ← BuildM.lift (readDirectives (← BuildM.files) t.file)
  let resolved ← d.sources.mapM fun name => do
    let p ← s.locate t name .error
    pure { path := p, role := .source, noLink := s.isHeader p : SourceFile }
  let fs ← BuildM.files
  let includePaths ← d.includePaths.mapM fun dir => do
    let full := s.abs dir
    match fs.stat full with
    | .ok true => pure full
    | _ => throw (.graph t.key dir "include path not found")
  return { t with directives := { d with includePaths }, resolved }

/-! ### Search paths, flags and defines -/

/-- The directories every test searches after its own. -/
def baseSearchPaths (s : Setup) : Outcome (List String) := do
  let dirs ← ["paths_include", "paths_support", "paths_source"].mapM fun coll =>
    match s.snap.strings ("collections." ++ coll) with
    | none => failConfig ("collections." ++ coll) "collection is not defined"
    | some (.error msg) => .error (.plain msg)
    | some (.ok ds) => .ok (ds.map s.abs)
  return dedupe (dirs.flatten ++ s.collections.headers.map Path.dir ++ s.model.vendorPaths.map s.abs)

/-- The values a table of the model gives a test; a missing table gives none. -/
def matched (t : Option Table) (test : Testable) : List String := lookupIn t test.file

/-- Gives a test its search paths, flags and defines. -/
def resolveContext (s : Setup) (base : List String) (t : Testable) : Testable :=
  let m := s.model
  let ctx := s.snap.context
  let paths := [Path.dir t.file] ++ t.directives.includePaths ++
    (if t.mockDir != "" then [t.mockDir] else []) ++
    (matched (m.matcher "include_paths") t).map s.abs
  let defines := matched (m.defineTable ctx) t ++ matched (m.matcher "defines") t
  { t with searchPaths := dedupe (paths ++ base),
           compileFlags := matched (m.flagTable ctx "compile") t,
           assembleFlags := matched (m.flagTable ctx "assemble") t,
           linkFlags := matched (m.flagTable ctx "link") t,
           defines,
           preprocessDefines := match m.defineTable "preprocess" with
             | some table => lookupIn (some table) t.file
             | none => defines }

/-! ### Includes and test cases -/

/-- Gives a test its includes and test cases; a test without cases is worth a warning. -/
def readTestContext (t : Testable) : BuildM Testable := do
  let c ← BuildM.lift (readContext (← BuildM.files) t.file)
  if c.testCases.isEmpty then BuildM.logAt .warn "Test file declares no test cases."
  return { t with includes := c.includes, testCases := c.testCases }

/-! ### Runners and mocks -/

/-- The header a mock's include stands for: the include without the mock prefix, in the same
directory. -/
def mockedHeaderName (inc name pre headerExt : String) : String :=
  let header := trimPrefix name pre ++ headerExt
  let dir := Path.dir inc
  if dir == "." then header else Path.join [dir, header]

def plan (s : Setup) (t : Testable) : BuildM Testable := do
  let ext := s.model.extensions
  let pre := s.model.project.mockPrefix
  let t := { t with runnerSource := Path.join [t.runnerDir, t.key ++ "_runner" ++ ext.source], mocks := [] }
  if !s.model.project.useMocks then return t
  let (_, mocks) ← t.includes.foldlM (fun (seen, mocks) inc => do
    let base := Path.base inc
    if !base.startsWith pre || !base.endsWith ext.header then return (seen, mocks)
    let name := trimSuffix base ext.header
    if seen.contains name then return (seen, mocks)
    let header ← s.locate t (mockedHeaderName inc name pre ext.header) .error
    let input := if s.preprocessing then Path.join [t.preprocessDir, Path.base header] else header
    let mock : MockModule := { name, header, input,
                               source := Path.join [t.mockDir, name ++ ext.source],
                               outHeader := Path.join [t.mockDir, name ++ ext.header] }
    return (seen ++ [name], mocks ++ [mock])) (([] : List String), ([] : List MockModule))
  return { t with mocks }

end Setup

end TestRig.Build
