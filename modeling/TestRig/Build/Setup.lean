import TestRig.Build.Toolchain
import TestRig.Build.Dispatch
import TestRig.Build.Hooks
import TestRig.Build.Layout
import TestRig.Files.Collect
import TestRig.Files.Locate
import TestRig.Text.Chars

/-!
What a build is given: the project root, the model and the snapshot of its configuration, the
project's files by role, the toolchain, the hooks, the directory of configuration fingerprints
when they are kept, and whether to stop after building.

The stages before the tests run use the pool of the compile budget, running the tests uses
that of the test budget.
-/

namespace TestRig.Build

open TestRig.Config TestRig.Files TestRig.Text

def stagePaths : String := "path_preparation"
def stageDirectives : String := "directive_extraction"
/-- Resolving the search paths, flags and defines. -/
def stageResolve : String := "context_resolution"
def stageExtract : String := "context_extraction"
def stagePlan : String := "planning"
/-- Preprocessing the headers that mocks are generated from. -/
def stageHeaders : String := "header_preprocessing"
def stageMocks : String := "mock_generation"
def stagePreprocess : String := "test_preprocessing"
def stageRunners : String := "runner_generation"
/-- Choosing the sources and objects of each executable. -/
def stageArtifacts : String := "artifact_resolution"
def stageCompile : String := "compilation"
def stageLink : String := "linking"
def stageExecute : String := "execution"

structure Setup where
  root : String := ""
  model : Model
  snap : Snapshot
  collections : Collections
  toolchain : Toolchain
  hooks : Registry := {}
  /-- The directory the configuration fingerprint is recorded in, when it is kept. -/
  fingerprints : Option String := none
  buildOnly : Bool := false
  /-- The processors of the machine: the workers of an `auto` budget. -/
  cpus : Nat := 1

namespace Setup

def layout (s : Setup) : Layout := Layout.ofModel s.root s.model s.snap.context

def compilePool (s : Setup) : Executor := .new (s.model.project.compileThreads.resolve s.cpus)

def testPool (s : Setup) : Executor := .new (s.model.project.testThreads.resolve s.cpus)

/-- The project's files, for locating the files tests name. -/
def index (s : Setup) : FileIndex :=
  let c := s.collections
  FileIndex.ofLists [c.sources, c.headers, c.assembly, c.support, c.tests]

/-- A path of the project: relative paths are taken from the project root. -/
def abs (s : Setup) (path : String) : String :=
  if path == "" || Path.isAbs path || s.root == "" then path else Path.join [s.root, path]

/-- Headers are preprocessed for mocks and tests are preprocessed. -/
def preprocessing (s : Setup) : Bool := s.model.project.useTestPreprocessor

def isHeader (s : Setup) (p : String) : Bool :=
  s.model.extensions.header != "" && p.endsWith s.model.extensions.header

/-- Locates a file a test names; an optional name with tied candidates is skipped with a
warning. -/
def locate (s : Setup) (t : Testable) (name : String) (policy : Policy) : BuildM String := do
  let p ← BuildM.lift (s.index.locate t.key name t.file policy)
  if p == "" && policy == .ignore && s.index.isAmbiguous name t.file then
    BuildM.logAt .warn "Skipped ambiguous optional file."
  return p

end Setup

/-- Keeps the first of each path and drops empty ones. -/
def dedupe (xs : List String) : List String :=
  xs.foldl (fun acc x => if x == "" || acc.contains x then acc else acc ++ [x]) []

/-- Runs a stage over every test on a pool; the tests are replaced only when all got
through. -/
def eachTest (e : Executor) (plan : Plan) (stage : String) (f : Testable → BuildM Testable) :
    BuildM Unit := do
  let tests := (← get).tests
  BuildM.logAt .info "Running stage."
  let updated ← mapItems e plan tests fun t => labelled stage t.key (f t)
  modify fun s => { s with tests := updated }

/-- Runs a stage over labelled items on a pool. -/
def eachItem (e : Executor) (plan : Plan) (stage : String) (items : List (String × BuildM Unit)) :
    BuildM Unit := do
  BuildM.logAt .info "Running stage."
  let _ ← mapItems e plan items fun (label, act) => labelled stage label act

end TestRig.Build
