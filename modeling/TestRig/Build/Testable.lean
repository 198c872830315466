import TestRig.CSource.Extract
import TestRig.CSource.Mock
import TestRig.Files.Path

/-!
The plan of one test: the test file and the key that names it, the directories its build
writes to, what its source declares, the search paths, flags and defines it is compiled with,
the mocks it needs, the sources its executable is linked from, and where its result goes.

Beside it stand the steps a toolchain is asked to carry out: compiling one source, linking one
executable, preprocessing one file and running one executable.
-/

namespace TestRig.Build

open TestRig.CSource TestRig.Files

/-! ### Sources -/

inductive Role where
  | test
  | runner
  | mock
  | source
  | framework
  | support
  deriving DecidableEq, Repr, Inhabited

def Role.name : Role → String
  | .test => "test"
  | .runner => "runner"
  | .mock => "mock"
  | .source => "source"
  | .framework => "framework"
  | .support => "support"

structure SourceFile where
  path : String
  object : String := ""
  role : Role
  noLink : Bool := false
  deriving Repr, Inhabited

/-! ### The plan of a test -/

/-- The key of a test file: its base name without the extension. -/
def keyFor (path : String) : String := Path.stem path

/-- Everything the build has decided about one test so far. -/
structure Testable where
  key : String
  file : String
  buildDir : String := ""
  objectDir : String := ""
  mockDir : String := ""
  preprocessDir : String := ""
  runnerDir : String := ""
  resultsDir : String := ""
  directives : Directives := {}
  /-- The sources that the directives name, as located among the project's files. -/
  resolved : List SourceFile := []
  searchPaths : List String := []
  compileFlags : List String := []
  assembleFlags : List String := []
  linkFlags : List String := []
  defines : List String := []
  preprocessDefines : List String := []
  includes : List String := []
  testCases : List TestCase := []
  mocks : List MockModule := []
  preprocessedFile : String := ""
  runnerSource : String := ""
  sources : List SourceFile := []
  objects : List String := []
  executable : String := ""
  resultPass : String := ""
  resultFail : String := ""
  deriving Repr, Inhabited

/-- The file the test's own object is compiled from: the preprocessed test file when there is
one, else the test file. -/
def Testable.compileInput (t : Testable) : String :=
  if t.preprocessedFile.isEmpty then t.file else t.preprocessedFile

/-! ### Steps of a toolchain -/

/-- Compiling one source of a test into an object, with the dependency file the compiler
writes beside it. -/
structure CompileStep where
  test : String
  source : String
  object : String
  depFile : String
  flags : List String
  searchPaths : List String
  defines : List String
  deriving Repr, Inhabited

/-- The label of a compile step in failures: its test and the name of its source file. -/
def CompileStep.label (step : CompileStep) : String := step.test ++ "/" ++ Path.base step.source

/-- Linking the objects of a test into its executable. -/
structure LinkStep where
  test : String
  objects : List String
  executable : String
  flags : List String
  deriving Repr, Inhabited

/-- Preprocessing one file of a test into an output file. -/
structure PreprocessStep where
  test : String
  source : String
  output : String
  flags : List String
  searchPaths : List String
  defines : List String
  deriving Repr, Inhabited

structure ExecStep where
  test : String
  executable : String
  deriving Repr, Inhabited

end TestRig.Build
