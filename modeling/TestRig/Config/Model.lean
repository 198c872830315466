import TestRig.Config.Tool
import TestRig.Config.Budget
import TestRig.Rules.Table
import TestRig.Value.Basic

/-!
The configuration of a project, whatever file format it was read from: the project's settings,
the path specs of its file collections, its file extensions, where the test framework's
sources are, the tools it runs, the rule tables of flags, defines and matchers, the environment
of its commands, free variables, and the plugins it loads. A fresh model holds the built-in
defaults, which project files are layered over.
-/

namespace TestRig.Config

open TestRig.Rules TestRig.Text

/-! ### Named sections -/

/-- Sets the entry of a name, in place when the name is present. -/
def setEntry (xs : List (String × α)) (k : String) (v : α) : List (String × α) :=
  if xs.any (·.1 == k) then xs.map fun p => if p.1 == k then (k, v) else p else xs ++ [(k, v)]

/-- Inserts a name into a sorted list of names. -/
def insertName (x : String) : List String → List String
  | [] => [x]
  | y :: ys => if x < y then x :: y :: ys else y :: insertName x ys

def sortedNames (xs : List (String × α)) : List String :=
  (xs.map (·.1)).foldl (fun acc k => insertName k acc) []

def sortedEntries (xs : List (String × α)) : List (String × α) :=
  (sortedNames xs).filterMap fun k => (xs.lookup k).map (k, ·)

/-! ### Sections of the model -/

structure Project where
  name : String := "project"
  buildRoot : String := "build"
  testFilePrefix : String := "test_"
  mockPrefix : String := "mock_"
  useMocks : Bool := true
  useTestPreprocessor : Bool := false
  useExceptions : Bool := false
  useAssembly : Bool := false
  cleanOnConfigChange : Bool := false
  compileThreads : Budget := Budget.automatic
  testThreads : Budget := Budget.automatic
  deriving Repr, Inhabited

/-- The path specs of each collection of files: a directory, `dir/**` for a directory and
everything below it, or a glob. -/
structure Paths where
  test : List String := ["test/**"]
  source : List String := ["src/**"]
  includes : List String := []
  support : List String := ["test/support"]
  libraries : List String := []
  deriving Repr, Inhabited

/-- The file extensions of inputs and products. -/
structure Extensions where
  source : String := ".c"
  header : String := ".h"
  assembly : String := ".s"
  object : String := ".o"
  executable : String := ".out"
  dependencies : String := ".d"
  testPass : String := ".pass"
  testFail : String := ".fail"
  deriving Repr, Inhabited

/-- The directories of the test framework's runtime sources. -/
structure Vendor where
  unity : String := "vendor/unity/src"
  cmock : String := "vendor/cmock/src"
  cexception : String := "vendor/c_exception/lib"
  deriving Repr, Inhabited

/-- An environment variable of the project's commands; several values are joined by a space. -/
structure EnvVar where
  name : String
  values : List String
  deriving Repr, Inhabited

/-! ### Built-in tools -/

def compilerTool : String := "test_compiler"
def assemblerTool : String := "test_assembler"
def linkerTool : String := "test_linker"
def fixtureTool : String := "test_fixture"
def preprocessorTool : String := "test_file_preprocessor"

/-- The built-in tools, driving gcc; their positional inputs follow the build steps. -/
def defaultTools : List (String × Tool) :=
  let tool (name exe redirect : String) (args : List Argument) : String × Tool :=
    (name, { name := name, executable := exe, redirect := redirect, arguments := args })
  [tool compilerTool "gcc" "none"
     [.lit "-I\"$\x7b5\x7d\"", .lit "-D$\x7b6\x7d", .lit "$\x7b4\x7d", .lit "-c \"$\x7b1\x7d\"",
      .lit "-o \"$\x7b2\x7d\"", .lit "-MMD -MF \"$\x7b3\x7d\""],
   tool assemblerTool "as" "none"
     [.lit "$\x7b3\x7d", .lit "-I\"$\x7b4\x7d\"", .lit "\"$\x7b1\x7d\"", .lit "-o \"$\x7b2\x7d\""],
   tool linkerTool "gcc" "none"
     [.lit "\"$\x7b1\x7d\"", .lit "$\x7b3\x7d", .over "-L\"$\"" "paths_libraries", .over "$" "libraries",
      .lit "-o \"$\x7b2\x7d\""],
   tool fixtureTool "$\x7b1\x7d" "auto" [],
   tool preprocessorTool "gcc" "none"
     [.lit "-E", .lit "-I\"$\x7b4\x7d\"", .lit "-D$\x7b5\x7d", .lit "$\x7b3\x7d", .lit "\"$\x7b1\x7d\"",
      .lit "-o \"$\x7b2\x7d\""]]

/-! ### The model -/

/-- A project's configuration. Flags are keyed by build context, then by operation; defines by
build context; matchers by name. -/
structure Model where
  project : Project := {}
  paths : Paths := {}
  extensions : Extensions := {}
  vendor : Vendor := {}
  libraries : List String := []
  tools : List (String × Tool) := defaultTools
  flags : List (String × List (String × Table)) := []
  defines : List (String × Table) :=
    [("test", { name := "defines.test", mode := .firstMatch, rules := [⟨"*", some ["TEST"]⟩] })]
  matchers : List (String × Table) := []
  environment : List EnvVar := []
  vars : List (String × Value) := []
  plugins : List String := ["stdout_report"]
  /-- The files the model was read from, in order. -/
  files : List String := []
  deriving Inhabited

namespace Model

/-- The flag table of a build context and an operation. -/
def flagTable (m : Model) (context operation : String) : Option Table :=
  (m.flags.lookup context).bind (·.lookup operation)

def defineTable (m : Model) (context : String) : Option Table := m.defines.lookup context

def matcher (m : Model) (name : String) : Option Table := m.matchers.lookup name

def tool (m : Model) (name : String) : Option Tool := m.tools.lookup name

/-- The tools a build with this configuration runs. -/
def requiredTools (m : Model) : List String :=
  [compilerTool, linkerTool, fixtureTool] ++
    (if m.project.useTestPreprocessor then [preprocessorTool] else []) ++
    (if m.project.useAssembly then [assemblerTool] else [])

/-- The framework runtime directories that the project's settings enable. -/
def vendorPaths (m : Model) : List String :=
  [m.vendor.unity] ++ (if m.project.useMocks then [m.vendor.cmock] else []) ++
    (if m.project.useExceptions then [m.vendor.cexception] else [])

def budgetFault (path : String) (b : Budget) : Option Fault :=
  if b.valid then none
  else some (.config path ("worker budget must be 'auto' or a positive integer, got " ++ intText b.count))

def validate (m : Model) : Option Fault :=
  if isBlankText m.project.buildRoot then some (.config "project.build_root" "must not be empty")
  else (budgetFault "project.compile_threads" m.project.compileThreads).orElse fun _ =>
    (budgetFault "project.test_threads" m.project.testThreads).orElse fun _ =>
    (if m.extensions.source == "" || m.extensions.object == "" then
      some (.config "extension" "source and object extensions are required") else none).orElse fun _ =>
    (m.requiredTools.findSome? fun n =>
      if (m.tool n).isNone then some (.config ("tools." ++ n) "tool is required but not defined")
      else none).orElse fun _ =>
    ((sortedEntries m.tools).findSome? fun (n, t) => Tool.validate ("tools." ++ n) (some t)).orElse fun _ =>
    ((sortedEntries m.flags).findSome? fun (_, ops) =>
      (sortedEntries ops).findSome? fun (_, t) => t.validate).orElse fun _ =>
    ((sortedEntries m.defines).findSome? fun (_, t) => t.validate).orElse fun _ =>
    ((sortedEntries m.matchers).findSome? fun (_, t) => t.validate).orElse fun _ =>
    (m.environment.zipIdx.findSome? fun (e, i) =>
      if isBlankText e.name then some (.config ("environment[" ++ toString i ++ "]") "entry has no name")
      else none)

end Model

end TestRig.Config
