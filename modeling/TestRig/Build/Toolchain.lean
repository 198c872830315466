import TestRig.Build.Session
import TestRig.Command.Render
import TestRig.Results.Basic

/-!
Toolchains: how a build carries out its steps. A toolchain gives the command line a compile
step stands for (the object cache keys objects by it), and compiles, links, preprocesses and
runs executables inside a build session.
-/

namespace TestRig.Build

open TestRig.Config TestRig.Files TestRig.Results

structure Toolchain where
  /-- The command line a compile step stands for. -/
  compileLine : CompileStep → Outcome String
  compile : CompileStep → BuildM Unit
  link : LinkStep → BuildM Unit
  preprocess : PreprocessStep → BuildM Unit
  execute : ExecStep → BuildM Run

/-! ### Commands of the project's tools -/

/-- Renders a tool of the model with positional inputs. -/
def renderTool (m : Model) (snap : Snapshot) (name : String) (inputs : List Input) :
    Outcome Command :=
  match m.tool name with
  | none => failConfig ("tools." ++ name) "tool is not defined"
  | some tool => Command.build snap (some tool) [] inputs

def isAssembly (m : Model) (path : String) : Bool :=
  m.extensions.assembly != "" && path.endsWith m.extensions.assembly

/-- The command of a compile step: the assembler's for an assembly source, else the
compiler's. -/
def compileCommand (m : Model) (snap : Snapshot) (step : CompileStep) : Outcome Command :=
  if isAssembly m step.source then
    renderTool m snap assemblerTool
      [.one step.source, .one step.object, .many step.flags, .many step.searchPaths]
  else
    renderTool m snap compilerTool
      [.one step.source, .one step.object, .one step.depFile, .many step.flags,
       .many step.searchPaths, .many step.defines]

def linkCommand (m : Model) (snap : Snapshot) (step : LinkStep) : Outcome Command :=
  renderTool m snap linkerTool [.many step.objects, .one step.executable, .many step.flags]

def preprocessCommand (m : Model) (snap : Snapshot) (step : PreprocessStep) : Outcome Command :=
  renderTool m snap preprocessorTool
    [.one step.source, .one step.output, .many step.flags, .many step.searchPaths, .many step.defines]

/-- The command that runs a test executable; its failure is the test's to report. -/
def executeCommand (m : Model) (snap : Snapshot) (step : ExecStep) : Outcome Command :=
  (renderTool m snap fixtureTool [.one step.executable]).map fun c => { c with failOnError := false }

/-- The line of the plain compiler call: `cc -c <source> -o <object>` and the flags. -/
def plainCompileLine (step : CompileStep) : String :=
  " ".intercalate (["cc", "-c", step.source, "-o", step.object] ++ step.flags)

/-! ### A scripted toolchain -/

structure Script where
  compileErrors : List (String × String) := []
  linkErrors : List (String × String) := []
  preprocessErrors : List (String × String) := []
  execErrors : List (String × String) := []
  runs : List (String × Run) := []
  passingCases : List String := []
  deriving Inhabited

/-- Writes a file, making its directory first; a failure is the file system's. -/
def writeOutput (path : String) (data : ByteArray) : BuildM Unit :=
  BuildM.change (fun t => do
    let t ← t.mkdirAll (Path.dir path)
    t.writeFile path data) fun e => .plain e.message

/-- Fails with the message the script gives a name, if any. -/
def failNamed (errors : List (String × String)) (name : String) : BuildM Unit :=
  match errors.lookup name with
  | some msg => throw (.plain msg)
  | none => pure ()

/-- The toolchain that follows a script, with the command lines given. -/
def Toolchain.scripted (line : CompileStep → Outcome String) (sc : Script) : Toolchain where
  compileLine := line
  compile step := do
    BuildM.noteCall (.compile step ((line step).toOption.getD ""))
    failNamed sc.compileErrors (Path.base step.source)
    writeOutput step.object ("object " ++ step.source).toUTF8
  link step := do
    BuildM.noteCall (.link step)
    failNamed sc.linkErrors step.test
    writeOutput step.executable ("\n".intercalate step.objects).toUTF8
  preprocess step := do
    BuildM.noteCall (.preprocess step)
    failNamed sc.preprocessErrors (Path.base step.source)
    match (← BuildM.files).readFile step.source with
    | .ok data => writeOutput step.output data
    | .error e => throw (.plain e.message)
  execute step := do
    BuildM.noteCall (.execute step)
    failNamed sc.execErrors step.test
    return (sc.runs.lookup step.test).getD
      { output := passingOutput (step.test ++ ".c") sc.passingCases, exitStatus := 0, signaled := false }

/-! ### How many executions ran at once -/

/-- When an execution ran, in ticks of a clock: from `start` up to, not including, `stop`. -/
structure ExecutionRecord where
  start : Int
  stop : Int
  deriving Repr, DecidableEq

/-- The most executions running at once, as the tests of a toolchain measure it: at the start of
each execution, the executions that had started and not yet stopped. -/
def maxConcurrent (records : List ExecutionRecord) : Nat :=
  records.foldl (fun peak a =>
    max peak (records.countP fun b => b.start ≤ a.start && a.start < b.stop)) 0

end TestRig.Build
