import TestRig.Build.Toolchain

/-!
The toolchain that runs the project's tools. Each step renders its tool's command line, makes
the directory of its output, and runs the line on the host's machine from the host's
directory with the host's environment, the error stream folded in as the tool asks. A tool
that exits non-zero fails its step with its command line and output, except the test fixture,
whose failures are the test's to report.

The machine is a parameter: which executables it finds, and what running a command line does
to the files and gives back. The build assumes nothing else of it.
-/

namespace TestRig.Build

open TestRig.Config TestRig.Files TestRig.Results

/-- One run of a tool: the command line and how it ended. -/
structure Invocation where
  command : String
  output : String := ""
  status : Int := 0
  signaled : Bool := false
  deriving Inhabited

/-- The run succeeded: it exited with status zero. -/
def Invocation.success (i : Invocation) : Bool := i.status == 0 && !i.signaled

/-- The run a tool failure carries, if the failure is one. -/
def Invocation.ofFault? : Fault → Option Invocation
  | .shell _ command output status => some { command, output, status, signaled := status == -1 }
  | _ => none

/-- What running a command line gave: the files after it, its output, how it ended, whether
it interrupted the host, and the milliseconds it took. -/
structure LineRun where
  files : Tree
  output : String
  status : Int
  signaled : Bool
  interrupted : Bool
  took : Nat

/-- A machine tools run on: whether it finds an executable, by name on its search path or by
path, and how it runs a command line from a directory with an environment. -/
structure Machine where
  found : String → Bool
  runLine : Tree → String → List (String × String) → String → LineRun

/-- Where tools run: the machine, and the directory and the environment of their processes. -/
structure Host where
  machine : Machine
  dir : String
  env : List (String × String)

def ensureDir (path : String) : BuildM Unit :=
  BuildM.change (·.mkdirAll (Path.dir path)) fun e =>
    .plain ("failed to create output directory for '" ++ path ++ "': " ++ e.message)

/-- Runs a rendered tool: an optional tool that is missing is skipped; a failure is the tool's
unless tolerated. -/
def Host.run (h : Host) (cmd : Command) (tolerate : Bool) : BuildM Invocation := do
  if cmd.optional && !h.machine.found cmd.executable then return { command := cmd.line }
  -- once the context is cancelled no process starts
  if (← get).interrupted then throw (.plain ("failed to execute '" ++ cmd.name ++ "': context canceled"))
  let line := redirectLine cmd.line cmd.redirect
  let ex := h.machine.runLine (← BuildM.files) h.dir h.env line
  modify fun s => { s with files := ex.files, interrupted := ex.interrupted, clock := s.clock + ex.took }
  let inv : Invocation := { command := line, output := ex.output, status := ex.status, signaled := ex.signaled }
  if inv.success || tolerate || !cmd.failOnError then return inv
  throw (.shell cmd.name line ex.output ex.status)

def Host.compile (h : Host) (m : Model) (snap : Snapshot) (step : CompileStep) : BuildM Invocation := do
  let cmd ← BuildM.lift (compileCommand m snap step)
  ensureDir step.object
  h.run cmd false

def Host.link (h : Host) (m : Model) (snap : Snapshot) (step : LinkStep) : BuildM Invocation := do
  let cmd ← BuildM.lift (linkCommand m snap step)
  ensureDir step.executable
  h.run cmd false

def Host.preprocess (h : Host) (m : Model) (snap : Snapshot) (step : PreprocessStep) : BuildM Invocation := do
  let cmd ← BuildM.lift (preprocessCommand m snap step)
  ensureDir step.output
  h.run cmd false

/-- Runs a test executable; its exit status is its own to report. -/
def Host.execute (h : Host) (m : Model) (snap : Snapshot) (step : ExecStep) : BuildM Invocation := do
  let cmd ← BuildM.lift (executeCommand m snap step)
  h.run cmd true

/-- Checks that tools are defined and their executables found, in order. -/
def validateTools (mc : Machine) (m : Model) (names : List String) : Outcome Unit :=
  names.forM fun name =>
    match m.tool name with
    | none => failConfig ("tools." ++ name) "tool is not defined"
    | some tool =>
      if (tool.executable.splitOn "$\x7b").length > 1 || (tool.executable.splitOn "#\x7b").length > 1 then .ok ()
      else if mc.found tool.executable || tool.optional then .ok ()
      else failConfig ("tools." ++ name) ("executable '" ++ tool.executable ++ "' not found")

/-- The toolchain that runs the model's tools on a host. -/
def Toolchain.ofHost (h : Host) (m : Model) (snap : Snapshot) : Toolchain where
  compileLine step := (compileCommand m snap step).map (·.line)
  compile step := do let _ ← h.compile m snap step
  link step := do let _ ← h.link m snap step
  preprocess step := do let _ ← h.preprocess m snap step
  execute step := do
    let i ← h.execute m snap step
    return { output := i.output, exitStatus := i.status, signaled := i.signaled }

end TestRig.Build
