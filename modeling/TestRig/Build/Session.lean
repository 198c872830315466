import TestRig.Build.Testable
import TestRig.Files.Tree
import TestRig.Fault
import TestRig.Log.Record

/-!
A build session: the files the build reads and writes, the tests as planned so far, the steps
the toolchain was asked to take, the journal that hooks keep, the text written to the console,
the log, and the time the tools took. A build runs in `BuildM`, which threads a session and may fail; a failure keeps
the session it reached, so that what was written before it stays written.
-/

namespace TestRig.Build

open TestRig.Files

/-- A step the toolchain was asked to take, as it was asked; a compile carries the command
line it stands for. -/
inductive StepCall where
  | compile (step : CompileStep) (line : String)
  | link (step : LinkStep)
  | preprocess (step : PreprocessStep)
  | execute (step : ExecStep)
  deriving Repr, Inhabited

structure Session where
  files : Tree
  tests : List Testable := []
  calls : List StepCall := []
  journal : List String := []
  console : String := ""
  log : List Log.Record := []
  /-- A tool sent the host an interrupt, which cancels the build's context. -/
  interrupted : Bool := false
  /-- The milliseconds the tools have taken. -/
  clock : Nat := 0
  deriving Inhabited

/-- A computation of a build: it threads the session and may fail, keeping the session it
reached. -/
abbrev BuildM := EStateM Fault Session

namespace BuildM

def logAt (level : Log.Level) (message : String) : BuildM Unit :=
  modify fun s => { s with log := s.log ++ [⟨level, message⟩] }

/-- Notes a step the toolchain was asked to take. -/
def noteCall (c : StepCall) : BuildM Unit :=
  modify fun s => { s with calls := s.calls ++ [c] }

def noteJournal (entry : String) : BuildM Unit :=
  modify fun s => { s with journal := s.journal ++ [entry] }

def print (text : String) : BuildM Unit :=
  modify fun s => { s with console := s.console ++ text }

def files : BuildM Tree := return (← get).files

def setFiles (t : Tree) : BuildM Unit := modify fun s => { s with files := t }

def lift (x : Except Fault α) : BuildM α :=
  match x with
  | .ok a => pure a
  | .error e => throw e

/-- Changes the files by an operation that may fail, reporting its failure as a fault. -/
def change (op : Tree → Except IoError Tree) (why : IoError → Fault) : BuildM Unit := do
  match op (← files) with
  | .ok t => setFiles t
  | .error e => throw (why e)

/-- Runs a computation and gives its failure as a value; the session it reached is kept. -/
def attempt (x : BuildM α) : BuildM (Except Fault α) :=
  tryCatch (x.map .ok) fun e => pure (.error e)

end BuildM

end TestRig.Build
