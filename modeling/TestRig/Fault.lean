import TestRig.Text.Blank
import TestRig.Text.Chars

/-!
Failures of the build. A failure is a cause (a bad setting, a file the build graph cannot place,
a tool that exited non-zero, or a plain message) possibly wrapped in context: the pipeline stage
and item it arose in, a lead-in text, or several failures joined together. The text of a
failure is given by `Fault.message` alone, and its family by `Fault.family`.
-/

namespace TestRig

/-- The three families of failure that callers branch on. -/
inductive Family where
  | configuration
  | buildGraph
  | shellExecution
  deriving DecidableEq, Repr

/-- A failure, with the context it was reported in. -/
inductive Fault where
  /-- A setting that is malformed or missing, at a dotted configuration path. -/
  | config (path msg : String)
  /-- A file the build graph cannot place, for a test. -/
  | graph (test file msg : String)
  /-- A tool that exited with a non-zero status, with its command line and output. -/
  | shell (tool command output : String) (status : Int)
  | stage (name item : String) (cause : Fault)
  /-- A failure reported after a lead-in text, as `lead: cause`. -/
  | wrap (lead : String) (cause : Fault)
  /-- Several failures reported together, one per line. -/
  | joined (causes : List Fault)
  | plain (msg : String)
  /-- A computation that has no defined result, such as a number that is not a number. -/
  | abort (msg : String)
  deriving Repr, Inhabited

namespace Fault

mutual
def message : Fault → String
  | config path msg =>
    if path = "" then "configuration error: " ++ msg
    else "configuration error: " ++ path ++ ": " ++ msg
  | graph test file msg =>
    "build graph error" ++ (if test = "" then "" else ": test '" ++ test ++ "'") ++
      (if file = "" then "" else ": '" ++ file ++ "'") ++ (if msg = "" then "" else ": " ++ msg)
  | shell tool command output status =>
    let head := "shell execution error: tool '" ++ tool ++ "' exited with status " ++
      Text.intText status
    let out := Text.trimBlank output
    if out = "" then head else head ++ "\n> " ++ command ++ "\n" ++ out
  | stage name item cause =>
    if item = "" then "stage " ++ name ++ ": " ++ message cause
    else "stage " ++ name ++ " [" ++ item ++ "]: " ++ message cause
  | wrap lead cause => lead ++ ": " ++ message cause
  | joined causes => messages causes
  | plain msg => msg
  | abort msg => msg

/-- The texts of joined failures, one per line. -/
def messages : List Fault → String
  | [] => ""
  | [f] => message f
  | f :: g :: r => message f ++ "\n" ++ messages (g :: r)
end

mutual
/-- The failure belongs to the family `k`, itself or through a failure it wraps or joins. -/
def hasFamily (k : Family) : Fault → Bool
  | config .. => k == .configuration
  | graph .. => k == .buildGraph
  | shell .. => k == .shellExecution
  | stage _ _ cause => hasFamily k cause
  | wrap _ cause => hasFamily k cause
  | joined causes => anyHasFamily k causes
  | plain _ => false
  | abort _ => false

/-- One of the joined failures belongs to the family `k`. -/
def anyHasFamily (k : Family) : List Fault → Bool
  | [] => false
  | f :: r => hasFamily k f || anyHasFamily k r
end

/-- The family reported for a failure: configuration first, then build graph, then shell
execution, among those it belongs to. -/
def family (f : Fault) : Option Family :=
  if f.hasFamily .configuration then some .configuration
  else if f.hasFamily .buildGraph then some .buildGraph
  else if f.hasFamily .shellExecution then some .shellExecution
  else none

mutual
/-- The outermost stage and item a failure is reported under, searching wrapped failures
before later joined ones. -/
def stageOf? : Fault → Option (String × String)
  | stage name item _ => some (name, item)
  | wrap _ cause => stageOf? cause
  | joined causes => firstStage? causes
  | _ => none

/-- The first stage found among joined failures. -/
def firstStage? : List Fault → Option (String × String)
  | [] => none
  | f :: r => (stageOf? f).orElse fun _ => firstStage? r
end

/-- The failure is an abort: the computation has no defined result. -/
def isAbort : Fault → Bool
  | abort _ => true
  | _ => false

/-- Joins failures; none gives none, and one is itself. -/
def join? : List Fault → Option Fault
  | [] => none
  | [f] => some f
  | fs => some (joined fs)

end Fault

abbrev Outcome (α : Type) := Except Fault α

def failConfig {α : Type} (path msg : String) : Outcome α := .error (.config path msg)

end TestRig
