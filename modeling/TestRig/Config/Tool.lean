import TestRig.Fault
import TestRig.Text.Blank
import TestRig.Config.Budget

/-!
Tool descriptors: an external executable, how its error stream is folded into its output, and
the template of its arguments. An argument is either literal text, which may hold positional
tokens `${n}` for the inputs of a step and markers `#{...}`, or a pattern that is written once
for every element of a named collection, with `$` standing for the element.
-/

namespace TestRig.Config

open TestRig.Text

/-- One element of an argument template: literal text, or a pattern over a collection. All
three parts are kept as written so that a mixed element can be reported. -/
structure Argument where
  literal : String := ""
  pattern : String := ""
  collection : String := ""
  deriving Repr, Inhabited, BEq

def Argument.isCollection (a : Argument) : Bool := a.collection != "" || a.pattern != ""

def Argument.lit (s : String) : Argument := { literal := s }

/-- A pattern written once per element of a collection. -/
def Argument.over (pattern collection : String) : Argument :=
  { pattern := pattern, collection := collection }

/-- A tool: its name, executable, error-stream policy, whether it may be missing, and its
argument template. -/
structure Tool where
  name : String
  executable : String
  redirect : String := ""
  optional : Bool := false
  arguments : List Argument := []
  deriving Repr, Inhabited

/-- The policies for folding a tool's error stream into its output; empty means none. -/
def redirectPolicies : List String := ["", "none", "auto", "unix", "win", "tcsh"]

/-- The command line with the error stream folded in as the policy says. -/
def redirectLine (line policy : String) : String :=
  let line := trimBlank line
  if policy == "auto" || policy == "unix" || policy == "win" then line ++ " 2>&1"
  else if policy == "tcsh" then line ++ " |&"
  else line

/-- The first positional token `${...}` of a text whose index is not a positive integer, with
escaped tokens `\${` skipped. -/
def malformedToken? (s : String) : Option String :=
  go s.toList none
where
  go : List Char → Option Char → Option String
    | [], _ => none
    | '$' :: '{' :: r, prev =>
      if prev == some '\\' then go ('{' :: r) (some '$')
      else
        match r.findIdx? (· == '}') with
        | none => some (String.ofList ('$' :: '{' :: r))
        | some i =>
          let body := r.take i
          let tok := String.ofList ('$' :: '{' :: body ++ ['}'])
          match readInt64 body with
          | some n => if n < 1 then some tok else go (r.drop (i + 1)) (some '}')
          | none => some tok
    | c :: r, _ => go r (some c)
  termination_by cs => cs.length
  decreasing_by all_goals simp_wf <;> omega

def Tool.validate (path : String) : Option Tool → Option Fault
  | none => some (.config path "tool is nil")
  | some t =>
    if isBlankText t.executable then some (.config path ("tool '" ++ t.name ++ "' has no executable"))
    else match malformedToken? t.executable with
    | some tok => some (.config (path ++ ".executable") ("malformed positional token '" ++ tok ++ "'"))
    | none =>
      if !redirectPolicies.contains t.redirect then
        some (.config (path ++ ".stderr_redirect") ("unknown redirect policy '" ++ t.redirect ++ "'"))
      else
        (t.arguments.zipIdx).findSome? fun (a, i) =>
          let argPath := path ++ ".arguments[" ++ toString i ++ "]"
          if a.isCollection then
            if a.literal != "" then some (.config argPath "element mixes a literal with a pattern")
            else if a.pattern == "" || a.collection == "" then
              some (.config argPath "pattern element needs both a pattern and a collection")
            else none
          else match malformedToken? a.literal with
            | some tok => some (.config argPath ("malformed positional token '" ++ tok ++ "'"))
            | none => none

end TestRig.Config
