import TestRig.Expression.Marker
import TestRig.Config.Snapshot
import TestRig.Hcl.Parser
import TestRig.Hcl.Eval

/-!
Evaluating the expressions of markers against a snapshot. Only a closed form of expression is
accepted: references to variables (`env.CC`, `collections.paths_include`, `vars.opts[0]`),
literals, tuples, parentheses and string templates. Function calls, operators, conditionals,
`for` and splat expressions are refused before anything is evaluated, so reading a
configuration never runs code (`closedProblem`).
-/

namespace TestRig.Expression

open TestRig.Hcl TestRig.Config

/-! ### The closed form -/

mutual
/-- Why an expression is outside the closed form, if it is: the first refused part, in
reading order. -/
def closedProblem : Expr → Option String
  | .literal _ _ | .scope _ _ _ _ => none
  | .relative src _ _ => closedProblem src
  | .index coll key _ _ =>
    match key with
    | .literal _ _ => closedProblem coll
    | _ => some "index keys must be literals"
  | .parens inner _ | .wrap inner _ => closedProblem inner
  | .template parts _ => closedProblemAll parts
  | .tuple items _ _ => closedProblemAll items
  | .call name _ _ _ _ _ => some ("function calls are not supported: " ++ name ++ "()")
  | .binary _ _ _ _ | .unary _ _ _ _ => some "operators are not supported"
  | .conditional _ _ _ _ => some "conditionals are not supported"
  | .forExpr _ _ _ _ _ _ _ _ _ => some "for expressions are not supported"
  | .splat _ _ _ _ => some "splat expressions are not supported"
  | _ => some "unsupported expression"

/-- The first problem of a list of expressions. -/
def closedProblemAll : List Expr → Option String
  | [] => none
  | e :: es => (closedProblem e).orElse fun _ => closedProblemAll es
end

/-! ### Evaluation -/

/-- Evaluates marker expressions against a fixed set of variables. -/
structure Evaluator where
  bindings : List (String × Value)
  deriving Inhabited

def Evaluator.ofSnapshot (s : Snapshot) : Evaluator := ⟨s.bindings⟩

/-- The failure of an expression: its text and why. -/
def expressionFault (src why : String) : Fault :=
  .config "expression" ("'" ++ src ++ "': " ++ why)

namespace Evaluator

/-- The value of an expression: parse problems first, then a part outside the closed form,
then problems while evaluating. -/
def eval (ev : Evaluator) (src : String) : Outcome Value :=
  let (e, ds) := parseExpressionText "marker" src
  if !ds.isEmpty then .error (expressionFault src (diagnosticsText ds))
  else match closedProblem e with
    | some why => .error (expressionFault src why)
    | none =>
      let (v, ds) := e.value (Env.ofVariables ev.bindings)
      if !ds.isEmpty then .error (expressionFault src (diagnosticsText ds)) else .ok v

/-- The strings of an expression: its value flattened, a list giving one string per element. -/
def strings (ev : Evaluator) (src : String) : Outcome (List String) := do
  let v ← ev.eval src
  match v.asStrings with
  | .ok xs => .ok xs
  | .error why => .error (expressionFault src why)

/-- Every rendering of a text with its markers replaced by their strings, escaped markers
staying escaped: the text before the first marker, then each of the marker's strings, then each
rendering of the text after the marker, which is scanned for markers anew. -/
def expand (ev : Evaluator) (s : String) : Outcome (List String) :=
  match _h : findMarkers s with
  | .error e => .error e
  | .ok [] => .ok [s]
  | .ok (first :: _) => do
    let values ← ev.strings first.expr
    let rests ← ev.expand (byteSuffix s first.stop)
    return values.flatMap fun v => rests.map fun r => bytePrefix s first.start ++ v ++ r
termination_by s.length
decreasing_by exact findMarkers_first_suffix_lt _h

end Evaluator

end TestRig.Expression
