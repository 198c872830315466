import TestRig.Expression.Eval
import Mathlib

/-!
# Marker expressions are closed

A marker's expression is evaluated only when its syntax tree is in the closed form at every
depth: literals, references to variables, index expressions by a literal key, parentheses,
templates and tuples. No function call, operator, conditional, `for` or splat expression, and
no object constructor, is ever evaluated, so evaluating a marker reads variables and builds
values and does nothing else.

* `Closed`: the closed form, said by its constructors;
* `closedProblem_eq_none_iff`: the check finds no problem in exactly the closed trees;
* `eval_ok_iff_closed`: an expression evaluates exactly when it parses cleanly into a closed
  tree whose value has no problems, and its value is that tree's.
-/

namespace TestRig.Expression

open TestRig.Hcl

/-- The closed form of an expression, at every depth. -/
inductive Closed : Expr → Prop
  | literal (v : Value) (r : Range) : Closed (.literal v r)
  | scope (root : String) (rootRange : Range) (steps : List Step) (r : Range) :
      Closed (.scope root rootRange steps r)
  | relative {src : Expr} (steps : List Step) (r : Range) : Closed src → Closed (.relative src steps r)
  | index {coll : Expr} (key : Value) (keyRange r bracket : Range) :
      Closed coll → Closed (.index coll (.literal key keyRange) r bracket)
  | parens {inner : Expr} (r : Range) : Closed inner → Closed (.parens inner r)
  | wrap {inner : Expr} (r : Range) : Closed inner → Closed (.wrap inner r)
  | template {parts : List Expr} (r : Range) : (∀ p ∈ parts, Closed p) → Closed (.template parts r)
  | tuple {items : List Expr} (r openRange : Range) :
      (∀ e ∈ items, Closed e) → Closed (.tuple items r openRange)

/-- A list has no problem when none of its expressions has one. -/
theorem closedProblemAll_eq_none {es : List Expr} :
    closedProblemAll es = none ↔ ∀ e ∈ es, closedProblem e = none := by
  induction es with
  | nil => simp [closedProblemAll]
  | cons e es ih => cases he : closedProblem e <;> simp [closedProblemAll, he, ih]

mutual
/-- The check is sound: a tree it finds no problem in is closed. -/
theorem Closed.of_closedProblem : (e : Expr) → closedProblem e = none → Closed e
  | .literal v r, _ => .literal v r
  | .scope root rr steps r, _ => .scope root rr steps r
  | .relative src steps r, h => .relative steps r (Closed.of_closedProblem src h)
  | .index coll key r b, h => by
    -- only a literal key passes, and then the collection is checked
    cases key with
    | literal v kr => exact .index v kr r b (Closed.of_closedProblem coll h)
    | _ => simp [closedProblem] at h
  | .parens inner r, h => .parens r (Closed.of_closedProblem inner h)
  | .wrap inner r, h => .wrap r (Closed.of_closedProblem inner h)
  | .template parts r, h => .template r (Closed.all_of_closedProblemAll parts h)
  | .tuple items r o, h => .tuple r o (Closed.all_of_closedProblemAll items h)
  | .call .., h | .binary .., h | .unary .., h | .conditional .., h | .join .., h | .object .., h
  | .objectKey .., h | .forExpr .., h | .splat .., h | .anon .., h => by simp [closedProblem] at h

theorem Closed.all_of_closedProblemAll : (es : List Expr) → closedProblemAll es = none →
    ∀ e ∈ es, Closed e
  | [], _ => nofun
  | e :: es, h => by
    have ⟨he, hes⟩ : closedProblem e = none ∧ closedProblemAll es = none := by
      cases he : closedProblem e <;> simp_all [closedProblemAll]
    intro x hx
    cases hx with
    | head => exact Closed.of_closedProblem e he
    | tail _ hx => exact Closed.all_of_closedProblemAll es hes x hx
end

/-- The check is complete: it finds no problem in a closed tree. -/
theorem Closed.closedProblem_eq_none {e : Expr} (h : Closed e) : closedProblem e = none := by
  induction h with
  | literal | scope => rfl
  | relative _ _ _ ih | index _ _ _ _ _ ih | parens _ _ ih | wrap _ _ ih =>
    simpa [closedProblem] using ih
  | template _ _ ih | tuple _ _ _ ih => simpa [closedProblem, closedProblemAll_eq_none] using ih

theorem closedProblem_eq_none_iff {e : Expr} : closedProblem e = none ↔ Closed e :=
  ⟨Closed.of_closedProblem e, Closed.closedProblem_eq_none⟩

/-- A marker's expression evaluates, to `v`, exactly when its text parses without a problem
into a closed tree whose value is `v`, found without a problem: nothing outside the closed
form is ever evaluated, and nothing inside it is refused. -/
theorem eval_ok_iff_closed (ev : Evaluator) (src : String) (v : Value) :
    ev.eval src = .ok v ↔ ∃ e, parseExpressionText "marker" src = (e, []) ∧ Closed e ∧
      e.value (Env.ofVariables ev.bindings) = (v, []) := by
  unfold Evaluator.eval
  rcases parseExpressionText "marker" src with ⟨e, _ | ⟨d, ds⟩⟩
  · -- a clean parse: the value is had only past the check
    simp only [List.isEmpty_nil, Bool.not_true, Bool.false_eq_true, if_false, Prod.mk.injEq,
      and_true, exists_eq_left', ← closedProblem_eq_none_iff]
    cases closedProblem e with
    | some why => simp
    | none =>
      rcases e.value (Env.ofVariables ev.bindings) with ⟨w, _ | ⟨d', ds'⟩⟩ <;> simp
  · simp

end TestRig.Expression
