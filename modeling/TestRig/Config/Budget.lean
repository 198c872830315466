import TestRig.Text.Blank
import TestRig.Text.Case
import TestRig.Text.Chars
import TestRig.Text.Quoted

/-!
Worker budgets: how many workers a parallel stage may use, either a fixed count or `auto`,
which follows the machine. A budget is read from text as `auto` in any case, or as a decimal
integer that fits in a signed 64-bit word, either possibly after a colon; only a positive count
or `auto` can drive a pool.
-/

namespace TestRig.Config

open TestRig.Text

structure Budget where
  auto : Bool := false
  count : Int := 0
  deriving DecidableEq, Repr, Inhabited

namespace Budget

def automatic : Budget := { auto := true }

def fixed (n : Int) : Budget := { count := n }

def valid (b : Budget) : Bool := b.auto || b.count > 0

def text (b : Budget) : String := if b.auto then "auto" else intText b.count

/-- The workers of a budget on a machine of `cpus` processors. -/
def resolve (b : Budget) (cpus : Nat) : Int := if b.auto then cpus else b.count

end Budget

/-- Reads a signed decimal integer with an optional sign, within the signed 64-bit range. -/
def readInt64 (cs : List Char) : Option Int :=
  let (neg, ds) : Bool × List Char := match cs with
    | '-' :: r => (true, r)
    | '+' :: r => (false, r)
    | r => (false, r)
  if ds.isEmpty || !ds.all isDigit then none
  else
    let v : Int := digitsValue ds
    let v := if neg then -v else v
    if v < -Int.pow 2 63 || v ≥ Int.pow 2 63 then none else some v

def parseBudget (s : String) : Except String Budget :=
  let t := trim s.toList
  let t := match t with
    | ':' :: r => r
    | r => r
  if equalFold (String.ofList t) "auto" then .ok Budget.automatic
  else match readInt64 t with
    | some n => .ok (Budget.fixed n)
    | none => .error ("worker budget must be 'auto' or an integer, got " ++ quote (String.ofList t))

end TestRig.Config
