import TestRig.Number.Arith
import TestRig.Text.Chars

/-!
Reading decimal text as a binary number of a given precision. The text is an optional sign,
digits with at most one point (at least one digit in all), and an optional exponent: `e` for a
power of ten or `p` for a power of two, with an optional sign and at least one digit. `Inf` and
`inf`, signed or not, are the infinities.
-/

namespace TestRig.Number

open TestRig.Text

/-- The parts of number text: the sign, the digits as one integer, how many of them follow the
point, and the exponent with whether it is a power of two. -/
structure NumberText where
  neg : Bool
  digits : Nat
  fraction : Nat
  exp : Int
  binary : Bool
  deriving Repr

def readExponent : List Char → Option (Int × Bool)
  | [] => some (0, false)
  | c :: rest =>
    if c == 'e' || c == 'E' || c == 'p' || c == 'P' then
      let (neg, ds) : Bool × List Char := match rest with
        | '-' :: t => (true, t)
        | '+' :: t => (false, t)
        | t => (false, t)
      if ds.isEmpty || !ds.all isDigit then none
      else
        let v := digitsValue ds
        if v ≥ Nat.pow 2 63 + (if neg then 1 else 0) then none
        else some (if neg then -(v : Int) else v, c == 'p' || c == 'P')
    else none

def NumberText.read? (cs : List Char) : Option NumberText :=
  let (neg, body) : Bool × List Char := match cs with
    | '-' :: r => (true, r)
    | '+' :: r => (false, r)
    | r => (false, r)
  let intDs := body.takeWhile isDigit
  let r := body.drop intDs.length
  let (fracDs, r) : List Char × List Char := match r with
    | '.' :: t => (t.takeWhile isDigit, t.drop (t.takeWhile isDigit).length)
    | t => ([], t)
  if intDs.isEmpty && fracDs.isEmpty then none
  else (readExponent r).map fun (e, bin) =>
    ⟨neg, digitsValue (intDs ++ fracDs), fracDs.length, e, bin⟩

def powFive (n prec : Nat) : Numeric :=
  if n ≤ 27 then roundScaled false (Nat.pow 5 n) 1 0 prec
  else go (n - 27) (roundScaled false (Nat.pow 5 27) 1 0 prec) (roundScaled false 5 1 0 (prec + 64))
where
  /-- Multiplies in the factor for each set bit of `k`, squaring the factor at each step. -/
  go (k : Nat) (z f : Numeric) : Numeric :=
    if h : k = 0 then z
    else
      let z := if k % 2 = 1 then step z f prec else z
      go (k / 2) z (step f f (prec + 64))
  termination_by k
  decreasing_by omega
  /-- A product rounded to a precision; infinities absorb. -/
  step (x y : Numeric) (p : Nat) : Numeric :=
    match x, y with
    | .finite a, .finite b => a.mulAt b p
    | _, _ => .infinite false

def Numeric.read? (s : String) (prec : Nat) : Option Numeric :=
  if s == "Inf" || s == "inf" || s == "+Inf" || s == "+inf" then some (.infinite false)
  else if s == "-Inf" || s == "-inf" then some (.infinite true)
  else do
    let t ← NumberText.read? s.toList
    if t.digits = 0 then return .finite ⟨t.neg, 0, 0, prec⟩
    let e2 : Int := t.exp - t.fraction
    let e5 : Int := if t.binary then -(t.fraction : Int) else t.exp - t.fraction
    let top := (bitLength t.digits : Int) + e2
    if top > maxBinaryExp || top < minBinaryExp then none
    else if e5 = 0 then some (roundScaled t.neg t.digits 1 e2 prec)
    else
      let z : Binary := ⟨t.neg, t.digits, e2, prec⟩
      match powFive e5.natAbs (prec + 64) with
      | .infinite _ => some (if e5 > 0 then .infinite t.neg else .finite ⟨t.neg, 0, 0, prec⟩)
      | .finite f =>
        if e5 > 0 then some (z.mulAt f prec)
        else some (Numeric.quotient z f prec)

end TestRig.Number
