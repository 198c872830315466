/-!
Binary floating-point numbers of arbitrary precision: a sign, a mantissa of at most `prec` bits
and a power of two, with an unbounded exponent, plus the two infinities. A rational is rounded
to such a number to the nearest, ties to the even mantissa, entirely in exact `Nat` and `Int`
arithmetic.
-/

namespace TestRig.Number

/-- A finite binary number `±mant · 2^exp` carried at `prec` bits of precision. -/
structure Binary where
  neg : Bool := false
  mant : Nat
  exp : Int
  prec : Nat
  deriving DecidableEq, Repr, Inhabited

/-- A number: finite, or an infinity with its sign. -/
inductive Numeric where
  | finite (b : Binary)
  | infinite (neg : Bool)
  deriving DecidableEq, Repr, Inhabited

def bitLength (n : Nat) : Nat := if n = 0 then 0 else n.log2 + 1

def scaleByTwo (num den : Nat) (e : Int) : Nat × Nat :=
  if e ≥ 0 then (num * Nat.pow 2 e.toNat, den) else (num, den * Nat.pow 2 (-e).toNat)

def roundHalfEven (num den : Nat) : Nat :=
  let q := num / den
  let r := num % den
  if 2 * r > den then q + 1
  else if 2 * r < den then q
  else if q % 2 = 1 then q + 1 else q

def roundRatio (num den prec : Nat) : Nat × Int :=
  let guess : Int := (bitLength num : Int) - bitLength den - prec
  -- adjust the guess by one so that the quotient has `prec` bits before rounding
  let fits (e : Int) : Bool :=
    let (a, b) := scaleByTwo num den (-e)
    a / b < Nat.pow 2 prec
  let e := if fits guess then (if fits (guess - 1) then guess - 1 else guess) else guess + 1
  let e := if fits e then e else e + 1
  let (a, b) := scaleByTwo num den (-e)
  let m := roundHalfEven a b
  if m ≥ Nat.pow 2 prec then (m / 2, e + 1) else (m, e)

def Binary.ofRatio (neg : Bool) (num den prec : Nat) : Binary :=
  if num = 0 then ⟨neg, 0, 0, prec⟩
  else
    let (m, e) := roundRatio num den prec
    ⟨neg, m, e, prec⟩

def Binary.ofInt (i : Int) : Binary := Binary.ofRatio (i < 0) i.natAbs 1 64

def Binary.ratio (b : Binary) : Nat × Nat := scaleByTwo b.mant 1 b.exp

def Binary.isWhole (b : Binary) : Bool :=
  let (n, d) := b.ratio
  n % d = 0

def Binary.wholeValue (b : Binary) : Int :=
  let (n, d) := b.ratio
  let v : Int := n / d
  if b.neg then -v else v

/-! ### The 64-bit format -/

def roundFloat64 (num den : Nat) : Option (Nat × Int) :=
  if num = 0 then some (0, 0)
  else
    let (m, e) := roundRatio num den 53
    if e ≥ -1074 then
      if m * Nat.pow 2 (e + 53).toNat ≥ Nat.pow 2 1077 then none else some (m, e)
    else
      let (a, b) := scaleByTwo num den 1074
      let m := roundHalfEven a b
      -- rounding may carry into the normal range, which has the same spacing here
      some (m, -1074)

def Numeric.float64OfRatio (neg : Bool) (num den : Nat) : Numeric :=
  match roundFloat64 num den with
  | some (m, e) => .finite ⟨neg, m, e, 53⟩
  | none => .infinite neg

def Binary.toFloat64 (b : Binary) : Numeric :=
  let (n, d) := b.ratio
  Numeric.float64OfRatio b.neg n d

end TestRig.Number
