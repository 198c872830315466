import TestRig.Number.Decimal

/-!
Values of the 64-bit binary format, NaN included, read from decimal text. Reading rounds the
exact rational of the text to the nearest 64-bit number, ties to even; a text whose magnitude
is beyond the largest finite number is refused, and one far below the smallest subnormal reads
as zero, without computing powers of ten that large.
-/

namespace TestRig.Number

open TestRig.Text

/-- A 64-bit binary value: a number (finite or infinite) or NaN. -/
inductive Real64 where
  | nan
  | num (n : Numeric)
  deriving DecidableEq, Repr, Inhabited

def signedZero (neg : Bool) : Numeric := .finite ⟨neg, 0, 0, 53⟩

def readFloat64 (cs : List Char) : Option Numeric :=
  let (neg, cs) : Bool × List Char := match cs with
    | '-' :: r => (true, r)
    | '+' :: r => (false, r)
    | r => (false, r)
  let intDs := cs.takeWhile isDigit
  let r := cs.drop intDs.length
  let (fracDs, r) : List Char × List Char := match r with
    | '.' :: t => (t.takeWhile isDigit, t.drop (t.takeWhile isDigit).length)
    | t => ([], t)
  if intDs.isEmpty && fracDs.isEmpty then none
  else
    let expPart : Option Int := match r with
      | [] => some 0
      | c :: t =>
        if c == 'e' || c == 'E' then
          let (eneg, ds) : Bool × List Char := match t with
            | '-' :: d => (true, d)
            | '+' :: d => (false, d)
            | d => (false, d)
          if ds.isEmpty || !ds.all isDigit then none
          else
            -- exponents this large decide the result on their own
            let v : Int := min (digitsValue ds) 100000
            some (if eneg then -v else v)
        else none
    match expPart with
    | none => none
    | some ex =>
      let mant := digitsValue (intDs ++ fracDs)
      if mant = 0 then some (signedZero neg)
      else
        let e : Int := ex - fracDs.length
        let nd : Int := (natDigits mant).length
        if nd + e > 310 then none
        else if nd + e < -330 then some (signedZero neg)
        else
          let (num, den) : Nat × Nat :=
            if e ≥ 0 then (mant * Nat.pow 10 e.toNat, 1) else (mant, Nat.pow 10 (-e).toNat)
          match roundFloat64 num den with
          | some (m, x) => some (.finite ⟨neg, m, x, 53⟩)
          | none => none

def Real64.generalText : Real64 → String
  | .nan => "NaN"
  | .num n => n.generalText

end TestRig.Number
