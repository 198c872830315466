import TestRig.Number.Binary
import TestRig.Text.Chars

/-!
Decimal text of binary numbers. A number is written with the fewest significant digits that
still identify it: every decimal in the interval of reals that round to the number is a
candidate, and the digits are cut as soon as they leave the neighbours behind, rounding the last
one to the nearer side.
-/

namespace TestRig.Number

open TestRig.Text

/-- A decimal `0.d₁d₂… × 10^point`, with no trailing zero digit; no digits is zero. -/
structure Decimal where
  digits : List Nat
  point : Int
  deriving DecidableEq, Repr, Inhabited

namespace Decimal

def trimZeros (ds : List Nat) : List Nat := (ds.reverse.dropWhile (· == 0)).reverse

def ofScaled (n : Nat) (k : Nat) : Decimal :=
  if n = 0 then ⟨[], 0⟩
  else
    let ds := (natDigits n).map fun c => c.toNat - 48
    ⟨trimZeros ds, (ds.length : Int) - k⟩

def ofBinary (m : Nat) (e : Int) : Decimal :=
  if e ≥ 0 then ofScaled (m * Nat.pow 2 e.toNat) 0
  else ofScaled (m * Nat.pow 5 (-e).toNat) (-e).toNat

def at_ (d : Decimal) (i : Nat) : Nat := d.digits.getD i 0

def roundDown (d : Decimal) (n : Nat) : Decimal :=
  if n ≥ d.digits.length then d else ⟨trimZeros (d.digits.take n), d.point⟩

def roundUp (d : Decimal) (n : Nat) : Decimal :=
  if n ≥ d.digits.length then d
  else
    let kept := d.digits.take n
    let nines := (kept.reverse.takeWhile (· == 9)).length
    if nines = kept.length then ⟨[1], d.point + 1⟩
    else
      let keep := kept.take (kept.length - nines)
      ⟨keep.dropLast ++ [keep.getLast?.getD 0 + 1], d.point⟩

def round (d : Decimal) (n : Nat) : Decimal :=
  if n ≥ d.digits.length then d
  else
    let next := d.at_ n
    let up := if next == 5 && n + 1 == d.digits.length then
        n > 0 && d.at_ (n - 1) % 2 == 1
      else next ≥ 5
    if up then d.roundUp n else d.roundDown n

end Decimal

/-! ### Fewest digits -/

def cutBetween (d lower upper : Decimal) (inclusive : Bool) : Decimal :=
  go d.digits.length 0
where
  go : Nat → Nat → Decimal
    | 0, _ => d
    | fuel + 1, i =>
      let m := d.at_ i
      let l := lower.at_ i
      let u := upper.at_ i
      let okDown := l != m || (inclusive && i + 1 == lower.digits.length)
      let okUp := m != u && (inclusive || m + 1 < u || i + 1 < upper.digits.length)
      if okDown && okUp then d.round (i + 1)
      else if okDown then d.roundDown (i + 1)
      else if okUp then d.roundUp (i + 1)
      else go fuel (i + 1)

def shortestWide (b : Binary) : Decimal :=
  if b.mant = 0 then ⟨[], 0⟩
  else
    let len := bitLength b.mant
    -- a mantissa of `prec + 1` bits whose last bit is half a unit
    let shift : Int := (b.prec + 1 : Int) - len
    let (m2, e2) : Nat × Int :=
      if shift ≥ 0 then (b.mant * Nat.pow 2 shift.toNat, b.exp - shift)
      else (b.mant / Nat.pow 2 (-shift).toNat, b.exp - shift)
    let d := Decimal.ofBinary b.mant b.exp
    let lower := Decimal.ofBinary (m2 - 1) e2
    let upper := Decimal.ofBinary (m2 + 1) e2
    cutBetween d lower upper (m2 % 4 < 2)

def cutAligned (d lower upper : Decimal) (inclusive : Bool) : Decimal :=
  go (upper.digits.length + d.digits.length + 2) 0 0
where
  go : Nat → Nat → Nat → Decimal
    | 0, _, _ => d
    | fuel + 1, ui, delta =>
      let mi : Int := (ui : Int) - upper.point + d.point
      if mi ≥ d.digits.length then d
      else
        let li : Int := (ui : Int) - upper.point + lower.point
        let l := if li ≥ 0 then lower.at_ li.toNat else 0
        let m := if mi ≥ 0 then d.at_ mi.toNat else 0
        let u := upper.at_ ui
        let okDown := l != m || (inclusive && li + 1 == lower.digits.length)
        let delta :=
          if delta == 0 && m + 1 < u then 2
          else if delta == 0 && m != u then 1
          else if delta == 1 && (m != 9 || u != 0) then 2
          else delta
        let okUp := delta > 0 && (inclusive || delta > 1 || ui + 1 < upper.digits.length)
        let cut := (mi + 1).toNat
        if okDown && okUp then d.round cut
        else if okDown then d.roundDown cut
        else if okUp then d.roundUp cut
        else go fuel (ui + 1) delta

def shortest64 (m : Nat) (e : Int) : Decimal :=
  if m = 0 then ⟨[], 0⟩
  else
    -- normalise to a 53-bit mantissa where the exponent allows
    let len := bitLength m
    let (m, e) : Nat × Int :=
      if len < 53 && e > -1074 then
        let s := min (53 - len) (e + 1074).toNat
        (m * Nat.pow 2 s, e - s)
      else (m, e)
    let d := Decimal.ofBinary m e
    let upper := Decimal.ofBinary (2 * m + 1) (e - 1)
    let (mlo, elo) : Nat × Int :=
      if m > Nat.pow 2 52 || e == -1074 then (m - 1, e) else (2 * m - 1, e - 1)
    let lower := Decimal.ofBinary (2 * mlo + 1) (elo - 1)
    cutAligned d lower upper (m % 2 == 0)

/-! ### Layout -/

def layoutFixed (d : Decimal) (frac : Nat) : String :=
  let intPart : List Char :=
    if d.point > 0 then
      (List.range d.point.toNat).map fun i => Char.ofNat (48 + d.at_ i)
    else ['0']
  let fracPart : List Char :=
    if frac > 0 then
      '.' :: (List.range frac).map fun (i : Nat) =>
        let idx : Int := d.point + (i : Int)
        if idx ≥ 0 then Char.ofNat (48 + d.at_ idx.toNat) else '0'
    else []
  String.ofList (intPart ++ fracPart)

def layoutExponent (d : Decimal) (frac : Nat) : String :=
  let first := Char.ofNat (48 + d.at_ 0)
  let rest : List Char :=
    if frac > 0 then '.' :: (List.range frac).map fun i => Char.ofNat (48 + d.at_ (i + 1)) else []
  let exp : Int := if d.digits.isEmpty then 0 else d.point - 1
  let sign := if exp < 0 then '-' else '+'
  let a := exp.natAbs
  let expDigits := if a < 10 then ['0', Char.ofNat (48 + a)] else natDigits a
  String.ofList (first :: rest ++ 'e' :: sign :: expDigits)

def signText (neg : Bool) : String := if neg then "-" else ""

def Numeric.fixedText : Numeric → String
  | .infinite neg => if neg then "-Inf" else "+Inf"
  | .finite b =>
    let d := shortestWide b
    signText b.neg ++ layoutFixed d (max (d.digits.length - d.point) 0).toNat

def Numeric.generalText : Numeric → String
  | .infinite neg => if neg then "-Inf" else "+Inf"
  | .finite b =>
    let d := shortest64 b.mant b.exp
    let exp := d.point - 1
    let n := d.digits.length
    let body := if !d.digits.isEmpty && (exp < -4 || exp ≥ 6) then layoutExponent d (n - 1)
      else layoutFixed d (max ((n : Int) - d.point) 0).toNat
    signText b.neg ++ body

end TestRig.Number
