import TestRig.Number.Binary

/-!
Arithmetic on numbers of arbitrary precision. An operation computes the exact result of its
finite operands and rounds it once, to the nearest with ties to even: a sum or quotient to the
larger of the operands' precisions, a product to 512 bits and then kept at the larger of the
operands' precisions or the bits the product needs.
-/

namespace TestRig.Number

def maxBinaryExp : Int := 2147483647

def minBinaryExp : Int := -2147483648

def roundScaled (neg : Bool) (num den : Nat) (e : Int) (prec : Nat) : Numeric :=
  if num = 0 then .finite ⟨neg, 0, 0, prec⟩
  else
    let (m, e1) := roundRatio num den prec
    let top := (bitLength m : Int) + e1 + e
    if top > maxBinaryExp then .infinite neg
    else if top < minBinaryExp then .finite ⟨neg, 0, 0, prec⟩
    else .finite ⟨neg, m, e1 + e, prec⟩

def trailingZeros (n : Nat) : Nat :=
  go n (bitLength n)
where
  go : Nat → Nat → Nat
    | _, 0 => 0
    | m, k + 1 => if m = 0 || m % 2 = 1 then 0 else 1 + go (m / 2) k

def Binary.minPrec (b : Binary) : Nat :=
  if b.mant = 0 then 0 else bitLength b.mant - trailingZeros b.mant

def Binary.exactSum (a b : Binary) : Bool × Nat × Int :=
  if a.mant = 0 then (b.neg, b.mant, b.exp)
  else if b.mant = 0 then (a.neg, a.mant, a.exp)
  else
    let e := min a.exp b.exp
    let x : Int := (a.mant * Nat.pow 2 (a.exp - e).toNat : Nat)
    let y : Int := (b.mant * Nat.pow 2 (b.exp - e).toNat : Nat)
    let s := (if a.neg then -x else x) + (if b.neg then -y else y)
    (s < 0, s.natAbs, e)

def Binary.addAt (a b : Binary) (prec : Nat) : Numeric :=
  let (neg, mag, e) := a.exactSum b
  if mag = 0 then .finite ⟨a.mant = 0 && b.mant = 0 && a.neg && b.neg, 0, 0, prec⟩
  else roundScaled neg mag 1 e prec

def Binary.mulAt (a b : Binary) (prec : Nat) : Numeric :=
  roundScaled (a.neg != b.neg) (a.mant * b.mant) 1 (a.exp + b.exp) prec

def Binary.negate (b : Binary) : Binary := { b with neg := !b.neg }

def Binary.truncated (b : Binary) : Int :=
  let v : Nat :=
    if b.exp ≥ 0 then b.mant * Nat.pow 2 b.exp.toNat
    else if (-b.exp).toNat ≥ bitLength b.mant then 0
    else b.mant / Nat.pow 2 (-b.exp).toNat
  if b.neg then -(v : Int) else v

def productPrecision : Nat := 512

namespace Numeric

def negate : Numeric → Numeric
  | .finite b => .finite b.negate
  | .infinite n => .infinite !n

def add (x y : Numeric) : Except String Numeric :=
  match x, y with
  | .infinite a, .infinite b =>
    if a == b then .ok (.infinite a) else .error "can't compute sum of opposing infinities"
  | .infinite a, _ | _, .infinite a => .ok (.infinite a)
  | .finite a, .finite b => .ok (a.addAt b (max a.prec b.prec))

def sub (x y : Numeric) : Except String Numeric :=
  match x, y with
  | .infinite a, .infinite b =>
    if a != b then .ok (.infinite a) else .error "can't subtract infinity from itself"
  | _, _ => add x y.negate

def mul (x y : Numeric) : Except String Numeric :=
  match x, y with
  | .finite a, .finite b =>
    match a.mulAt b productPrecision with
    | .finite r => .ok (.finite { r with prec := max (max a.prec b.prec) r.minPrec })
    | r => .ok r
  | .finite a, .infinite n | .infinite n, .finite a =>
    if a.mant == 0 then .error "can't multiply zero by infinity"
    else .ok (.infinite (n != a.neg))
  | .infinite a, .infinite b => .ok (.infinite (a != b))

def quotient (a b : Binary) (prec : Nat) : Numeric :=
  roundScaled (a.neg != b.neg) a.mant b.mant (a.exp - b.exp) prec

def div (x y : Numeric) : Except String Numeric :=
  match x, y with
  | .finite a, .finite b =>
    if b.mant == 0 then
      if a.mant == 0 then .error "can't divide zero by zero or infinity by infinity"
      else .ok (.infinite (a.neg != b.neg))
    else .ok (quotient a b (max a.prec b.prec))
  | .infinite _, .infinite _ => .error "can't divide zero by zero or infinity by infinity"
  | .infinite n, .finite b => .ok (.infinite (n != b.neg))
  | .finite a, .infinite n => .ok (.finite ⟨a.neg != n, 0, 0, a.prec⟩)

def mod (x y : Numeric) : Except String Numeric :=
  match x, y with
  | _, .finite b =>
    if b.mant == 0 then .ok x
    else match x with
    | .infinite _ => mul x y
    | .finite a =>
      let p := a.prec
      let t : Int := match quotient a b (max a.prec b.prec) with
        | .finite q => q.truncated
        | .infinite _ => 0
      match roundScaled (t < 0) t.natAbs 1 0 p with
      | .infinite _ => .ok x
      | .finite tb =>
        match b.mulAt tb p with
        | .finite w => .ok (a.addAt w.negate p)
        | .infinite n => .ok (.infinite !n)
  | _, .infinite _ => .error "can't use modulo with zero and infinity"

def compareFinite (a b : Binary) : Int :=
  let sa : Int := if a.mant = 0 then 0 else if a.neg then -1 else 1
  let sb : Int := if b.mant = 0 then 0 else if b.neg then -1 else 1
  if sa != sb then (if sa < sb then -1 else 1)
  else if sa == 0 then 0
  else
    let ta : Int := (bitLength a.mant : Int) + a.exp
    let tb : Int := (bitLength b.mant : Int) + b.exp
    let mag : Int :=
      if ta != tb then (if ta < tb then -1 else 1)
      else
        let e := min a.exp b.exp
        let x := a.mant * Nat.pow 2 (a.exp - e).toNat
        let y := b.mant * Nat.pow 2 (b.exp - e).toNat
        if x < y then -1 else if x == y then 0 else 1
    sa * mag

def compare (x y : Numeric) : Int :=
  match x, y with
  | .infinite a, .infinite b => if a == b then 0 else if a then -1 else 1
  | .infinite a, _ => if a then -1 else 1
  | _, .infinite b => if b then 1 else -1
  | .finite a, .finite b => compareFinite a b

def isWhole : Numeric → Bool
  | .finite b =>
    b.exp ≥ 0 || b.mant = 0 || ((-b.exp).toNat ≤ trailingZeros b.mant)
  | .infinite _ => false

def truncated : Numeric → Int
  | .finite b => b.truncated
  | .infinite _ => 0

end Numeric

end TestRig.Number
