import TestRig.Number.Binary

/-!
The text of binary floating-point numbers in the four styles of formatted output: fixed
(`%f`), scientific (`%e`), general (`%g`) and hexadecimal (`%a`). Every digit is exact: the
number's rational value is scaled by a power of ten and rounded to the nearest integer, a tie
going to the even one, so the decimal printed is the correctly rounded decimal of the binary
value.
-/

namespace TestRig.Number

/-- A number of formatted output: a finite binary number `mant · 2^exp`, an infinity or not a
number, each with its sign. -/
inductive FloatValue where
  | finite (neg : Bool) (mant : Nat) (exp : Int)
  | infinity (neg : Bool)
  | nan (neg : Bool)
  deriving Repr, Inhabited, DecidableEq

def FloatValue.neg : FloatValue → Bool
  | .finite n _ _ | .infinity n | .nan n => n

def padDigits (width n : Nat) : String :=
  let s := toString n
  String.ofList (List.replicate (width - s.length) '0') ++ s

def scaledRound (n d : Nat) (k : Int) : Nat :=
  if k ≥ 0 then roundHalfEven (n * Nat.pow 10 k.toNat) d else roundHalfEven n (d * Nat.pow 10 (-k).toNat)

def tenPowLe (n d : Nat) (x : Int) : Bool :=
  if x ≥ 0 then Nat.pow 10 x.toNat * d ≤ n else d ≤ n * Nat.pow 10 (-x).toNat

def decimalExponent (n d : Nat) : Int :=
  let guess : Int := ((toString n).length : Int) - (toString d).length
  if tenPowLe n d guess then guess else guess - 1

def fixedParts (n d prec : Nat) : String × String :=
  let r := scaledRound n d prec
  (toString (r / Nat.pow 10 prec), if prec = 0 then "" else padDigits prec (r % Nat.pow 10 prec))

def scientificParts (n d prec : Nat) : String × Int :=
  if n = 0 then (padDigits (prec + 1) 0, 0)
  else
    let x := decimalExponent n d
    let r := scaledRound n d ((prec : Int) - x)
    if r ≥ Nat.pow 10 (prec + 1) then (toString (r / 10), x + 1) else (toString r, x)

def exponentText (mark : String) (x : Int) (width : Nat) : String :=
  mark ++ (if x < 0 then "-" else "+") ++ padDigits width x.natAbs

def withPoint (intPart frac : String) (point : Bool) : String :=
  if frac.isEmpty && !point then intPart else intPart ++ "." ++ frac

def fixedText (n d prec : Nat) (alt : Bool) : String :=
  let (w, f) := fixedParts n d prec
  withPoint w f alt

def scientificText (n d prec : Nat) (alt : Bool) (mark : String) : String :=
  let (ds, x) := scientificParts n d prec
  withPoint (String.ofList (ds.toList.take 1)) (String.ofList (ds.toList.drop 1)) alt ++
    exponentText mark x 2

def trimFraction (s : String) : String :=
  if !s.contains '.' then s
  else
    let t := (s.toList.reverse.dropWhile (· == '0')).reverse
    match t.reverse with
    | '.' :: r => String.ofList r.reverse
    | _ => String.ofList t

def generalText (n d prec : Nat) (alt : Bool) (mark : String) : String :=
  let p := if prec = 0 then 1 else prec
  let (_, x) := scientificParts n d (p - 1)
  if x < (p : Int) && x ≥ -4 then
    let t := fixedText n d ((p : Int) - 1 - x).toNat alt
    if alt then t else trimFraction t
  else
    let (ds, x) := scientificParts n d (p - 1)
    let m := withPoint (String.ofList (ds.toList.take 1)) (String.ofList (ds.toList.drop 1)) alt
    (if alt then m else trimFraction m) ++ exponentText mark x 2

def hexDigitChar (upper : Bool) (n : Nat) : Char :=
  if n < 10 then Char.ofNat (48 + n) else Char.ofNat ((if upper then 55 else 87) + n)

def hexParts (mant : Nat) (exp : Int) (bits : Nat) (precision : Option Nat) : Nat × List Nat × Int :=
  if mant = 0 then (0, List.replicate (precision.getD 0) 0, 0)
  else
    let len := bitLength mant
    let (m, e) := if len < bits then (mant * Nat.pow 2 (bits - len), exp - (bits - len : Nat))
      else (mant, exp)
    let fracBits := (bits - 1) / 4 * 4
    let digitsOf (w v : Nat) : List Nat := (List.range w).reverse.map fun i => v / Nat.pow 16 i % 16
    match precision with
    | none =>
      let ds := digitsOf (fracBits / 4) (m % Nat.pow 2 fracBits)
      (m / Nat.pow 2 fracBits, (ds.reverse.dropWhile (· == 0)).reverse, e + fracBits)
    | some q =>
      if 4 * q ≥ fracBits then
        (m / Nat.pow 2 fracBits, digitsOf (fracBits / 4) (m % Nat.pow 2 fracBits) ++ List.replicate (q - fracBits / 4) 0,
          e + fracBits)
      else
        let r := roundHalfEven m (Nat.pow 2 (fracBits - 4 * q))
        let lead := r / Nat.pow 2 (4 * q)
        if lead ≥ 16 then (1, List.replicate q 0, e + fracBits + 4)
        else (lead, digitsOf q (r % Nat.pow 2 (4 * q)), e + fracBits)

def hexText (mant : Nat) (exp : Int) (bits : Nat) (precision : Option Nat) (alt upper : Bool) : String :=
  let (lead, ds, x) := hexParts mant exp bits precision
  let frac := String.ofList (ds.map (hexDigitChar upper))
  withPoint (String.singleton (hexDigitChar upper lead)) frac alt ++
    (if upper then "P" else "p") ++ (if x < 0 then "-" else "+") ++ toString x.natAbs

end TestRig.Number
