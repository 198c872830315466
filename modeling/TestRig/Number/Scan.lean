import TestRig.Number.FloatText

/-!
Numbers read from the start of a text, as the conversion functions of the C library read them:
the number is the longest prefix that has the form, the text after it is handed back, and a
value outside the range of the result is clamped and reported. Blanks may come first, then a
sign.

* An integer is written in a base chosen by its start: `0x` and a hexadecimal digit for base
  16, `0` for base 8, else base 10.
-/

namespace TestRig.Number

/-- What reading a number at the start of a text found. -/
structure Scan (α : Type) where
  value : α
  rest : List Char
  found : Bool := true
  outOfRange : Bool := false
  deriving Inhabited

def isCBlank (c : Char) : Bool :=
  c == ' ' || c == '\t' || c == '\n' || c == '\x0B' || c == '\x0C' || c == '\r'

def digitValue (c : Char) : Option Nat :=
  if '0' ≤ c && c ≤ '9' then some (c.toNat - '0'.toNat)
  else if 'a' ≤ c && c ≤ 'z' then some (c.toNat - 'a'.toNat + 10)
  else if 'A' ≤ c && c ≤ 'Z' then some (c.toNat - 'A'.toNat + 10)
  else none

def isDigitOf (base : Nat) (c : Char) : Bool := (digitValue c).any (· < base)

def digitsIn (base : Nat) (ds : List Char) : Nat :=
  ds.foldl (fun acc c => acc * base + (digitValue c).getD 0) 0

def readSign (cs : List Char) : Bool × List Char :=
  match cs.dropWhile isCBlank with
  | '-' :: r => (true, r)
  | '+' :: r => (false, r)
  | r => (false, r)

def scanMagnitude (cs : List Char) : Option (Bool × Nat × List Char) :=
  let (neg, body) := readSign cs
  let (base, digits) := match body with
    | '0' :: x :: r => if (x == 'x' || x == 'X') && (r.head?.any (isDigitOf 16)) then (16, r) else (8, body)
    | '0' :: _ => (8, body)
    | _ => (10, body)
  let ds := digits.takeWhile (isDigitOf base)
  if ds.isEmpty then none else some (neg, digitsIn base ds, digits.drop ds.length)

def scanSigned (cs : List Char) : Scan Int :=
  match scanMagnitude cs with
  | none => { value := 0, rest := cs, found := false }
  | some (neg, v, rest) =>
    if neg then
      if v > Nat.pow 2 63 then { value := -Int.pow 2 63, rest, outOfRange := true }
      else { value := -(v : Int), rest }
    else if v ≥ Nat.pow 2 63 then { value := Int.pow 2 63 - 1, rest, outOfRange := true }
    else { value := v, rest }

def scanUnsigned (cs : List Char) : Scan Nat :=
  match scanMagnitude cs with
  | none => { value := 0, rest := cs, found := false }
  | some (neg, v, rest) =>
    if v ≥ Nat.pow 2 64 then { value := Nat.pow 2 64 - 1, rest, outOfRange := true }
    else { value := if neg then (Nat.pow 2 64 - v) % Nat.pow 2 64 else v, rest }

/-- The range of a binary format: its bits of mantissa and the binary exponent of its smallest
normal number; the largest number lies below `2^(2 - minExp)`. -/
structure FloatFormat where
  bits : Nat
  minExp : Int
  deriving Repr, Inhabited

def FloatFormat.extended : FloatFormat := ⟨64, -16382⟩

def FloatFormat.double : FloatFormat := ⟨53, -1022⟩

def FloatFormat.round (f : FloatFormat) (n d : Nat) : Option (Nat × Int) × Bool :=
  let (m, e) := roundRatio n d f.bits
  let top := e + (f.bits - 1 : Nat)
  if top ≥ 2 - f.minExp then (none, true)
  else if top < f.minExp then
    let q := f.minExp - (f.bits - 1 : Nat)
    let (a, b) := scaleByTwo n d (-q)
    (some (roundHalfEven a b, q), true)
  else (some (m, e), false)

def spells (cs : List Char) (word : String) : Bool :=
  cs.length ≥ word.length && (cs.take word.length).map Char.toLower == word.toList

def readPower (cs : List Char) : Option (Int × List Char) :=
  let (neg, r) := match cs with
    | '-' :: r => (true, r)
    | '+' :: r => (false, r)
    | r => (false, r)
  let ds := r.takeWhile Char.isDigit
  if ds.isEmpty then none
  else
    let v : Int := min (digitsIn 10 ds) 100000000
    some (if neg then -v else v, r.drop ds.length)

def FloatFormat.value (f : FloatFormat) (neg : Bool) (n d : Nat) : FloatValue × Bool :=
  if n = 0 then (.finite neg 0 0, false)
  else
    let (r, range) := f.round n d
    match r with
    | some (m, e) =>
      let (a, b) := scaleByTwo m 1 e
      (.finite neg m e, range && a * d != n * b)
    | none => (.infinity neg, true)

def scaledRatio (digits : Nat) (digitCount : Nat) (fraction : Nat) (radixBits : Nat) (power : Int)
    (decimal : Bool) : Option Bool ⊕ (Nat × Nat) :=
  -- the size in powers of the radix
  let size : Int := (digitCount : Int) - fraction + power
  if decimal then
    if size > 5000 then .inl (some true)
    else if size < -5000 then .inl (some false)
    else
      let e : Int := power - fraction
      if e ≥ 0 then .inr (digits * Nat.pow 10 e.toNat, 1) else .inr (digits, Nat.pow 10 (-e).toNat)
  else
    let e : Int := power - (radixBits * fraction : Nat)
    let bitsSize : Int := (radixBits * digitCount : Nat) + e
    if bitsSize > 17000 then .inl (some true)
    else if bitsSize < -17000 then .inl (some false)
    else .inr (scaleByTwo digits 1 e)

def scanFloat (f : FloatFormat) (cs : List Char) : Scan FloatValue :=
  let (neg, body) := readSign cs
  let nothing : Scan FloatValue := { value := .finite false 0 0, rest := cs, found := false }
  if spells body "infinity" then { value := .infinity neg, rest := body.drop 8 }
  else if spells body "inf" then { value := .infinity neg, rest := body.drop 3 }
  else if spells body "nan" then
    let after := body.drop 3
    let rest := match after with
      | '(' :: r =>
        let tag := r.takeWhile fun c => c.isAlphanum || c == '_'
        match r.drop tag.length with
        | ')' :: r' => r'
        | _ => after
      | _ => after
    { value := .nan neg, rest }
  else
    let (hex, mant) := match body with
      | '0' :: x :: r =>
        if (x == 'x' || x == 'X') &&
          (r.head?.any (isDigitOf 16) || (r.head? == some '.' && (r.drop 1).head?.any (isDigitOf 16)))
        then (true, r) else (false, body)
      | _ => (false, body)
    let base := if hex then 16 else 10
    let whole := mant.takeWhile (isDigitOf base)
    let afterWhole := mant.drop whole.length
    let (frac, afterFrac) := match afterWhole with
      | '.' :: r => let fd := r.takeWhile (isDigitOf base); (fd, r.drop fd.length)
      | r => ([], r)
    let hadPoint := afterWhole.head? == some '.'
    if whole.isEmpty && frac.isEmpty then nothing
    else
      let afterMant := if hadPoint then afterFrac else afterWhole
      let (power, rest) := match afterMant with
        | c :: r =>
          if (hex && (c == 'p' || c == 'P')) || (!hex && (c == 'e' || c == 'E')) then
            (readPower r).getD (0, afterMant)
          else (0, afterMant)
        | [] => (0, [])
      let ds := whole ++ frac
      let digits := digitsIn base ds
      let significant := (ds.dropWhile (· == '0')).length
      match scaledRatio digits significant frac.length 4 power (!hex) with
      | .inl (some true) => if digits = 0 then { value := .finite neg 0 0, rest }
          else { value := .infinity neg, rest, outOfRange := true }
      | .inl _ => { value := .finite neg 0 0, rest, outOfRange := digits != 0 }
      | .inr (n, d) =>
        let (v, range) := f.value neg n d
        { value := v, rest, outOfRange := range }

end TestRig.Number
