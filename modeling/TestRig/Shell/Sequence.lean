import TestRig.Shell.Format
import TestRig.Shell.Programs

/-!
`seq`: numbers from a first to a last by an increment, as GNU `seq` writes them.

The operands are read as extended-precision binary numbers (64 bits of mantissa), and the
numbers are `first + i · step`, each operation rounded to that precision, as long as they do
not pass the last.
-/

namespace TestRig.Shell

open TestRig.Files TestRig.Number

/-! ### Operands -/

structure SeqOperand where
  value : FloatValue
  width : Int := 0
  precision : Option Nat := some 0
  deriving Inhabited

def SeqOperand.one : SeqOperand := { value := .finite false 1 0, width := 1 }

def ratioOf : FloatValue → Option (Bool × Nat × Nat)
  | .finite neg m e =>
    let (n, d) := scaleByTwo m 1 e
    some (neg && n != 0, n, d)
  | _ => none

def signedRatio (r : Bool × Nat × Nat) : Int × Nat :=
  ((if r.1 then -(r.2.1 : Int) else r.2.1), r.2.2)

def compareFloat (a b : FloatValue) : Ordering :=
  match a, b with
  | .infinity n, .infinity m => if n == m then .eq else if n then .lt else .gt
  | .infinity n, _ => if n then .lt else .gt
  | _, .infinity m => if m then .gt else .lt
  | _, _ =>
    match ratioOf a, ratioOf b with
    | some x, some y =>
      let (p, q) := signedRatio x
      let (r, s) := signedRatio y
      compare (p * s) (r * q)
    | _, _ => .eq

def roundExtended (num : Int) (den : Nat) : FloatValue :=
  (FloatFormat.extended.value (num < 0) num.natAbs den).1

def seqTerm (first step : FloatValue) (i : Nat) : FloatValue :=
  match ratioOf first, ratioOf step with
  | some f, some s =>
    let (sn, sd) := signedRatio s
    match ratioOf (roundExtended (sn * i) sd) with
    | some p =>
      let (pn, pd) := signedRatio p
      let (fn, fd) := signedRatio f
      roundExtended (fn * pd + pn * fd) (fd * pd)
    | none => first
  | _, _ => first

def readLongDouble (text : String) : Option FloatValue :=
  let cs := text.toList.dropWhile isCBlank
  let scan := scanFloat FloatFormat.extended cs
  let zero := match scan.value with
    | .finite _ m _ => m == 0
    | _ => false
  if !scan.found || !scan.rest.isEmpty then none
  else if scan.outOfRange && !zero then none
  else some scan.value

def operandLayout (text : String) (value : FloatValue) : Int × Option Nat :=
  let a := (text.toList.dropWhile fun c => isCBlank c || c == '+').toArray
  let s := a.toList
  let point := s.findIdx? (· == '.')
  let precision : Option Nat := if point.isNone && !s.contains 'p' then some 0 else none
  let finite := match value with
    | .finite _ _ _ => true
    | _ => false
  if s.any (fun c => c == 'x' || c == 'X') || !finite then (0, precision)
  else
    let (width, precision, fraction) : Int × Option Nat × Nat := match point with
      | some dp =>
        let fraction := ((s.drop (dp + 1)).takeWhile fun c => c != 'e' && c != 'E').length
        let grow : Int := if fraction == 0 then -1
          else if dp == 0 || !(a.getD (dp - 1) ' ').isDigit then 1 else 0
        ((s.length : Int) + grow, some fraction, fraction)
      | none => (s.length, precision, 0)
    let e := match s.findIdx? (· == 'e') with
      | some i => some i
      | none => s.findIdx? (· == 'E')
    match e, precision with
    | some ei, some prec =>
      let expText := s.drop (ei + 1)
      let (neg, digits) := match expText with
        | '-' :: r => (true, r.takeWhile Char.isDigit)
        | '+' :: r => (false, r.takeWhile Char.isDigit)
        | r => (false, r.takeWhile Char.isDigit)
      let magnitude := (String.ofList digits).toNat!
      let exponent : Int := if neg then -(magnitude : Int) else magnitude
      let precision : Int := if exponent < 0 then prec + magnitude else prec - min prec magnitude
      let width := width - ((s.length : Int) - ei)
      if exponent < 0 then
        let width := match point with
          | some dp => if ei == dp + 1 then width + 1 else width
          | none => width + 1
        (width + magnitude, some precision.toNat)
      else
        let width := if point.isSome && precision == 0 && fraction > 0 then width - 1 else width
        (width - min precision.toNat magnitude, some precision.toNat)
    | _, _ => (width, precision)

def seqUsage (message : String) : String :=
  "seq: " ++ message ++ "\nTry 'seq --help' for more information.\n"

def readOperand (text : String) : Except String SeqOperand :=
  match readLongDouble text with
  | none => .error (seqUsage ("invalid floating point argument: '" ++ text ++ "'"))
  | some (.nan _) => .error (seqUsage ("invalid 'not-a-number' argument: '" ++ text ++ "'"))
  | some v =>
    let (width, precision) := operandLayout text v
    .ok { value := v, width, precision }

/-! ### Formats -/

/-- A format of `seq`: the text before its one conversion, the conversion, and the text
after. -/
structure SeqFormat where
  before : String := ""
  spec : Spec := {}
  letter : Char := 'g'
  after : String := ""
  deriving Inhabited

def SeqFormat.write (f : SeqFormat) (v : FloatValue) : String :=
  f.before ++ formatFloat f.spec f.letter 64 v ++ f.after

def SeqFormat.numberIn (f : SeqFormat) (text : String) : String :=
  String.ofList ((text.toList.drop f.before.length).take (text.length - f.before.length - f.after.length))

def formatLiteral : Nat → List Char → String → Option (String × List Char)
  | 0, _, _ => none
  | _, [], _ => none
  | n + 1, '%' :: '%' :: rest, acc => formatLiteral n rest (acc.push '%')
  | _, '%' :: rest, acc => some (acc, '%' :: rest)
  | n + 1, c :: rest, acc => formatLiteral n rest (acc.push c)

def readSeqFormat (fmt : String) : Except String SeqFormat :=
  let quoted := "'" ++ fmt ++ "'"
  match formatLiteral (fmt.length + 1) fmt.toList "" with
  | none => .error ("seq: format " ++ quoted ++ " has no % directive\n")
  | some (before, cs) =>
    let cs := cs.drop 1
    let flags := cs.takeWhile fun c => "-+#0 '".toList.contains c
    let cs := cs.drop flags.length
    let widthDigits := cs.takeWhile Char.isDigit
    let cs := cs.drop widthDigits.length
    let (precision, cs) : Option Nat × List Char := match cs with
      | '.' :: r =>
        let ds := r.takeWhile Char.isDigit
        (some (String.ofList ds).toNat!, r.drop ds.length)
      | r => (none, r)
    let cs := match cs with
      | 'L' :: r => r
      | r => r
    match cs with
    | [] => .error ("seq: format " ++ quoted ++ " ends in %\n")
    | letter :: rest =>
      if !"efgaEFGA".toList.contains letter then
        .error ("seq: format " ++ quoted ++ " has unknown %" ++ String.singleton letter ++ " directive\n")
      else
        match formatLiteral (rest.length + 1) rest "" with
        | some _ => .error ("seq: format " ++ quoted ++ " has too many % directives\n")
        | none =>
          let after := String.ofList (rest.foldl (fun (acc : List Char × Bool) c =>
            if acc.2 then (acc.1, false)
            else if c == '%' then (acc.1 ++ [c], true) else (acc.1 ++ [c], false)) ([], false)).1
          let width := (String.ofList widthDigits).toNat!
          let spec : Spec := { left := flags.contains '-', plus := flags.contains '+', space := flags.contains ' ', alt := flags.contains '#', zero := flags.contains '0', width, precision }
          .ok { before, spec, letter, after }

def defaultSeqFormat (equalWidth : Bool) (first step last : SeqOperand) : SeqFormat :=
  match first.precision, step.precision, last.precision with
  | some fp, some sp, some lp =>
    let prec := max fp sp
    if !equalWidth then { spec := { precision := some prec }, letter := 'f' }
    else
      let firstWidth := first.width + ((prec : Int) - fp) + (if fp == 0 && prec != 0 then 1 else 0)
      let lastWidth := last.width + ((prec : Int) - lp) - (if lp != 0 && prec == 0 then 1 else 0) +
        (if lp == 0 && prec != 0 then 1 else 0)
      let width := max firstWidth lastWidth
      if width < 0 then {}
      else { spec := { zero := true, width := width.toNat, precision := some prec }, letter := 'f' }
  | _, _, _ => {}

/-! ### Counting -/

def seqNumbers (f : SeqFormat) (first step last : FloatValue) (down : Bool) :
    Nat → Nat → String → List String → List String
  | 0, _, _, acc => acc
  | fuel + 1, i, previous, acc =>
    let x := seqTerm first step i
    let past := if down then compareFloat x last == .lt else compareFloat last x == .lt
    let text := f.write x
    if !past then seqNumbers f first step last down fuel (i + 1) text (text :: acc)
    else
      let printsAsLast := match readLongDouble (f.numberIn text) with
        | some v => compareFloat v last == .eq
        | none => false
      if printsAsLast && f.numberIn previous != f.numberIn text then text :: acc else acc

def seqCountBound (first step last : FloatValue) : Nat :=
  match ratioOf first, ratioOf step, ratioOf last with
  | some f, some s, some l =>
    let (fn, fd) := signedRatio f
    let (sn, sd) := signedRatio s
    let (ln, ld) := signedRatio l
    -- (last - first) / step
    let num := (ln * fd - fn * ld) * sd
    let den : Int := fd * ld * sn
    if den == 0 then 0 else min ((num / den).natAbs + 3) 10000000
  | _, _, _ => 10000000

def seqWhole (a b step : Nat) (sep : String) : String :=
  if a > b || step == 0 then ""
  else
    let n := (b - a) / step + 1
    sep.intercalate ((List.range n).map fun k => toString (a + k * step)) ++ "\n"

def seqSpecs : List OptionSpec :=
  [{ name := "f", short := some 'f', long := some "format", value := .required },
   { name := "s", short := some 's', long := some "separator", value := .required },
   { name := "w", short := some 'w', long := some "equal-width" }]

def allDigits (s : String) : Bool := !s.isEmpty && s.all Char.isDigit

def seq (fs : Tree) (args : List String) : Effect :=
  let plain : Effect := { files := fs }
  let (w, fault) := scanWordsBy { specs := seqSpecs, negativeNumbers := true, stopAtOperand := true } args
  match fault with
  | some f => (plain.err (usageFault "seq" f)).fail 1
  | none =>
    let ops := w.operands
    let sep := (w.last? "s").getD "\n"
    let equalWidth := w.has "w"
    let format := w.last? "f"
    if ops.isEmpty then (plain.err (seqUsage "missing operand")).fail 1
    else if ops.length > 3 then (plain.err (seqUsage ("extra operand '" ++ ops.getD 3 "" ++ "'"))).fail 1
    else
      let userFormat : Except String (Option SeqFormat) := match format with
        | some fmt => (readSeqFormat fmt).map some
        | none => .ok none
      match userFormat with
      | .error m => (plain.err m).fail 1
      | .ok userFormat =>
        if userFormat.isSome && equalWidth then
          (plain.err (seqUsage "format string may not be specified when printing equal width strings")).fail 1
        else
          let texts := if ops.length == 1 then ["1", "1", ops.getD 0 ""]
            else if ops.length == 2 then [ops.getD 0 "", "1", ops.getD 1 ""] else ops
          let stepText := texts.getD 1 "1"
          let fast := allDigits (texts.getD 0 "") && allDigits (texts.getD 2 "") && allDigits stepText &&
            stepText.toNat! > 0 && stepText.toNat! ≤ 200 && !equalWidth && userFormat.isNone && sep.length == 1
          if fast then
            let out := seqWhole (texts.getD 0 "").toNat! (texts.getD 2 "").toNat! stepText.toNat! sep
            if out.isEmpty then plain else plain.out out
          else
            let read : Except String (SeqOperand × SeqOperand × SeqOperand) := do
              let first ← if ops.length == 1 then pure SeqOperand.one else readOperand (ops.getD 0 "")
              let step ← if ops.length == 3 then readOperand (ops.getD 1 "") else pure SeqOperand.one
              if ops.length == 3 && compareFloat step.value (.finite false 0 0) == .eq then
                throw (seqUsage ("invalid Zero increment value: '" ++ ops.getD 1 "" ++ "'"))
              let last ← readOperand (ops.getLast!)
              pure (first, step, last)
            match read with
            | .error m => (plain.err m).fail 1
            | .ok (first, step, last) =>
              let f := userFormat.getD (defaultSeqFormat equalWidth first step last)
              let down := compareFloat step.value (.finite false 0 0) == .lt
              let outside := if down then compareFloat first.value last.value == .lt
                else compareFloat last.value first.value == .lt
              if outside then plain
              else
                let firstText := f.write first.value
                let bound := seqCountBound first.value step.value last.value
                let numbers := (seqNumbers f first.value step.value last.value down bound 1 firstText [firstText]).reverse
                plain.out (sep.intercalate numbers ++ "\n")

end TestRig.Shell
