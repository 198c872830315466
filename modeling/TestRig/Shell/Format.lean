import TestRig.Shell.Escape
import TestRig.Shell.Calendar

/-!
`printf`: a format applied to arguments.
-/

namespace TestRig.Shell

open TestRig.Number

/-- How `%q` quotes a text for the shell, if it is known. -/
inductive QuoteStyle where
  | unknown
  | backslashes
  | singleQuotes
  deriving DecidableEq, Inhabited

structure PrintfRules where
  formatEscapes : EscapeRules
  argumentEscapes : EscapeRules
  float : FloatFormat
  quoting : QuoteStyle
  flagChars : List Char
  shellOwn : Bool
  deriving Inhabited

def PrintfRules.bash : PrintfRules :=
  ⟨.bashFormat, .bashArgument, .extended, .backslashes, ['#', '\x27', '-', '+', ' ', '0'], true⟩

def PrintfRules.light : PrintfRules :=
  ⟨.lightFormat, .lightArgument, .double, .unknown, ['#', '-', '+', ' ', '0'], false⟩

def PrintfRules.program : PrintfRules :=
  ⟨.programFormat, .programArgument, .extended, .singleQuotes, ['#', '\x27', '-', '+', ' ', '0'], false⟩

inductive PrintfFault where
  | notNumeric (arg : String) (someRead : Bool)
  | outOfRange (arg : String)
  | badConversion (spec : String) (letter : Char)
  | missingConversion (spec : String)
  | missingDigits (letter : Char)
  | badUniversal (letter : Char) (value : Nat)
  | badName (arg : String)
  | badTimeFormat (letter : Char)
  deriving Inhabited, DecidableEq, Repr

structure Spec where
  left : Bool := false
  plus : Bool := false
  space : Bool := false
  alt : Bool := false
  zero : Bool := false
  width : Nat := 0
  precision : Option Nat := none
  deriving Inhabited

def fill (n : Nat) (c : Char) : String := String.ofList (List.replicate n c)

def Spec.padText (s : Spec) (body : String) : String :=
  let n := s.width - body.length
  if s.left then body ++ fill n ' ' else fill n ' ' ++ body

def Spec.padNumber (s : Spec) (sign pre digits : String) (zeros : Bool) : String :=
  let n := s.width - (sign.length + pre.length + digits.length)
  if s.left then sign ++ pre ++ digits ++ fill n ' '
  else if s.zero && zeros then sign ++ pre ++ fill n '0' ++ digits
  else fill n ' ' ++ sign ++ pre ++ digits

def Spec.sign (s : Spec) (neg : Bool) : String :=
  if neg then "-" else if s.plus then "+" else if s.space then " " else ""

def formatInteger (s : Spec) (letter : Char) (neg : Bool) (mag : Nat) : String :=
  let base := if letter == 'o' then 8 else if letter == 'x' || letter == 'X' then 16 else 10
  let raw := if s.precision == some 0 && mag == 0 then ""
    else String.ofList ((Nat.toDigits base mag).map fun c => if letter == 'X' then c.toUpper else c)
  let digits := match s.precision with
    | some p => fill (p - raw.length) '0' ++ raw
    | none => raw
  let digits := if letter == 'o' && s.alt && !digits.startsWith "0" then "0" ++ digits else digits
  let pre := if (letter == 'x' || letter == 'X') && s.alt && mag != 0 then
      (if letter == 'X' then "0X" else "0x") else ""
  let sign := if letter == 'd' || letter == 'i' then s.sign neg else ""
  s.padNumber sign pre digits s.precision.isNone

def formatFloat (s : Spec) (letter : Char) (bits : Nat) (v : FloatValue) : String :=
  let upper := letter.isUpper
  let sign := s.sign v.neg
  match v with
  | .infinity _ => s.padText (sign ++ if upper then "INF" else "inf")
  | .nan _ => s.padText (sign ++ if upper then "NAN" else "nan")
  | .finite _ m e =>
    let (n, d) := scaleByTwo m 1 e
    let prec := s.precision.getD 6
    let mark := if upper then "E" else "e"
    match letter.toLower with
    | 'f' => s.padNumber sign "" (fixedText n d prec s.alt) true
    | 'e' => s.padNumber sign "" (scientificText n d prec s.alt mark) true
    | 'g' => s.padNumber sign "" (generalText n d prec s.alt mark) true
    | _ => s.padNumber sign (if upper then "0X" else "0x") (hexText m e bits s.precision s.alt upper) true

/-! ### Quoting for the shell -/

def isPrintable (c : Char) : Bool := 0x20 ≤ c.toNat && c.toNat < 0x7f

def backslashed : List Char :=
  ['\t', '\n', ' ', '!', '"', '$', '&', '\x27', '(', ')', '*', ',', ';', '<', '>', '?', '[', '\\',
   ']', '^', '\x60', '\x7b', '|', '\x7d']

def backslashQuote (s : String) : String :=
  let cs := s.toList
  let prevs := none :: cs.map some
  String.join ((cs.zip prevs).zipIdx.map fun ((c, prev), i) =>
    let quote := backslashed.contains c || (c == '#' && i == 0) ||
      (c == '~' && (prev.isNone || prev == some ':' || prev == some '='))
    (if quote then "\\" else "") ++ String.singleton c)

def ansiQuote (s : String) : String :=
  "$'" ++ String.join (s.toList.map fun c =>
    match c.toNat with
    | 27 => "\\E"
    | 7 => "\\a"
    | 11 => "\\v"
    | 8 => "\\b"
    | 12 => "\\f"
    | 10 => "\\n"
    | 13 => "\\r"
    | 9 => "\\t"
    | 92 => "\\\\"
    | 39 => "\\'"
    | n => if isPrintable c then String.singleton c
      else "\\" ++ String.ofList [Char.ofNat (48 + n / 64 % 8), Char.ofNat (48 + n / 8 % 8), Char.ofNat (48 + n % 8)]) ++ "'"

def hasShellMeta (w : String) : Bool :=
  let cs := w.toList
  (cs.zip (none :: cs.map some)).zipIdx.any fun ((c, before), i) =>
    " \t\n'\"\\|&;()<>!\x7b\x7d*[?]^$`".contains c ||
      (c == '~' && (before.isNone || before == some '=' || before == some ':')) || (c == '#' && i == 0)

def shellQuote (s : String) : String :=
  if s.isEmpty then "''"
  else if s.any (fun c => !isPrintable c) then ansiQuote s
  else backslashQuote s

def quoteForcing : List Char :=
  [' ', '\t', '\n', '!', '"', '$', '&', '(', ')', '*', ';', '<', '=', '>', '[', '^', '\x60', '|', '?',
   '\\', '\x27']

def programQuote (s : String) : String :=
  let special := s.any (quoteForcing.contains ·) || s.startsWith "#" || s.startsWith "~" ||
    s.any (fun c => !isPrintable c)
  if s.isEmpty then "''"
  else if !special then s
  else "'" ++ String.join (s.toList.map fun c => if c == '\x27' then "'\\''" else String.singleton c) ++ "'"

/-! ### Arguments -/

/-- The state of formatting: the text so far, the arguments left, whether this pass of the format
took one, and the faults so far. -/
structure Formatting where
  out : String := ""
  args : List String
  took : Bool := false
  counts : List (String × Nat) := []
  faults : List (Nat × PrintfFault) := []
  deriving Inhabited

def Formatting.fault (st : Formatting) (f : PrintfFault) : Formatting :=
  { st with faults := st.faults ++ [(st.out.length, f)] }

def Formatting.next (st : Formatting) : Option String × Formatting :=
  match st.args with
  | a :: rest => (some a, { st with args := rest, took := true })
  | [] => (none, st)

def Formatting.number {α : Type} (st : Formatting) (zero : α) (code : Nat → α)
    (scan : List Char → Scan α) : α × Formatting :=
  let (arg, st) := st.next
  match arg with
  | none => (zero, st)
  | some a =>
    match a.toList with
    | '\x27' :: r | '"' :: r => (code ((r.head?.map Char.toNat).getD 0), st)
    | cs =>
      let s := scan cs
      let fault := if !s.rest.isEmpty then some (.notNumeric a s.found)
        else if s.outOfRange then some (.outOfRange a) else none
      (s.value, match fault with
        | some f => st.fault f
        | none => st)

def Formatting.bound (st : Formatting) : Int × Formatting :=
  let (v, st) := st.number 0 (fun n => (n : Int)) scanSigned
  if v > 2147483647 then (2147483647, st) else if v < -2147483648 then (-2147483648, st) else (v, st)

/-! ### The format -/

/-- How a conversion ended the format: it goes on, or all output stops. -/
inductive Ending where
  | goOn
  | stop
  deriving DecidableEq, Inhabited

def leadingNumber (cs : List Char) : Nat × List Char :=
  let ds := cs.takeWhile Char.isDigit
  (digitsIn 10 ds, cs.drop ds.length)

def convertOne (rules : PrintfRules) (st : Formatting) (cs : List Char) :
    Formatting × List Char × Ending :=
  let flags := cs.takeWhile rules.flagChars.contains
  let afterFlags := cs.drop flags.length
  let spec : Spec :=
    { left := flags.contains '-'
      plus := flags.contains '+'
      space := flags.contains ' '
      alt := flags.contains '#'
      zero := flags.contains '0' }
  -- the width, from the format or an argument
  let (spec, st, afterWidth) := match afterFlags with
    | '*' :: r =>
      let (w, st) := st.bound
      ({ spec with width := w.natAbs, left := spec.left || w < 0 }, st, r)
    | r => let (w, r) := leadingNumber r; ({ spec with width := w }, st, r)
  -- the precision, from the format or an argument; a negative one is none
  let (spec, st, afterPrecision) := match afterWidth with
    | '.' :: '*' :: r =>
      let (p, st) := st.bound
      ({ spec with precision := if p < 0 then none else some p.toNat }, st, r)
    | '.' :: r => let (p, r) := leadingNumber r; ({ spec with precision := some p }, st, r)
    | r => (spec, st, r)
  let written (upto : List Char) := "%" ++ String.ofList (cs.take (cs.length - upto.length))
  let add (st : Formatting) (text : String) : Formatting := { st with out := st.out ++ text }
  let cut (text : String) : String := match spec.precision with
    | some p => String.ofList (text.toList.take p)
    | none => text
  match afterPrecision with
  | '(' :: timed =>
    if !rules.shellOwn then (st.fault (.badConversion (written timed) '('), [], .stop)
    else
      let fmt := timed.takeWhile (· != ')')
      match timed.drop fmt.length with
      | ')' :: 'T' :: rest =>
        let (v, st) := st.number 0 (fun n => (n : Int)) scanSigned
        let fmt := if fmt.isEmpty then "%X" else String.ofList fmt
        (add st (spec.padText (cut ((ClockTime.ofSeconds v).layout fmt))), rest, .goOn)
      | ')' :: letter :: rest =>
        (add (st.fault (.badTimeFormat letter)) (written rest), rest, .goOn)
      | _ => (add st (written []), [], .goOn)
  | _ =>
  let afterLength := afterPrecision.dropWhile fun c => "hjlLtz".contains c
  match afterLength with
  | [] => (st.fault (.missingConversion (written [])), [], .stop)
  | letter :: rest =>
    match letter with
    | 's' =>
      let (a, st) := st.next
      let a := a.getD ""
      let a := match spec.precision with
        | some p => String.ofList (a.toList.take p)
        | none => a
      (add st (spec.padText a), rest, .goOn)
    | 'c' =>
      let (a, st) := st.next
      let c := ((a.getD "").toList.head?).getD (Char.ofNat 0)
      (add st (spec.padText (String.singleton c)), rest, .goOn)
    | 'b' =>
      let (a, st) := st.next
      let (text, stop, refused) := rules.argumentEscapes.expandChecked (a.getD "")
      match refused with
      | some step =>
        let st := { st with out := st.out ++ text }
        let st := match step.refused, step.missing with
          | some (c, v), _ => st.fault (.badUniversal c v)
          | _, some c => st.fault (.missingDigits c)
          | none, none => st
        (st, rest, .stop)
      | none =>
      let text := match spec.precision with
        | some p => String.ofList (text.toList.take p)
        | none => text
      (add st (spec.padText text), rest, if stop then .stop else .goOn)
    | 'q' =>
      if rules.quoting != .unknown then
        let (a, st) := st.next
        let a := a.getD ""
        let text := if rules.quoting == .backslashes then shellQuote a else programQuote a
        let text := match spec.precision with
          | some p => String.ofList (text.toList.take p)
          | none => text
        (add st (spec.padText text), rest, .goOn)
      else (st.fault (.badConversion (written rest) letter), [], .stop)
    | 'Q' =>
      if rules.shellOwn then
        let (a, st) := st.next
        (add st (spec.padText (shellQuote (cut (a.getD "")))), rest, .goOn)
      else (st.fault (.badConversion (written rest) letter), [], .stop)
    | 'n' =>
      if rules.shellOwn then
        let (a, st) := st.next
        match a with
        | none => (st, rest, .goOn)
        | some name =>
          let named := match name.toList with
            | c :: more => (c.isAlpha || c == '_') && more.all fun c => c.isAlphanum || c == '_'
            | [] => false
          if named then ({ st with counts := st.counts ++ [(name, st.out.length)] }, rest, .goOn)
          else (st.fault (.badName name), [], .stop)
      else (st.fault (.badConversion (written rest) letter), [], .stop)
    | 'd' | 'i' =>
      let (v, st) := st.number 0 (fun n => (n : Int)) scanSigned
      (add st (formatInteger spec letter (v < 0) v.natAbs), rest, .goOn)
    | 'o' | 'u' | 'x' | 'X' =>
      let (v, st) := st.number 0 id scanUnsigned
      (add st (formatInteger spec letter false v), rest, .goOn)
    | 'f' | 'F' | 'e' | 'E' | 'g' | 'G' | 'a' | 'A' =>
      let (v, st) := st.number (.finite false 0 0) (fun n => .finite false n 0) (scanFloat rules.float)
      (add st (formatFloat spec letter rules.float.bits v), rest, .goOn)
    | _ => (st.fault (.badConversion (written rest) letter), [], .stop)

def formatPass (rules : PrintfRules) : Nat → List Char → Formatting → Formatting × Ending
  | 0, _, st => (st, .goOn)
  | _, [], st => (st, .goOn)
  | n + 1, '\\' :: cs, st =>
    let step := rules.formatEscapes.read cs
    if rules.formatEscapes.strict && (step.refused.isSome || step.missing.isSome) then
      let st := match step.refused, step.missing with
        | some (c, v), _ => st.fault (.badUniversal c v)
        | _, some c => st.fault (.missingDigits c)
        | none, none => st
      (st, .stop)
    else
    let st := match step.missing with
      | some c => st.fault (.missingDigits c)
      | none => st
    let st := { st with out := st.out ++ step.text }
    if step.stop then (st, .stop) else formatPass rules n step.rest st
  | n + 1, '%' :: '%' :: cs, st => formatPass rules n cs { st with out := st.out.push '%' }
  | n + 1, '%' :: cs, st =>
    let (st, rest, ending) := convertOne rules st cs
    if ending == .stop then (st, .stop) else formatPass rules n rest st
  | n + 1, c :: cs, st => formatPass rules n cs { st with out := st.out.push c }

def printfRun (rules : PrintfRules) (fmt : String) (args : List String) : Formatting :=
  go (args.length + 1) { args }
where
  go : Nat → Formatting → Formatting
    | 0, st => st
    | n + 1, st =>
      let (st, ending) := formatPass rules (fmt.length + 1) fmt.toList { st with took := false }
      if ending == .stop || !st.took || st.args.isEmpty then st else go n st

def printfText (rules : PrintfRules) (fmt : String) (args : List String) :
    String × List (Nat × PrintfFault) :=
  let st := printfRun rules fmt args
  (st.out, st.faults)

end TestRig.Shell
