import TestRig.Number.Scan

/-!
Backslash escapes, as `echo` and `printf` read them, and the text `echo` prints. Which escapes
a reader knows is a record of rules (`EscapeRules`), one for each place escapes are read: the
format of `printf`, its `%b` arguments, and the arguments of `echo` of each shell. An escape that
a reader does not know leaves its backslash as it is, and the character after it is read as
usual.
-/

namespace TestRig.Shell

open TestRig.Number

/-- The escapes a reader of backslash escapes knows, besides `\a \b \f \n \r \t \v \\`. -/
structure EscapeRules where
  lowerE : Bool := true
  upperE : Bool := true
  hex : Bool := true
  unicode : Bool := true
  zeroLead : Bool := false
  digits : Bool := true
  quoted : List Char := []
  stop : Bool := false
  strict : Bool := false
  deriving Inhabited

/-- What reading one escape gave: its text, the rest of the input, whether it ended all output,
and the letter of a `\x`, `\u` or `\U` that had no digits after it. -/
structure EscapeStep where
  text : String
  rest : List Char
  stop : Bool := false
  missing : Option Char := none
  refused : Option (Char × Nat) := none

def isOctal (c : Char) : Bool := '0' ≤ c && c ≤ '7'

def byteText (n : Nat) : String := String.singleton (Char.ofNat (n % 256))

def upperHex (width n : Nat) : String :=
  let ds := (Nat.toDigits 16 n).map Char.toUpper
  String.ofList (List.replicate (width - ds.length) '0' ++ ds)

def EscapeRules.read (r : EscapeRules) (cs : List Char) : EscapeStep :=
  let kept : EscapeStep := { text := "\\", rest := cs }
  match cs with
  | [] => kept
  | c :: rest =>
    let one (code : Nat) : EscapeStep := { text := byteText code, rest }
    match c with
    | 'a' => one 7
    | 'b' => one 8
    | 'f' => one 12
    | 'n' => one 10
    | 'r' => one 13
    | 't' => one 9
    | 'v' => one 11
    | '\\' => one 92
    | 'e' => if r.lowerE then one 27 else kept
    | 'E' => if r.upperE then one 27 else kept
    | 'c' => if r.stop then { text := "", rest, stop := true } else kept
    | 'x' =>
      if r.hex then
        let ds := (rest.takeWhile (isDigitOf 16)).take 2
        if ds.isEmpty then { kept with missing := some 'x' }
        else { text := byteText (digitsIn 16 ds), rest := rest.drop ds.length }
      else kept
    | 'u' | 'U' =>
      if r.unicode then
        let width := if c == 'u' then 4 else 8
        let ds := (rest.takeWhile (isDigitOf 16)).take width
        if ds.isEmpty || (r.strict && ds.length < width) then { kept with missing := some c }
        else
          let v := digitsIn 16 ds
          let named := (v > 0x9f || v == 0x24 || v == 0x40 || v == 0x60) &&
            !(0xd800 ≤ v && v ≤ 0xdfff)
          if r.strict && !named then { kept with refused := some (c, v) } else
          let text := if v ≤ 0x7f then byteText v
            else if v > 0x7fffffff && !r.strict then ""
            else if v < 0x10000 then "\\u" ++ upperHex 4 v else "\\U" ++ upperHex 8 v
          { text, rest := rest.drop ds.length }
      else kept
    | _ =>
      if c == '0' && r.zeroLead then
        let ds := (rest.takeWhile isOctal).take 3
        { text := byteText (digitsIn 8 ds), rest := rest.drop ds.length }
      else if isOctal c && (c == '0' || r.digits) then
        let ds := ((c :: rest).takeWhile isOctal).take 3
        { text := byteText (digitsIn 8 ds), rest := (c :: rest).drop ds.length }
      else if r.quoted.contains c then { text := String.singleton c, rest }
      else kept

def EscapeRules.expandChecked (r : EscapeRules) (s : String) : String × Bool × Option EscapeStep :=
  go (s.length + 1) s.toList ""
where
  go : Nat → List Char → String → String × Bool × Option EscapeStep
    | 0, _, acc => (acc, false, none)
    | _, [], acc => (acc, false, none)
    | n + 1, '\\' :: cs, acc =>
      let step := r.read cs
      if r.strict && (step.refused.isSome || step.missing.isSome) then (acc, false, some step)
      else if step.stop then (acc ++ step.text, true, none) else go n step.rest (acc ++ step.text)
    | n + 1, c :: cs, acc => go n cs (acc.push c)

def EscapeRules.expand (r : EscapeRules) (s : String) : String × Bool :=
  let (text, stop, _) := r.expandChecked s
  (text, stop)

/-! ### The readers -/

def EscapeRules.bashFormat : EscapeRules := { quoted := ['\x27', '"', '?'] }

def EscapeRules.bashArgument : EscapeRules := { zeroLead := true, stop := true }

def EscapeRules.bashEcho : EscapeRules := { zeroLead := true, digits := false, stop := true }

def EscapeRules.lightFormat : EscapeRules :=
  { lowerE := false, upperE := false, hex := false, unicode := false }

def EscapeRules.lightArgument : EscapeRules :=
  { lowerE := false, upperE := false, hex := false, unicode := false, zeroLead := true, stop := true }

def EscapeRules.programFormat : EscapeRules :=
  { upperE := false, quoted := ['"'], stop := true, strict := true }

def EscapeRules.programArgument : EscapeRules :=
  { upperE := false, zeroLead := true, stop := true, strict := true }

def EscapeRules.programEcho : EscapeRules :=
  { upperE := false, unicode := false, zeroLead := true, stop := true }

/-! ### `echo` -/

inductive EchoKind where
  | light
  | full
  | program
  deriving DecidableEq, Inhabited

def echoOption? (w : String) : Option (List Char) :=
  match w.toList with
  | '-' :: r@(_ :: _) => if r.all (fun c => c == 'n' || c == 'e' || c == 'E') then some r else none
  | _ => none

def echoText (kind : EchoKind) (args : List String) (escapesFirst : Bool := false) : String :=
  match kind with
  | .light =>
    let (noNewline, words) := match args with
      | "-n" :: r => (true, r)
      | r => (false, r)
    let (text, stop) := EscapeRules.lightArgument.expand (" ".intercalate words)
    if stop || noNewline then text else text ++ "\n"
  | _ =>
    let opts := args.takeWhile fun w => (echoOption? w).isSome
    let words := args.drop opts.length
    let flags := opts.flatMap fun w => (echoOption? w).getD []
    let noNewline := flags.contains 'n'
    let escapes := flags.foldl (fun e c => if c == 'e' then true else if c == 'E' then false else e) escapesFirst
    let rules := if kind == .full then EscapeRules.bashEcho else EscapeRules.programEcho
    let joined := " ".intercalate words
    let (text, stop) := if escapes then rules.expand joined else (joined, false)
    if stop || noNewline then text else text ++ "\n"

end TestRig.Shell
