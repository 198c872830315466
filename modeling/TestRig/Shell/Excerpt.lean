import TestRig.Shell.Programs

/-!
`head` and `tail`: the first or the last lines or bytes of each input, as the GNU tools give
them.

A count is read as the GNU tools read counts (`readCount`): a decimal number with an optional
unit. `head -n -N` writes all but the last `N` lines, `tail -n +N` starts at line `N`; `-z`
ends lines at a zero byte. Several inputs (or `-v`) are written under headings
`==> name <==`, each but the first after an empty line.
-/

namespace TestRig.Shell

open TestRig.Files

/-! ### Counts -/

inductive CountFault where
  | invalid
  | tooLarge
  deriving BEq, Inhabited

def unitPower : Char → Option Nat
  | 'k' | 'K' => some 1
  | 'm' | 'M' => some 2
  | 'G' => some 3
  | 'T' => some 4
  | 'P' => some 5
  | 'E' => some 6
  | 'Z' => some 7
  | 'Y' => some 8
  | 'R' => some 9
  | 'Q' => some 10
  | _ => none

def readCount (s : String) : Except CountFault Nat :=
  let cs := s.toList.dropWhile fun c => c == ' ' || ('\t' ≤ c && c ≤ '\r')
  let cs := match cs with
    | '+' :: r => r
    | r => r
  let ds := cs.takeWhile Char.isDigit
  if ds.isEmpty then .error .invalid
  else
    let n := (String.ofList ds).toNat!
    let factor : Option Nat := match cs.drop ds.length with
      | [] => some 1
      | u :: more =>
        let base := match more with
          | [] => some 1024
          | ['B'] | ['D'] => some 1000
          | ['i', 'B'] => some 1024
          | _ => none
        match base with
        | none => none
        | some base => if u == 'b' then some 512 else (unitPower u).map (Nat.pow base ·)
    match factor with
    | none => .error .invalid
    | some f => if n * f ≥ Nat.pow 2 64 then .error .tooLarge else .ok (n * f)

def countFaultText (prog what value : String) : CountFault → String
  | .invalid => prog ++ ": invalid number of " ++ what ++ ": '" ++ value ++ "'\n"
  | .tooLarge => prog ++ ": invalid number of " ++ what ++ ": '" ++ value ++
    "': Value too large for defined data type\n"

def delimitedPieces (delim : Char) : Nat → List Char → List (List Char)
  | 0, _ => []
  | _, [] => []
  | n + 1, cs =>
    let piece := cs.takeWhile (· != delim)
    match cs.drop piece.length with
    | [] => [piece]
    | d :: rest => (piece ++ [d]) :: delimitedPieces delim n rest

def piecesOf (delim : Char) (t : String) : List (List Char) :=
  delimitedPieces delim (t.length + 1) t.toList

/-- What `head` or `tail` keeps of an input: a number of lines or of bytes, counted from the
start or from the end. -/
structure Excerpt where
  count : Nat := 10
  lines : Bool := true
  fromOtherEnd : Bool := false
  headings : Option Bool := none
  delim : Char := '\n'
  deriving Inhabited

def headingOf (first : Bool) (name : String) : String :=
  (if first then "" else "\n") ++ "==> " ++ (if name == "-" then "standard input" else name) ++ " <==\n"

def eachExcerpt (prog : String) (fs : Tree) (names : List String) (input : String)
    (headings : Option Bool) (cut : String → String) : Effect :=
  let names := if names.isEmpty then ["-"] else names
  let headed := headings.getD (names.length > 1)
  let (e, _, _) := names.foldl (fun ((e : Effect), first, (rest : String)) f =>
    let text := if f == "-" then .ok rest else readBytes e.files f
    let rest := if f == "-" then "" else rest
    match text with
    | .ok t => (e.out ((if headed then headingOf first f else "") ++ cut t), false, rest)
    | .error err =>
      if err.errno == .isDir then
        (((e.out (if headed then headingOf first f else "")).err
          (prog ++ ": error reading '" ++ f ++ "': Is a directory\n")).fail 1, false, rest)
      else
        ((e.err (prog ++ ": cannot open '" ++ f ++ "' for reading: " ++ errnoText err.errno ++ "\n")).fail 1,
          first, rest))
    ({ files := fs }, true, input)
  e

/-! ### `head` -/

def headSpecs : List OptionSpec :=
  [{ name := "c", short := some 'c', long := some "bytes", value := .required },
   { name := "n", short := some 'n', long := some "lines", value := .required },
   { name := "q", short := some 'q', long := some "quiet" },
   { name := "q", long := some "silent" },
   { name := "v", short := some 'v', long := some "verbose" },
   { name := "z", short := some 'z', long := some "zero-terminated" }] ++
  "0123456789".toList.map fun d => { name := String.singleton d, short := some d }

def excerptUsage (prog message : String) : String :=
  prog ++ ": " ++ message ++ "\nTry '" ++ prog ++ " --help' for more information.\n"

def headFirstWord (word : String) (x : Excerpt) : Except String Excerpt :=
  let cs := word.toList.drop 1
  let digits := cs.takeWhile Char.isDigit
  let letters := cs.drop digits.length
  let step (acc : Except String (Excerpt × Option Char)) (c : Char) : Except String (Excerpt × Option Char) :=
    match acc with
    | .error m => .error m
    | .ok (x, unit) =>
      match c with
      | 'c' => .ok ({ x with lines := false }, none)
      | 'b' | 'k' | 'm' => .ok ({ x with lines := false }, some c)
      | 'l' => .ok ({ x with lines := true }, unit)
      | 'q' => .ok ({ x with headings := some false }, unit)
      | 'v' => .ok ({ x with headings := some true }, unit)
      | 'z' => .ok ({ x with delim := '\x00' }, unit)
      | _ => .error (excerptUsage "head" ("invalid trailing option -- " ++ String.singleton c))
  match letters.foldl step (.ok (x, none)) with
  | .error m => .error m
  | .ok (x, unit) =>
    let text := String.ofList (digits ++ unit.toList)
    match readCount text with
    | .ok n => .ok { x with count := n }
    | .error f => .error (countFaultText "head" (if x.lines then "lines" else "bytes") text f)

def headOptions (x : Excerpt) (options : List FoundOption) : Except String Excerpt :=
  options.foldlM (fun x o =>
    let v := o.value.getD ""
    match o.name with
    | "c" | "n" =>
      let lines := o.name == "n"
      let allBut := v.startsWith "-"
      let text := if allBut then String.ofList (v.toList.drop 1) else v
      match readCount text with
      | .ok n => .ok { x with count := n, lines, fromOtherEnd := allBut }
      | .error f => .error (countFaultText "head" (if lines then "lines" else "bytes") text f)
    | "q" => .ok { x with headings := some false }
    | "v" => .ok { x with headings := some true }
    | "z" => .ok { x with delim := '\x00' }
    | name =>
      if name.length == 1 && name.all Char.isDigit then .error (excerptUsage "head" ("invalid trailing option -- " ++ name))
      else .ok x) x

def Excerpt.headOf (x : Excerpt) (t : String) : String :=
  if x.lines then
    let ps := piecesOf x.delim t
    String.ofList (if x.fromOtherEnd then ps.take (ps.length - x.count) else ps.take x.count).flatten
  else
    let cs := t.toList
    String.ofList (if x.fromOtherEnd then cs.take (cs.length - x.count) else cs.take x.count)

def head (fs : Tree) (args : List String) (input : String) : Effect :=
  let plain : Effect := { files := fs }
  let first : Except String (Excerpt × List String) := match args with
    | a :: rest =>
      if a.length > 1 && a.startsWith "-" && (a.toList.getD 1 ' ').isDigit then
        (headFirstWord a {}).map (·, rest)
      else .ok ({}, args)
    | [] => .ok ({}, args)
  match first with
  | .error m => (plain.err m).fail 1
  | .ok (x, args) =>
    let (w, fault) := scanCommandWords headSpecs args
    match headOptions x w.options with
    | .error m => (plain.err m).fail 1
    | .ok x =>
      match fault with
      | some f => (plain.err (usageFault "head" f)).fail 1
      | none => eachExcerpt "head" fs w.operands input x.headings x.headOf

/-! ### `tail` -/

def tailSpecs : List OptionSpec :=
  [{ name := "c", short := some 'c', long := some "bytes", value := .required },
   { name := "n", short := some 'n', long := some "lines", value := .required },
   { name := "f", short := some 'f' },
   { name := "follow", long := some "follow", value := .optional },
   { name := "F", short := some 'F' },
   { name := "retry", long := some "retry" },
   { name := "s", short := some 's', long := some "sleep-interval", value := .required },
   { name := "pid", long := some "pid", value := .required },
   { name := "max-unchanged-stats", long := some "max-unchanged-stats", value := .required },
   { name := "q", short := some 'q', long := some "quiet" },
   { name := "q", long := some "silent" },
   { name := "v", short := some 'v', long := some "verbose" },
   { name := "z", short := some 'z', long := some "zero-terminated" }] ++
  "0123456789".toList.map fun d => { name := String.singleton d, short := some d }

def tailFirstWord (word : String) : Option (Except String Excerpt) :=
  match word.toList with
  | sign :: cs =>
    if !(sign == '+' || sign == '-') then none
    else if sign == '-' && (cs.isEmpty || cs == ['c']) then none
    else
      let digits := cs.takeWhile Char.isDigit
      let rest := cs.drop digits.length
      let (unit, rest) : Option Char × List Char := match rest with
        | u :: r => if u == 'b' || u == 'c' || u == 'l' then (some u, r) else (none, rest)
        | [] => (none, [])
      let rest := match rest with
        | 'f' :: r => r
        | r => r
      if !rest.isEmpty then none
      else
        let lines := !(unit == some 'b' || unit == some 'c')
        let count : Except String Nat :=
          if digits.isEmpty then .ok (if unit == some 'b' then 5120 else 10)
          else
            let n := (String.ofList digits).toNat! * (if unit == some 'b' then 512 else 1)
            if n ≥ Nat.pow 2 64 then
              .error ("tail: invalid number: '" ++ word ++ "': Numerical result out of range\n")
            else .ok n
        some (count.map fun n => { count := n, lines, fromOtherEnd := sign == '+' })
  | [] => none

def tailOptions (x : Excerpt) (options : List FoundOption) : Except String Excerpt :=
  options.foldlM (fun x o =>
    let v := o.value.getD ""
    match o.name with
    | "c" | "n" =>
      let lines := o.name == "n"
      let fromStart := x.fromOtherEnd || v.startsWith "+"
      let text := if v.startsWith "-" then String.ofList (v.toList.drop 1) else v
      match readCount text with
      | .ok n => .ok { x with count := n, lines, fromOtherEnd := fromStart }
      | .error f => .error (countFaultText "tail" (if lines then "lines" else "bytes") text f)
    | "q" => .ok { x with headings := some false }
    | "v" => .ok { x with headings := some true }
    | "z" => .ok { x with delim := '\x00' }
    | name =>
      if name.length == 1 && name.all Char.isDigit then
        .error ("tail: option used in invalid context -- " ++ name ++ "\n")
      else .ok x) x

def Excerpt.tailOf (x : Excerpt) (t : String) : String :=
  let skip := x.count - 1
  if x.lines then
    let ps := piecesOf x.delim t
    String.ofList (if x.fromOtherEnd then ps.drop skip else ps.drop (ps.length - x.count)).flatten
  else
    let cs := t.toList
    String.ofList (if x.fromOtherEnd then cs.drop skip else cs.drop (cs.length - x.count))

def tail (fs : Tree) (args : List String) (input : String) : Effect :=
  let plain : Effect := { files := fs }
  let older : Option (Except String (Excerpt × List String)) := match args with
    | [a] | [a, _] =>
      let operandOk := match args with
        | [_, b] => !(b.startsWith "-" && b.length > 1)
        | _ => true
      if operandOk then (tailFirstWord a).map fun r => r.map fun x => (x, args.drop 1) else none
    | _ => none
  match older.getD (.ok ({}, args)) with
  | .error m => (plain.err m).fail 1
  | .ok (x, args) =>
    let (w, fault) := scanCommandWords tailSpecs args
    match tailOptions x w.options with
    | .error m => (plain.err m).fail 1
    | .ok x =>
      match fault with
      | some f => (plain.err (usageFault "tail" f)).fail 1
      | none => eachExcerpt "tail" fs w.operands input x.headings x.tailOf

end TestRig.Shell
