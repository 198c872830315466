import TestRig.Shell.Variables

/-!
# Reading input into variables

`read` and `mapfile` (also called `readarray`): text from the input, or from another
descriptor open for reading, into variables.

* `readLine` takes a line up to a delimiter, or a count of characters; without `-r` a backslash
  escapes the character after it and joins a line broken after it to the next.
-/

namespace TestRig.Shell

open TestRig.Files TestRig.Text

abbrev ReadChar := Char × Bool

def readLine (raw exact : Bool) (delim : Char) (limit : Option Nat) :
    Nat → List Char → List ReadChar → List ReadChar × List Char × Bool
  | 0, cs, acc => (acc.reverse, cs, false)
  | fuel + 1, cs, acc =>
    if limit.any (acc.length ≥ ·) then (acc.reverse, cs, true)
    else match cs with
    | [] => (acc.reverse, [], false)
    | c :: rest =>
      if c == delim && !exact then (acc.reverse, rest, true)
      else if c == '\x00' then readLine raw exact delim limit fuel rest acc
      else if c == '\\' && !raw then
        match rest with
        | '\n' :: r => readLine raw exact delim limit fuel r acc
        | d :: r => readLine raw exact delim limit fuel r ((d, true) :: acc)
        | [] => (acc.reverse, [], false)
      else readLine raw exact delim limit fuel rest ((c, false) :: acc)

def readText (cs : List ReadChar) : String := String.ofList (cs.map Prod.fst)

def readFieldOf (seps : String) (cs : List ReadChar) : List ReadChar × List ReadChar :=
  let sep (c : ReadChar) := !c.2 && seps.contains c.1
  let blank (c : ReadChar) := sep c && isBlankSeparator c.1
  let field := cs.takeWhile fun c => !sep c
  let rest := (cs.drop field.length).dropWhile blank
  let rest := match rest with
    | c :: r => if sep c && !isBlankSeparator c.1 then r.dropWhile blank else rest
    | [] => []
  (field, rest)

def readFields (seps : String) : List String → List ReadChar → List (String × String)
  | [], _ => []
  | [name], cs =>
    let blank (c : ReadChar) := !c.2 && seps.contains c.1 && isBlankSeparator c.1
    let cs := cs.dropWhile blank
    let (field, rest) := readFieldOf seps cs
    if rest.isEmpty then [(name, readText field)]
    else [(name, readText (cs.reverse.dropWhile blank).reverse)]
  | name :: more, cs =>
    let blank (c : ReadChar) := !c.2 && seps.contains c.1 && isBlankSeparator c.1
    let (field, rest) := readFieldOf seps (cs.dropWhile blank)
    (name, readText field) :: readFields seps more rest

def readAllFields (seps : String) : Nat → List ReadChar → List String
  | 0, _ => []
  | _, [] => []
  | n + 1, cs =>
    let (field, rest) := readFieldOf seps cs
    readText field :: readAllFields seps n rest

def readTimeout? (s : String) : Option Bool :=
  let (neg, cs) : Bool × List Char := match s.toList with
    | '-' :: r => (true, r)
    | r => (false, r)
  let whole := cs.takeWhile Char.isDigit
  let fraction : Option (List Char) := match cs.drop whole.length with
    | [] => some []
    | '.' :: r => if (r.take 6).all Char.isDigit then some (r.take 7) else none
    | _ => none
  match fraction with
  | none => none
  | some f =>
    let roundsUp := f.length == 7 && (f.getLast?.any fun c => c ≥ '5' && c ≤ '9')
    let zero := whole.all (· == '0') && (f.take 6).all (· == '0') && !roundsUp
    if neg && !zero then none else some zero

def optionCount? (v : String) : Option Nat :=
  match builtinNumber? .bash v with
  | some k => if k < 0 || k ≥ Int.pow 2 31 then none else some k.toNat
  | none => none

def isReadTarget (s : String) : Bool :=
  isName s || (match s.splitOn "[" with
    | base :: _ :: _ => isName base && s.endsWith "]"
    | _ => false)

def readTarget (s : String) : String × Option String :=
  match s.splitOn "[" with
  | base :: _ :: _ =>
    if s.endsWith "]" then (base, some (String.ofList ((s.toList.drop (base.length + 1)).dropLast))) else (s, none)
  | _ => (s, none)

structure ReadSettings where
  raw : Bool := false
  array : Option String := none
  delim : Char := '\n'
  limit : Option Nat := none
  exact : Bool := false
  probe : Bool := false
  fd : Nat := 0
  deriving Inhabited

def readSettings (opts : List BuiltinOption) : Except String ReadSettings :=
  opts.foldlM (fun (s : ReadSettings) o =>
    let v := o.value.getD ""
    match o.letter with
    | 'r' => .ok { s with raw := true }
    | 'a' => .ok { s with array := some v }
    | 'd' => .ok { s with delim := v.toList.headD '\x00' }
    | 'n' | 'N' =>
      match optionCount? v with
      | some k => .ok { s with limit := some k, exact := s.exact || o.letter == 'N' }
      | none => .error (v ++ ": invalid number")
    | 't' =>
      match readTimeout? v with
      | some zero => .ok { s with probe := zero }
      | none => .error (v ++ ": invalid timeout specification")
    | 'u' =>
      match optionCount? v with
      | some k => .ok { s with fd := k }
      | none => .error (v ++ ": invalid file descriptor specification")
    | _ => .ok s) {}

def Proc.readable (p : Proc) (fd : Nat) : Option (Except Unit String) :=
  if fd == 0 then some (.ok p.input)
  else match p.sources.lookup fd with
    | some text => some (.ok text)
    | none => if (p.sinks.lookup fd).isSome then some (.error ()) else none

def Proc.leaveReadable (p : Proc) (fd : Nat) (rest : String) : Proc :=
  if fd == 0 then { p with input := rest }
  else { p with sources := p.sources.map fun (k, t) => (k, if k == fd then rest else t) }

def assignRead (p : Proc) : List (String × String) → Shell (Proc × Bool)
  | [] => pure (p, true)
  | (target, value) :: rest => do
    if !isReadTarget target then do
      complain p ("read: `" ++ target ++ "': not a valid identifier")
      pure (p, false)
    else
      let (name, sub) := readTarget target
      let (p, done) ← assignTo p name sub false value
      let (p, more) ← assignRead p rest
      pure (p, done && more)

def runBashRead (p : Proc) (opts : List BuiltinOption) (names : List String) : Shell (Proc × Flow) :=
  let fail (q : Proc) (msg : String) : Shell (Proc × Flow) := do
    complain q ("read: " ++ msg)
    pure ({ q with status := 1 }, .next)
  match readSettings opts with
  | .error msg => fail p msg
  | .ok s =>
  if s.probe then pure ({ p with status := 0 }, .next)
  else match names.head? with
  | some first =>
    if !isReadTarget first then fail p ("`" ++ first ++ "': not a valid identifier")
    else readFrom s
  | none => readFrom s
where
  readFrom (s : ReadSettings) : Shell (Proc × Flow) := do
    match p.readable s.fd with
    | none => do
      complain p ("read: " ++ toString s.fd ++ ": invalid file descriptor: Bad file descriptor")
      pure ({ p with status := 1 }, .next)
    | some (.error ()) => do
      complain p ("read: read error: " ++ toString s.fd ++ ": Bad file descriptor")
      pure ({ p with status := 1 }, .next)
    | some (.ok text) =>
      let (read, rest, ended) := readLine s.raw s.exact s.delim s.limit (text.length + 1) text.toList []
      let q := p.leaveReadable s.fd (String.ofList rest)
      let status := if ended then 0 else 1
      let seps := if s.exact then "" else separators (p.lookupVar "IFS")
      match s.array with
      | some arr =>
        let v := (q.var? arr).getD { name := arr }
        if !isName arr then do
          complain q ("read: `" ++ arr ++ "': not a valid identifier")
          pure ({ q with status := 1 }, .next)
        else if v.readonly then do
          complain q (q.readonlyMessage arr)
          pure ({ q with status := 1 }, .next)
        else if v.shape == .assoc then do
          complain q ("read: " ++ arr ++ ": not an indexed array")
          pure ({ q with status := 1 }, .next)
        else
          let blank (c : ReadChar) := !c.2 && seps.contains c.1 && isBlankSeparator c.1
          let values := readAllFields seps (read.length + 1) (read.dropWhile blank)
          pure ({ q with vars := setElements q.vars arr values, status }, .next)
      | none =>
        let pairs := if names.isEmpty then [("REPLY", readText read)] else readFields seps names read
        let (r, done) ← assignRead q pairs
        pure ({ r with status := if done then status else 1 }, .next)

def runLightRead (p : Proc) (opts : List BuiltinOption) (names : List String) : Shell (Proc × Flow) := do
  if names.isEmpty then do
    complain p "read: arg count"
    pure ({ p with status := 2 }, .next)
  else
    let raw := opts.any (·.letter == 'r')
    let (read, rest, ended) := readLine raw false '\n' none (p.input.length + 1) p.input.toList []
    let q := { p with input := String.ofList rest }
    let status := if ended then 0 else 1
    let pairs := readFields (separators (p.lookupVar "IFS")) names read
    match pairs.find? (fun (n, _) => !isName n) with
    | some (bad, _) => do
      complain q ("read: " ++ bad ++ ": bad variable name")
      pure ({ q with status := 2 }, .next)
    | none => do
      let (r, done) ← pairs.foldlM (fun (r, ok) (k, v) => do
        let (r, d) ← assignTo r k none false v
        pure (r, ok && d)) (q, true)
      pure ({ r with status := if done then status else 2 }, .next)

def runRead (p : Proc) (opts : List BuiltinOption) (names : List String) : Shell (Proc × Flow) :=
  match p.dialect with
  | .bash => runBashRead p opts names
  | .dash => runLightRead p opts names

structure MapfileSettings where
  trim : Bool := false
  count : Nat := 0
  skip : Nat := 0
  origin : Option Nat := none
  delim : Char := '\n'
  fd : Nat := 0
  callback : Option String := none
  quantum : Nat := 5000
  deriving Inhabited

def mapfileSettings (opts : List BuiltinOption) : Except String MapfileSettings :=
  opts.foldlM (fun (s : MapfileSettings) o =>
    let v := o.value.getD ""
    match o.letter with
    | 't' => .ok { s with trim := true }
    | 'd' => .ok { s with delim := v.toList.headD '\x00' }
    | 'n' => match optionCount? v with
      | some k => .ok { s with count := k }
      | none => .error (v ++ ": invalid line count")
    | 's' => match optionCount? v with
      | some k => .ok { s with skip := k }
      | none => .error (v ++ ": invalid line count")
    | 'O' => match optionCount? v with
      | some k => .ok { s with origin := some k }
      | none => .error (v ++ ": invalid array origin")
    | 'c' => match optionCount? v with
      | some k => if k == 0 then .error (v ++ ": invalid callback quantum") else .ok { s with quantum := k }
      | none => .error (v ++ ": invalid callback quantum")
    | 'C' => .ok { s with callback := some v }
    | 'u' => match optionCount? v with
      | some k => .ok { s with fd := k }
      | none => .error (v ++ ": invalid file descriptor specification")
    | _ => .ok s) {}

def delimitedLines (delim : Char) : Nat → List Char → List (List Char)
  | 0, _ => []
  | _, [] => []
  | n + 1, cs =>
    let line := cs.takeWhile (· != delim)
    let rest := cs.drop line.length
    match rest with
    | [] => [line]
    | _ :: after => (line ++ [delim]) :: delimitedLines delim n after

def mapfileFill (eval : Proc → String → Shell (Proc × Flow)) (arr : String) (callback : Option String)
    (quantum : Nat) : Proc → List String → Nat → Nat → Shell Proc
  | p, [], _, _ => pure p
  | p, line :: rest, index, count => do
    let p ← match callback with
      | some cb =>
        if count % quantum == 0 then do
          let quoted := "'" ++ line.replace "'" "'\\''" ++ "'"
          let (q, _) ← eval p (cb ++ " " ++ toString index ++ " " ++ quoted)
          pure q
        else pure p
      | none => pure p
    let vars := updateVar p.vars arr fun v =>
      { v with shape := .indexed, entries := [], cells := setCell v.cells index line }
    mapfileFill eval arr callback quantum { p with vars } rest (index + 1) (count + 1)

def runMapfile (p : Proc) (name : String) (opts : List BuiltinOption) (args : List String)
    (eval : Proc → String → Shell (Proc × Flow)) : Shell (Proc × Flow) :=
  let fail (q : Proc) (msg : String) : Shell (Proc × Flow) := do
    complain q msg
    pure ({ q with status := 1 }, .next)
  match mapfileSettings opts with
  | .error msg => fail p (name ++ ": " ++ msg)
  | .ok s =>
  let arr := args.headD "MAPFILE"
  let v := (p.var? arr).getD { name := arr }
  match p.readable s.fd with
  | none => fail p (name ++ ": " ++ toString s.fd ++ ": invalid file descriptor: Bad file descriptor")
  | some (.error ()) => fail p (name ++ ": read error: " ++ toString s.fd ++ ": Bad file descriptor")
  | some (.ok text) =>
  if !isName arr then fail p (name ++ ": `" ++ arr ++ "': not a valid identifier")
  else if v.readonly then fail p (p.readonlyMessage arr)
  else if v.shape == .assoc then fail p (name ++ ": " ++ arr ++ ": not an indexed array")
  else do
    let lines := delimitedLines s.delim (text.length + 1) text.toList
    let taken := if s.count == 0 then lines.drop s.skip else (lines.drop s.skip).take s.count
    let used := s.skip + taken.length
    let q := p.leaveReadable s.fd (String.ofList (lines.drop used).flatten)
    let items := taken.map fun l =>
      String.ofList (if s.trim && l.getLast? == some s.delim then l.dropLast else l)
    let vars := updateVar q.vars arr fun v =>
      { v with shape := .indexed, entries := [],
               cells := if s.origin.isSome && v.shape == .indexed then v.cells else [] }
    let q ← mapfileFill eval arr s.callback s.quantum { q with vars } items (s.origin.getD 0) 1
    pure ({ q with status := 0 }, .next)

end TestRig.Shell
