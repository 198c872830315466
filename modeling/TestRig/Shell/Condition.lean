import TestRig.Shell.Programs

/-!
`test` and `[`: a condition on texts, numbers and files, given as arguments, as the two shells
read it.

Bash reads a condition by the number of its arguments first, as POSIX asks: none is false, one
is true when it is not empty, two are a unary test or a negated one, three a binary test, a
combination by `-a` or `-o`, a negation or a parenthesised argument, and four a negated three
or a parenthesised two.
-/

namespace TestRig.Shell

open TestRig.Files TestRig.Text

inductive FileSort where
  | regular
  | directory
  | charDevice
  deriving DecidableEq, Inhabited

/-- What `test` can learn of a file: its kind, whether it has bytes, whether it can be run,
whether the path is a symbolic link, and whether it is sticky. -/
structure FileFacts where
  sort : FileSort
  nonEmpty : Bool
  executable : Bool := false
  link : Bool := false
  sticky : Bool := false
  deriving Inhabited

def hostDirectories : List String :=
  ["/", "/boot", "/dev", "/dev/shm", "/etc", "/home", "/media", "/mnt", "/opt", "/proc", "/root",
   "/run", "/srv", "/sys", "/tmp", "/usr", "/usr/bin", "/usr/games", "/usr/include", "/usr/lib",
   "/usr/libexec", "/usr/local", "/usr/local/bin", "/usr/sbin", "/usr/share", "/usr/src", "/var",
   "/var/log", "/var/tmp"]

def hostDirectoryLinks : List String := ["/bin", "/sbin", "/lib", "/lib64"]

def hostDevices : List String :=
  ["/dev/null", "/dev/zero", "/dev/full", "/dev/random", "/dev/urandom", "/dev/tty"]

def hostFiles : List String :=
  ["/etc/passwd", "/etc/group", "/etc/hostname", "/etc/hosts", "/etc/shells", "/etc/debian_version",
   "/etc/resolv.conf"]

def hostFacts? (program : String → Bool) (abs : String) : Option FileFacts :=
  if hostDirectoryLinks.contains abs then some { sort := .directory, nonEmpty := true, executable := true, link := true }
  else if hostDirectories.contains abs then
    some { sort := .directory, nonEmpty := true, executable := true, sticky := abs == "/tmp" || abs == "/var/tmp" || abs == "/dev/shm" }
  else if hostDevices.contains abs then some { sort := .charDevice, nonEmpty := false }
  else if hostFiles.contains abs then some { sort := .regular, nonEmpty := true }
  else
    let dir := Path.dir abs
    let name := Path.base abs
    if (dir == "/bin" || dir == "/usr/bin") && program name then
      some { sort := .regular, nonEmpty := true, executable := true, link := name == "sh" }
    else none

/-- What `test` asks of the world besides its arguments: the files, whether a variable is set,
whether a shell option is on, and the names of the programs. -/
structure TestWorld where
  files : Tree
  isSet : String → Bool := fun _ => false
  optionOn : String → Bool := fun _ => false
  program : String → Bool := fun _ => false

def TestWorld.facts? (w : TestWorld) (path : String) : Option FileFacts :=
  if path.isEmpty then none
  else
    let abs := w.files.resolve (toText path)
    let facts := match w.files.nodeAt abs with
      | some .dir => (hostFacts? w.program abs).getD { sort := .directory, nonEmpty := true, executable := true }
      | some (.file d) => some { sort := .regular, nonEmpty := d.size > 0 }
      | none => hostFacts? w.program abs
    if path.endsWith "/" then facts.filter (·.sort == .directory) else facts

def TestWorld.fileTest (w : TestWorld) (letter : Char) (path : String) : Bool :=
  match w.facts? path with
  | none => false
  | some f =>
    match letter with
    | 'a' | 'e' | 'r' | 'w' | 'O' | 'G' | 'N' => true
    | 'f' => f.sort == .regular
    | 'd' => f.sort == .directory
    | 'c' => f.sort == .charDevice
    | 's' => f.nonEmpty
    | 'x' => f.executable
    | 'h' | 'L' => f.link
    | 'k' => f.sticky
    | _ => false

def TestWorld.sameFile (w : TestWorld) (a b : String) : Bool :=
  (w.facts? a).isSome && (w.facts? b).isSome &&
    w.files.resolve (toText a) == w.files.resolve (toText b)

def testNumber? (a : String) : Option Int :=
  let cs := a.toList.dropWhile fun c => c == ' ' || c == '\t' || c == '\n' || c.toNat == 11 || c.toNat == 12 || c == '\r'
  let (neg, cs) : Bool × List Char := match cs with
    | '-' :: r => (true, r)
    | '+' :: r => (false, r)
    | r => (false, r)
  let digits := cs.takeWhile Char.isDigit
  let after := cs.drop digits.length
  if digits.isEmpty || !(after.all fun c => c == ' ' || c == '\t') then none
  else
    let n : Int := digits.foldl (fun acc c => acc * 10 + (c.toNat - 48)) 0
    let v := if neg then -n else n
    if v < -Int.pow 2 63 || v ≥ Int.pow 2 63 then none else some v

def bashUnaryOps : List String :=
  ["-a", "-b", "-c", "-d", "-e", "-f", "-g", "-h", "-k", "-n", "-o", "-p", "-r", "-s", "-t", "-u",
   "-v", "-w", "-x", "-z", "-G", "-L", "-O", "-S", "-N", "-R"]

def bashBinaryOps : List String :=
  ["=", "==", "!=", "<", ">", "-nt", "-ot", "-ef", "-eq", "-ne", "-lt", "-le", "-gt", "-ge"]

def TestWorld.unary (w : TestWorld) (op arg : String) : Option Bool :=
  match op with
  | "-z" => some arg.isEmpty
  | "-n" => some (!arg.isEmpty)
  | "-v" => some (w.isSet arg)
  | "-o" => some (w.optionOn arg)
  | "-t" | "-R" | "-b" | "-p" | "-S" | "-u" | "-g" => some false
  | _ =>
    if bashUnaryOps.contains op then
      match op.toList with
      | ['-', letter] => some (w.fileTest letter arg)
      | _ => none
    else none

def TestWorld.compareFiles (w : TestWorld) (op a b : String) : Bool :=
  let ea := (w.facts? a).isSome
  let eb := (w.facts? b).isSome
  match op with
  | "-nt" => ea && !eb
  | "-ot" => eb && !ea
  | _ => w.sameFile a b

/-- Why bash's `test` could not read its arguments. -/
inductive TestFault where
  | tooMany
  | unexpected (arg : String)
  | unaryExpected (arg : String)
  | binaryExpected (arg : String)
  | argumentExpected
  | closeExpected (found : Option String)
  | integerExpected (arg : String)
  | missingBracket
  deriving DecidableEq, Inhabited

def TestFault.text : TestFault → String
  | .tooMany => "too many arguments"
  | .unexpected a => "syntax error: `" ++ a ++ "' unexpected"
  | .unaryExpected a => a ++ ": unary operator expected"
  | .binaryExpected a => a ++ ": binary operator expected"
  | .argumentExpected => "argument expected"
  | .closeExpected none => "`)' expected"
  | .closeExpected (some f) => "`)' expected, found " ++ f
  | .integerExpected a => a ++ ": integer expression expected"
  | .missingBracket => "missing `]'"

def TestWorld.binary (w : TestWorld) (a op b : String) : Except TestFault Bool :=
  match op with
  | "=" | "==" => .ok (a == b)
  | "!=" => .ok (a != b)
  | "<" => .ok (a < b)
  | ">" => .ok (b < a)
  | "-nt" | "-ot" | "-ef" => .ok (w.compareFiles op a b)
  | _ =>
    match testNumber? a, testNumber? b with
    | none, _ => .error (.integerExpected a)
    | _, none => .error (.integerExpected b)
    | some x, some y =>
      .ok (match op with
        | "-eq" => x == y
        | "-ne" => x != y
        | "-lt" => x < y
        | "-le" => x ≤ y
        | "-gt" => x > y
        | _ => x ≥ y)

/-- The arguments of bash's `test` being read: the arguments, and what bash sees just past
them (the `]` of `[`). -/
structure BashTest where
  world : TestWorld
  args : Array String
  past : Option String

abbrev TestStep := Except TestFault (Bool × Nat)

/-- The levels of bash's reading by precedence. -/
inductive TestLevel where
  | either
  | both
  | term
  deriving DecidableEq, Inhabited

namespace BashTest

def at? (t : BashTest) (i : Nat) : Option String :=
  if i < t.args.size then t.args[i]? else if i == t.args.size then t.past else none

def arg (t : BashTest) (i : Nat) : String := t.args.getD i ""

def binaryAt (t : BashTest) (pos : Nat) : TestStep := do
  let op := t.arg (pos + 1)
  if !bashBinaryOps.contains op then throw (.binaryExpected op)
  let v ← t.world.binary (t.arg pos) op (t.arg (pos + 2))
  return (v, pos + 3)

def unaryAt (t : BashTest) (pos : Nat) : TestStep :=
  let op := t.arg pos
  if op == "-t" then
    if pos + 1 < t.args.size then
      if (testNumber? (t.arg (pos + 1))).isSome then .ok (false, pos + 2) else .ok (false, pos + 1)
    else .ok (false, pos + 1)
  else if pos + 1 ≥ t.args.size then .error .argumentExpected
  else .ok ((t.world.unary op (t.arg (pos + 1))).getD false, pos + 2)

def eval (t : BashTest) : Nat → TestLevel → Nat → TestStep
  | 0, _, _ => .error .tooMany
  | fuel + 1, .either, pos => do
    let (v, pos) ← t.eval fuel .both pos
    if t.args[pos]? == some "-o" then
      let (w, pos) ← t.eval fuel .either (pos + 1)
      return (v || w, pos)
    else return (v, pos)
  | fuel + 1, .both, pos => do
    let (v, pos) ← t.eval fuel .term pos
    if t.args[pos]? == some "-a" then
      let (w, pos) ← t.eval fuel .both (pos + 1)
      return (v && w, pos)
    else return (v, pos)
  | fuel + 1, .term, pos => do
    let argc := t.args.size
    if pos ≥ argc then throw .argumentExpected
    let a := t.arg pos
    if a == "!" then
      let bangs := ((t.args.toList.drop pos).takeWhile (· == "!")).length
      if pos + bangs ≥ argc then throw .argumentExpected
      let (v, pos) ← t.eval fuel .term (pos + bangs)
      return (if bangs % 2 == 1 then !v else v, pos)
    else if a == "(" then
      if pos + 1 ≥ argc then throw .argumentExpected
      let (v, pos) ← t.eval fuel .either (pos + 1)
      match t.at? pos with
      | none => throw (.closeExpected none)
      | some ")" => return (v, pos + 1)
      | some f => throw (.closeExpected (some f))
    else if pos + 3 ≤ argc && bashBinaryOps.contains (t.arg (pos + 1)) then t.binaryAt pos
    else if pos + 2 ≤ argc && bashUnaryOps.contains a then t.unaryAt pos
    else return (a != "", pos + 1)

def two (t : BashTest) (pos : Nat) : Except TestFault Bool :=
  let a := t.arg pos
  if a == "!" then .ok (t.arg (pos + 1)).isEmpty
  else if bashUnaryOps.contains a then (t.unaryAt pos).map (·.1)
  else .error (.unaryExpected a)

def three (t : BashTest) (pos : Nat) : Except TestFault Bool :=
  let mid := t.arg (pos + 1)
  if bashBinaryOps.contains mid then (t.binaryAt pos).map (·.1)
  else if mid == "-a" then .ok (t.arg pos != "" && t.arg (pos + 2) != "")
  else if mid == "-o" then .ok (t.arg pos != "" || t.arg (pos + 2) != "")
  else if t.arg pos == "!" then (t.two (pos + 1)).map (!·)
  else if (t.arg pos).startsWith "(" && (t.arg (pos + 2)).startsWith ")" then .ok (mid != "")
  else .error (.binaryExpected mid)

def run (t : BashTest) : Except TestFault Bool :=
  let argc := t.args.size
  let byPrecedence : Except TestFault Bool := do
    let (v, pos) ← t.eval (4 * argc + 4) .either 0
    if pos != argc then
      let a := t.arg pos
      throw (if a.startsWith "-" then .unexpected a else .tooMany)
    return v
  match argc with
  | 0 => .ok false
  | 1 => .ok (t.arg 0 != "")
  | 2 => t.two 0
  | 3 => t.three 0
  | 4 =>
    if t.arg 0 == "!" then (t.three 1).map (!·)
    else if t.arg 0 == "(" && t.arg 3 == ")" then t.two 1
    else byPrecedence
  | _ => byPrecedence

end BashTest

def bashTest (w : TestWorld) (bracket : Bool) (args : List String) : Except TestFault Bool :=
  if bracket then
    match args.getLast? with
    | some "]" => BashTest.run { world := w, args := args.dropLast.toArray, past := some "]" }
    | _ => .error .missingBracket
  else BashTest.run { world := w, args := args.toArray, past := none }

/-! ### The light shell -/

inductive DashOpKind where
  | unary
  | binary
  | notOp
  | andOp
  | orOp
  | openParen
  | closeParen
  deriving DecidableEq, Inhabited

def dashOp? (s : String) : Option DashOpKind :=
  if ["-r", "-w", "-x", "-e", "-f", "-d", "-c", "-b", "-p", "-u", "-g", "-k", "-s", "-t", "-z", "-n",
      "-h", "-O", "-G", "-L", "-S"].contains s then some .unary
  else if ["=", "!=", "<", ">", "-eq", "-ne", "-ge", "-gt", "-le", "-lt", "-nt", "-ot", "-ef"].contains s then
    some .binary
  else if s == "!" then some .notOp
  else if s == "-a" then some .andOp
  else if s == "-o" then some .orOp
  else if s == "(" then some .openParen
  else if s == ")" then some .closeParen
  else none

/-- A token of the light shell's `test`: an operator's kind, an operand, or the end. -/
inductive DashToken where
  | op (kind : DashOpKind)
  | operand
  | done
  deriving DecidableEq, Inhabited

def dashNumber (a : String) : Except String Int :=
  let isSpace (c : Char) := c == ' ' || c == '\t' || c == '\n' || c.toNat == 11 || c.toNat == 12 || c == '\r'
  let cs := a.toList.dropWhile isSpace
  let (neg, cs) : Bool × List Char := match cs with
    | '-' :: r => (true, r)
    | '+' :: r => (false, r)
    | r => (false, r)
  let digits := cs.takeWhile Char.isDigit
  let after := cs.drop digits.length
  let n : Int := digits.foldl (fun acc c => acc * 10 + (c.toNat - 48)) 0
  let v := if neg then -n else n
  if digits.isEmpty || !(after.all isSpace) || v < -Int.pow 2 63 || v ≥ Int.pow 2 63 then
    .error ("Illegal number: " ++ a)
  else .ok v

/-- The arguments of the light shell's `test` being read. -/
structure DashTest where
  world : TestWorld
  args : Array String

/-- Where reading is: the place of the current word and the operator it was read as. -/
structure DashPlace where
  pos : Nat
  current : Option DashOpKind := none

abbrev DashStep := Except String (Bool × DashPlace)

namespace DashTest

def at? (t : DashTest) (i : Nat) : Option String := t.args[i]?

def operandHere (t : DashTest) (i : Nat) : Bool :=
  match t.at? (i + 1) with
  | none => true
  | some next =>
    if (t.at? (i + 2)).isNone then false else dashOp? next == some .binary

def lex (t : DashTest) (i : Nat) : DashToken × Option DashOpKind :=
  match t.at? i with
  | none => (.done, none)
  | some s =>
    match dashOp? s with
    | some k =>
      if k == .unary && t.operandHere i then (.operand, none)
      else if k == .openParen && (t.at? (i + 1)).isNone then (.operand, none)
      else (.op k, some k)
    | none => (.operand, none)

def binaryAt (t : DashTest) (pos : Nat) : DashStep := do
  let a := (t.at? pos).getD ""
  let op := (t.at? (pos + 1)).getD ""
  match t.at? (pos + 2) with
  | none => throw (op ++ ": argument expected")
  | some b =>
    let ints (f : Int → Int → Bool) : Except String Bool := do
      let x ← dashNumber a
      let y ← dashNumber b
      return f x y
    let v ← match op with
      | "=" => pure (a == b)
      | "!=" => pure (a != b)
      | "<" => pure (a < b)
      | ">" => pure (b < a)
      | "-eq" => ints (· == ·)
      | "-ne" => ints (· != ·)
      | "-ge" => ints (· ≥ ·)
      | "-gt" => ints (· > ·)
      | "-le" => ints (· ≤ ·)
      | "-lt" => ints (· < ·)
      | "-ef" => pure (t.world.sameFile a b)
      | _ => pure false
    return (v, { pos := pos + 2, current := none })

def eval (t : DashTest) : Nat → TestLevel → DashToken → DashPlace → DashStep
  | 0, _, _, place => .ok (false, place)
  | fuel + 1, .either, tok, place => do
    let (v, place) ← t.eval fuel .both tok place
    match t.lex (place.pos + 1) with
    | (.op .orOp, _) =>
      let (tok, current) := t.lex (place.pos + 2)
      let (w, place) ← t.eval fuel .either tok { pos := place.pos + 2, current }
      return (v || w, place)
    | (_, current) => return (v, { place with current })
  | fuel + 1, .both, tok, place => do
    let (v, place) ← t.eval fuel .term tok place
    match t.lex (place.pos + 1) with
    | (.op .andOp, _) =>
      let (tok, current) := t.lex (place.pos + 2)
      let (w, place) ← t.eval fuel .both tok { pos := place.pos + 2, current }
      return (v && w, place)
    | (_, current) => return (v, { place with current })
  | fuel + 1, .term, tok, place =>
    match tok with
    | .done => .ok (false, place)
    | .op .notOp =>
      let (tok, current) := t.lex (place.pos + 1)
      (t.eval fuel .term tok { pos := place.pos + 1, current }).map fun (v, p) => (!v, p)
    | .op .openParen => do
      let (inner, current) := t.lex (place.pos + 1)
      if inner == .op .closeParen then return (false, { pos := place.pos + 1, current })
      let (v, place) ← t.eval fuel .either inner { pos := place.pos + 1, current }
      match t.lex (place.pos + 1) with
      | (.op .closeParen, current) => return (v, { pos := place.pos + 1, current })
      | _ => throw "closing paren expected"
    | _ =>
      let word := (t.at? place.pos).getD ""
      if place.current == some .unary then
        match t.at? (place.pos + 1) with
        | none => .error (word ++ ": argument expected")
        | some arg =>
          let v := match word with
            | "-z" => arg.isEmpty
            | "-n" => !arg.isEmpty
            | "-t" => false
            | _ => match word.toList with
              | ['-', letter] => t.world.fileTest letter arg
              | _ => false
          if word == "-t" then
            (dashNumber arg).map fun _ => (v, { pos := place.pos + 1, current := none })
          else .ok (v, { pos := place.pos + 1, current := none })
      else
        match t.lex (place.pos + 1) with
        | (_, some .binary) => t.binaryAt place.pos
        | (_, current) => .ok (word != "", { place with current })

end DashTest

def dashTest (w : TestWorld) (bracket : Bool) (args : List String) : Except String Bool :=
  if bracket && args.getLast? != some "]" then .error "missing ]"
  else
    let args := if bracket then args.dropLast else args
    go (args.length + 1) true args
where
  go : Nat → Bool → List String → Except String Bool
    | 0, _, _ => .ok false
    | fuel + 1, plain, args => do
      let t : DashTest := { world := w, args := args.toArray }
      let n := args.length
      if n == 0 then return !plain
      let binaryThree := n == 3 && dashOp? (args.getD 1 "") == some .binary
      if !binaryThree && (n == 3 || n == 4) then
        if args.headD "" == "(" && args.getLast? == some ")" then
          return ← readAll { t with args := ((args.drop 1).dropLast).toArray } plain
        else if args.headD "" == "!" then
          return ← go fuel false (args.drop 1)
      if binaryThree then
        let (v, place) ← DashTest.binaryAt t 0
        finish t plain v place
      else readAll t plain
  readAll (t : DashTest) (plain : Bool) : Except String Bool := do
    let (tok, current) := t.lex 0
    let (v, place) ← t.eval (4 * t.args.size + 4) .either tok { pos := 0, current }
    finish t plain v place
  finish (t : DashTest) (plain : Bool) (v : Bool) (place : DashPlace) : Except String Bool :=
    match t.at? place.pos, t.at? (place.pos + 1) with
    | some w, some _ => .error (w ++ ": unexpected operator")
    | _, _ => .ok (if plain then v else !v)

end TestRig.Shell
