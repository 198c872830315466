import TestRig.Shell.Syntax

/-!
How bash writes a function's definition back, for `declare -f`, `type` and `set`: the tree the
reading built, laid out again one command to a line, with four columns of indent for each level
of nesting.

A definition is written `name () `, a line break, and its body in braces on the lines after,
whatever compound command the body was: a group gives its commands, any other command stands
alone in the braces.
-/

namespace TestRig.Shell

/-- A list as bash's grammar groups it: a command, or two parts joined by a connector (`;`,
`&`, `&&`, `||` or `|`), the second missing after a last `&`. -/
inductive Chain where
  | one (negate : Bool) (c : Command)
  | link (negate : Bool) (first : Chain) (connector : String) (second : Option Chain)
  deriving Inhabited

def pipeChain (negate : Bool) : List Command → Chain
  | [] => .one negate (.simple {})
  | [c] => .one negate c
  | c :: rest => .link negate (.one false c) "|" (some (pipeChain false rest))

def andOrChain (acc : Chain) (background : Bool) : List Step → Chain × Bool × List Step
  | [] => (acc, background, [])
  | s :: rest =>
    match s.joint with
    | .ifSuccess => andOrChain (.link false acc "&&" (some (pipeChain s.negate s.pipeline))) s.background rest
    | .ifFailure => andOrChain (.link false acc "||" (some (pipeChain s.negate s.pipeline))) s.background rest
    | .always => (acc, background, s :: rest)

def listChain (acc : Chain) (background : Bool) : Nat → List Step → Chain
  | 0, _ => acc
  | _, [] => if background then .link false acc "&" none else acc
  | fuel + 1, s :: rest =>
    let (group, next, more) := andOrChain (pipeChain s.negate s.pipeline) s.background rest
    listChain (.link false acc (if background then "&" else ";") (some group)) next fuel more

def Script.chain? (steps : List Step) : Option Chain :=
  match steps with
  | [] => none
  | s :: rest =>
    let (group, background, more) := andOrChain (pipeChain s.negate s.pipeline) s.background rest
    some (listChain group background (more.length + 1) more)

structure Layout where
  out : String := ""
  indent : Nat := 0
  skip : Nat := 0
  inFunction : Nat := 0
  joining : Nat := 0
  waiting : List Redirect := []
  afterHeredoc : Bool := false

abbrev LayoutM := StateM Layout

def blanks (n : Nat) : String := String.ofList (List.replicate n ' ')

def put (s : String) : LayoutM Unit := modify fun l => { l with out := l.out ++ s }

def newline (s : String) : LayoutM Unit := do
  let l ← get
  put ("\n" ++ blanks l.indent ++ s)

def semicolon : LayoutM Unit := do
  let l ← get
  if l.out.endsWith "\n" || l.out.endsWith "&" then pure () else put ";"

def startCommand : LayoutM Unit := do
  let l ← get
  if l.skip > 0 then set { l with skip := l.skip - 1 } else put (blanks l.indent)

def skipNext : LayoutM Unit := modify fun l => { l with skip := l.skip + 1 }

def deeper : LayoutM Unit := modify fun l => { l with indent := l.indent + 4 }

def shallower : LayoutM Unit := modify fun l => { l with indent := l.indent - 4 }

def Redirect.isHeredoc (r : Redirect) : Bool :=
  match r.kind with
  | .heredoc .. => true
  | _ => false

def Redirect.layout (r : Redirect) : String :=
  let fd (own : Nat) := if r.fd == own then "" else toString r.fd
  match r.kind with
  | .write => fd 1 ++ "> " ++ r.shown
  | .clobber => fd 1 ++ ">| " ++ r.shown
  | .append => fd 1 ++ ">> " ++ r.shown
  | .read => fd 0 ++ "< " ++ r.shown
  | .herestring => fd 0 ++ "<<< " ++ r.shown
  | .heredoc .. => fd 0 ++ "<<" ++ r.shown
  | .dup =>
    let op := if r.fd == 0 then "<&" else ">&"
    if r.shown == "-" then toString r.fd ++ ">&-"
    else if !r.shown.isEmpty && r.shown.all Char.isDigit then toString r.fd ++ op ++ r.shown
    else fd (if r.fd == 0 then 0 else 1) ++ op ++ r.shown

def redirectTexts : List Redirect → List String
  | [] => []
  | r :: d :: rest =>
    if r.fd == 1 && d.fd == 2 && d.kind == .dup && d.shown.isEmpty && (r.kind == .write || r.kind == .append) then
      ((if r.kind == .write then "&> " else "&>> ") ++ r.shown) :: redirectTexts rest
    else r.layout :: redirectTexts (d :: rest)
  | [r] => [r.layout]

def putHeredocs (docs : List Redirect) : LayoutM Unit := do
  put "\n"
  for d in docs do
    match d.kind with
    | .heredoc body _ delim => put (body ++ delim ++ "\n")
    | _ => pure ()
  modify fun l => { l with afterHeredoc := true }

def flushWaiting (connector : String) : LayoutM Unit := do
  let shown := !connector.isEmpty && (connector != ";")
  if shown then put connector
  let l ← get
  if !l.waiting.isEmpty then
    putHeredocs l.waiting
    if shown then put " "
  modify fun l => { l with waiting := [] }

def flushIfWaiting : LayoutM Unit := do
  if !(← get).waiting.isEmpty then flushWaiting ""

def putRedirects (rs : List Redirect) : LayoutM Unit := do
  modify fun l => { l with afterHeredoc := false }
  put (" ".intercalate (redirectTexts rs))
  let docs := rs.filter Redirect.isHeredoc
  if !docs.isEmpty then
    if (← get).joining > 0 then modify fun l => { l with waiting := docs }
    else putHeredocs docs

def trailer (rs : List Redirect) : LayoutM Unit := do
  if !rs.isEmpty then
    put " "
    putRedirects rs

def reservedWords : List String :=
  ["if", "then", "else", "elif", "fi", "case", "esac", "for", "select", "while", "until", "do",
   "done", "in", "function", "time", "\x7b", "\x7d", "!", "[[", "]]", "coproc"]

def arithPart (s : String) : String :=
  String.ofList (s.toList.dropWhile fun c => c == ' ' || c == '\t' || c == '\n')

def ArmEnd.layout : ArmEnd → String
  | .leave => ";;"
  | .fallThrough => ";&"
  | .testNext => ";;&"

mutual

def layChain : Nat → Chain → LayoutM Unit
  | 0, _ => pure ()
  | n + 1, .one negate c => layCommand n negate c
  | n + 1, .link negate first connector second => do
    startCommand
    if negate then put "! "
    skipNext
    modify fun l => { l with joining := l.joining + 1 }
    layChain n first
    if connector == ";" then
      let l ← get
      if l.waiting.isEmpty then
        if l.afterHeredoc then set { l with afterHeredoc := false } else put ";"
      else flushWaiting (if l.inFunction > 0 then "" else ";")
      if (← get).inFunction > 0 then put "\n"
      else do
        put " "
        skipNext
    else if connector == "|" || connector == "&" then do
      flushWaiting (" " ++ connector)
      if second.isSome then
        put " "
        skipNext
    else do
      flushWaiting (" " ++ connector ++ " ")
      skipNext
    match second with
    | some c => layChain n c
    | none => pure ()
    flushIfWaiting
    modify fun l => { l with joining := l.joining - 1 }

def layList : Nat → List Step → LayoutM Unit
  | 0, _ => pure ()
  | n + 1, steps =>
    match Script.chain? steps with
    | some ch => layChain n ch
    | none => pure ()

def layCommand : Nat → Bool → Command → LayoutM Unit
  | 0, _, _ => pure ()
  | n + 1, negate, c => do
    startCommand
    if negate then put "! "
    match c with
    | .simple s =>
      put (" ".intercalate s.texts)
      if !s.redirects.isEmpty then
        if !s.texts.isEmpty then put " "
        putRedirects s.redirects
    | .group body rs =>
      put "\x7b "
      if (← get).inFunction == 0 then skipNext
      else do
        put "\n"
        deeper
      layList n body
      flushIfWaiting
      if (← get).inFunction > 0 then do
        put "\n"
        shallower
        put (blanks (← get).indent)
      else do
        semicolon
        put " "
      put "\x7d"
      trailer rs
    | .subshell body rs =>
      put "( "
      skipNext
      layList n body
      flushIfWaiting
      put " )"
      trailer rs
    | .ifThen branches other rs =>
      layIf n branches other
      trailer rs
    | .loop untilHolds cond body rs =>
      put (if untilHolds then "until " else "while ")
      skipNext
      layList n cond
      flushIfWaiting
      semicolon
      put " do\n"
      deeper
      layList n body
      flushIfWaiting
      shallower
      semicolon
      newline "done"
      trailer rs
    | .forIn name _ body rs shown | .select name _ body rs shown =>
      put ((if c matches .select .. then "select " else "for ") ++ name ++ " in " ++ shown ++ ";")
      newline "do\n"
      deeper
      layList n body
      flushIfWaiting
      semicolon
      shallower
      newline "done"
      trailer rs
    | .caseOf _ arms rs shown =>
      put ("case " ++ shown.headD "" ++ " in ")
      if !arms.isEmpty then
        deeper
        layArms n (arms.zip shown.tail)
        shallower
      newline "esac"
      trailer rs
    | .function name body =>
      put ("function " ++ name ++ " () \n")
      put (blanks (← get).indent ++ "\x7b \n")
      modify fun l => { l with inFunction := l.inFunction + 1 }
      deeper
      let rs ← layBody n body
      flushIfWaiting
      shallower
      modify fun l => { l with inFunction := l.inFunction - 1 }
      if rs.isEmpty then newline "\x7d"
      else do
        newline "\x7d "
        putRedirects rs
    | .arith expr _ rs =>
      put ("((" ++ expr ++ "))")
      trailer rs
    | .cond _ _ rs shown =>
      put ("[[ " ++ shown ++ " ]]")
      trailer rs
    | .timed posix body =>
      put ("time " ++ (if posix then "-p " else ""))
      if !body.isEmpty then skipNext
      layList n body
    | .forArith start test step body rs =>
      put ("for ((" ++ arithPart start ++ "; " ++ arithPart test ++ "; " ++ arithPart step ++ "))")
      newline "do\n"
      deeper
      layList n body
      flushIfWaiting
      semicolon
      shallower
      newline "done"
      trailer rs

def layIf : Nat → List (List Step × List Step) → List Step → LayoutM Unit
  | 0, _, _ => pure ()
  | _, [], _ => pure ()
  | n + 1, (cond, body) :: more, other => do
    put "if "
    skipNext
    layList n cond
    semicolon
    put " then\n"
    deeper
    layList n body
    shallower
    if !more.isEmpty || !other.isEmpty then
      semicolon
      newline "else\n"
      deeper
      if more.isEmpty then layList n other
      else do
        startCommand
        layIf n more other
      shallower
    semicolon
    newline "fi"

def layArms : Nat → List ((List Word × List Step × ArmEnd) × String) → LayoutM Unit
  | 0, _ => pure ()
  | _, [] => pure ()
  | n + 1, ((_, body, ending), patterns) :: rest => do
    newline ""
    put (patterns ++ ")\n")
    deeper
    layList n body
    shallower
    flushIfWaiting
    newline ending.layout
    layArms n rest

def layBody : Nat → Command → LayoutM (List Redirect)
  | 0, _ => pure []
  | n + 1, .group steps rs => do
    layList n steps
    pure rs
  | n + 1, c => do
    layCommand n false c
    pure []

end

def layoutFuel : Nat := 100000

def Command.shownText (c : Command) : String := ((layCommand layoutFuel false c).run {}).2.out

def definitionText (name : Option String) (body : Command) : String :=
  let head := match name with
    | some nm => (if reservedWords.contains nm then "function " else "") ++ nm ++ " "
    | none => ""
  let write : LayoutM Unit := do
    put (head ++ "() \n")
    modify fun l => { l with indent := 4, inFunction := 1 }
    put "\x7b \n"
    let rs ← layBody layoutFuel body
    flushIfWaiting
    modify fun l => { l with indent := 0, inFunction := 0 }
    if rs.isEmpty then newline "\x7d"
    else do
      newline "\x7d "
      putRedirects rs
  (write.run {}).2.out

end TestRig.Shell
