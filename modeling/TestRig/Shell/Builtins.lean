import TestRig.Shell.Process
import TestRig.Shell.StreamEdit
import TestRig.Shell.Dump
import TestRig.Shell.Sorting
import TestRig.Shell.Excerpt
import TestRig.Shell.Count
import TestRig.Shell.Concatenate
import TestRig.Shell.Translate
import TestRig.Shell.Columns
import TestRig.Shell.Sequence
import TestRig.Shell.FileTools
import TestRig.Shell.Condition
import TestRig.Shell.Usage
import TestRig.Shell.Format
import TestRig.Shell.Parser
import TestRig.Shell.Listing

/-!
What shells run without another shell: their builtins (`echo`, `printf`, `test`, `exit`,
`kill`, `cd`, `export`, `break`, `return` and others) and the programs on the search path. A
name that is neither a builtin, a function nor a program is not found (status 127); a path to a
file that cannot be run is refused (status 126). The full shell and the light shell word their
messages differently, and their `echo` reads escapes differently.
-/

namespace TestRig.Shell

open TestRig.Files TestRig.Text

/-! ### Builtins -/

def signalNames : List (Nat × String) :=
  [(1, "HUP"), (2, "INT"), (3, "QUIT"), (4, "ILL"), (5, "TRAP"), (6, "ABRT"), (7, "BUS"),
   (8, "FPE"), (9, "KILL"), (10, "USR1"), (11, "SEGV"), (12, "USR2"), (13, "PIPE"), (14, "ALRM"),
   (15, "TERM"), (16, "STKFLT"), (17, "CHLD"), (18, "CONT"), (19, "STOP"), (20, "TSTP"),
   (21, "TTIN"), (22, "TTOU"), (23, "URG"), (24, "XCPU"), (25, "XFSZ"), (26, "VTALRM"),
   (27, "PROF"), (28, "WINCH"), (29, "IO"), (30, "PWR"), (31, "SYS"), (34, "RTMIN")] ++
  ((List.range 15).map fun i => (35 + i, "RTMIN+" ++ toString (i + 1))) ++
  ((List.range 14).map fun i => (50 + i, "RTMAX-" ++ toString (14 - i))) ++ [(64, "RTMAX")]

def signalDescription (k : Nat) : String :=
  match [(1, "Hangup"), (2, "Interrupt"), (3, "Quit"), (4, "Illegal instruction"),
      (5, "Trace/breakpoint trap"), (6, "Aborted"), (7, "Bus error"), (8, "Floating point exception"),
      (9, "Killed"), (10, "User defined signal 1"), (11, "Segmentation fault"),
      (12, "User defined signal 2"), (13, "Broken pipe"), (14, "Alarm clock"), (15, "Terminated"),
      (16, "Stack fault"), (17, "Child exited"), (18, "Continued"), (19, "Stopped (signal)"),
      (20, "Stopped"), (21, "Stopped (tty input)"), (22, "Stopped (tty output)"),
      (23, "Urgent I/O condition"), (24, "CPU time limit exceeded"), (25, "File size limit exceeded"),
      (26, "Virtual timer expired"), (27, "Profiling timer expired"), (28, "Window changed"),
      (29, "I/O possible"), (30, "Power failure"), (31, "Bad system call")].lookup k with
  | some d => d
  | none => "Real-time signal " ++ toString (k - 34)

def signalOf? (s : String) : Option Nat :=
  let s := trimPrefix s.toUpper "SIG"
  match s.toNat? with
  | some n => some n
  | none => (signalNames.find? (·.2 == s)).map (·.1)

def builtins : List String :=
  ["echo", "printf", "true", "false", ":", "exit", "kill", "cd", "export", "unset", "pwd", "shift", "set",
   "test", "[", "break", "continue", "return", "local", "read", "trap", "wait", "readonly", "getopts",
   "alias", "unalias", "hash", "umask", "times", "jobs", "fg", "bg", "ulimit"]

def bashBuiltins : List String :=
  ["declare", "typeset", "let", "shopt", "mapfile", "readarray", "builtin", "caller", "disown", "suspend",
   "logout", "enable", "help", "history", "fc", "dirs", "pushd", "popd", "compgen", "complete", "compopt",
   "bind"]

def Dialect.hasBuiltin (d : Dialect) (name : String) : Bool :=
  builtins.contains name || (d == .bash && bashBuiltins.contains name)

def runningBuiltins : List String := ["exec", "eval", ".", "source", "command", "type"]

def Proc.builtinOn (p : Proc) (name : String) : Bool :=
  (p.dialect.hasBuiltin name || runningBuiltins.contains name) && !p.disabled.contains name

def keywords : List String :=
  ["if", "then", "else", "elif", "fi", "while", "until", "do", "done", "for", "case", "esac", "in",
   "\x7b", "\x7d", "!"]

def Dialect.keywords (d : Dialect) : List String :=
  TestRig.Shell.keywords ++ if d == .bash then ["[[", "]]", "function", "select", "time", "coproc"] else []

def specialBuiltins : List String :=
  [":", ".", "break", "continue", "eval", "exec", "exit", "export", "local", "readonly", "return", "set",
   "shift", "times", "trap", "unset"]

def Dialect.usageStatus : Dialect → Nat
  | .bash => 1
  | .dash => 2

def signalTable : String :=
  let cells := signalNames.map fun (k, name) =>
    (if k < 10 then " " else "") ++ toString k ++ ") SIG" ++ name
  let (text, column) := cells.foldl (fun (acc, col) cell =>
    if col + 1 < 5 then (acc ++ cell ++ "\t", col + 1) else (acc ++ cell ++ "\n", 0)) ("", 0)
  if column == 0 then text else text ++ "\n"

def listSignals (p : Proc) (args : List String) : Shell (Proc × Flow) := do
  match args with
  | [] => do
    match p.dialect with
    | .bash => emit p 1 signalTable
    | .dash => emit p 1 (String.join (signalNames.map fun (_, n) => n ++ "\n"))
    pure ({ p with status := 0 }, .next)
  | _ =>
    let (out, ok) := args.foldl (fun (out, ok) a =>
      match a.toNat? with
      | some k =>
        let k := if k > 128 then k - 128 else k
        match signalNames.lookup k with
        | some name => (out ++ name ++ "\n", ok)
        | none => (out, false)
      | none =>
        match signalOf? a with
        | some k => (out ++ toString k ++ "\n", ok)
        | none => (out, false)) ("", true)
    emit p 1 out
    if ok then pure ({ p with status := 0 }, .next)
    else do
      let bad := (args.find? fun a => match a.toNat? with
        | some k => (signalNames.lookup (if k > 128 then k - 128 else k)).isNone
        | none => (signalOf? a).isNone).getD ""
      complain p ("kill: " ++ bad ++ ": invalid signal specification")
      pure ({ p with status := 1 }, .next)

def harmlessSignals : List Nat := [17, 18, 19, 20, 21, 22, 23, 28]

def sendSignal (p : Proc) (sig : Nat) (missing : Proc → String → Shell (Option (Proc × Flow))) :
    List String → Shell (Proc × Flow)
  | [] => pure (p, .next)
  | t :: rest =>
    let alive := t.toNat?.any fun n => n == p.pid || p.lineage.contains n
    -- the host is alive, and catches an interrupt: it cancels what it runs, and the shells go on
    if t.toNat? == some hostPid && (sig == 0 || sig == 2) then do
      if sig == 2 then modify fun w => { w with interrupted := true }
      sendSignal p sig missing rest
    else if !alive then do
      match ← missing p t with
      | some r => pure r
      | none => sendSignal { p with status := 1 } sig missing rest
    else if sig == 0 || harmlessSignals.contains sig then sendSignal p sig missing rest
    else if t.toNat! == p.pid then
      match p.signalTraps.lookup sig with
      | some "" => sendSignal p sig missing rest
      | some _ =>
        sendSignal { p with pending := if p.pending.contains sig then p.pending else p.pending ++ [sig] } sig missing rest
      | none => pure (p, .killed t.toNat! sig)
    else pure (p, .killed t.toNat! sig)

def killUsage : String :=
  "kill: usage: kill [-s sigspec | -n signum | -sigspec] pid | jobspec ... or kill -l [sigspec]\n"

def bashSignal? (s : String) : Option Nat :=
  if s == "0" then some 0
  else match s.toNat? with
    | some k => if k ≥ 1 && k ≤ 64 then some k else none
    | none =>
      let upper := s.toUpper
      let name := if upper.startsWith "SIG" then (upper.drop 3).toString else upper
      (signalNames.find? (·.2 == name)).map (·.1)

def bashKillOptions : Nat → List String → Bool → Option (String × Option Nat) →
    Except String (Bool × Option (String × Option Nat) × List String)
  | 0, rest, listing, sig => .ok (listing, sig, rest)
  | _, [], listing, sig => .ok (listing, sig, [])
  | n + 1, w :: rest, listing, sig =>
    if w == "-l" || w == "-L" then bashKillOptions n rest true sig
    else if w == "-s" || w == "-n" then
      match rest with
      | spec :: more => bashKillOptions n more listing (some (spec, bashSignal? spec))
      | [] => .error w
    else if w == "--" then .ok (listing, sig, rest)
    else if w.startsWith "-" && sig.isNone then
      let spec := (w.drop 1).toString
      bashKillOptions n rest listing (some (spec, bashSignal? spec))
    else .ok (listing, sig, w :: rest)

def runBashKill (p : Proc) (args : List String) : Shell (Proc × Flow) := do
  if args.isEmpty then do
    emit p 2 killUsage
    pure ({ p with status := 2 }, .next)
  else match bashKillOptions (args.length + 1) args false none with
  | .error w => do
    complain p ("kill: " ++ w ++ ": option requires an argument")
    pure ({ p with status := 1 }, .next)
  | .ok (true, _, rest) => listSignals p rest
  | .ok (false, sig, pids) =>
    match sig with
    | some (spec, none) => do
      complain p ("kill: " ++ spec ++ ": invalid signal specification")
      pure ({ p with status := 1 }, .next)
    | _ =>
    if pids.isEmpty then do
      emit p 2 killUsage
      pure ({ p with status := 2 }, .next)
    else
      let signal := ((sig.bind (·.2)).getD 15)
      let missing (q : Proc) (t : String) : Shell (Option (Proc × Flow)) := do
        let bare := if t.startsWith "-" then (t.drop 1).toString else t
        if !bare.isEmpty && bare.all Char.isDigit then
          complain q ("kill: (" ++ t ++ ") - No such process")
        else if !t.isEmpty && !t.startsWith "%" then
          complain q ("kill: " ++ t ++ ": arguments must be process or job IDs")
        else complain q ("kill: " ++ t ++ ": no such job")
        pure (some ({ q with status := 1 }, .next))
      let (q, flow) ← sendSignal { p with status := 0 } signal missing pids
      pure (q, flow)

def lightSignal? (s : String) : Option Nat :=
  if !s.isEmpty && s.all Char.isDigit then
    match s.toNat? with
    | some k => if k ≤ 64 then some k else none
    | none => none
  else (signalNames.find? (·.2 == s.toUpper)).map (·.1)

def runLightKill (p : Proc) (args : List String) : Shell (Proc × Flow) := do
  let fail (msg : String) : Shell (Proc × Flow) := do
    complain p ("kill: " ++ msg)
    pure ({ p with status := 2 }, .next)
  let usage := "Usage: kill [-s sigspec | -signum | -sigspec] [pid | job]... or\nkill -l [exitstatus]"
  if args.isEmpty then fail usage
  else
    let parsed : Except String (Bool × Option Nat × List String) :=
      match args with
      | a :: rest =>
        if a.startsWith "-" then
          match lightSignal? (a.drop 1).toString with
          | some k => .ok (false, some k, rest)
          | none =>
            match scanBuiltinOptions "ls:" false (args.length + 1) args [] with
            | .error f => .error (f.message .dash)
            | .ok (opts, rest) =>
              let listing := opts.any (·.letter == 'l')
              match opts.find? (·.letter == 's') with
              | some o =>
                match lightSignal? (o.value.getD "") with
                | some k => .ok (listing, some k, rest)
                | none => .error ("invalid signal number or name: " ++ o.value.getD "")
              | none => .ok (listing, none, rest)
        else .ok (false, none, args)
      | [] => .ok (false, none, [])
    match parsed with
    | .error msg => fail msg
    | .ok (listing, sig, rest) =>
      if listing then
        match rest with
        | [] => do
          emit p 1 ("0\n" ++ String.join (signalNames.map fun (_, n) => n ++ "\n"))
          pure ({ p with status := 0 }, .next)
        | a :: _ =>
          match a.toNat? with
          | none => fail ("Illegal number: " ++ a)
          | some k =>
            let k := if k > 128 then k - 128 else k
            match signalNames.lookup k with
            | some name => do
              emit p 1 (name ++ "\n")
              pure ({ p with status := 0 }, .next)
            | none => fail ("invalid signal number or exit status: " ++ a)
      else if rest.isEmpty then fail usage
      else
        match rest.find? fun t => t.startsWith "%" || (t.toNat?.isNone && !(t.startsWith "-" && (t.drop 1).toString.toNat?.isSome)) with
        | some t =>
          if t.startsWith "%" then fail ("No such job: " ++ t) else fail ("Illegal number: " ++ t)
        | none =>
          let missing (q : Proc) (_ : String) : Shell (Option (Proc × Flow)) := do
            complain q "kill: No such process\n"
            pure none
          sendSignal { p with status := 0 } (sig.getD 15) missing rest

def runKill (p : Proc) (args : List String) : Shell (Proc × Flow) :=
  match p.dialect with
  | .bash => runBashKill p args
  | .dash => runLightKill p args

def builtinNumber? (d : Dialect) (a : String) : Option Int :=
  let cs := a.toList.dropWhile fun c => c == ' ' || c == '\t' || c == '\n' || c.toNat == 11 || c.toNat == 12 || c == '\r'
  let (neg, cs) : Bool × List Char := match cs with
    | '-' :: r => (true, r)
    | '+' :: r => (false, r)
    | r => (false, r)
  let digits := cs.takeWhile Char.isDigit
  let after := cs.drop digits.length
  if digits.isEmpty || !(after.all fun c => c == ' ' || c == '\t') then none
  else
    let n : Int := digits.foldl (fun acc c => acc * 10 + (c.toNat - 48)) 0
    let v := if neg then -n else n
    match d with
    | .bash => if v < -Int.pow 2 63 || v ≥ Int.pow 2 63 then none else some v
    | .dash => if v < 0 || v ≥ Int.pow 2 31 then none else some v

def numberComplaint (d : Dialect) (name a : String) : String :=
  match d with
  | .bash => name ++ ": " ++ a ++ ": numeric argument required"
  | .dash => name ++ ": Illegal number: " ++ a

def runExit (p : Proc) (args : List String) : Shell (Proc × Flow) :=
  match args with
  | [] => pure (p, .exit p.status)
  | a :: _ =>
    match builtinNumber? p.dialect a with
    | some n => pure (p, .exit (n % 256).toNat)
    | none => do
      complain p (numberComplaint p.dialect "exit" a)
      pure (p, .exit 2)

def universalName (c : Char) (v : Nat) : String :=
  let ds := Nat.toDigits 16 v
  "\\" ++ String.singleton c ++ String.ofList (List.replicate ((if c == 'u' then 4 else 8) - ds.length) '0' ++ ds)

def PrintfFault.shellText (d : Dialect) : PrintfFault → String
  | .notNumeric a someRead => "printf: " ++ a ++ ": " ++ match d with
    | .bash => match a.toList with
      | '0' :: c :: _ => if c.isDigit then "invalid octal number" else if c == 'x' then "invalid hex number" else "invalid number"
      | _ => "invalid number"
    | .dash => if someRead then "not completely converted" else "expected numeric value"
  | .outOfRange a => match d with
    | .bash => "printf: warning: " ++ a ++ ": Numerical result out of range"
    | .dash => "printf: " ++ a ++ ": Numerical result out of range"
  | .badConversion spec c => match d with
    | .bash => "printf: `" ++ String.singleton c ++ "': invalid format character"
    | .dash => "printf: " ++ spec ++ ": invalid directive"
  | .missingConversion spec => match d with
    | .bash => "printf: `" ++ spec ++ "': missing format character"
    | .dash => "printf: " ++ spec ++ ": invalid directive"
  | .missingDigits c => "printf: missing " ++ (if c == 'x' then "hex" else "unicode") ++ " digit for \\" ++ String.singleton c
  | .badName a => "printf: `" ++ a ++ "': not a valid identifier"
  | .badTimeFormat c => "printf: warning: `" ++ String.singleton c ++ "': invalid time format specification"
  | .badUniversal c v => "printf: invalid universal character name " ++ universalName c v

def PrintfFault.isDirective : PrintfFault → Bool
  | .badConversion _ _ | .missingConversion _ => true
  | _ => false

def PrintfFault.fails (d : Dialect) : PrintfFault → Bool
  | .outOfRange _ | .missingDigits _ => d == .dash
  | .badTimeFormat _ => false
  | _ => true

def outputBlock : Nat := 4096

def lineBufferedPieces (text : List Char) (faults : List (Nat × PrintfFault)) : List (String ⊕ PrintfFault) :=
  let (pieces, flushed) := faults.foldl (fun (acc, flushed) (pos, f) =>
    let pending := (text.take pos).drop flushed
    let lines := pending.length - ((pending.reverse.takeWhile (· != '\n')).length)
    let upto := lines + (pending.length - lines) / outputBlock * outputBlock
    let acc := if upto == 0 then acc else acc ++ [.inl (String.ofList (pending.take upto))]
    (acc ++ [.inr f], flushed + upto)) ([], 0)
  let rest := text.drop flushed
  if rest.isEmpty then pieces else pieces ++ [.inl (String.ofList rest)]

def runPrintf (p : Proc) (args : List String) : Shell (Proc × Flow) := do
  let usage (p : Proc) : Shell (Proc × Flow) := do
    match p.dialect with
    | .bash => emit p 2 "printf: usage: printf [-v var] format [arguments]\n"
    | .dash => complain p "printf: usage: printf format [arg ...]"
    pure ({ p with status := 2 }, .next)
  let (target, args) : Option String × List String := match p.dialect, args with
    | .bash, "-v" :: v :: rest => (some v, rest)
    | _, rest => (none, rest)
  let (ended, args) := match args with
    | "--" :: rest => (true, rest)
    | rest => (false, rest)
  match p.dialect, args with
  | .bash, "-v" :: [] => do
    complain p "printf: -v: option requires an argument"
    usage p
  | .bash, a :: _ =>
    if !ended && a.startsWith "-" && a.length > 1 then do
      complain p ("printf: " ++ String.ofList (a.toList.take 2) ++ ": invalid option")
      usage p
    else runFormat p target args
  | _, [] => usage p
  | _, _ => runFormat p target args
where
  runFormat (p : Proc) (target : Option String) (args : List String) : Shell (Proc × Flow) := do
    match args with
    | [] => do
      emit p 2 "printf: usage: printf [-v var] format [arguments]\n"
      pure ({ p with status := 2 }, .next)
    | fmt :: rest => do
      let rules := if p.dialect == .bash then PrintfRules.bash else PrintfRules.light
      let run := printfRun rules fmt rest
      let (text, faults) := (run.out, run.faults)
      let failing := faults.filter fun (_, f) => f.fails p.dialect
      let status := if failing.isEmpty then 0
        else if p.dialect == .dash && failing.any (fun (_, f) => f.isDirective) then 2 else 1
      -- the counts of `%n` go to their variables (a read-only one is complained of)
      let p ← run.counts.foldlM (fun p (name, n) => do
        if (p.var? name).any (·.readonly) then do
          complain p (name ++ ": readonly variable")
          pure p
        else pure { p with vars := setVar p.vars name (toString n) false }) p
      match target with
      | some v => do
        faults.forM fun (_, f) => complain p (f.shellText p.dialect)
        let (name, sub) := match v.splitOn "[" with
          | [n, s] => if s.endsWith "]" then (n, some (s.dropEnd 1).toString) else (v, none)
          | _ => (v, none)
        let vars := match sub with
          | none => setVar p.vars name text false
          | some k => updateVar p.vars name fun var => match var.shape with
            | .assoc => { var with entries := setEntry var.entries k text }
            | _ => { var with shape := .indexed, cells := setCell var.cells (k.toNat?.getD 0) text }
        pure ({ p with vars, status }, .next)
      | none => do
        match p.dialect with
        | .bash =>
          (lineBufferedPieces text.toList faults).forM fun
            | .inl t => emit p 1 t
            | .inr f => complain p (f.shellText p.dialect)
        | .dash =>
          faults.forM fun (_, f) => complain p (f.shellText p.dialect)
          emit p 1 text
        pure ({ p with status }, .next)

def runCd (p : Proc) (args : List String) : Shell (Proc × Flow) := do
  let args := args.dropWhile fun a => a == "-L" || a == "-P" || a == "--"
  let fail (p : Proc) (msg : String) : Shell (Proc × Flow) := do
    complain p msg
    pure ({ p with status := p.dialect.usageStatus }, .next)
  if args.length > 1 && p.dialect == .bash then fail p "cd: too many arguments"
  else
    let target? := match args with
      | [] => p.lookupVar "HOME"
      | "-" :: _ => p.lookupVar "OLDPWD"
      | t :: _ => some t
    match target? with
    | none => fail p (if args.isEmpty then "cd: HOME not set" else "cd: OLDPWD not set")
    | some target =>
      let fs ← filesFrom p
      if dirExists fs target then do
        let cwd := fs.resolve (toText target)
        let vars := setVar (setVar p.vars "OLDPWD" (ofText p.cwd) (p.dialect == .dash)) "PWD" (ofText cwd) false
        if args.head? == some "-" then emit p 1 (ofText cwd ++ "\n")
        pure ({ p with cwd, vars, status := 0 }, .next)
      else match p.dialect with
        | .bash => fail p ("cd: " ++ target ++ ": " ++
            (if fileExists fs target then "Not a directory" else "No such file or directory"))
        | .dash => fail p ("cd: can't cd to " ++ target)

def programs : List String :=
  ["echo", "printf", "true", "false", "touch", "cp", "mv", "cat", "mkdir", "rm", "basename",
   "dirname", "sleep", "pwd", "ls", "tee", "sort", "uniq", "head", "tail", "wc", "tr", "cut", "rev", "env", "printenv", "grep", "sed",
   "seq", "od"]

def otherPrograms : List String :=
  ["gcc", "cc", "c++", "g++", "cpp", "as", "ld", "ar", "make", "git", "awk",
   "find", "test", "ln", "chmod", "diff", "xargs", "uname", "date"]

def shellOf? (name : String) : Option Dialect :=
  if name == "sh" || name == "dash" then some .dash
  else if name == "bash" then some .bash
  else none

def isProgramName (name : String) : Bool :=
  programs.contains name || otherPrograms.contains name || (shellOf? name).isSome

def Proc.testWorld (p : Proc) (fs : Tree) : TestWorld :=
  { files := fs
    isSet := fun name => (p.var? name).any (·.value?.isSome)
    optionOn := p.optionOn
    program := isProgramName }

def runTest (p : Proc) (name : String) (args : List String) : Shell (Proc × Flow) := do
  let fs ← filesFrom p
  let w := p.testWorld fs
  let result := match p.dialect with
    | .bash => (bashTest w (name == "[") args).mapError TestFault.text
    | .dash => dashTest w (name == "[") args
  match result with
  | .ok r => pure ({ p with status := if r then 0 else 1 }, .next)
  | .error msg => do
    complain p (name ++ ": " ++ msg)
    pure ({ p with status := 2 }, .next)

def Proc.setOption (p : Proc) (on : Bool) (c : Char) : Option Proc :=
  let letters := match p.dialect with
    | .bash => "abefhkmnptuvxBCEHPT"
    | .dash => "abefmnpuvxCEIV"
  let named (name : String) : Proc :=
    { p with namedOn := if on then name :: p.namedOn.erase name else p.namedOn.erase name }
  match c with
  | 'e' => some { p with errexit := on }
  | 'E' => if p.dialect == .bash then some (named "errtrace") else some p
  | 'T' => if p.dialect == .bash then some (named "functrace") else some p
  | 'u' => some { p with nounset := on }
  | 'f' => some { p with noglob := on }
  | 'x' => some { p with xtrace := on }
  | 'C' => some { p with noclobber := on }
  | 'n' => some { p with noexec := on }
  | 'a' => some { p with allexport := on }
  | _ => if letters.contains c then some p else none

def namedOptionLetters : List (String × Char) :=
  [("errexit", 'e'), ("nounset", 'u'), ("noglob", 'f'), ("xtrace", 'x'), ("noclobber", 'C'),
   ("noexec", 'n'), ("allexport", 'a')]

def Proc.setNamedOption (p : Proc) (on : Bool) (name : String) : Option Proc :=
  let names := ["allexport", "emacs", "ignoreeof", "monitor", "noclobber", "noexec", "noglob",
    "notify", "verbose", "vi", "xtrace"] ++ match p.dialect with
    | .bash => ["braceexpand", "errtrace", "functrace", "hashall", "histexpand", "history",
        "interactive-comments", "keyword", "nolog", "onecmd", "physical", "posix", "privileged"]
    | .dash => ["debug", "interactive", "nolog", "stdin"]
  match namedOptionLetters.lookup name with
  | some c => p.setOption on c
  | none =>
    if name == "pipefail" && p.dialect == .bash then some { p with pipefail := on }
    -- bash's posix mode shows in POSIXLY_CORRECT
    else if name == "posix" && p.dialect == .bash then
      let vars := if on then setVar p.vars "POSIXLY_CORRECT" "y" false else unsetVar p.vars "POSIXLY_CORRECT"
      some { p with vars, namedOn := if on then name :: p.namedOn.erase name else p.namedOn.erase name }
    else if names.contains name then
      some { p with namedOn := if on then name :: p.namedOn.erase name else p.namedOn.erase name }
    else none

def Proc.optionListing (p : Proc) (asCommands : Bool) : String :=
  let names := if p.dialect == .bash then bashOptionNames else dashOptionNames
  let width := if p.dialect == .bash then 15 else 16
  String.join (names.map fun name =>
    let on := p.optionOn name
    if asCommands then "set " ++ (if on then "-o " else "+o ") ++ name ++ "\n"
    else
      let padded := name ++ String.ofList (List.replicate (width - name.length) ' ')
      padded ++ (if p.dialect == .bash then "\t" else "") ++ (if on then "on" else "off") ++ "\n")

def runSet (p : Proc) (args : List String) : Shell (Proc × Flow) :=
  go (args.length + 1) p args
where
  go : Nat → Proc → List String → Shell (Proc × Flow)
  | 0, p, _ => pure ({ p with status := 0 }, .next)
  | _, p, [] => pure ({ p with status := 0 }, .next)
  | _, p, "--" :: rest => pure ({ p with args := rest, status := 0 }, .next)
  | _, p, "-" :: rest =>
    pure ({ p with args := if rest.isEmpty then p.args else rest, status := 0 }, .next)
  | fuel + 1, p, a :: rest =>
    match a.toList with
    | sign :: letters@(_ :: _) =>
      if sign != '-' && sign != '+' then pure ({ p with args := a :: rest, status := 0 }, .next)
      else if letters == ['o'] then
        match rest with
        | name :: more =>
          match p.setNamedOption (sign == '-') name with
          | some q => go fuel q more
          | none => do
            match p.dialect with
            | .bash =>
              complain p ("set: " ++ name ++ ": invalid option name")
              pure ({ p with status := 2 }, .next)
            | .dash =>
              complain p ("set: Illegal option " ++ a ++ " " ++ name)
              pure ({ p with status := 2 }, .exit 2)
        | [] => do
          if p.dialect == .dash && sign == '-' then emit p 1 "Current option settings\n"
          emit p 1 (p.optionListing (sign == '+'))
          pure ({ p with status := 0 }, .next)
      else
        match letters.foldlM (fun q c => (q.setOption (sign == '-') c).elim (Except.error c) Except.ok) p with
        | .ok q => go fuel q rest
        | .error c => do
          match p.dialect with
          | .bash =>
            complain p ("set: " ++ String.ofList [sign, c] ++ ": invalid option")
            emit p 2 "set: usage: set [-abefhkmnptuvxBCEHPT] [-o option-name] [--] [-] [arg ...]\n"
            pure ({ p with status := 2 }, .next)
          | .dash =>
            complain p ("set: Illegal option " ++ String.ofList [sign, c])
            pure ({ p with status := 2 }, .exit 2)
    | _ => pure ({ p with args := a :: rest, status := 0 }, .next)

def Proc.builtinOptions (p : Proc) (name : String) (args : List String) :
    Shell (Except (Proc × Flow) (List BuiltinOption × List String)) :=
  match p.dialect.builtinSyntax? name with
  | none => pure (.ok ([], args))
  | some s =>
    match s.scan args with
    | .ok r => pure (.ok r)
    | .error f => do
      complain p (name ++ ": " ++ f.message p.dialect)
      if p.dialect == .bash then emit p 2 (name ++ ": usage: " ++ s.usage ++ "\n")
      let q := { p with status := 2 }
      pure (.error (q, if p.dialect == .dash && specialBuiltins.contains name then .exit 2 else .next))

def leadingInt (s : String) : Int :=
  let cs := s.toList.dropWhile fun c => c == ' ' || c == '\t' || c == '\n'
  let (neg, cs) := match cs with
    | '-' :: r => (true, r)
    | '+' :: r => (false, r)
    | r => (false, r)
  let n : Int := (cs.takeWhile Char.isDigit).foldl (fun a c => a * 10 + (c.toNat - 48 : Nat)) 0
  if neg then -n else n

def runGetopts (p : Proc) (args : List String) : Shell (Proc × Flow) :=
  match args with
  | spec :: name :: rest =>
    let argv := if rest.isEmpty then p.args else rest
    let optind := max 1 (((p.lookupVar "OPTIND").bind String.toNat?).getD 1)
    -- bash keeps quiet as well when OPTERR holds a number that is 0
    let quiet := p.dialect == .bash && ((p.lookupVar "OPTERR").any fun v => !v.isEmpty && leadingInt v == 0)
    let silent := spec.startsWith ":"
    let letters := (if silent then spec.drop 1 else spec.toSlice).toString.toList
    let set (vars : List Var) (k v : String) := setVar vars k v false
    let finish (vars : List Var) (optind place status : Nat) : Shell (Proc × Flow) :=
      pure ({ p with vars := set vars "OPTIND" (toString optind), optPlace := place, status }, .next)
    let stop (vars : List Var) (optind : Nat) := finish (set vars name "?") optind 0 1
    let report (msg : String) : Shell Unit :=
      if silent || quiet then pure ()
      else emit p 2 (match p.dialect with
        | .bash => p.zero ++ ": " ++ msg ++ "\n"
        | .dash => msg ++ "\n")
    let word? := argv[optind - 1]?
    let start : Option (List Char) := match word? with
      | none => none
      | some w =>
        if p.optPlace > 0 then some w.toList
        else if w == "--" || !w.startsWith "-" || w == "-" then none
        else some w.toList
    match start with
    | none =>
      stop p.vars (if word? == some "--" && p.optPlace == 0 then optind + 1 else optind)
    | some word =>
      let place := if p.optPlace > 0 then p.optPlace else 1
      match word[place]? with
      | none => stop p.vars optind
      | some c =>
        let next := place + 1
        let ends := next ≥ word.length
        let after := if ends then optind + 1 else optind
        let known := c != ':' && letters.contains c
        let takesArg := known && ((letters.dropWhile (· != c)).drop 1).head? == some ':'
        if !known then do
          report (match p.dialect with
            | .bash => "illegal option -- " ++ String.singleton c
            | .dash => "Illegal option -" ++ String.singleton c)
          let vars := set p.vars name "?"
          let vars := if silent then set vars "OPTARG" (String.singleton c) else unsetVar vars "OPTARG"
          finish vars after (if ends then 0 else next) 0
        else if takesArg then
          if !ends then
            finish (set (set p.vars name (String.singleton c)) "OPTARG" (String.ofList (word.drop next)))
              (optind + 1) 0 0
          else match argv[after - 1]? with
            | some a => finish (set (set p.vars name (String.singleton c)) "OPTARG" a) (after + 1) 0 0
            | none => do
              report (match p.dialect with
                | .bash => "option requires an argument -- " ++ String.singleton c
                | .dash => "No arg for -" ++ String.singleton c ++ " option")
              let vars := if silent then set (set p.vars name ":") "OPTARG" (String.singleton c)
                else unsetVar (set p.vars name "?") "OPTARG"
              finish vars after 0 0
        else
          finish (unsetVar (set p.vars name (String.singleton c)) "OPTARG") after (if ends then 0 else next) 0
  | _ => do
    complain p (match p.dialect with
      | .bash => "getopts: usage: getopts optstring name [arg ...]"
      | .dash => "getopts: Usage: getopts optstring var [arg...]")
    pure ({ p with status := 2 }, .next)

def singleQuoted (s : String) : String :=
  "'" ++ "'\\''".intercalate (s.splitOn "'") ++ "'"

def lightQuoted (s : String) : String :=
  String.join (pieces (s.length + 1) s.toList)
where
  pieces : Nat → List Char → List String
    | 0, _ => []
    | fuel + 1, cs =>
      let text := cs.takeWhile (· != '\x27')
      let quotes := (cs.drop text.length).takeWhile (· == '\x27')
      let after := cs.drop (text.length + quotes.length)
      let chunk := "'" ++ String.ofList text ++ "'"
      if quotes.isEmpty then [chunk]
      else chunk :: ("\"" ++ String.ofList quotes ++ "\"") :: (if after.isEmpty then [] else pieces fuel after)

/-- What a trap is set on: the shell's exit, a failed command (`ERR`), each command
(`DEBUG`), the end of a function (`RETURN`), or a signal by number. -/
inductive TrapTarget where
  | exit
  | err
  | debug
  | ret
  | signal (k : Nat)
  deriving DecidableEq, Inhabited

def trapTarget? (d : Dialect) (s : String) : Option TrapTarget :=
  let upper := s.toUpper
  let name := if d == .bash && upper.startsWith "SIG" then (upper.drop 3).toString else upper
  if !s.isEmpty && s.all Char.isDigit then
    match s.toNat? with
    | some 0 => some .exit
    | some k => if k ≤ 64 then some (.signal k) else none
    | none => none
  else if name == "EXIT" then some .exit
  else if d == .bash && name == "ERR" then some .err
  else if d == .bash && name == "DEBUG" then some .debug
  else if d == .bash && name == "RETURN" then some .ret
  else (signalNames.find? (·.2 == name)).map fun (k, _) => .signal k

def Proc.trapOf (p : Proc) : TrapTarget → Option String
  | .exit => p.exitTrap
  | .err => p.errTrap
  | .debug => p.debugTrap
  | .ret => p.returnTrap
  | .signal k => p.signalTraps.lookup k

def Proc.setTrap (p : Proc) (t : TrapTarget) (action : Option String) : Proc :=
  match t with
  | .exit => { p with exitTrap := action }
  | .err => { p with errTrap := action }
  | .debug => { p with debugTrap := action }
  | .ret => { p with returnTrap := action }
  | .signal k =>
    let rest := p.signalTraps.filter (·.1 != k)
    match action with
    | none => { p with signalTraps := rest }
    | some cmd =>
      let before := rest.takeWhile (·.1 < k)
      { p with signalTraps := before ++ (k, cmd) :: rest.drop before.length }

def Dialect.trapName (d : Dialect) : TrapTarget → String
  | .exit => "EXIT"
  | .err => "ERR"
  | .debug => "DEBUG"
  | .ret => "RETURN"
  | .signal k =>
    let name := ((signalNames.lookup k).getD (toString k))
    if d == .bash then "SIG" ++ name else name

def Proc.trapsSet (p : Proc) : List (TrapTarget × String) :=
  let named (t : TrapTarget) : List (TrapTarget × String) := (p.trapOf t).toList.map (t, ·)
  named .exit ++ p.signalTraps.map (fun (k, cmd) => (.signal k, cmd)) ++ named .debug ++ named .err ++ named .ret

def Proc.trapLine (p : Proc) (t : TrapTarget) (cmd : String) : String :=
  "trap -- " ++ (if p.dialect == .bash then singleQuoted cmd else "'" ++ "'\"'\"'".intercalate (cmd.splitOn "'") ++ "'") ++
    " " ++ p.dialect.trapName t ++ "\n"

def runTrap (p : Proc) (opts : List BuiltinOption) (args : List String) : Shell (Proc × Flow) := do
  let bash := p.dialect == .bash
  if opts.any (·.letter == 'l') then do
    emit p 1 signalTable
    pure ({ p with status := 0 }, .next)
  else if args.isEmpty || opts.any (·.letter == 'p') then
    let status ← if args.isEmpty then do
        emit p 1 (String.join (p.trapsSet.map fun (t, cmd) => p.trapLine t cmd))
        pure 0
      else args.foldlM (fun status a => do
        match trapTarget? p.dialect a with
        | some t => do
          if let some cmd := p.trapOf t then emit p 1 (p.trapLine t cmd)
          pure status
        | none => do
          complain p ("trap: " ++ a ++ ": invalid signal specification")
          pure 1) 0
    pure ({ p with status }, .next)
  else
    let first := args.headD ""
    let firstIsCondition := (trapTarget? p.dialect first).isSome
    let reset :=
      if bash then (!first.isEmpty && first.all Char.isDigit && firstIsCondition) ||
        (first != "" && first != "-" && firstIsCondition && args.length == 1)
      else args.length == 1 || firstIsCondition
    if !reset && args.length == 1 then do
      emit p 2 "trap: usage: trap [-lp] [[arg] signal_spec ...]\n"
      pure ({ p with status := 2 }, .next)
    else
      let (action, conds) : Option String × List String :=
        if reset then (none, args) else (if first == "-" then none else some first, args.drop 1)
      let rec go : List String → Proc → Nat → Shell (Proc × Flow)
        | [], q, status => pure ({ q with status }, .next)
        | c :: rest, q, status =>
          match trapTarget? q.dialect c with
          | some t => go rest (q.setTrap t action) status
          | none =>
            if bash then do
              complain q ("trap: " ++ c ++ ": invalid signal specification")
              go rest q 1
            else do
              emit q 2 ("trap: " ++ c ++ ": bad trap\n")
              pure ({ q with status := 1 }, .next)
      go conds p 0

def Proc.setShopt (p : Proc) (name : String) (on : Bool) : Proc :=
  let rest := p.shopts.filter (· != name)
  { p with shopts := if on then name :: rest else rest }

def optionLine (name : String) (on : Bool) : String :=
  name ++ String.ofList (List.replicate (15 - name.length) ' ') ++ "\t" ++ (if on then "on" else "off") ++ "\n"

def runShopt (p : Proc) (opts : List BuiltinOption) (names : List String) : Shell (Proc × Flow) := do
  let has (c : Char) := opts.any (·.letter == c)
  let quiet := has 'q'
  let reusable := has 'p'
  let done (q : Proc) (status : Nat) : Shell (Proc × Flow) := pure ({ q with status }, .next)
  let shoptText (name : String) (on : Bool) : String :=
    if reusable then "shopt " ++ (if on then "-s " else "-u ") ++ name ++ "\n" else optionLine name on
  let setText (name : String) (on : Bool) : String :=
    if reusable then "set " ++ (if on then "-o " else "+o ") ++ name ++ "\n" else optionLine name on
  let say (text : String) : Shell Unit := if quiet then pure () else emit p 1 text
  if has 's' && has 'u' then do
    complain p "shopt: cannot set and unset shell options simultaneously"
    done p 1
  else if has 'o' && !has 's' && !has 'u' then
    if names.isEmpty then do
      say (String.join (bashOptionNames.map fun n => setText n (p.optionOn n)))
      done p 0
    else do
      let status ← names.foldlM (fun status n => do
        if !bashOptionNames.contains n then do
          complain p ("shopt: " ++ n ++ ": invalid option name")
          pure 1
        else do
          say (setText n (p.optionOn n))
          pure (if p.optionOn n then status else 1)) 0
      done p status
  else if has 'o' then
    if names.isEmpty then do
      say (String.join ((bashOptionNames.filter fun n => p.optionOn n == has 's').map fun n =>
        setText n (p.optionOn n)))
      done p 0
    else do
      let (q, status) ← names.foldlM (fun (q, status) n =>
        match q.setNamedOption (has 's') n with
        | some r => pure (r, status)
        | none => do
          complain p ("shopt: " ++ n ++ ": invalid option name")
          pure (q, 1)) (p, 0)
      done q status
  else if has 's' || has 'u' then
    if names.isEmpty then do
      say (String.join ((shoptNames.filter fun n => p.shopt n == has 's').map fun n => shoptText n (p.shopt n)))
      done p 0
    else do
      let (q, status) ← names.foldlM (fun (q, status) n => do
        if !shoptNames.contains n then do
          complain p ("shopt: " ++ n ++ ": invalid shell option name")
          pure (q, 1)
        -- these two tell how the shell was started, which setting them cannot change
        else if n == "login_shell" || n == "restricted_shell" then pure (q, status)
        else pure (q.setShopt n (has 's'), status)) (p, 0)
      done q status
  else if names.isEmpty then do
    say (String.join (shoptNames.map fun n => shoptText n (p.shopt n)))
    done p 0
  else do
    let status ← names.foldlM (fun status n => do
      if !shoptNames.contains n then do
        complain p ("shopt: " ++ n ++ ": invalid shell option name")
        pure 1
      else do
        say (shoptText n (p.shopt n))
        pure (if p.shopt n then status else 1)) 0
    done p status

def runUnset (p : Proc) (args : List String) : Shell (Proc × Flow) := do
  let (funcs, names) := match args with
    | "-f" :: r => (true, r)
    | "-v" :: r => (false, r)
    | r => (false, r)
  if funcs then pure ({ p with functions := p.functions.filter fun (n, _) => !names.contains n, status := 0 }, .next)
  else
    names.foldlM (fun (q, flow) name => do
      let (base, sub) := match name.splitOn "[" with
        | [b, rest] => (b, if rest.endsWith "]" then some (String.ofList rest.toList.dropLast) else none)
        | _ => (name, none)
      match q.var? base with
      | some v =>
        if v.readonly then do
          complain q ("unset: " ++ base ++ ": cannot unset: readonly variable")
          pure ({ q with status := 1 }, flow)
        else match sub with
          | some k =>
            let v := match v.shape with
              | .assoc => { v with entries := v.entries.filter (·.1 != k) }
              | _ => { v with cells := v.cells.filter fun (i, _) => some i != k.toNat? }
            pure ({ q with vars := q.vars.map fun w => if w.name == base then v else w }, flow)
          | none => pure (({ q with vars := unsetVar q.vars base }).noteChanged base, flow)
      | none => pure ({ q with functions := if q.dialect == .bash then q.functions.filter (·.1 != base) else q.functions }, flow))
      ({ p with status := 0 }, Flow.next)

def runBuiltin (p : Proc) (name : String) (args : List String) : Shell (Proc × Flow) :=
  let ok (q : Proc) : Shell (Proc × Flow) := pure ({ q with status := 0 }, .next)
  let counted := ["exit", "return", "shift", "break", "continue"].contains name
  let outsideLoop := (name == "break" || name == "continue") && p.loops == 0
  if p.dialect == .bash && counted && !outsideLoop && args.length ≥ 2 &&
      (builtinNumber? .bash (args.headD "")).isSome then do
    complain p (name ++ ": too many arguments")
    pure ({ p with status := 1 }, .exit 1)
  else
  match name with
  | "echo" => do emit p 1 (echoText (if p.dialect == .dash then .light else .full) args (p.shopt "xpg_echo")); ok p
  | "printf" => runPrintf p args
  | "true" => ok p
  | ":" => ok p
  | "false" => pure ({ p with status := 1 }, .next)
  | "exit" => runExit p args
  | "test" | "[" => runTest p name args
  | "kill" => runKill p args
  | "cd" => runCd p args
  | "pwd" => do emit p 1 (ofText p.cwd ++ "\n"); ok p
  | "unset" => runUnset p args
  | "shift" =>
    match args.head? with
    | none => if p.args.isEmpty then pure ({ p with status := 1 }, .next) else ok { p with args := p.args.drop 1 }
    | some a =>
      match builtinNumber? p.dialect a, p.dialect with
      | none, .bash => do
        complain p (numberComplaint .bash "shift" a)
        pure ({ p with status := 1 }, .next)
      | none, .dash => do
        complain p (numberComplaint .dash "shift" a)
        pure ({ p with status := 2 }, .exit 2)
      | some k, d =>
        if k < 0 then do
          complain p ("shift: " ++ a ++ ": shift count out of range")
          pure ({ p with status := 1 }, .next)
        else if k.toNat > p.args.length then
          if d == .dash then do
            complain p "shift: can't shift that many"
            pure ({ p with status := 2 }, .exit 2)
          else do
            if p.shopt "shift_verbose" then complain p ("shift: " ++ a ++ ": shift count out of range")
            pure ({ p with status := 1 }, .next)
        else ok { p with args := p.args.drop k.toNat }
  | "set" => runSet p args
  | "getopts" => runGetopts p args
  | "wait" => ok p
  | "break" | "continue" =>
    let given := args.head?.map fun a => (a, builtinNumber? p.dialect a)
    if p.loops == 0 && p.dialect == .bash then do
      complain p (name ++ ": only meaningful in a `for', `while', or `until' loop")
      ok p
    else
    match given, p.dialect with
    | some (a, none), .bash => do
      complain p (numberComplaint .bash name a)
      pure ({ p with status := 128 }, .exit 128)
    | some (a, none), .dash => do
      complain p (numberComplaint .dash name a)
      pure ({ p with status := 2 }, .exit 2)
    | some (a, some k), d =>
      if k ≤ 0 then
        if d == .dash then do
          complain p (numberComplaint .dash name a)
          pure ({ p with status := 2 }, .exit 2)
        else do
          complain p (name ++ ": " ++ a ++ ": loop count out of range")
          pure ({ p with status := 1 }, if p.loops == 0 then .next else .breakLoops p.loops)
      else loopJump p name k.toNat
    | none, _ => loopJump p name 1
  | "return" =>
    let code : Except String Nat := match args.head? with
      | some a => match builtinNumber? p.dialect a with
        | some n => .ok (n % 256).toNat
        | none => .error a
      | none => .ok p.status
    match code with
    | .error a => do
      complain p (numberComplaint p.dialect "return" a)
      if p.dialect == .dash then pure ({ p with status := 2 }, .exit 2)
      else if p.inFunction || p.sourcing.isSome then pure ({ p with status := 2 }, .returned 2)
      else pure ({ p with status := 2 }, .next)
    | .ok code =>
    if p.inFunction || p.sourcing.isSome then pure ({ p with status := code }, .returned code)
    else match p.dialect with
      | .bash => do
        complain p "return: can only `return' from a function or sourced script"
        pure ({ p with status := 2 }, .next)
      | .dash => pure (p, .exit code)
  | _ => ok p
where
  loopJump (p : Proc) (name : String) (levels : Nat) : Shell (Proc × Flow) := do
    if p.loops == 0 then pure ({ p with status := 0 }, .next)
    else
      let levels := min levels p.loops
      pure ({ p with status := 0 }, if name == "break" then .breakLoops levels else .continueLoops levels)

/-! ### Programs -/


def programDirs : List String := ["/bin", "/usr/bin"]

def onSearchPath (path : Option String) (name : String) : Bool :=
  (programs.contains name || otherPrograms.contains name || (shellOf? name).isSome) &&
  match path with
  | none => true
  | some dirs => (dirs.splitOn ":").any programDirs.contains

inductive Target where
  | program (name : String)
  | notFound
  | denied
  | directory
  | missing

def pathTarget (fs : Tree) (path : String) : Target :=
  let abs := fs.resolve path
  if programDirs.contains (Path.dir abs) && onSearchPath none (Path.base abs) then
    .program (Path.base abs)
  else if fs.isDir abs then .directory
  else if fs.exists_ abs then .denied
  else .missing

def Proc.locate (p : Proc) (fs : Tree) (name : String) : Target :=
  if name.contains '/' then pathTarget fs name
  else match p.hashed.find? (·.1 == name) with
    | some (_, path, _) => pathTarget fs path
    | none => if onSearchPath (p.lookupVar "PATH") name then .program name else .notFound

def Proc.programPath (p : Proc) (name : String) : Option String :=
  if onSearchPath (p.lookupVar "PATH") name then
    let dirs := match p.lookupVar "PATH" with
      | some path => (path.splitOn ":").filter programDirs.contains
      | none => ["/usr/bin"]
    some (dirs.headD "/usr/bin" ++ "/" ++ name)
  else none

/-! ### The environment of a program -/

def lightBucket (name : String) : Nat :=
  let bytes := name.toList.map (·.toNat % 256)
  (bytes.headD 0 * 16 + bytes.foldr (· + ·) 0) % 39

def lightInitial : List String :=
  ["IFS", "MAIL", "MAILPATH", "PATH", "PS1", "PS2", "PS4", "OPTIND", "LINENO", "TERM", "HISTSIZE"]

def lightRank (name : String) : Nat :=
  match lightInitial.findIdx? (· == name) with
  | some i => lightInitial.length - 1 - i
  | none => lightInitial.length

def lastAssignments (assigned : List (String × String)) : List (String × String) :=
  assigned.foldl (fun acc (k, v) =>
    if acc.any (·.1 == k) then acc.map fun (k', v') => if k' == k then (k, v) else (k', v')
    else acc ++ [(k, v)]) []

def Proc.programEnvironment (p : Proc) (assigned : List (String × String)) (path : String) :
    List (String × String) :=
  match p.dialect with
  | .bash =>
    let temp := (lastAssignments assigned).reverse.mergeSort fun a b => keyBucket a.1 % 4 ≤ keyBucket b.1 % 4
    let globals := (p.vars.filter fun v => v.exported && v.value?.isSome && !temp.any (·.1 == v.name)).reverse
    let globals := globals.mergeSort fun a b => keyBucket a.name ≤ keyBucket b.name
    let level (s : String) : String := match s.toInt? with
      | some n => toString (max (n - 1) 0)
      | none => "0"
    let globals := globals.map fun v =>
      let s := v.value?.getD ""
      (v.name, if v.name == "SHLVL" && p.oneShot then level s else s)
    let all := temp ++ globals
    if all.any (·.1 == "_") then all.map fun (k, v) => (k, if k == "_" then path else v)
    else all ++ [("_", path)]
  | .dash =>
    let vars := assigned.foldl (fun vs (k, v) => setVar vs k v true) p.vars
    let vars := (vars.filter fun v => v.exported && v.value?.isSome).mergeSort fun a b =>
      lightBucket a.name < lightBucket b.name ||
        (lightBucket a.name == lightBucket b.name && lightRank a.name ≤ lightRank b.name)
    vars.map fun v => (v.name, v.value?.getD "")

structure EnvRequest where
  clear : Bool := false
  drops : List String := []
  sets : List (String × String) := []
  command : List String := []
  deriving Inhabited

def envRequest (args : List String) : Except String EnvRequest :=
  go (args.length + 1) args {}
where
  go : Nat → List String → EnvRequest → Except String EnvRequest
    | 0, rest, r => .ok (assignments r rest)
    | _, [], r => .ok r
    | n + 1, a :: rest, r =>
      if a == "--" then .ok (assignments r rest)
      else if a == "-" then .ok (assignments { r with clear := true } rest)
      else if a == "--ignore-environment" then go n rest { r with clear := true }
      else if a.startsWith "--unset=" then go n rest { r with drops := r.drops ++ [(a.drop 8).toString] }
      else if a == "-u" || a == "--unset" then
        match rest with
        | k :: more => go n more { r with drops := r.drops ++ [k] }
        | [] => .error ("env: option requires an argument -- 'u'\nTry 'env --help' for more information.")
      else if a.startsWith "-u" then go n rest { r with drops := r.drops ++ [(a.drop 2).toString] }
      else if a.startsWith "-" && a.length > 1 && !a.startsWith "--" then
        match a.toList.drop 1 |>.find? (· != 'i') with
        | none => go n rest { r with clear := true }
        | some c => .error ("env: invalid option -- '" ++ String.singleton c ++ "'\nTry 'env --help' for more information.")
      else .ok (assignments r (a :: rest))
  assignments (r : EnvRequest) (rest : List String) : EnvRequest :=
    let words := rest.takeWhile fun a => a.contains '=' && !a.startsWith "="
    let pairs := words.map fun a =>
      match a.splitOn "=" with
      | k :: v => (k, "=".intercalate v)
      | [] => (a, "")
    { r with sets := r.sets ++ pairs, command := rest.drop words.length }

def EnvRequest.apply (r : EnvRequest) (env : List (String × String)) : List (String × String) :=
  let e := if r.clear then [] else env
  let e := e.filter fun (k, _) => !r.drops.contains k
  r.sets.foldl (fun e (k, v) =>
    if e.any (·.1 == k) then e.map fun (k', v') => (k', if k' == k then v else v') else e ++ [(k, v)]) e

def envProgram (fs : Tree) (env : List (String × String)) (args : List String) : Effect :=
  match envRequest args with
  | .error msg => (({ files := fs } : Effect).err (msg ++ "\n")).fail 125
  | .ok r => ({ files := fs } : Effect).out (String.join ((r.apply env).map fun (k, v) => k ++ "=" ++ v ++ "\n"))

def printenvProgram (fs : Tree) (env : List (String × String)) (args : List String) : Effect :=
  match args with
  | [] => envProgram fs env []
  | names =>
    let found := names.filterMap fun k => List.lookup k env
    let e := ({ files := fs } : Effect).out (String.join (found.map (· ++ "\n")))
    if found.length == names.length then e else e.fail 1

def Proc.commandPath (p : Proc) (fs : Tree) (name : String) : Option String :=
  if p.dialect.keywords.contains name || (p.functions.lookup name).isSome || p.builtinOn name then some name
  else if name.contains '/' then
    match p.locate fs name with
    | .program _ | .denied => some name
    | _ => none
  else p.programPath name

def Proc.describe (p : Proc) (fs : Tree) (name : String) : Option String :=
  if p.dialect.keywords.contains name then some (name ++ " is a shell keyword")
  else if let some body := p.functions.lookup name then
    some (name ++ (if p.dialect == .bash then " is a function\n" ++ definitionText (some name) body
      else " is a shell function"))
  else if p.builtinOn name then
    some (name ++ (if p.dialect == .dash && specialBuiltins.contains name then " is a special shell builtin"
      else " is a shell builtin"))
  else match p.hashed.find? (·.1 == name) with
    | some (_, path, _) =>
      some (name ++ (if p.dialect == .bash then " is hashed (" ++ path ++ ")" else " is a tracked alias for " ++ path))
    | none => (p.commandPath fs name).map (name ++ " is " ++ ·)

def Proc.kindWord (p : Proc) (fs : Tree) (name : String) : Option String :=
  if p.dialect.keywords.contains name then some "keyword"
  else if (p.functions.lookup name).isSome then some "function"
  else if p.builtinOn name then some "builtin"
  else (p.commandPath fs name).map fun _ => "file"

def runType (p : Proc) (args : List String) : Shell (Proc × Flow) := do
  let fs ← filesFrom p
  let opts := if p.dialect == .bash then args.takeWhile fun a => a.startsWith "-" && a.length > 1 else []
  let names := args.drop opts.length
  let names := if names.head? == some "--" then names.drop 1 else names
  let letters := opts.flatMap fun o => o.toList.drop 1
  if letters.contains 't' || letters.contains 'p' || letters.contains 'P' then do
    let found ← names.foldlM (fun ok name => do
      let line := if letters.contains 't' then p.kindWord fs name
        else if letters.contains 'P' then p.programPath name
        else match p.kindWord fs name with
          | some "file" => p.commandPath fs name
          | some _ => some ""
          | none => none
      match line with
      | some "" => pure ok
      | some l => do emit p 1 (l ++ "\n"); pure ok
      | none => pure false) true
    pure ({ p with status := if found then 0 else 1 }, .next)
  else
  let found ← names.foldlM (fun ok name => do
    match p.describe fs name with
    | some line => do emit p 1 (line ++ "\n"); pure ok
    | none => do
      match p.dialect with
      | .bash => complain p ("type: " ++ name ++ ": not found")
      | .dash => emit p 1 (name ++ ": not found\n")
      pure false) true
  pure ({ p with status := if found then 0 else if p.dialect == .bash then 1 else 127 }, .next)

def runCommandPath (p : Proc) (names : List String) : Shell (Proc × Flow) := do
  let fs ← filesFrom p
  let found ← names.foldlM (fun _ name => do
    match p.commandPath fs name with
    | some path => do emit p 1 (path ++ "\n"); pure true
    | none => pure false) true
  pure ({ p with status := if found then 0 else if p.dialect == .bash then 1 else 127 }, .next)

def PrintfFault.programText : PrintfFault → String
  | .notNumeric a someRead => "printf: '" ++ a ++ "': " ++
      (if someRead then "value not completely converted" else "expected a numeric value")
  | .outOfRange a => "printf: '" ++ a ++ "': Numerical result out of range"
  | .badConversion spec _ => "printf: " ++ spec ++ ": invalid conversion specification"
  | .missingConversion spec => "printf: " ++ spec ++ ": invalid conversion specification"
  | .missingDigits _ => "printf: missing hexadecimal number in escape"
  | .badName a => "printf: '" ++ a ++ "': not a valid identifier"
  | .badTimeFormat c => "printf: %" ++ String.singleton c ++ ": invalid conversion specification"
  | .badUniversal c v => "printf: invalid universal character name " ++ universalName c v

def intervalMillis (a : String) : Option Nat :=
  let (body, unit) := match a.toList.getLast? with
    | some 's' => ((a.dropEnd 1).toString, 1000)
    | some 'm' => ((a.dropEnd 1).toString, 60000)
    | some 'h' => ((a.dropEnd 1).toString, 3600000)
    | some 'd' => ((a.dropEnd 1).toString, 86400000)
    | _ => (a, 1000)
  match body.splitOn "." with
  | [whole] => whole.toNat?.map (· * unit)
  | [whole, frac] =>
    if (whole.isEmpty && frac.isEmpty) || !(whole.all Char.isDigit && frac.all Char.isDigit) then none
    else some ((whole.toNat?.getD 0) * unit + (frac.toNat?.getD 0) * unit / Nat.pow 10 frac.length)
  | _ => none

def sleepEffect (plain : Effect) (args : List String) : Effect :=
  let usage (m : String) := (plain.err ("sleep: " ++ m ++ "
Try 'sleep --help' for more information.
")).fail 1
  if args.isEmpty then usage "missing operand"
  else match args.find? fun a => (intervalMillis a).isNone with
    | some a => usage ("invalid time interval '" ++ a ++ "'")
    | none => { plain with took := args.foldl (fun acc a => acc + (intervalMillis a).getD 0) 0 }

def runProgram (p : Proc) (name : String) (args : List String) (env : List (String × String))
    (run : CommandRun) (called : String := name) : Shell (Proc × Flow) := do
  let fs ← filesFrom p
  let plain : Effect := { files := fs }
  let e := match name with
    | "echo" => plain.out (echoText .program args)
    | "printf" => match args with
      | [] => (plain.err "printf: missing operand\nTry 'printf --help' for more information.\n").fail 1
      | fmt :: rest =>
        -- each message follows the output written before it was met
        let (text, faults) := printfText .program fmt rest
        let chars := text.toList
        let (e, shown) := faults.foldl (fun ((e, shown) : Effect × Nat) (fault : Nat × PrintfFault) =>
          let e := if fault.1 > shown then e.out (String.ofList ((chars.drop shown).take (fault.1 - shown))) else e
          ((e.err (fault.2.programText ++ "\n")).fail 1, max shown fault.1)) (plain, 0)
        if shown < chars.length then e.out (String.ofList (chars.drop shown)) else e
    | "false" => plain.fail 1
    | "touch" => touch fs args
    | "cp" => cp fs args p.input
    | "mv" => mv fs args p.input
    | "cat" => cat fs args p.input
    | "mkdir" => mkdir fs args
    | "rm" => rm fs args p.input
    | "basename" => basename fs args
    | "dirname" => dirname fs args
    | "pwd" => plain.out (ofText p.cwd ++ "\n")
    | "ls" => ls fs args
    | "tee" => tee fs args p.input
    | "sort" => sort fs args p.input
    | "uniq" => uniq fs args p.input
    | "head" => head fs args p.input
    | "tail" => tail fs args p.input
    | "wc" => wc fs args p.input
    | "tr" => tr fs args p.input
    | "cut" => cut fs args p.input
    | "rev" => rev fs args p.input
    | "seq" => seq fs args
    | "od" => od fs args p.input
    | "grep" => grep fs args p.input
    | "sed" => sed fs args p.input run
    | "env" => envProgram fs env args
    | "printenv" => printenvProgram fs env args
    | "sleep" => sleepEffect plain args
    | _ => plain
  let e := e.calledAs name called
  setFiles e.files
  modify fun w => { w with clock := w.clock + e.took }
  e.writes.forM fun (fd, t) => emit p fd t
  pure ({ p with status := e.status }, .next)

def Proc.cannotRun (p : Proc) (name : String) : Target → String × Nat
  | .notFound => match p.dialect with
    | .bash => (name ++ ": command not found", 127)
    | .dash => (name ++ ": not found", 127)
  | .missing => match p.dialect with
    | .bash => (name ++ ": No such file or directory", 127)
    | .dash => (name ++ ": not found", 127)
  | .directory => match p.dialect with
    | .bash => (name ++ ": Is a directory", 126)
    | .dash => (name ++ ": Permission denied", 126)
  | _ => (name ++ ": Permission denied", 126)

def lineOf (text : String) (n : Nat) : String := ((text.splitOn "\n").drop (n - 1)).headD ""

def Proc.syntaxMessage (p : Proc) (e : SyntaxError) (text : String) : String :=
  match p.dialect with
  | .bash =>
    let (message, later) := match e.message.splitOn "\n" with
      | m :: rest => (m, rest)
      | [] => (e.message, [])
    let endLine := lineBreaks (text.toList ++ (if text.endsWith "\n" then [] else ['\n'])) + 1
    let atEnd := later.isEmpty && (message == "syntax error: unexpected end of file" ||
      message == "unexpected EOF while looking for matching `)'")
    let line := if atEnd then endLine else e.line
    let leadAt (n : Nat) := match p.sourcing with
      | some file => file ++ ": line " ++ toString n ++ ": "
      | none => p.zero ++ ": " ++ (if p.inEval then "eval: " else if p.commandMode then "-c: " else "") ++
        "line " ++ toString n ++ ": "
    let lead := leadAt line
    let shown := if message.startsWith "syntax error near" then lead ++ "`" ++ lineOf text e.line ++ "'\n" else ""
    lead ++ message ++ "\n" ++ shown ++ String.join (later.map fun m => leadAt endLine ++ m ++ "\n")
  | .dash =>
    let source := p.lightLead
    match e.lightMessage with
    | some what =>
      -- the light shell counts the line a line break ends as passed, and the end as the last
      let line := if what.startsWith "end of file" then lineBreaks text.toList + 1
        else if what.startsWith "newline" then e.line + 1 else e.line
      p.zero ++ ": " ++ toString line ++ ": " ++ source ++ "Syntax error: " ++ what ++ "\n"
    | none =>
    -- a redirection without its word at the end of the script meets the end
    let atLastLine := e.line == lineBreaks text.toList + 1
    if e.message == "syntax error near unexpected token `newline'" then
      if atLastLine then p.zero ++ ": " ++ toString e.line ++ ": " ++ source ++ "Syntax error: end of file unexpected\n"
      else p.zero ++ ": " ++ toString (e.line + 1) ++ ": " ++ source ++ "Syntax error: newline unexpected\n"
    else
    let what := if e.message.startsWith "syntax error near unexpected token `" then
        "\"" ++ trimSuffix (trimPrefix e.message "syntax error near unexpected token `") "'" ++ "\" unexpected"
      else if e.message == "redirection unexpected" then e.message
      else if e.message == "unexpected EOF while looking for matching `)'" then
        "end of file unexpected (expecting \")\")"
      else if e.message == "unexpected EOF while looking for matching `\x7d'" then "Missing '\x7d'"
      else if e.message == "unexpected EOF while looking for matching ``'" then "EOF in backquote substitution"
      else if e.message.startsWith "unexpected EOF" then "Unterminated quoted string"
      else "end of file unexpected"
    let line := if e.message.startsWith "unexpected EOF" then lineBreaks text.toList + 1 else e.line
    p.zero ++ ": " ++ toString line ++ ": " ++ source ++ "Syntax error: " ++ what ++ "\n"

def childStatus (parent child : Proc) (q : Proc) : Flow → Nat ⊕ (Nat × Nat)
  | .next => .inl q.status
  | .exit c => .inl c
  | .killed pid sig => if pid == child.pid && !parent.oneShot then .inl (128 + sig) else .inr (pid, sig)
  | .returned c => .inl c
  | _ => .inl q.status

end TestRig.Shell
