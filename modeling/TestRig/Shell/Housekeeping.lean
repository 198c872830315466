import TestRig.Shell.Help

/-!
# The shell's own tables, and the builtins of jobs and sessions

The builtins that keep tables of the shell itself or report on the session, as a shell that
reads a script (not a terminal) runs them.

* `hash`: the programs the shell found in the search path and remembers (`Proc.noteRun` adds
  one each time the shell itself runs it), listed in the order of the shell's hash table.
-/

namespace TestRig.Shell

open TestRig.Files TestRig.Text

/-! ## Remembered programs -/

def Dialect.programBucket (d : Dialect) (name : String) : Nat :=
  match d with
  | .bash => fnvHash name % 256
  | .dash =>
    let bytes := name.toList.map (·.toNat % 256)
    (bytes.headD 0 * 16 + bytes.foldr (· + ·) 0) % 31

def Proc.remember (p : Proc) (name path : String) (hits : Nat) : Proc :=
  if p.hashed.any (·.1 == name) then
    { p with hashed := p.hashed.map fun e => if e.1 == name then (name, path, hits) else e }
  else
    let b := p.dialect.programBucket name
    let before := p.hashed.takeWhile fun e =>
      let eb := p.dialect.programBucket e.1
      eb < b || (p.dialect == .dash && eb == b)
    { p with hashed := before ++ (name, path, hits) :: p.hashed.drop before.length }

def Proc.noteRun (p : Proc) (name path : String) : Proc :=
  match p.hashed.find? (·.1 == name) with
  | some (_, old, hits) => p.remember name old (hits + 1)
  | none => p.remember name path 1

def runHash (p : Proc) (opts : List BuiltinOption) (names : List String) : Shell (Proc × Flow) := do
  let has (c : Char) := opts.any (·.letter == c)
  let p := if has 'r' then { p with hashed := [] } else p
  let notFound (q : Proc) (name : String) : Shell Proc := do
    complain q ("hash: " ++ name ++ ": not found")
    pure { q with status := 1 }
  if names.isEmpty then
    if has 'd' || has 't' then do
      complain p ("hash: " ++ (if has 'd' then "-d" else "-t") ++ ": option requires an argument")
      pure ({ p with status := 1 }, .next)
    else if has 'r' then pure ({ p with status := 0 }, .next)
    else do
      match p.dialect with
      | .bash =>
        if has 'l' then
          emit p 1 (String.join (p.hashed.map fun (n, path, _) => "builtin hash -p " ++ path ++ " " ++ n ++ "\n"))
        else if p.hashed.isEmpty then emit p 1 "hash: hash table empty\n"
        else
          emit p 1 ("hits\tcommand\n" ++ String.join (p.hashed.map fun (_, path, hits) =>
            let count := toString hits
            String.ofList (List.replicate (4 - count.length) ' ') ++ count ++ "\t" ++ path ++ "\n"))
      | .dash => emit p 1 (String.join (p.hashed.map fun (_, path, _) => path ++ "\n"))
      pure ({ p with status := 0 }, .next)
  else do
    let fs ← filesFrom p
    let q ← names.foldlM (fun q name => do
      if has 'd' then
        if q.hashed.any (·.1 == name) then pure { q with hashed := q.hashed.filter (·.1 != name) }
        else notFound q name
      else if has 't' then
        match q.hashed.find? (·.1 == name) with
        | some (_, path, _) => do
          emit q 1 (if names.length > 1 then name ++ "\t" ++ path ++ "\n" else path ++ "\n")
          pure q
        | none => notFound q name
      else match opts.find? (·.letter == 'p') with
        | some o => pure (q.remember name (o.value.getD "") 0)
        | none =>
          if name.contains '/' || q.builtinOn name ||
              (q.functions.lookup name).isSome then pure q
          else match q.commandPath fs name with
            | some path => pure (q.remember name path 0)
            | none => notFound q name) { p with status := 0 }
    pure (q, .next)

/-! ## Aliases -/

def isAliasName (s : String) : Bool :=
  !s.isEmpty && !s.toList.any fun c => "()<>;&| \t\n\"'\\`$/".toList.contains c

def lightAliasBucket (name : String) : Nat := lightBucket name

def Proc.setAlias (p : Proc) (name value : String) : Proc :=
  if p.aliases.any (·.1 == name) then
    { p with aliases := p.aliases.map fun e => if e.1 == name then (name, value) else e }
  else
    let goesBefore (e : String × String) : Bool := match p.dialect with
      | .bash => decide (e.1 < name)
      | .dash => lightAliasBucket e.1 ≤ lightAliasBucket name
    let before := p.aliases.takeWhile goesBefore
    { p with aliases := before ++ (name, value) :: p.aliases.drop before.length }

def Proc.aliasLine (p : Proc) (name value : String) : String :=
  match p.dialect with
  | .bash => "alias " ++ name ++ "=" ++ singleQuoted value ++ "\n"
  | .dash => name ++ "=" ++ lightQuoted value ++ "\n"

def runAlias (p : Proc) (opts : List BuiltinOption) (args : List String) : Shell (Proc × Flow) := do
  if args.isEmpty || opts.any (·.letter == 'p') then
    emit p 1 (String.join (p.aliases.map fun (n, v) => p.aliasLine n v))
  let q ← args.foldlM (fun q a => do
    let name := String.ofList (a.toList.takeWhile (· != '='))
    if a.contains '=' && !name.isEmpty then
      let value := String.ofList ((a.toList.dropWhile (· != '=')).drop 1)
      if q.dialect == .bash && !isAliasName name then do
        complain q ("alias: `" ++ name ++ "': invalid alias name")
        pure { q with status := 1 }
      else pure (q.setAlias name value)
    else match q.aliases.find? (·.1 == a) with
      | some (n, v) => do emit q 1 (q.aliasLine n v); pure q
      | none => do
        match q.dialect with
        | .bash => complain q ("alias: " ++ a ++ ": not found")
        | .dash => emit q 2 ("alias: " ++ a ++ " not found\n")
        pure { q with status := 1 }) { p with status := 0 }
  pure (q, .next)

def runUnalias (p : Proc) (opts : List BuiltinOption) (names : List String) : Shell (Proc × Flow) := do
  if opts.any (·.letter == 'a') then pure ({ p with aliases := [], status := 0 }, .next)
  else if names.isEmpty && p.dialect == .bash then do
    emit p 2 "unalias: usage: unalias [-a] name [name ...]\n"
    pure ({ p with status := 2 }, .next)
  else
    let q ← names.foldlM (fun q n => do
      if q.aliases.any (·.1 == n) then pure { q with aliases := q.aliases.filter (·.1 != n) }
      else do
        match q.dialect with
        | .bash => complain q ("unalias: " ++ n ++ ": not found")
        | .dash => emit q 2 ("unalias: " ++ n ++ " not found\n")
        pure { q with status := 1 }) { p with status := 0 }
    pure (q, .next)

/-! ## The mask of permissions -/

def octalMask (m : Nat) : String :=
  "0" ++ String.ofList [Char.ofNat (48 + m / 64 % 8), Char.ofNat (48 + m / 8 % 8), Char.ofNat (48 + m % 8)]

def symbolicMask (m : Nat) : String :=
  let allowed := 511 - m % 512
  let part (who : String) (shift : Nat) : String :=
    let bits := allowed / Nat.pow 2 shift % 8
    who ++ "=" ++ (if bits / 4 % 2 == 1 then "r" else "") ++ (if bits / 2 % 2 == 1 then "w" else "") ++
      (if bits % 2 == 1 then "x" else "")
  part "u" 6 ++ "," ++ part "g" 3 ++ "," ++ part "o" 0

def octalMask? (s : String) : Option Nat :=
  if s.isEmpty || !s.all (fun c => c ≥ '0' && c ≤ '7') then none
  else
    let v := s.foldl (fun acc c => acc * 8 + (c.toNat - 48)) 0
    if v > 511 then none else some v

def whoBits : Char → Nat
  | 'u' => 448
  | 'g' => 56
  | 'o' => 7
  | _ => 511

def permBits : Char → Nat
  | 'r' => 292
  | 'w' => 146
  | _ => 73

def applySymbolic (allowed : Nat) (clauses : List String) : Except (Char × Bool) Nat :=
  clauses.foldlM (fun bits clause =>
    let cs := clause.toList
    let whoLetters := cs.takeWhile fun c => "agou".contains c
    let who := whoLetters.foldl (fun w c => w ||| whoBits c) 0
    match cs.drop whoLetters.length with
    | op :: rest =>
      if !"+-=".contains op then .error (op, true)
      else
        let permLetters := rest.takeWhile fun c => "rwx".contains c
        match rest.drop permLetters.length with
        | bad :: _ => .error (bad, false)
        | [] =>
          let perm := permLetters.foldl (fun x c => x ||| permBits c) 0
          let perm := if who == 0 then perm else perm &&& who
          match op with
          | '+' => .ok (bits ||| perm)
          | '-' => .ok (bits &&& (511 - perm))
          | _ => .ok ((bits &&& (511 - (if who == 0 then 511 else who))) ||| perm)
    | [] => .error ('\x00', true)) allowed

def runUmask (p : Proc) (opts : List BuiltinOption) (args : List String) : Shell (Proc × Flow) := do
  let symbolic := opts.any (·.letter == 'S')
  let shown (m : Nat) : String := if symbolic then symbolicMask m else octalMask m
  let fail (msg : String) : Shell (Proc × Flow) := do
    complain p ("umask: " ++ msg)
    pure ({ p with status := p.dialect.usageStatus }, .next)
  match args with
  | [] =>
    if opts.any (·.letter == 'p') then
      emit p 1 ("umask " ++ (if symbolic then "-S " else "") ++ shown p.umask ++ "\n")
    else emit p 1 (shown p.umask ++ "\n")
    pure ({ p with status := 0 }, .next)
  | mode :: _ =>
    let set (m : Nat) : Shell (Proc × Flow) := do
      if symbolic then emit p 1 (symbolicMask m ++ "\n")
      pure ({ p with umask := m, status := 0 }, .next)
    if (mode.toList.headD ' ').isDigit then
      match octalMask? mode with
      | some m => set m
      | none => fail (if p.dialect == .bash then mode ++ ": octal number out of range" else "Illegal number: " ++ mode)
    else
      match applySymbolic (511 - p.umask) (mode.splitOn ",") with
      | .ok bits => set (511 - bits)
      | .error (c, atOperator) =>
        if p.dialect == .dash then fail ("Illegal mode: " ++ mode)
        else fail ("`" ++ String.singleton c ++ "': invalid symbolic mode " ++ (if atOperator then "operator" else "character"))

/-! ## The stack of directories -/

def Proc.directories (p : Proc) : List String := ofText p.cwd :: p.dirStack

def Proc.showDirectories (p : Proc) : Shell Unit := emit p 1 (" ".intercalate p.directories ++ "\n")

def Proc.enterDirectory (p : Proc) (fs : Tree) (target : String) : Option Proc :=
  if dirExists fs target then
    let cwd := fs.resolve (toText target)
    let vars := setVar (setVar p.vars "OLDPWD" (ofText p.cwd) false) "PWD" (ofText cwd) false
    some { p with cwd, vars }
  else none

def stackPlace? (size : Nat) (a : String) : Option (Option Nat) :=
  match a.toList with
  | '+' :: ds => if ds.isEmpty || !ds.all Char.isDigit then none
    else let k := (String.ofList ds).toNat!; some (if k < size then some k else none)
  | '-' :: ds => if ds.isEmpty || !ds.all Char.isDigit then none
    else let k := (String.ofList ds).toNat!; some (if k < size then some (size - 1 - k) else none)
  | _ => none

def stackUsage (name : String) : String :=
  match name with
  | "dirs" => "dirs: usage: dirs [-clpv] [+N] [-N]\n"
  | "pushd" => "pushd: usage: pushd [-n] [+N | -N | dir]\n"
  | _ => "popd: usage: popd [-n] [+N | -N]\n"

def runDirs (p : Proc) (args : List String) : Shell (Proc × Flow) := do
  let bad := args.find? fun a => !(["-c", "-l", "-p", "-v", "-lp", "-pv", "-lv"].contains a) && (stackPlace? 1 a).isNone
  match bad with
  | some a => do
    complain p ("dirs: " ++ a ++ ": invalid number")
    emit p 2 (stackUsage "dirs")
    pure ({ p with status := 2 }, .next)
  | none =>
  if args.contains "-c" then pure ({ p with dirStack := [], status := 0 }, .next)
  else
    let ds := p.directories
    match args.findSome? (stackPlace? ds.length) with
    | some (some k) => do emit p 1 (ds.getD k "" ++ "\n"); pure ({ p with status := 0 }, .next)
    | some none => do
      complain p (if p.dirStack.isEmpty then "dirs: directory stack empty" else "dirs: " ++
        ((args.find? fun a => (stackPlace? ds.length a).isSome).getD "") ++ ": directory stack index out of range")
      pure ({ p with status := 1 }, .next)
    | none => do
      if args.any (·.contains 'v') then
        emit p 1 (String.join (ds.zipIdx.map fun (d, i) =>
          let n := toString i
          String.ofList (List.replicate (2 - n.length) ' ') ++ n ++ "  " ++ d ++ "\n"))
      else if args.any (·.contains 'p') then emit p 1 (String.join (ds.map (· ++ "\n")))
      else p.showDirectories
      pure ({ p with status := 0 }, .next)

def runPushd (p : Proc) (args : List String) : Shell (Proc × Flow) := do
  let fs ← filesFrom p
  let noChange := args.contains "-n"
  let args := args.filter (· != "-n")
  let fail (msg : String) : Shell (Proc × Flow) := do
    complain p ("pushd: " ++ msg)
    pure ({ p with status := 1 }, .next)
  let go (q : Proc) : Shell (Proc × Flow) := do q.showDirectories; pure ({ q with status := 0 }, .next)
  match args with
  | [] =>
    match p.dirStack with
    | [] => fail "no other directory"
    | top :: rest =>
      match p.enterDirectory fs top with
      | some q => go { q with dirStack := ofText p.cwd :: rest }
      | none => fail (top ++ ": No such file or directory")
  | a :: _ =>
    match stackPlace? p.directories.length a with
    | some (some k) =>
      let ds := p.directories
      let turned := ds.drop k ++ ds.take k
      match p.enterDirectory fs (turned.headD "") with
      | some q => go { q with dirStack := turned.drop 1 }
      | none => fail (turned.headD "" ++ ": No such file or directory")
    | some none => fail (a ++ ": directory stack index out of range")
    | none =>
      if a.startsWith "-" && a != "-" then do
        complain p ("pushd: " ++ a ++ ": invalid number")
        emit p 2 (stackUsage "pushd")
        pure ({ p with status := 2 }, .next)
      else if noChange then go { p with dirStack := ofText (fs.resolve (toText a)) :: p.dirStack }
      else match p.enterDirectory fs a with
        | some q => go { q with dirStack := ofText p.cwd :: p.dirStack }
        | none => fail (a ++ ": " ++ (if fileExists fs a then "Not a directory" else "No such file or directory"))

def runPopd (p : Proc) (args : List String) : Shell (Proc × Flow) := do
  let fs ← filesFrom p
  let noChange := args.contains "-n"
  let args := args.filter (· != "-n")
  let empty : Shell (Proc × Flow) := do
    complain p "popd: directory stack empty"
    pure ({ p with status := 1 }, .next)
  let go (q : Proc) : Shell (Proc × Flow) := do q.showDirectories; pure ({ q with status := 0 }, .next)
  match args with
  | [] =>
    match p.dirStack with
    | [] => empty
    | top :: rest =>
      if noChange then go { p with dirStack := rest }
      else match p.enterDirectory fs top with
        | some q => go { q with dirStack := rest }
        | none => empty
  | a :: _ =>
    match stackPlace? p.directories.length a with
    | some (some 0) =>
      match p.dirStack with
      | [] => empty
      | top :: rest =>
        match p.enterDirectory fs top with
        | some q => go { q with dirStack := rest }
        | none => empty
    | some (some k) =>
      if p.dirStack.isEmpty then empty
      else go { p with dirStack := p.dirStack.eraseIdx (k - 1) }
    | some none =>
      if p.dirStack.isEmpty then empty
      else do
        complain p ("popd: " ++ a ++ ": directory stack index out of range")
        pure ({ p with status := 1 }, .next)
    | none => do
      complain p ("popd: " ++ a ++ ": invalid number")
      emit p 2 (stackUsage "popd")
      pure ({ p with status := 2 }, .next)

/-! ## Jobs and the session -/

def bashBuiltinNames : List String :=
  [".", ":", "[", "alias", "bg", "bind", "break", "builtin", "caller", "cd", "command", "compgen",
   "complete", "compopt", "continue", "declare", "dirs", "disown", "echo", "enable", "eval", "exec",
   "exit", "export", "false", "fc", "fg", "getopts", "hash", "help", "history", "jobs", "kill", "let",
   "local", "logout", "mapfile", "popd", "printf", "pushd", "pwd", "read", "readarray", "readonly",
   "return", "set", "shift", "shopt", "source", "suspend", "test", "times", "trap", "true", "type",
   "typeset", "ulimit", "umask", "unalias", "unset", "wait"]

def bashSpecialBuiltins : List String :=
  [".", ":", "break", "continue", "eval", "exec", "exit", "export", "readonly", "return", "set", "shift",
   "source", "times", "trap", "unset"]

def runEnable (p : Proc) (opts : List BuiltinOption) (names : List String) : Shell (Proc × Flow) := do
  let has (c : Char) := opts.any (·.letter == c)
  if names.isEmpty || has 'p' then do
    let shown := bashBuiltinNames.filter fun b => !has 's' || bashSpecialBuiltins.contains b
    emit p 1 (String.join (shown.filterMap fun b =>
      let off := p.disabled.contains b
      if off && (has 'a' || has 'n') then some ("enable -n " ++ b ++ "\n")
      else if !off && (has 'a' || !has 'n') then some ("enable " ++ b ++ "\n")
      else none))
    pure ({ p with status := 0 }, .next)
  else
    names.foldlM (fun (q, flow) name => do
      if !bashBuiltinNames.contains name then do
        complain q ("enable: " ++ name ++ ": not a shell builtin")
        pure ({ q with status := 1 }, flow)
      else
        let rest := q.disabled.filter (· != name)
        pure ({ q with disabled := if has 'n' then name :: rest else rest }, flow)) ({ p with status := 0 }, Flow.next)

def Dialect.keptBuiltins : Dialect → List String
  | .bash => ["hash", "alias", "unalias", "umask", "times", "jobs", "fg", "bg", "ulimit", "dirs", "pushd",
      "popd", "disown", "suspend", "logout", "caller", "enable", "history", "fc", "complete",
      "compopt", "bind", "help"]
  | .dash => ["hash", "alias", "unalias", "umask", "times", "jobs", "fg", "bg", "ulimit"]

def fieldsOf (s : String) : List String :=
  (s.toList.splitBy fun a b => isBlankSeparator a == isBlankSeparator b).filterMap fun w =>
    if w.all isBlankSeparator then none else some (String.ofList w)

def runKept (p : Proc) (name : String) (opts : List BuiltinOption) (args : List String) : Shell (Proc × Flow) := do
  let fail (msg : String) (status : Nat) : Shell (Proc × Flow) := do
    complain p msg
    pure ({ p with status }, .next)
  let ok (q : Proc) : Shell (Proc × Flow) := pure ({ q with status := 0 }, .next)
  match name with
  | "hash" => runHash p opts args
  | "alias" => runAlias p opts args
  | "unalias" => runUnalias p opts args
  | "umask" => runUmask p opts args
  | "dirs" => runDirs p args
  | "pushd" => runPushd p args
  | "popd" => runPopd p args
  | "times" => do
    let zero := if p.dialect == .bash then "0m0.000s" else "0m0.000000s"
    emit p 1 (zero ++ " " ++ zero ++ "\n" ++ zero ++ " " ++ zero ++ "\n")
    ok p
  | "jobs" | "history" | "fc" | "complete" => ok p
  | "fg" | "bg" =>
    if p.dialect == .bash then fail (name ++ ": no job control") 1 else fail (name ++ ": No current job") 2
  | "disown" =>
    match args with
    | a :: _ => fail ("disown: " ++ a ++ ": no such job") 1
    | [] => if opts.any fun o => o.letter == 'a' || o.letter == 'r' then ok p else fail "disown: current: no such job" 1
  | "suspend" => fail "suspend: cannot suspend: no job control" 1
  | "logout" => fail "logout: not login shell: use `exit'" 1
  | "caller" =>
    if !p.inFunction || !args.isEmpty then pure ({ p with status := 1 }, .next)
    else do emit p 1 (toString p.line ++ " NULL\n"); ok p
  | "enable" => runEnable p opts args
  | "help" => runHelp p opts args
  | "ulimit" =>
    match args with
    | [] => do emit p 1 "unlimited\n"; ok p
    | a :: _ =>
      if a == "unlimited" || (!a.isEmpty && a.all Char.isDigit) then ok p
      else if p.dialect == .bash then fail ("ulimit: " ++ a ++ ": invalid number") 1
      else fail ("ulimit: bad number") 2
  | "compopt" => fail "compopt: not currently executing completion function" 1
  | "bind" => do complain p "bind: warning: line editing not enabled"; ok p
  | _ => ok p

end TestRig.Shell
