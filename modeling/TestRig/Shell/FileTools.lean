import TestRig.Shell.Programs

/-!
The programs that change the file tree: `cp`, `mv`, `rm`, `mkdir` and `touch`, and the two that
take names apart, `basename` and `dirname`, as the GNU tools do them.

A name is looked up as the tools look names up (`entryOf`): a name that ends in a slash must be
a directory, and a name whose directory is missing or is a file is missing for that reason.
Two names are the same file when they resolve to the same place.
-/

namespace TestRig.Shell

open TestRig.Files TestRig.Text

/-! ### Names -/

/-- What a name stands for: a directory, a file, or nothing, with the reason. -/
inductive Entry where
  | dir
  | file
  | absent (errno : Errno)
  deriving Inhabited, BEq

def placeOf (fs : Tree) (name : String) : String := fs.resolve (toText name)

def blockedDirectory (fs : Tree) (name : String) : Option Errno :=
  if name.isEmpty then some .notExist else (fs.blockedAncestor (placeOf fs name)).map (·.2)

def entryOf (fs : Tree) (name : String) : Entry :=
  match blockedDirectory fs name with
  | some e => .absent e
  | none =>
    match fs.nodeAt (placeOf fs name) with
    | some .dir => .dir
    | some (.file _) => if name.endsWith "/" then .absent .notDir else .file
    | none => .absent .notExist

def joinName (dir name : String) : String :=
  if dir.endsWith "/" then dir ++ name else dir ++ "/" ++ name

def lastComponent (name : String) : String :=
  let cs := name.toList.dropWhile (· == '/')
  let (_, start, _) := cs.foldl (fun (i, start, slash) c =>
    if c == '/' then (i + 1, start, true)
    else if slash then (i + 1, i, false) else (i + 1, start, false)) (0, 0, false)
  String.ofList (cs.drop start)

def entriesOf (fs : Tree) (name : String) : List String := dirNames fs name

def placeWithin (outer inner : String) : Bool := Tree.isUnder outer inner

def moveNodes (fs : Tree) (src dst : String) : Tree :=
  let moved := (fs.nodes.filter fun (q, _) => placeWithin src q).map fun (q, n) =>
    (dst ++ String.ofList (q.toList.drop src.length), n)
  let kept := fs.nodes.filter fun (q, _) => !placeWithin src q && !placeWithin dst q
  { fs with nodes := moved ++ kept }

def readAnswer (input : String) : Bool × String :=
  let line := input.toList.takeWhile (· != '\n')
  let rest := String.ofList (input.toList.drop (line.length + 1))
  (line.head? == some 'y' || line.head? == some 'Y', rest)

/-- Where a program that asks questions is: what it did so far and the input left. -/
structure Asking where
  effect : Effect
  input : String

def Asking.ask (a : Asking) (question : String) : Bool × Asking :=
  let (yes, input) := readAnswer a.input
  (yes, { effect := a.effect.err question, input })

def Effect.failWith (e : Effect) (message : String) : Effect := (e.err (message ++ "\n")).fail 1

/-! ### The target of `cp` and `mv` -/

/-- Where the sources of `cp` or `mv` go: one source to a name, or each into a directory. -/
inductive Destination where
  | single (src dst : String)
  | into (dir : String) (sources : List String)

def copyTarget (prog : String) (fs : Tree) (ops : List String) (targetDir : Option String)
    (noTarget : Bool) : Except String Destination :=
  let usage (m : String) := prog ++ ": " ++ m ++ "\nTry '" ++ prog ++ " --help' for more information.\n"
  match targetDir with
  | some d =>
    if noTarget then .error (prog ++ ": cannot combine --target-directory (-t) and --no-target-directory (-T)\n")
    else if ops.isEmpty then .error (usage "missing file operand")
    else match entryOf fs d with
      | .dir => .ok (.into d ops)
      | .file => .error (prog ++ ": target directory '" ++ d ++ "': Not a directory\n")
      | .absent e => .error (prog ++ ": target directory '" ++ d ++ "': " ++ errnoText e ++ "\n")
  | none =>
    match ops with
    | [] => .error (usage "missing file operand")
    | [a] => .error (usage ("missing destination file operand after '" ++ a ++ "'"))
    | _ =>
      let last := ops.getLast!
      if noTarget then
        if ops.length > 2 then .error (usage ("extra operand '" ++ ops.getD 2 "" ++ "'"))
        else .ok (.single (ops.getD 0 "") last)
      else match entryOf fs last with
        | .dir => .ok (.into last ops.dropLast)
        | .file =>
          if ops.length > 2 then .error (prog ++ ": target '" ++ last ++ "': Not a directory\n")
          else .ok (.single (ops.getD 0 "") last)
        | .absent e =>
          if ops.length > 2 then .error (prog ++ ": target '" ++ last ++ "': " ++ errnoText e ++ "\n")
          else .ok (.single (ops.getD 0 "") last)

def Destination.pairs : Destination → List (String × String)
  | .single s d => [(s, d)]
  | .into dir sources => sources.map fun s => (s, joinName dir (lastComponent s))

/-! ### `cp` -/

structure CopyOptions where
  recursive : Bool := false
  noClobber : Bool := false
  update : Bool := false
  verbose : Bool := false
  interactive : Bool := false

def copyPath (o : CopyOptions) : Nat → Asking → String → String → Asking
  | 0, a, _, _ => a
  | fuel + 1, a, src, dst =>
    let e := a.effect
    let fail (m : String) : Asking := { a with effect := e.failWith ("cp: " ++ m) }
    let said (e : Effect) : Effect :=
      if o.verbose then e.out ("'" ++ src ++ "' -> '" ++ dst ++ "'\n") else e
    match entryOf e.files src with
    | .absent err => fail ("cannot stat '" ++ src ++ "': " ++ errnoText err)
    | .file =>
      let same := placeOf e.files src == placeOf e.files dst
      match entryOf e.files dst with
      | .dir => fail ("cannot overwrite directory '" ++ dst ++ "' with non-directory")
      | .file =>
        if same then fail ("'" ++ src ++ "' and '" ++ dst ++ "' are the same file")
        else if o.noClobber || o.update then a
        else
          let (go, a) := if o.interactive then a.ask ("cp: overwrite '" ++ dst ++ "'? ") else (true, a)
          if !go then a
          else
            let e := a.effect
            match readBytes e.files src with
            | .ok data => match writeBytes e.files dst data with
              | .ok t => { a with effect := said { e with files := t } }
              | .error err => { a with effect := e.failWith ("cp: cannot create regular file '" ++ dst ++ "': " ++ errnoText err.errno) }
            | .error err => { a with effect := e.failWith ("cp: cannot open '" ++ src ++ "' for reading: " ++ errnoText err.errno) }
      | .absent err =>
        let err := if err == .notExist && dst.endsWith "/" && blockedDirectory e.files dst == none then .notDir else err
        if err != .notExist || blockedDirectory e.files dst != none then
          fail ("cannot create regular file '" ++ dst ++ "': " ++ errnoText err)
        else
          match readBytes e.files src with
          | .ok data => match writeBytes e.files dst data with
            | .ok t => { a with effect := said { e with files := t } }
            | .error err => fail ("cannot create regular file '" ++ dst ++ "': " ++ errnoText err.errno)
          | .error err => fail ("cannot open '" ++ src ++ "' for reading: " ++ errnoText err.errno)
    | .dir =>
      let srcPlace := placeOf e.files src
      let dstPlace := placeOf e.files dst
      if !o.recursive then fail ("-r not specified; omitting directory '" ++ src ++ "'")
      else if srcPlace == dstPlace then fail ("'" ++ src ++ "' and '" ++ dst ++ "' are the same file")
      else if placeWithin srcPlace dstPlace then
        fail ("cannot copy a directory, '" ++ src ++ "', into itself, '" ++ dst ++ "'")
      else
        let made : Except String Effect := match entryOf e.files dst with
          | .dir => .ok e
          | .file => .error ("cannot overwrite non-directory '" ++ dst ++ "' with directory '" ++ src ++ "'")
          | .absent err =>
            if err != .notExist || blockedDirectory e.files dst != none then
              .error ("cannot create directory '" ++ dst ++ "': " ++ errnoText err)
            else match e.files.mkdirAll dstPlace with
              | .ok t => .ok (said { e with files := t })
              | .error err => .error ("cannot create directory '" ++ dst ++ "': " ++ errnoText err.errno)
        match made with
        | .error m => fail m
        | .ok e =>
          (entriesOf e.files src).foldl (fun a name =>
            copyPath o fuel a (joinName src name) (joinName dst name)) { a with effect := e }

def copySpecs : List OptionSpec :=
  [{ name := "a", short := some 'a', long := some "archive" },
   { name := "b", short := some 'b' },
   { name := "backup", long := some "backup", value := .optional },
   { name := "d", short := some 'd' },
   { name := "f", short := some 'f', long := some "force" },
   { name := "H", short := some 'H' },
   { name := "i", short := some 'i', long := some "interactive" },
   { name := "l", short := some 'l', long := some "link" },
   { name := "L", short := some 'L', long := some "dereference" },
   { name := "n", short := some 'n', long := some "no-clobber" },
   { name := "P", short := some 'P', long := some "no-dereference" },
   { name := "p", short := some 'p' },
   { name := "preserve", long := some "preserve", value := .optional },
   { name := "no-preserve", long := some "no-preserve", value := .required },
   { name := "parents", long := some "parents" },
   { name := "r", short := some 'r', long := some "recursive" },
   { name := "r", short := some 'R' },
   { name := "reflink", long := some "reflink", value := .optional },
   { name := "remove-destination", long := some "remove-destination" },
   { name := "sparse", long := some "sparse", value := .required },
   { name := "strip-trailing-slashes", long := some "strip-trailing-slashes" },
   { name := "s", short := some 's', long := some "symbolic-link" },
   { name := "S", short := some 'S', long := some "suffix", value := .required },
   { name := "t", short := some 't', long := some "target-directory", value := .required },
   { name := "T", short := some 'T', long := some "no-target-directory" },
   { name := "u", short := some 'u', long := some "update" },
   { name := "v", short := some 'v', long := some "verbose" },
   { name := "x", short := some 'x', long := some "one-file-system" },
   { name := "Z", short := some 'Z' },
   { name := "attributes-only", long := some "attributes-only" },
   { name := "copy-contents", long := some "copy-contents" }]

def cp (fs : Tree) (args : List String) (input : String) : Effect :=
  let plain : Effect := { files := fs }
  match readCommandWords copySpecs args with
  | .error f => (plain.err (usageFault "cp" f)).fail 1
  | .ok w =>
    let interactive := w.options.foldl (fun i o =>
      if o.name == "i" then true else if o.name == "f" || o.name == "n" then false else i) false
    let o : CopyOptions :=
      { recursive := w.has "r" || w.has "a", noClobber := w.has "n", update := w.has "u",
        verbose := w.has "v", interactive }
    match copyTarget "cp" fs w.operands (w.last? "t") (w.has "T") with
    | .error m => (plain.err m).fail 1
    | .ok target =>
      let fuel := fs.nodes.length + 2
      (target.pairs.foldl (fun a (src, dst) => copyPath o fuel a src dst) { effect := plain, input }).effect

/-! ### `mv` -/

structure MoveOptions where
  noClobber : Bool := false
  update : Bool := false
  verbose : Bool := false
  interactive : Bool := false

def movePath (o : MoveOptions) (a : Asking) (src dst : String) : Asking :=
  let e := a.effect
  let fail (m : String) : Asking := { a with effect := e.failWith ("mv: " ++ m) }
  match entryOf e.files src with
  | .absent err => fail ("cannot stat '" ++ src ++ "': " ++ errnoText err)
  | kind =>
    let srcPlace := placeOf e.files src
    let dstPlace := placeOf e.files dst
    let move (a : Asking) : Asking :=
      let e := a.effect
      let e := { e with files := moveNodes e.files srcPlace dstPlace }
      { a with effect := if o.verbose then e.out ("renamed '" ++ src ++ "' -> '" ++ dst ++ "'\n") else e }
    let replace (a : Asking) : Asking :=
      if o.noClobber || o.update then a
      else
        let (go, a) := if o.interactive then a.ask ("mv: overwrite '" ++ dst ++ "'? ") else (true, a)
        if go then move a else a
    if srcPlace == dstPlace then fail ("'" ++ src ++ "' and '" ++ dst ++ "' are the same file")
    else if kind == .dir && placeWithin srcPlace dstPlace then
      fail ("cannot move '" ++ src ++ "' to a subdirectory of itself, '" ++ dst ++ "'")
    else
      match entryOf e.files dst, kind with
      | .dir, .file => fail ("cannot overwrite directory '" ++ dst ++ "' with non-directory")
      | .dir, _ =>
        if !(entriesOf e.files dst).isEmpty then fail ("cannot overwrite '" ++ dst ++ "': Directory not empty")
        else replace a
      | .file, .dir => fail ("cannot overwrite non-directory '" ++ dst ++ "' with directory '" ++ src ++ "'")
      | .file, _ => replace a
      | .absent err, _ =>
        let err := if err == .notExist && dst.endsWith "/" && kind == .file && blockedDirectory e.files dst == none
          then .notDir else err
        if err != .notExist || blockedDirectory e.files dst != none then
          fail ("cannot move '" ++ src ++ "' to '" ++ dst ++ "': " ++ errnoText err)
        else move a

def moveSpecs : List OptionSpec :=
  [{ name := "b", short := some 'b' },
   { name := "backup", long := some "backup", value := .optional },
   { name := "f", short := some 'f', long := some "force" },
   { name := "i", short := some 'i', long := some "interactive" },
   { name := "n", short := some 'n', long := some "no-clobber" },
   { name := "strip-trailing-slashes", long := some "strip-trailing-slashes" },
   { name := "S", short := some 'S', long := some "suffix", value := .required },
   { name := "t", short := some 't', long := some "target-directory", value := .required },
   { name := "T", short := some 'T', long := some "no-target-directory" },
   { name := "u", short := some 'u', long := some "update" },
   { name := "v", short := some 'v', long := some "verbose" },
   { name := "Z", short := some 'Z' }]

def mv (fs : Tree) (args : List String) (input : String) : Effect :=
  let plain : Effect := { files := fs }
  match readCommandWords moveSpecs args with
  | .error f => (plain.err (usageFault "mv" f)).fail 1
  | .ok w =>
    let last := w.options.foldl (fun l o => if o.name == "i" || o.name == "f" || o.name == "n" then o.name else l) ""
    let o : MoveOptions :=
      { noClobber := last == "n", update := w.has "u", verbose := w.has "v", interactive := last == "i" }
    match copyTarget "mv" fs w.operands (w.last? "t") (w.has "T") with
    | .error m => (plain.err m).fail 1
    | .ok target => (target.pairs.foldl (fun a (src, dst) => movePath o a src dst) { effect := plain, input }).effect

/-! ### `rm` -/

structure RemoveOptions where
  force : Bool := false
  recursive : Bool := false
  dirs : Bool := false
  verbose : Bool := false
  interactive : Bool := false

def dotName (name : String) : Bool :=
  let c := lastComponent name
  let bare := String.ofList (c.toList.takeWhile (· != '/'))
  bare == "." || bare == ".."

def removeBelow (o : RemoveOptions) : Nat → Effect → String → Effect
  | 0, e, _ => e
  | fuel + 1, e, dir =>
    (entriesOf e.files dir).foldl (fun e name =>
      let path := joinName dir name
      match entryOf e.files path with
      | .dir =>
        let e := removeBelow o fuel e path
        let e := { e with files := e.files.removeAll (placeOf e.files path) }
        if o.verbose then e.out ("removed directory '" ++ path ++ "'\n") else e
      | _ =>
        let e := { e with files := e.files.removeAll (placeOf e.files path) }
        if o.verbose then e.out ("removed '" ++ path ++ "'\n") else e) e

def removePath (o : RemoveOptions) (a : Asking) (name : String) : Asking :=
  let e := a.effect
  let fail (m : String) : Asking := { a with effect := e.failWith ("rm: " ++ m) }
  match entryOf e.files name with
  | .absent err =>
    if o.force && (err == .notExist || err == .notDir) then a
    else fail ("cannot remove '" ++ name ++ "': " ++ errnoText err)
  | .file =>
    let empty := (readBytes e.files name).toOption.getD "" |>.isEmpty
    let (go, a) := if o.interactive then
        a.ask ("rm: remove regular " ++ (if empty then "empty " else "") ++ "file '" ++ name ++ "'? ")
      else (true, a)
    if !go then a
    else
      let e := a.effect
      let e := { e with files := e.files.removeAll (placeOf e.files name) }
      { a with effect := if o.verbose then e.out ("removed '" ++ name ++ "'\n") else e }
  | .dir =>
    let empty := (entriesOf e.files name).isEmpty
    if !o.recursive && !(o.dirs && empty) then
      fail ("cannot remove '" ++ name ++ "': " ++ (if o.dirs then "Directory not empty" else "Is a directory"))
    else if dotName name then
      fail ("refusing to remove '.' or '..' directory: skipping '" ++ name ++ "'")
    else if placeOf e.files name == "/" then
      fail ("it is dangerous to operate recursively on '" ++ name ++ "'\nrm: use --no-preserve-root to override this failsafe")
    else
      let (go, a) := if o.interactive && empty then a.ask ("rm: remove directory '" ++ name ++ "'? ") else (true, a)
      if !go then a
      else
        let e := removeBelow o (a.effect.files.nodes.length + 1) a.effect name
        let e := { e with files := e.files.removeAll (placeOf e.files name) }
        { a with effect := if o.verbose then e.out ("removed directory '" ++ name ++ "'\n") else e }

def removeSpecs : List OptionSpec :=
  [{ name := "f", short := some 'f', long := some "force" },
   { name := "i", short := some 'i' },
   { name := "I", short := some 'I' },
   { name := "interactive", long := some "interactive", value := .optional },
   { name := "one-file-system", long := some "one-file-system" },
   { name := "no-preserve-root", long := some "no-preserve-root" },
   { name := "preserve-root", long := some "preserve-root", value := .optional },
   { name := "r", short := some 'r', long := some "recursive" },
   { name := "r", short := some 'R' },
   { name := "d", short := some 'd', long := some "dir" },
   { name := "v", short := some 'v', long := some "verbose" }]

def rm (fs : Tree) (args : List String) (input : String) : Effect :=
  let plain : Effect := { files := fs }
  match readCommandWords removeSpecs args with
  | .error f => (plain.err (usageFault "rm" f)).fail 1
  | .ok w =>
    let (force, interactive) := w.options.foldl (fun (f, i) o =>
      match o.name with
      | "f" => (true, false)
      | "i" => (false, true)
      | "interactive" => (false, o.value != some "never" && o.value != some "no" && o.value != some "none")
      | _ => (f, i)) (false, false)
    let o : RemoveOptions :=
      { force, interactive, recursive := w.has "r", dirs := w.has "d", verbose := w.has "v" }
    if w.operands.isEmpty then
      if force then plain else (plain.err (missingOperand "rm")).fail 1
    else (w.operands.foldl (removePath o) { effect := plain, input }).effect

/-! ### `mkdir` -/

def parentNames (name : String) : List String :=
  let cs := name.toList
  let ends := (List.range cs.length).filter fun i =>
    cs.getD i '/' != '/' && (i + 1 == cs.length || cs.getD (i + 1) '/' == '/')
  let prefixes := ends.map fun i => String.ofList (cs.take (i + 1))
  match prefixes.getLast? with
  | some p => if p == name then prefixes else prefixes.dropLast ++ [name]
  | none => [name]

def validMode (m : String) : Bool :=
  if !m.isEmpty && m.all fun c => '0' ≤ c && c ≤ '7' then m.length ≤ 4
  else
    !m.isEmpty && (m.splitOn ",").all fun clause =>
      let cs := clause.toList.dropWhile fun c => "ugoa".toList.contains c
      !cs.isEmpty && (cs.splitBy fun _ c => !"-+=".toList.contains c).all fun part =>
        match part with
        | op :: perms => "-+=".toList.contains op && (perms.all fun c => "rwxXstugo".toList.contains c)
        | [] => false

def makeOne (verbose : Bool) (e : Effect) (name : String) : Effect :=
  match e.files.mkdirAll (placeOf e.files name) with
  | .ok t =>
    let e := { e with files := t }
    if verbose then e.out ("mkdir: created directory '" ++ name ++ "'\n") else e
  | .error err => e.failWith ("mkdir: cannot create directory '" ++ name ++ "': " ++ errnoText err.errno)

def makeDirectory (parents verbose : Bool) (e : Effect) (name : String) : Effect :=
  let fail (n : String) (err : Errno) : Effect :=
    e.failWith ("mkdir: cannot create directory '" ++ n ++ "': " ++ errnoText err)
  if name.isEmpty then fail name .notExist
  else if parents then
    let names := parentNames name
    (names.foldl (fun (e, stopped) n =>
      if stopped then (e, true)
      else match entryOf e.files n with
        | .dir => (e, false)
        | .file => (e.failWith ("mkdir: cannot create directory '" ++ n ++ "': " ++
            (if n == name then "File exists" else "Not a directory")), true)
        | .absent .notDir => (e.failWith ("mkdir: cannot create directory '" ++ n ++ "': " ++
            (if n == name then "File exists" else "Not a directory")), true)
        | .absent _ => (makeOne verbose e n, false)) (e, false)).1
  else
    match blockedDirectory e.files name with
    | some err => fail name err
    | none =>
      match entryOf e.files name with
      | .absent .notExist => makeOne verbose e name
      | _ => fail name .exist

def makeSpecs : List OptionSpec :=
  [{ name := "m", short := some 'm', long := some "mode", value := .required },
   { name := "p", short := some 'p', long := some "parents" },
   { name := "v", short := some 'v', long := some "verbose" },
   { name := "Z", short := some 'Z' },
   { name := "context", long := some "context", value := .optional }]

def mkdir (fs : Tree) (args : List String) : Effect :=
  let plain : Effect := { files := fs }
  match readCommandWords makeSpecs args with
  | .error f => (plain.err (usageFault "mkdir" f)).fail 1
  | .ok w =>
    match w.last? "m" with
    | some m =>
      if !validMode m then (plain.err ("mkdir: invalid mode '" ++ m ++ "'\n")).fail 1
      else if w.operands.isEmpty then (plain.err (missingOperand "mkdir")).fail 1
      else w.operands.foldl (makeDirectory (w.has "p") (w.has "v")) plain
    | none =>
      if w.operands.isEmpty then (plain.err (missingOperand "mkdir")).fail 1
      else w.operands.foldl (makeDirectory (w.has "p") (w.has "v")) plain

/-! ### `touch` -/

def touchSpecs : List OptionSpec :=
  [{ name := "a", short := some 'a' },
   { name := "c", short := some 'c', long := some "no-create" },
   { name := "d", short := some 'd', long := some "date", value := .required },
   { name := "f", short := some 'f' },
   { name := "h", short := some 'h', long := some "no-dereference" },
   { name := "m", short := some 'm' },
   { name := "r", short := some 'r', long := some "reference", value := .required },
   { name := "t", short := some 't', value := .required },
   { name := "time", long := some "time", value := .required }]

def validStamp (s : String) : Bool :=
  let (main, secs) := match s.splitOn "." with
    | [m] => (m, some "")
    | [m, ss] => (m, if ss.length == 2 && ss.all Char.isDigit then some ss else none)
    | _ => ("", none)
  secs.isSome && main.all Char.isDigit && [8, 10, 12].contains main.length

def touch (fs : Tree) (args : List String) : Effect :=
  let plain : Effect := { files := fs }
  match readCommandWords touchSpecs args with
  | .error f => (plain.err (usageFault "touch" f)).fail 1
  | .ok w =>
    let stamp := w.last? "t"
    let reference := w.last? "r"
    if stamp.any (!validStamp ·) then
      (plain.err ("touch: invalid date format '" ++ stamp.getD "" ++ "'\n")).fail 1
    else if reference.any fun r => entryOf fs r != .dir && entryOf fs r != .file then
      let r := reference.getD ""
      let why := match entryOf fs r with
        | .absent err => errnoText err
        | _ => ""
      (plain.err ("touch: failed to get attributes of '" ++ r ++ "': " ++ why ++ "\n")).fail 1
    else if w.operands.isEmpty then
      (plain.err "touch: missing file operand\nTry 'touch --help' for more information.\n").fail 1
    else
      w.operands.foldl (fun e f =>
        match entryOf e.files f with
        | .dir | .file => e
        | .absent err =>
          if w.has "c" then e
          else if f.endsWith "/" || err == .notDir && blockedDirectory e.files f == none then
            e.failWith ("touch: setting times of '" ++ f ++ "': " ++ errnoText err)
          else if err != .notExist || blockedDirectory e.files f != none then
            e.failWith ("touch: cannot touch '" ++ f ++ "': " ++ errnoText err)
          else match writeBytes e.files f "" with
            | .ok t => { e with files := t }
            | .error err => e.failWith ("touch: cannot touch '" ++ f ++ "': " ++ errnoText err.errno)) plain

/-! ### `basename` and `dirname` -/

def baseOf (name : String) : String :=
  let c := lastComponent name
  if c.isEmpty then (if name.isEmpty then "" else "/")
  else String.ofList (c.toList.takeWhile (· != '/'))

def withoutSuffix (name suffix : String) : String :=
  if !suffix.isEmpty && name.endsWith suffix && name.length > suffix.length then
    String.ofList (name.toList.take (name.length - suffix.length))
  else name

def directoryOf (name : String) : String :=
  let cs := name.toList
  let rooted := cs.head? == some '/'
  let last := lastComponent name
  let lastAt := if last.isEmpty then cs.length else cs.length - last.length
  let kept := (cs.take lastAt).reverse.dropWhile (· == '/') |>.reverse
  let kept := if kept.isEmpty && rooted then ['/'] else kept
  if kept.isEmpty then "." else String.ofList kept

def baseSpecs : List OptionSpec :=
  [{ name := "a", short := some 'a', long := some "multiple" },
   { name := "s", short := some 's', long := some "suffix", value := .required },
   { name := "z", short := some 'z', long := some "zero" }]

def basename (fs : Tree) (args : List String) : Effect :=
  let plain : Effect := { files := fs }
  match readCommandWords baseSpecs args with
  | .error f => (plain.err (usageFault "basename" f)).fail 1
  | .ok w =>
    let multiple := w.has "a" || w.has "s"
    let ending := if w.has "z" then "\x00" else "\n"
    let shown (name suffix : String) : String :=
      let b := baseOf name
      (if b.startsWith "/" then b else withoutSuffix b suffix) ++ ending
    match w.operands with
    | [] => (plain.err (missingOperand "basename")).fail 1
    | ops =>
      if multiple then plain.out (String.join (ops.map (shown · ((w.last? "s").getD ""))))
      else match ops with
        | [name] => plain.out (shown name "")
        | [name, suffix] => plain.out (shown name suffix)
        | _ => (plain.err ("basename: extra operand '" ++ ops.getD 2 "" ++
            "'\nTry 'basename --help' for more information.\n")).fail 1

def dirname (fs : Tree) (args : List String) : Effect :=
  let plain : Effect := { files := fs }
  match readCommandWords [{ name := "z", short := some 'z', long := some "zero" }] args with
  | .error f => (plain.err (usageFault "dirname" f)).fail 1
  | .ok w =>
    let ending := if w.has "z" then "\x00" else "\n"
    match w.operands with
    | [] => (plain.err (missingOperand "dirname")).fail 1
    | ops => plain.out (String.join (ops.map fun n => directoryOf n ++ ending))

end TestRig.Shell
