import TestRig.Shell.Fields
import TestRig.Shell.Pattern
import TestRig.Text.Blank

/-!
The state of running shells. A running shell is a process: its script name (`$0`), arguments,
variables, functions, last status, process id, directory, output descriptors and input. The
world processes run in holds the files, the text written to the console (the combined output
that the caller collects), and the buffers that collect the output of command substitutions
and of the commands of a pipeline before the last.
-/

namespace TestRig.Shell

open TestRig.Files TestRig.Text

inductive Dialect where
  | bash
  | dash
  deriving DecidableEq, Inhabited

inductive Sink where
  | console
  | buffer (id : Nat)
  | file (path : String)
  | discard
  deriving DecidableEq, Inhabited

inductive VarShape where
  | scalar
  | indexed
  | assoc
  deriving DecidableEq, Inhabited

/-- How the values assigned to a variable are put in case (`declare -l`, `-u` and `-c`); only
the ASCII letters have a case in the C locale. -/
inductive LetterCase where
  | lower
  | upper
  | capital
  deriving DecidableEq, Inhabited

def LetterCase.apply : LetterCase → String → String
  | .lower, s => s.map Char.toLower
  | .upper, s => s.map Char.toUpper
  | .capital, s => match s.toList with
    | c :: rest => String.ofList (c.toUpper :: rest.map Char.toLower)
    | [] => s

/-- A shell variable: its values by index (a plain variable holds index 0) or by key, and its
attributes. A variable with no value is declared but unset. -/
structure Var where
  name : String
  cells : List (Nat × String) := []
  entries : List (String × String) := []
  shape : VarShape := .scalar
  exported : Bool := false
  integer : Bool := false
  readonly : Bool := false
  letterCase : Option LetterCase := none
  nameref : Bool := false
  traced : Bool := false
  declaredOnly : Bool := false
  deriving Inhabited

namespace Var

def value? (v : Var) : Option String :=
  match v.shape with
  | .assoc => v.entries.lookup "0"
  | _ => v.cells.lookup 0

def elements (v : Var) : List String :=
  match v.shape with
  | .assoc => v.entries.map (·.2)
  | _ => v.cells.map (·.2)

def keys (v : Var) : List String :=
  match v.shape with
  | .assoc => v.entries.map (·.1)
  | _ => v.cells.map fun (i, _) => toString i

def at? (v : Var) (key : String) : Option String :=
  match v.shape with
  | .assoc => v.entries.lookup key
  | _ => key.toNat?.bind fun i => v.cells.lookup i

end Var

def setCell : List (Nat × String) → Nat → String → List (Nat × String)
  | [], i, s => [(i, s)]
  | (j, t) :: rest, i, s =>
    if i < j then (i, s) :: (j, t) :: rest
    else if i == j then (i, s) :: rest
    else (j, t) :: setCell rest i s

def fnvHash (k : String) : Nat :=
  k.toList.foldl (fun h c =>
    let b := c.toNat % 256
    (h * 16777619 % Nat.pow 2 32) ^^^ (if b ≥ 128 then b + 0xFFFFFF00 else b)) 2166136261

def keyBucket (k : String) : Nat := fnvHash k % 1024

def setEntry (xs : List (String × String)) (k v : String) : List (String × String) :=
  if xs.any (·.1 == k) then xs.map fun p => if p.1 == k then (k, v) else p
  else
    let before := xs.takeWhile fun p => keyBucket p.1 < keyBucket k
    before ++ (k, v) :: xs.drop before.length

/-- How an expansion failed, which decides how the shell goes on. -/
inductive ExpansionFault where
  | dropCommand
  | exitShell
  deriving Inhabited, DecidableEq

def shoptNames : List String :=
  ["autocd", "assoc_expand_once", "cdable_vars", "cdspell", "checkhash", "checkjobs",
   "checkwinsize", "cmdhist", "compat31", "compat32", "compat40", "compat41", "compat42",
   "compat43", "compat44", "complete_fullquote", "direxpand", "dirspell", "dotglob", "execfail",
   "expand_aliases", "extdebug", "extglob", "extquote", "failglob", "force_fignore",
   "globasciiranges", "globskipdots", "globstar", "gnu_errfmt", "histappend", "histreedit",
   "histverify", "hostcomplete", "huponexit", "inherit_errexit", "interactive_comments", "lastpipe",
   "lithist", "localvar_inherit", "localvar_unset", "login_shell", "mailwarn",
   "no_empty_cmd_completion", "nocaseglob", "nocasematch", "noexpand_translation", "nullglob",
   "patsub_replacement", "progcomp", "progcomp_alias", "promptvars", "restricted_shell",
   "shift_verbose", "sourcepath", "varredir_close", "xpg_echo"]

def defaultShopts : List String :=
  ["checkwinsize", "cmdhist", "complete_fullquote", "extquote", "force_fignore", "globasciiranges",
   "globskipdots", "hostcomplete", "interactive_comments", "patsub_replacement", "progcomp",
   "promptvars", "sourcepath"]

def hostPid : Nat := 4241

structure Proc where
  dialect : Dialect
  zero : String
  args : List String := []
  vars : List Var := []
  status : Nat := 0
  pid : Nat
  lineage : List Nat := []
  parent : Nat := hostPid
  cwd : String
  sinks : List (Nat × Sink)
  input : String := ""
  sources : List (Nat × String) := []
  line : Nat := 1
  substStatus : Option Nat := none
  oneShot : Bool := false
  commandMode : Bool := true
  functions : List (String × Command) := []
  loops : Nat := 0
  inFunction : Bool := false
  frames : List (List (String × Option Var)) := []
  expansionFault : Option ExpansionFault := none
  errexit : Bool := false
  nounset : Bool := false
  noglob : Bool := false
  pipefail : Bool := false
  xtrace : Bool := false
  noclobber : Bool := false
  noexec : Bool := false
  allexport : Bool := false
  nesting : Nat := 0
  forked : Bool := false
  namedOn : List String := []
  inEval : Bool := false
  sourcing : Option String := none
  context : Option String := none
  hashed : List (String × String × Nat) := []
  aliases : List (String × String) := []
  umask : Nat := 18
  dirStack : List String := []
  shopts : List String := defaultShopts
  disabled : List String := []
  tested : Bool := false
  exitTrap : Option String := none
  errTrap : Option String := none
  signalTraps : List (Nat × String) := []
  debugTrap : Option String := none
  returnTrap : Option String := none
  command : String := ""
  trapping : Bool := false
  debugging : Bool := false
  debugRan : Bool := false
  pending : List Nat := []
  pipes : List String := []
  optPlace : Nat := 0
  deriving Inhabited

/-- What scripts run in: the files, the console, the open buffers and the next free id. -/
structure World where
  files : Tree
  console : String := ""
  buffers : List (Nat × String) := []
  next : Nat := 1
  interrupted : Bool := false
  clock : Nat := 0
  deriving Inhabited

/-- How a command ended the script it is part of. -/
inductive Flow where
  | next
  | exit (code : Nat)
  | killed (pid signal : Nat)
  | breakLoops (levels : Nat)
  | continueLoops (levels : Nat)
  | returned (code : Nat)
  | abandoned
  deriving Inhabited

abbrev Shell := StateM World

def Proc.afterFailedExpansion (p : Proc) : Proc × Flow :=
  match p.dialect, p.expansionFault with
  | .bash, some .exitShell =>
    let code := if p.forked || p.errexit then 1 else 127
    ({ p with expansionFault := none, status := code }, .exit code)
  | .bash, _ => ({ p with expansionFault := none, status := 1 }, .abandoned)
  | .dash, _ => ({ p with expansionFault := none, status := 2 }, .exit 2)

/-! ### Output -/

def nullDevice : String := "/dev/null"

def setSink (sinks : List (Nat × Sink)) (fd : Nat) (s : Sink) : List (Nat × Sink) :=
  (fd, s) :: sinks.filter (·.1 != fd)

/-- The descriptors of a command: where its outputs go, its input, and the other descriptors
open for reading, each with what is left of it. -/
structure Descriptors where
  sinks : List (Nat × Sink)
  input : String
  sources : List (Nat × String) := []
  deriving Inhabited

def Proc.descriptors (p : Proc) : Descriptors :=
  { sinks := p.sinks, input := p.input, sources := p.sources }

def Proc.withDescriptors (p : Proc) (d : Descriptors) : Proc :=
  { p with sinks := d.sinks, input := d.input, sources := d.sources }

def Descriptors.reading (d : Descriptors) (fd : Nat) (text : String) : Descriptors :=
  if fd == 0 then { d with input := text }
  else { d with sources := (fd, text) :: d.sources.filter (·.1 != fd), sinks := d.sinks.filter (·.1 != fd) }

def Descriptors.writing (d : Descriptors) (fd : Nat) (s : Sink) : Descriptors :=
  { d with sinks := setSink d.sinks fd s, sources := d.sources.filter (·.1 != fd) }

def Descriptors.close (d : Descriptors) (fd : Nat) : Descriptors :=
  { d with sinks := d.sinks.filter (·.1 != fd), sources := d.sources.filter (·.1 != fd) }

def World.write (w : World) (s : Sink) (text : String) : World :=
  if text.isEmpty then w
  else match s with
    | .console => { w with console := w.console ++ text }
    | .buffer id => { w with buffers := w.buffers.map fun (i, b) => if i == id then (i, b ++ text) else (i, b) }
    | .file path =>
      let old := (w.files.readFile path).toOption.getD ByteArray.empty
      match w.files.writeFile path (old ++ toByteArray text) with
      | .ok t => { w with files := t }
      | .error _ => w
    | .discard => w

def emit (p : Proc) (fd : Nat) (text : String) : Shell Unit :=
  match p.sinks.lookup fd with
  | some s => modify (·.write s text)
  | none => pure ()

def bashOptionNames : List String :=
  ["allexport", "braceexpand", "emacs", "errexit", "errtrace", "functrace", "hashall", "histexpand",
   "history", "ignoreeof", "interactive-comments", "keyword", "monitor", "noclobber", "noexec",
   "noglob", "nolog", "notify", "nounset", "onecmd", "physical", "pipefail", "posix", "privileged",
   "verbose", "vi", "xtrace"]

def dashOptionNames : List String :=
  ["errexit", "noglob", "ignoreeof", "interactive", "monitor", "noexec", "stdin", "xtrace", "verbose",
   "vi", "emacs", "noclobber", "allexport", "notify", "nounset", "privileged", "nolog", "debug"]

def Proc.optionOn (p : Proc) (name : String) : Bool :=
  p.namedOn.contains name ||
  match name with
  | "errexit" => p.errexit
  | "nounset" => p.nounset
  | "noglob" => p.noglob
  | "xtrace" => p.xtrace
  | "noclobber" => p.noclobber
  | "noexec" => p.noexec
  | "allexport" => p.allexport
  | "pipefail" => p.pipefail
  | "braceexpand" | "hashall" | "interactive-comments" => p.dialect == .bash
  | _ => false

def Proc.shopt (p : Proc) (name : String) : Bool := p.shopts.contains name

def Proc.lightLead (p : Proc) : String :=
  match p.sourcing, p.context with
  | some file, _ => file ++ ": "
  | none, some name => name ++ ": "
  | none, none => ""

def Proc.diagnostic (p : Proc) (msg : String) : String :=
  match p.dialect with
  | .bash =>
    let lead := match p.sourcing with
      | some file => file
      | none => if p.inFunction && p.commandMode then "environment" else p.zero
    lead ++ ": line " ++ toString p.line ++ ": " ++ msg ++ "\n"
  | .dash => p.zero ++ ": " ++ toString p.line ++ ": " ++ p.lightLead ++ msg ++ "\n"

def complain (p : Proc) (msg : String) : Shell Unit := emit p 2 (p.diagnostic msg)

def fresh : Shell Nat := modifyGet fun w => (w.next, { w with next := w.next + 1 })

def openBuffer : Shell Nat := do
  let id ← fresh
  modify fun w => { w with buffers := (id, "") :: w.buffers }
  pure id

def closeBuffer (id : Nat) : Shell String :=
  modifyGet fun w => ((w.buffers.lookup id).getD "", { w with buffers := w.buffers.filter (·.1 != id) })

def filesFrom (p : Proc) : Shell Tree := do
  let w ← get
  pure { w.files with cwd := p.cwd }

def setFiles (t : Tree) : Shell Unit :=
  modify fun w => { w with files := { t with cwd := w.files.cwd } }

/-! ### Variables and parameters -/

def resolveIn (vars : List Var) (name : String) : String :=
  go 8 name
where
  go : Nat → String → String
    | 0, n => n
    | k + 1, n =>
      match vars.find? (·.name == n) with
      | some v =>
        if !v.nameref then n
        else match v.value? with
          | some t => if t.isEmpty || t == n then n else go k t
          | none => n
      | none => n

def Proc.resolve (p : Proc) (name : String) : String := resolveIn p.vars name

def Proc.var? (p : Proc) (name : String) : Option Var :=
  let target := p.resolve name
  p.vars.find? (·.name == target)

def Proc.ownVar? (p : Proc) (name : String) : Option Var := p.vars.find? (·.name == name)

def Proc.lookupVar (p : Proc) (name : String) : Option String := (p.var? name).bind (·.value?)

def Proc.globIgnores (p : Proc) : List String :=
  match p.dialect, p.lookupVar "GLOBIGNORE" with
  | .bash, some v => if v.isEmpty then [] else v.splitOn ":"
  | _, _ => []

def Proc.noteChanged (p : Proc) (name : String) : Proc :=
  if name == "PATH" then { p with hashed := [] }
  else if name == "GLOBIGNORE" && p.dialect == .bash then
    if !p.globIgnores.isEmpty then { p with shopts := "dotglob" :: p.shopts.erase "dotglob" }
    else if (p.lookupVar "GLOBIGNORE").isNone then { p with shopts := p.shopts.erase "dotglob" }
    else p
  else p

def updateOwnVar (vars : List Var) (name : String) (f : Var → Var) : List Var :=
  if vars.any (·.name == name) then vars.map fun v => if v.name == name then f v else v
  else vars ++ [f { name }]

def updateVar (vars : List Var) (name : String) (f : Var → Var) : List Var :=
  updateOwnVar vars (resolveIn vars name) f

def Var.cased (v : Var) (s : String) : String :=
  match v.letterCase with
  | some c => c.apply s
  | none => s

def setVar (vars : List Var) (name value : String) (exported : Bool) : List Var :=
  updateVar vars name fun v =>
    let v := { v with exported := v.exported || exported, declaredOnly := false }
    match v.shape with
    | .assoc => { v with entries := setEntry v.entries "0" (v.cased value) }
    | _ => { v with cells := setCell v.cells 0 (v.cased value) }

def setElements (vars : List Var) (name : String) (values : List String) : List Var :=
  updateVar vars name fun v =>
    { v with shape := .indexed, cells := values.zipIdx.map fun (s, i) => (i, v.cased s), declaredOnly := false }

def unsetVar (vars : List Var) (name : String) : List Var := vars.filter (·.name != name)

def bashVersion : String := "5.2.15(1)-release"

def bashVersionInfo : List String := ["5", "2", "15", "1", "release", "x86_64-pc-linux-gnu"]

def loadablesPath : String := "/usr/local/lib/bash:/usr/lib/bash:/opt/local/lib/bash:/usr/pkg/lib/bash:/opt/pkg/lib/bash:."

def bashOwnVars : List Var :=
  let scalar (name value : String) : Var := { name, cells := [(0, value)] }
  let array (name : String) : Var := { name, shape := .indexed }
  let table (name : String) : Var := { name, shape := .assoc }
  [scalar "BASH" "/bin/bash", table "BASH_ALIASES", array "BASH_ARGC", array "BASH_ARGV",
   table "BASH_CMDS", array "BASH_LINENO", scalar "BASH_LOADABLES_PATH" loadablesPath,
   array "BASH_SOURCE", array "DIRSTACK", { array "FUNCNAME" with declaredOnly := true },
   array "GROUPS", scalar "HOSTTYPE" "x86_64", scalar "MACHTYPE" "x86_64-pc-linux-gnu",
   scalar "OPTERR" "1", { scalar "OPTIND" "1" with integer := true }, scalar "OSTYPE" "linux-gnu",
   scalar "PS4" "+ ", scalar "TERM" "dumb"]

def lightOwnVars : List Var :=
  [{ name := "OPTIND", cells := [(0, "1")] }, { name := "PS2", cells := [(0, "> ")] },
   { name := "PS4", cells := [(0, "+ ")] }]

def startingVars (d : Dialect) (cwd : String) (env : List Var) (ppid : Nat) : List Var :=
  let vars := setVar (unsetVar env "IFS" ++ [{ name := "IFS", cells := [(0, " \t\n")] }]) "PWD" cwd true
  -- both shells set PPID from their parent whatever the environment says; bash makes it a
  -- read-only number
  let vars := unsetVar vars "PPID" ++
    [{ name := "PPID", cells := [(0, toString ppid)], integer := d == .bash, readonly := d == .bash }]
  let own := match d with
    | .bash => bashOwnVars
    | .dash => lightOwnVars
  let vars := vars ++ own.filter fun v => !vars.any (·.name == v.name)
  match d with
  | .dash => vars
  | .bash =>
    let old := ((vars.find? (·.name == "SHLVL")).bind (·.value?)).bind String.toInt?
    let level := old.getD 0 + 1
    let level : Int := if level < 0 then 0 else if level ≥ 1000 then 1 else level
    let vars := setVar vars "SHLVL" (toString level) true
    let vars := setVar vars "BASH_VERSION" bashVersion false ++
      [{ name := "BASH_VERSINFO", shape := .indexed, readonly := true,
         cells := bashVersionInfo.zipIdx.map fun (s, i) => (i, s) }]
    if vars.any (·.name == "OLDPWD") then vars else vars ++ [{ name := "OLDPWD", exported := true }]

def isName (s : String) : Bool :=
  match s.toList with
  | c :: rest => isNameStart c && rest.all isNameChar
  | [] => false

def Proc.flagText (p : Proc) : String :=
  match p.dialect with
  | .bash =>
    (if p.allexport then "a" else "") ++ (if p.errexit then "e" else "") ++ (if p.noglob then "f" else "") ++
      "h" ++ (if p.nounset then "u" else "") ++ (if p.xtrace then "x" else "") ++ "B" ++
      (if p.noclobber then "C" else "") ++ (if p.namedOn.contains "errtrace" then "E" else "") ++
      (if p.namedOn.contains "functrace" then "T" else "") ++ (if p.commandMode then "c" else "")
  | .dash => (if p.nounset then "u" else "") ++ (if p.noglob then "f" else "") ++ (if p.errexit then "e" else "")

def Proc.param (p : Proc) (name : String) : Option String :=
  if name == "$" then some (toString p.pid)
  else if name == "?" then some (toString p.status)
  else if name == "#" then some (toString p.args.length)
  else if name == "0" then some p.zero
  else if name == "@" || name == "*" then some (" ".intercalate p.args)
  else if name == "-" then some p.flagText
  else if name == "!" then some ""
  else if !name.isEmpty && name.all Char.isDigit then p.args[name.toNat! - 1]?
  else if name == "LINENO" then some (toString p.line)
  else if name == "SHELLOPTS" && p.dialect == .bash then
    some (":".intercalate (bashOptionNames.filter p.optionOn))
  else if name == "BASHOPTS" && p.dialect == .bash then
    some (":".intercalate (shoptNames.filter p.shopt))
  else if name == "BASH_COMMAND" && p.dialect == .bash then some p.command
  else p.lookupVar name

def splitParam (raw : String) : String × String :=
  match raw.toList with
  | c :: rest =>
    if isNameStart c then
      let nm := c :: rest.takeWhile isNameChar
      (String.ofList nm, String.ofList (raw.toList.drop nm.length))
    else if c.isDigit then
      let ds := raw.toList.takeWhile Char.isDigit
      (String.ofList ds, String.ofList (raw.toList.drop ds.length))
    else (String.singleton c, String.ofList rest)
  | [] => ("", "")

def subscriptBody : Nat → Nat → List Char → List Char → Option (List Char × List Char)
  | 0, _, _, _ => none
  | _, _, [], _ => none
  | fuel + 1, depth, c :: rest, acc =>
    if c == ']' then
      if depth == 0 then some (acc.reverse, rest) else subscriptBody fuel (depth - 1) rest (c :: acc)
    else if c == '[' then subscriptBody fuel (depth + 1) rest (c :: acc)
    else subscriptBody fuel depth rest (c :: acc)

def splitAtSlash : List Char → List Char → List Char × Option (List Char)
  | [], acc => (acc.reverse, none)
  | '\\' :: c :: rest, acc => splitAtSlash rest (c :: '\\' :: acc)
  | '/' :: rest, acc => (acc.reverse, some rest)
  | c :: rest, acc => splitAtSlash rest (c :: acc)

def dropTrailingNewlines (s : String) : String :=
  String.ofList (trimRightBy (· == '\n') s.toList)

/-! ### Assignments -/

def Part.source : Part → String
  | .text s false => s
  | .text s true => "'" ++ s ++ "'"
  | .param n _ => "$\x7b" ++ n ++ "\x7d"
  | .subst s _ => "$(" ++ s ++ ")"
  | .arith e _ => "$((" ++ e ++ "))"
  | .items b => "(" ++ b ++ ")"
  | .procSubst s => "<(" ++ s ++ ")"

structure Assignment where
  name : String
  subscript : Option String := none
  append : Bool := false
  value : Word
  deriving Inhabited

def subscriptAtoms : Nat → Nat → List BraceAtom → String → Option (String × List BraceAtom)
  | 0, _, _, _ => none
  | _, _, [], _ => none
  | fuel + 1, depth, a :: rest, acc =>
    match a with
    | .ch ']' => if depth == 0 then some (acc, rest) else subscriptAtoms fuel (depth - 1) rest (acc.push ']')
    | .ch '[' => subscriptAtoms fuel (depth + 1) rest (acc.push '[')
    | .ch c => subscriptAtoms fuel depth rest (acc.push c)
    | .part p => subscriptAtoms fuel depth rest (acc ++ p.source)

def assignmentOf? (w : Word) : Option Assignment :=
  let as := braceAtoms w
  let nameAtoms := as.takeWhile fun
    | .ch c => isNameChar c
    | .part _ => false
  let name := String.ofList (nameAtoms.filterMap fun
    | .ch c => some c
    | .part _ => none)
  if !isName name then none
  else
    let rest := as.drop nameAtoms.length
    let (sub, rest) : Option String × Option (List BraceAtom) := match rest with
      | .ch '[' :: r => match subscriptAtoms (r.length + 1) 0 r "" with
        | some (s, after) => (some s, some after)
        | none => (none, none)
      | r => (none, some r)
    match rest with
    | some (.ch '+' :: .ch '=' :: value) => some { name, subscript := sub, append := true, value := wordOfAtoms value }
    | some (.ch '=' :: value) => some { name, subscript := sub, value := wordOfAtoms value }
    | _ => none

def leadingAssignments : List Word → List Assignment × List Word
  | [] => ([], [])
  | w :: rest =>
    match assignmentOf? w with
    | some a => let (more, words) := leadingAssignments rest; (a :: more, words)
    | none => ([], w :: rest)

end TestRig.Shell
