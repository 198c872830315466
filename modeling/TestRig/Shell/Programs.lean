import TestRig.Shell.Pattern
import TestRig.Shell.Options
import TestRig.Text.Chars
import TestRig.Text.Blank

/-!
The programs on files a shell command line may call: `touch`, `cp`, `mv`, `cat`, `mkdir`, `rm`,
`ls`, `tee`, `basename` and `dirname`. Each is a function of the files, its arguments and its
input, giving the files after it, what it wrote on standard output (descriptor 1) and standard
error (descriptor 2) in order, and its exit status. Failures are reported as the GNU tools word
them.
-/

namespace TestRig.Shell

open TestRig.Files TestRig.Text

/-- What a program did: the files after it, its writes by descriptor in order, and its exit
status. -/
structure Effect where
  files : Tree
  writes : List (Nat × String) := []
  status : Nat := 0
  took : Nat := 0

abbrev CommandRun := Tree → String → String × String × Tree

def Effect.out (e : Effect) (text : String) : Effect := { e with writes := e.writes ++ [(1, text)] }

def Effect.err (e : Effect) (text : String) : Effect := { e with writes := e.writes ++ [(2, text)] }

def Effect.fail (e : Effect) (status : Nat) : Effect := { e with status }

def Effect.calledAs (e : Effect) (own called : String) : Effect :=
  if own == called then e
  else
    let fix (line : String) : String :=
      if line.startsWith (own ++ ":") then called ++ (line.drop own.length).toString
      else line.replace ("'" ++ own ++ " --help'") ("'" ++ called ++ " --help'")
    { e with writes := e.writes.map fun (fd, text) =>
        if fd == 2 then (fd, "\n".intercalate ((text.splitOn "\n").map fix)) else (fd, text) }

/-! ### Files by byte names -/

def fileExists (fs : Tree) (p : String) : Bool := fs.exists_ (toText p)

def dirExists (fs : Tree) (p : String) : Bool := fs.isDir (toText p)

def readBytes (fs : Tree) (p : String) : Except IoError String :=
  -- the null device reads as empty and swallows what is written to it
  if p == "/dev/null" then .ok "" else (fs.readFile (toText p)).map ofByteArray

def writeBytes (fs : Tree) (p : String) (s : String) : Except IoError Tree :=
  if p == "/dev/null" then .ok fs else fs.writeFile (toText p) (toByteArray s)

def dirNames (fs : Tree) (p : String) : List String :=
  (fs.children (fs.resolve (toText p))).map ofText

/-! ### Programs on files -/

def operands (args : List String) : List String :=
  args.filter fun a => !(a.startsWith "-" && a.length > 1)

def optionLetters (args : List String) : List Char :=
  (args.filter fun a => a.startsWith "-" && a.length > 1 && !a.startsWith "--").flatMap fun a => a.toList.drop 1

def missingOperand (prog : String) : String :=
  prog ++ ": missing operand\nTry '" ++ prog ++ " --help' for more information.\n"

def errnoText : Errno → String
  | .notExist => "No such file or directory"
  | .isDir => "Is a directory"
  | .notDir => "Not a directory"
  | .exist => "File exists"
  | .notEmpty => "Directory not empty"

def eachInput (prog : String) (fs : Tree) (names : List String) (input : String) (e : Effect)
    (use : Effect → String → String → Effect) : Effect :=
  match names with
  | [] => use e "-" input
  | _ => names.foldl (fun e f =>
    if f == "-" then use e f input
    else match readBytes e.files f with
      | .ok t => use e f t
      | .error err => (e.err (prog ++ ": " ++ f ++ ": " ++ errnoText err.errno ++ "\n")).fail 1) e

def tee (fs : Tree) (args : List String) (input : String) : Effect :=
  let append := (optionLetters args).contains 'a'
  let e : Effect := { files := fs }
  let e := (operands args).foldl (fun e f =>
    let old := if append then (readBytes e.files f).toOption.getD "" else ""
    match writeBytes e.files f (old ++ input) with
    | .ok t => { e with files := t }
    | .error err => (e.err ("tee: " ++ f ++ ": " ++ errnoText err.errno ++ "\n")).fail 1) e
  { e with writes := (1, input) :: e.writes }

/-! ### `ls` -/

structure ListOptions where
  all : Bool := false
  almostAll : Bool := false
  recursive : Bool := false
  asNames : Bool := false
  reverse : Bool := false

def ListOptions.shown (o : ListOptions) (fs : Tree) (dir : String) : List String :=
  let names := dirNames fs dir
  let names := if o.all then "." :: ".." :: names
    else if o.almostAll then names else names.filter fun n => !n.startsWith "."
  let names := names.mergeSort (· ≤ ·)
  if o.reverse then names.reverse else names

def inDir (dir name : String) : String := if dir.endsWith "/" then dir ++ name else dir ++ "/" ++ name

def listBlocks (o : ListOptions) (fs : Tree) (heading : Bool) : Nat → String → List String
  | 0, _ => []
  | fuel + 1, dir =>
    let names := o.shown fs dir
    let block := (if heading then dir ++ ":\n" else "") ++ String.join (names.map (· ++ "\n"))
    let subs := if o.recursive then
        names.filter fun n => n != "." && n != ".." && dirExists fs (inDir dir n)
      else []
    block :: subs.flatMap fun n => listBlocks o fs heading fuel (inDir dir n)

def ls (fs : Tree) (args : List String) : Effect :=
  let letters := optionLetters args
  let o : ListOptions :=
    { all := letters.contains 'a'
      almostAll := letters.contains 'A'
      recursive := letters.contains 'R'
      asNames := letters.contains 'd'
      reverse := letters.contains 'r' }
  let ops := operands args
  let names := if ops.isEmpty then ["."] else ops
  let missing := names.filter fun n => !fileExists fs n
  let present := (names.filter (fileExists fs ·)).mergeSort (· ≤ ·)
  let present := if o.reverse then present.reverse else present
  let (dirs, files) := present.partition fun n => dirExists fs n && !o.asNames
  let e : Effect := { files := fs }
  let e := missing.foldl (fun e n =>
    (e.err ("ls: cannot access '" ++ n ++ "': No such file or directory\n")).fail 2) e
  let heading := names.length > 1 || o.recursive
  let fileBlock := if files.isEmpty then [] else [String.join (files.map (· ++ "\n"))]
  let blocks := fileBlock ++ dirs.flatMap fun d => listBlocks o fs heading (fs.nodes.length + 1) d
  let text := "\n".intercalate blocks
  if text.isEmpty then e else e.out text

end TestRig.Shell
