import TestRig.Files.Path
import TestRig.Text.Base64

/-!
A file system as a value: a working directory and a map from absolute, clean paths to files
(their bytes) and directories. Every operation that the build performs on files is a function
on this value, with the failures a POSIX system reports: a missing file, a directory where a
file was expected, a file where a directory was expected.
-/

namespace TestRig.Files

inductive Node where
  | file (data : ByteArray)
  | dir
  deriving Inhabited

inductive Errno where
  | notExist
  | isDir
  | notDir
  | exist
  | notEmpty
  deriving DecidableEq, Repr, Inhabited

def Errno.text : Errno → String
  | .notExist => "no such file or directory"
  | .isDir => "is a directory"
  | .notDir => "not a directory"
  | .exist => "file exists"
  | .notEmpty => "directory not empty"

/-- A failed file operation: the operation, the path as given, and the reason. -/
structure IoError where
  op : String
  path : String
  errno : Errno
  deriving Repr, Inhabited

/-- The text of a failed file operation, as `op path: reason`. -/
def IoError.message (e : IoError) : String := e.op ++ " " ++ e.path ++ ": " ++ e.errno.text

/-- A file system: the working directory and the nodes by absolute clean path. The root
`/` is always a directory and is not listed. -/
structure Tree where
  cwd : String := "/"
  nodes : List (String × Node) := []
  deriving Inhabited

namespace Tree

/-- The absolute clean form of a path, relative paths being taken from the working
directory. -/
def resolve (t : Tree) (p : String) : String :=
  if Path.isAbs p then Path.clean p else Path.clean (t.cwd ++ "/" ++ p)

def nodeAt (t : Tree) (abs : String) : Option Node :=
  if abs == "/" then some .dir else (t.nodes.find? (·.1 == abs)).map (·.2)

/-- The proper ancestors of an absolute clean path, outermost first, without the root. -/
def ancestors (abs : String) : List String :=
  let parts := ((Text.splitOn abs.toList ['/']).map String.ofList).filter (· ≠ "")
  (List.range (parts.length - 1)).map fun i => "/" ++ "/".intercalate (parts.take (i + 1))

/-- The first ancestor of a path that is a file, or the first that is missing. -/
def blockedAncestor (t : Tree) (abs : String) : Option (String × Errno) :=
  (ancestors abs).findSome? fun a =>
    match t.nodeAt a with
    | some .dir => none
    | some (.file _) => some (a, .notDir)
    | none => some (a, .notExist)

def setNode (t : Tree) (abs : String) (n : Node) : Tree :=
  { t with nodes := (abs, n) :: t.nodes.filter (·.1 != abs) }

def readFile (t : Tree) (p : String) : Except IoError ByteArray :=
  let abs := t.resolve p
  match t.blockedAncestor abs with
  | some (_, e) => .error ⟨"open", p, e⟩
  | none => match t.nodeAt abs with
    | some (.file d) => .ok d
    | some .dir => .error ⟨"read", p, .isDir⟩
    | none => .error ⟨"open", p, .notExist⟩

/-- The text of a file. A byte outside a valid UTF-8 sequence reads as U+FFFD, as a program
that ranges over the bytes as characters sees it. -/
def readText (t : Tree) (p : String) : Except IoError String :=
  (t.readFile p).map fun d => (String.fromUTF8? d).getD (Text.utf8Lossy d.toList "")

/-- Writes a file whose directory exists, replacing a file that is there. -/
def writeFile (t : Tree) (p : String) (d : ByteArray) : Except IoError Tree :=
  let abs := t.resolve p
  match t.blockedAncestor abs with
  | some (_, e) => .error ⟨"open", p, e⟩
  | none => match t.nodeAt abs with
    | some .dir => .error ⟨"open", p, .isDir⟩
    | _ => .ok (t.setNode abs (.file d))

def writeText (t : Tree) (p : String) (s : String) : Except IoError Tree := t.writeFile p s.toUTF8

/-- Makes a directory and every missing parent; a file in the way fails. -/
def mkdirAll (t : Tree) (p : String) : Except IoError Tree :=
  let abs := t.resolve p
  let chain := ancestors abs ++ [abs]
  chain.foldlM (fun t a =>
    match t.nodeAt a with
    | some .dir => .ok t
    | some (.file _) =>
      -- the path as the caller would see it: the given path cut to this depth
      .error ⟨"mkdir", relativeName p abs a, .notDir⟩
    | none => .ok (t.setNode a .dir)) t
where
  relativeName (given abs a : String) : String :=
    if a == abs then given
    else
      let extra := abs.length - a.length
      String.ofList (given.toList.take (given.length - extra))

def isDir (t : Tree) (p : String) : Bool :=
  match t.nodeAt (t.resolve p) with
  | some .dir => true
  | _ => false

/-- Looks a path up: whether it is a directory, or why it cannot be reached. -/
def stat (t : Tree) (p : String) : Except IoError Bool :=
  let abs := t.resolve p
  match t.blockedAncestor abs with
  | some (_, e) => .error ⟨"stat", p, e⟩
  | none => match t.nodeAt abs with
    | some .dir => .ok true
    | some (.file _) => .ok false
    | none => .error ⟨"stat", p, .notExist⟩

/-- The path names an existing file or directory. -/
def exists_ (t : Tree) (p : String) : Bool := (t.nodeAt (t.resolve p)).isSome

/-- The path is under the directory (or is it). -/
def isUnder (dir abs : String) : Bool :=
  abs == dir || Text.startsWith abs.toList (if dir == "/" then "/" else dir ++ "/").toList

def remove (t : Tree) (p : String) : Except IoError Tree :=
  let abs := t.resolve p
  match t.blockedAncestor abs with
  | some (_, e) => .error ⟨"remove", p, e⟩
  | none =>
  match t.nodeAt abs with
  | none => .error ⟨"remove", p, .notExist⟩
  | some (.file _) => .ok { t with nodes := t.nodes.filter (·.1 != abs) }
  | some .dir =>
    if t.nodes.any (fun (q, _) => q != abs && isUnder abs q) then .error ⟨"remove", p, .notEmpty⟩
    else .ok { t with nodes := t.nodes.filter (·.1 != abs) }

/-- Removes a path and everything below it; a missing path is no failure. -/
def removeAll (t : Tree) (p : String) : Tree :=
  let abs := t.resolve p
  { t with nodes := t.nodes.filter fun (q, _) => !isUnder abs q }

/-- The names of the entries of a directory, sorted. -/
def children (t : Tree) (abs : String) : List String :=
  let pre := if abs == "/" then "/" else abs ++ "/"
  let names := t.nodes.filterMap fun (q, _) =>
    if Text.startsWith q.toList pre.toList then
      let rest := String.ofList (q.toList.drop pre.length)
      if rest.toList.contains '/' || rest == "" then none else some rest
    else none
  names.mergeSort (· ≤ ·)

/-- Every file and directory below an absolute directory, with their absolute paths, in
lexical walk order: a directory before its entries, entries sorted by name. -/
def walk (t : Tree) (abs : String) : List (String × Bool) :=
  go (t.nodes.length + 1) abs
where
  go : Nat → String → List (String × Bool)
    | 0, _ => []
    | fuel + 1, d =>
      (t.children d).flatMap fun name =>
        let q := if d == "/" then "/" ++ name else d ++ "/" ++ name
        match t.nodeAt q with
        | some .dir => (q, true) :: go fuel q
        | _ => [(q, false)]

/-- The files at or below an absolute directory with their contents, in walk order. -/
def filesUnder (t : Tree) (abs : String) : List (String × ByteArray) :=
  (t.walk abs).filterMap fun (q, isDir) =>
    if isDir then none
    else match t.nodeAt q with
      | some (.file d) => some (q, d)
      | _ => none

/-- The tree with the given files written, their directories made. -/
def withFile (t : Tree) (p : String) (d : ByteArray) : Tree :=
  let abs := t.resolve p
  let t := (ancestors abs).foldl (fun t a => match t.nodeAt a with
    | some _ => t
    | none => t.setNode a .dir) t
  t.setNode abs (.file d)

def empty (cwd : String) : Tree :=
  let t : Tree := { cwd := cwd }
  let abs := Path.clean cwd
  ((ancestors abs) ++ [abs]).foldl (fun t a => if a == "/" then t else t.setNode a .dir) t

end Tree

end TestRig.Files
