import TestRig.CSource.Comments
import TestRig.Regex.Machine
import TestRig.Files.Tree
import TestRig.Fault

/-!
What a test source says about its own build, read with comments blanked out: the files it
includes, the test functions it defines (with their line), and its directives:
`TEST_SOURCE_FILE("x.c")` adds a source to the build and `TEST_INCLUDE_PATH("dir")` a search
path. Each include and directive is kept once, in order of first appearance.
-/

namespace TestRig.CSource

open TestRig.Regex TestRig.Files

/-- A test function and the line it is declared on. -/
structure TestCase where
  name : String
  line : Int
  deriving Repr, Inhabited, BEq

structure Directives where
  sources : List String := []
  includePaths : List String := []
  deriving Repr, Inhabited, BEq

/-- The includes and test functions of a test source. -/
structure TestContext where
  includes : List String := []
  testCases : List TestCase := []
  deriving Repr, Inhabited, BEq

def appendUnique (xs : List String) (x : String) : List String :=
  if xs.contains x then xs else xs ++ [x]

def includePattern : Program :=
  (Program.ofString "^\\s*#\\s*include\\s*[<\"]([^>\"]+)[>\"]").toOption.getD Program.never

def directivePattern : Program :=
  (Program.ofString "\\b(TEST_SOURCE_FILE|TEST_INCLUDE_PATH)\\s*\\(\\s*\"([^\"]+)\"\\s*\\)").toOption.getD
    Program.never

/-- A test function declaration at the start of a line. -/
def testCasePattern : Program :=
  (Program.ofString "^\\s*void\\s+(test[A-Za-z0-9_]*)\\s*\\(\\s*(void)?\\s*\\)").toOption.getD
    Program.never

/-- The directives of a source text, comments already blanked out. -/
def directivesOf (text : String) : Directives :=
  (directivePattern.allGroups text).foldl (fun d m =>
    let kind := (m.getD 1 none).getD ""
    let arg := (m.getD 2 none).getD ""
    if kind == "TEST_SOURCE_FILE" then { d with sources := appendUnique d.sources arg }
    else { d with includePaths := appendUnique d.includePaths arg }) {}

/-- The file a line includes, if it is an include line. -/
def includeOf? (line : String) : Option String :=
  match includePattern.groups? line with
  | some (_ :: some inc :: _) => some inc
  | _ => none

/-- The test function a line declares, if it is a test line. -/
def testNameOf? (line : String) : Option String :=
  match testCasePattern.groups? line with
  | some (_ :: some name :: _) => some name
  | _ => none

/-- Reads one line, with its index from zero, into what a source says. -/
def contextStep (c : TestContext) : String × Nat → TestContext
  | (line, i) =>
    match includeOf? line with
    | some inc => { c with includes := appendUnique c.includes inc }
    | none =>
      match testNameOf? line with
      | some name => { c with testCases := c.testCases ++ [⟨name, ((i + 1 : Nat) : Int)⟩] }
      | none => c

/-- The includes and test functions of a source text, comments already blanked out. -/
def contextOf (text : String) : TestContext :=
  ((text.splitToList (· == '\n')).zipIdx).foldl contextStep {}

/-- Reads a source with its comments blanked out. -/
def readStripped (fs : Tree) (path : String) : Outcome String :=
  match fs.readText path with
  | .ok s => .ok (stripComments s)
  | .error e => .error (.plain ("failed to read '" ++ path ++ "': " ++ e.message))

/-- The directives of the source file at a path. -/
def readDirectives (fs : Tree) (path : String) : Outcome Directives :=
  (readStripped fs path).map directivesOf

/-- The includes and test functions of the source file at a path. -/
def readContext (fs : Tree) (path : String) : Outcome TestContext :=
  (readStripped fs path).map contextOf

end TestRig.CSource
