import TestRig.CSource.Comments
import TestRig.Regex.Machine
import TestRig.Text.Blank
import TestRig.Text.Chars

/-!
Function prototypes of C headers, for mocking.
-/

namespace TestRig.CSource

open TestRig.Text TestRig.Regex

structure Param where
  type : String
  name : String
  deriving Repr, Inhabited, BEq

structure Prototype where
  returnType : String
  name : String
  params : List Param
  deriving Repr, Inhabited, BEq

def Prototype.isVoid (p : Prototype) : Bool := p.returnType == "void"

/-- The parameter list as written in a definition; no parameters is `void`. -/
def Prototype.signature (p : Prototype) : String :=
  if p.params.isEmpty then "void"
  else ", ".intercalate (p.params.map fun q => trimBlank (q.type ++ " " ++ q.name))

/-- Blanks collapsed to single spaces, and no space before a `*`. -/
def normalizeSpace (s : String) : String :=
  String.ofList (replaceAll (" ".intercalate (fields s)).toList [' ', '*'] ['*'])

/-- Cuts out brace-delimited bodies; a body that closes at the outer level leaves a `;`. -/
def stripBodies : List Char → Nat → List Char
  | [], _ => []
  | c :: r, depth =>
    if c == '{' then stripBodies r (depth + 1)
    else if c == '}' then
      let d := depth - 1
      if d == 0 then ';' :: stripBodies r d else stripBodies r d
    else if depth == 0 then c :: stripBodies r depth
    else stripBodies r depth

/-- A declaration: return type and storage words, name, and parameter text. -/
def prototypePattern : Program :=
  (Program.ofString
    "([A-Za-z_][A-Za-z0-9_\\s\\*]*?)\\b([A-Za-z_][A-Za-z0-9_]*)\\s*\\(([^;{}()]*)\\)\\s*;").toOption.getD
    Program.never

def trailingIdentPattern : Program :=
  (Program.ofString "[A-Za-z_][A-Za-z0-9_]*$").toOption.getD Program.never

/-- Storage and inline keywords, which are not part of a return type. -/
def storagePattern : Program :=
  (Program.ofString "\\b(extern|inline|__inline)\\b").toOption.getD Program.never

/-- Return types that show a match is no prototype. -/
def skipPrefixes : List String :=
  ["typedef", "static", "extern \"C\"", "return", "else", "if", "while", "for", "switch"]

/-- Words that are part of a C type, never a parameter name. -/
def typeKeywords : List String :=
  ["int", "char", "short", "long", "float", "double", "signed", "unsigned", "void", "const",
   "volatile", "struct", "enum", "union", "bool", "_Bool"]

/-- Reads a parameter list; an unnamed parameter is called `arg` and its position. -/
def parseParams (raw : String) : Except String (List Param) :=
  let raw := normalizeSpace raw
  if raw == "" || raw == "void" then .ok []
  else
    ((raw.splitOn ",").zipIdx).mapM fun (part, i) =>
      let part := normalizeSpace part
      if part == "..." then .error "variadic functions cannot be mocked"
      else
        let name := match trailingIdentPattern.groups? part with
          | some (some n :: _) => n
          | _ => ""
        let typ := trimBlank (String.ofList (part.toList.take (part.length - name.length)))
        if name == "" || typ == "" || typeKeywords.contains name then
          .ok ⟨part, "arg" ++ toString (i + 1)⟩
        else .ok ⟨typ, name⟩

/-- The text that prototypes are looked for in: comments and preprocessor lines dropped, lines
joined by spaces, bodies cut out. -/
def declarationText (src : String) : String :=
  let lines := (((stripComments src).toList.splitOn '\n').map String.ofList).filter fun l =>
    !(trimBlank l).startsWith "#"
  String.ofList (stripBodies (" ".intercalate lines).toList 0)

/-- The prototypes of a header, in order, each name once. -/
def parsePrototypes (src : String) : Except String (List Prototype) :=
  go (prototypePattern.allGroups (declarationText src)) []
where
  go : List (List (Option String)) → List String → Except String (List Prototype)
    | [], _ => .ok []
    | m :: rest, seen =>
      let g (i : Nat) : String := (m.getD i none).getD ""
      let ret := normalizeSpace (storagePattern.replaceAll (g 1) "")
      let name := g 2
      if ret == "" || skipPrefixes.any (fun p => ret.startsWith p) || seen.contains name then
        go rest seen
      else
        match parseParams (g 3) with
        | .error e => .error ("function '" ++ name ++ "': " ++ e)
        | .ok params => do
          let tail ← go rest (name :: seen)
          return ⟨ret, name, params⟩ :: tail

end TestRig.CSource
