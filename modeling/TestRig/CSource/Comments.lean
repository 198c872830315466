/-!
Comments of C sources. `stripComments` blanks every comment out with spaces and keeps its
newlines, so that every byte keeps its offset and every line its number; string and character
literals are copied as they are, escapes included. A character inside a comment becomes as many
spaces as it has bytes.
-/

namespace TestRig.CSource

inductive Scan where
  | code
  | lineComment
  | blockComment
  | string
  | char
  deriving DecidableEq, Repr, Inhabited

/-- Spaces standing for the bytes of a character. -/
def blankOf (c : Char) : List Char := List.replicate c.utf8Size ' '

/-- Strips comments from the rest of a source in the given state. -/
def stripFrom : Scan → List Char → List Char
  | _, [] => []
  | .code, '/' :: '/' :: r => ' ' :: ' ' :: stripFrom .lineComment r
  | .code, '/' :: '*' :: r => ' ' :: ' ' :: stripFrom .blockComment r
  | .code, c :: r =>
    if c == '"' then c :: stripFrom .string r
    else if c == '\'' then c :: stripFrom .char r
    else c :: stripFrom .code r
  | .lineComment, c :: r =>
    if c == '\n' then c :: stripFrom .code r else blankOf c ++ stripFrom .lineComment r
  | .blockComment, '*' :: '/' :: r => ' ' :: ' ' :: stripFrom .code r
  | .blockComment, c :: r =>
    if c == '\n' then c :: stripFrom .blockComment r else blankOf c ++ stripFrom .blockComment r
  | .string, '\\' :: d :: r => '\\' :: d :: stripFrom .string r
  | .string, c :: r =>
    if c == '"' || c == '\n' then c :: stripFrom .code r else c :: stripFrom .string r
  | .char, '\\' :: d :: r => '\\' :: d :: stripFrom .char r
  | .char, c :: r =>
    if c == '\'' || c == '\n' then c :: stripFrom .code r else c :: stripFrom .char r

def stripComments (src : String) : String := String.ofList (stripFrom .code src.toList)

end TestRig.CSource
