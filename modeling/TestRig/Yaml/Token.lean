/-!
The vocabulary of YAML reading: positions in the text, the tokens the scanner produces and the
problems that stop reading. A problem carries the position it was found at and, when it is
about a construct that started earlier, that construct and where it started; its message names
one line, counted from one, as YAML readers report it.
-/

namespace TestRig.Yaml

/-- A position in the text: characters read, and the line and column, counted from zero. -/
structure Mark where
  index : Nat := 0
  line : Nat := 0
  column : Nat := 0
  deriving DecidableEq, Repr, Inhabited

inductive ScalarStyle where
  | plain
  | singleQuoted
  | doubleQuoted
  | literal
  | folded
  deriving DecidableEq, Repr, Inhabited

inductive TokenKind where
  | streamStart
  | streamEnd
  | versionDirective (major minor : Nat)
  | tagDirective (handle pfx : String)
  | documentStart
  | documentEnd
  | blockSequenceStart
  | blockMappingStart
  | blockEnd
  | flowSequenceStart
  | flowSequenceEnd
  | flowMappingStart
  | flowMappingEnd
  | blockEntry
  | flowEntry
  | key
  | value
  | aliasOf (name : String)
  | anchor (name : String)
  | tag (handle suffix : String)
  | scalar (text : String) (style : ScalarStyle)
  deriving DecidableEq, Repr, Inhabited

/-- A token and the part of the text it covers. -/
structure Token where
  kind : TokenKind
  start : Mark
  stop : Mark
  deriving Repr, Inhabited

inductive Stage where
  | reader
  | scanner
  | parser
  deriving DecidableEq, Repr, Inhabited

structure Problem where
  stage : Stage
  context : String := ""
  contextMark : Mark := {}
  problem : String
  problemMark : Mark := {}
  deriving Repr, Inhabited

def Problem.message (p : Problem) : String :=
  let shift := if p.stage == .scanner then 1 else 0
  let line :=
    if p.contextMark.line != 0 then p.contextMark.line + shift
    else if p.problemMark.line != 0 then p.problemMark.line + shift
    else 0
  "yaml: " ++ (if line != 0 then "line " ++ toString line ++ ": " else "") ++ p.problem

/-! ### Character classes -/

def isBlank (c : Char) : Bool := c == ' ' || c == '\t'

def isBreak (c : Char) : Bool :=
  c == '\r' || c == '\n' || c == '\x85' || c == '\u2028' || c == '\u2029'

def isEnd (c : Char) : Bool := c == '\x00'

def isBlankEnd (c : Char) : Bool := isBlank c || isBreak c || isEnd c

def isBreakEnd (c : Char) : Bool := isBreak c || isEnd c

def isAlpha (c : Char) : Bool :=
  ('0' ≤ c && c ≤ '9') || ('A' ≤ c && c ≤ 'Z') || ('a' ≤ c && c ≤ 'z') || c == '_' || c == '-'

def isHex (c : Char) : Bool :=
  ('0' ≤ c && c ≤ '9') || ('A' ≤ c && c ≤ 'F') || ('a' ≤ c && c ≤ 'f')

def hexValue (c : Char) : Nat :=
  if 'A' ≤ c && c ≤ 'F' then c.toNat - 55
  else if 'a' ≤ c && c ≤ 'f' then c.toNat - 87
  else c.toNat - 48

def isReadable (c : Char) : Bool :=
  let v := c.toNat
  v == 0x09 || v == 0x0A || v == 0x0D || (0x20 ≤ v && v ≤ 0x7E) || v == 0x85 ||
    (0xA0 ≤ v && v ≤ 0xD7FF) || (0xE000 ≤ v && v ≤ 0xFFFD) || (0x10000 ≤ v && v ≤ 0x10FFFF)

end TestRig.Yaml
