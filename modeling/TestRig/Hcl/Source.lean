import TestRig.Text.Chars

/-!
Places in configuration text and the problems found there. A position is a line and a column,
both counted from one, and a byte offset; columns count user-perceived characters, so a letter
followed by combining marks is one column. A range runs from its start up to, not including,
its stop.
-/

namespace TestRig.Hcl

open TestRig.Text

/-! ### Positions and ranges -/

structure Pos where
  line : Nat := 1
  column : Nat := 1
  byte : Nat := 0
  deriving Repr, Inhabited, BEq, DecidableEq

structure Range where
  file : String := ""
  start : Pos := {}
  stop : Pos := {}
  deriving Repr, Inhabited, BEq

namespace Range

def between (a b : Range) : Range := { file := a.file, start := a.start, stop := b.stop }

def atStart (r : Range) : Range := { r with stop := r.start }

def atStop (r : Range) : Range := { r with start := r.stop }

def text (r : Range) : String :=
  r.file ++ ":" ++ toString r.start.line ++ "," ++ toString r.start.column ++ "-" ++
    (if r.start.line == r.stop.line then toString r.stop.column
     else toString r.stop.line ++ "," ++ toString r.stop.column)

def nonEmpty (r : Range) : Bool := r.stop.byte > r.start.byte

end Range

/-! ### Diagnostics -/

structure Diagnostic where
  summary : String
  detail : String
  subject : Option Range := none
  deriving Repr, Inhabited

def Diagnostic.text (d : Diagnostic) : String :=
  (match d.subject with | some r => r.text | none => "<nil>") ++ ": " ++ d.summary ++ "; " ++
    d.detail

def diagnosticsText : List Diagnostic → String
  | [] => "no diagnostics"
  | [d] => d.text
  | d :: rest => d.text ++ ", and " ++ toString rest.length ++ " other diagnostic(s)"

def Diagnostic.at (r : Range) (summary detail : String) : Diagnostic :=
  { summary, detail, subject := some r }

/-! ### Columns -/

def isExtending (c : Char) : Bool :=
  let v := c.toNat
  (0x300 ≤ v && v ≤ 0x36F) || (0x483 ≤ v && v ≤ 0x489) || (0x591 ≤ v && v ≤ 0x5BD) ||
  (0x610 ≤ v && v ≤ 0x61A) || (0x64B ≤ v && v ≤ 0x65F) || (0x1AB0 ≤ v && v ≤ 0x1AFF) ||
  (0x1DC0 ≤ v && v ≤ 0x1DFF) || (0x200C ≤ v && v ≤ 0x200D) || (0x20D0 ≤ v && v ≤ 0x20FF) ||
  (0xFE00 ≤ v && v ≤ 0xFE0F) || (0xFE20 ≤ v && v ≤ 0xFE2F) || (0x1F3FB ≤ v && v ≤ 0x1F3FF) ||
  (0xE0020 ≤ v && v ≤ 0xE007F) || (0xE0100 ≤ v && v ≤ 0xE01EF)

def advance (p : Pos) (cs : List Char) : Pos :=
  go p cs false
where
  /-- Walks the characters; `joined` is set after a zero-width joiner. -/
  go (p : Pos) : List Char → Bool → Pos
    | [], _ => p
    | '\r' :: '\n' :: rest, _ => go ⟨p.line + 1, 1, p.byte + 2⟩ rest false
    | '\n' :: rest, _ => go ⟨p.line + 1, 1, p.byte + 1⟩ rest false
    | c :: rest, joined =>
      let col := if joined || isExtending c then p.column else p.column + 1
      go ⟨p.line, col, p.byte + c.utf8Size⟩ rest (c == '\u200D')

end TestRig.Hcl
