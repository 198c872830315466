import TestRig.Hcl.Token
import TestRig.Text.Blank
import TestRig.Text.Identifier

/-!
The scanner of the configuration language: text to tokens, always ending with an end-of-file
token. It reads in one of three modes. In expression text it takes the longest token that
starts at each place; a `"` enters a quoted string and `<<EOT` (or `<<-EOT`) a heredoc.
-/

namespace TestRig.Hcl

open TestRig.Text

/-! ### Character classes -/

def isNameStart (c : Char) : Bool := c == '_' || isIdentStart c

def isNameChar (c : Char) : Bool := c == '-' || isIdentContinue c

def isSpaceChar (c : Char) : Bool := c == ' ' || c == '\t'

/-! ### Token lengths -/

def numberLength : List Char → Nat → Nat → Nat
  | c :: rest, n, best =>
    if isDigit c then numberLength rest (n + 1) (n + 1)
    else if c == '.' then numberLength rest (n + 1) best
    else if c == 'e' || c == 'E' then
      match rest with
      | d :: rest' =>
        if isDigit d then numberLength rest' (n + 2) (n + 2)
        else if d == '+' || d == '-' then
          match rest' with
          | e :: rest'' => if isDigit e then numberLength rest'' (n + 3) (n + 3) else best
          | [] => best
        else best
      | [] => best
    else best
  | [], _, best => best

def runLength (p : Char → Bool) (cs : List Char) : Nat := (cs.takeWhile p).length

def lineCommentLength (cs : List Char) : Nat :=
  let body := runLength (· != '\n') cs
  if body < cs.length then body + 1 else body

def blockCommentLength : List Char → Nat → Option Nat
  | '*' :: '/' :: _, n => some (n + 2)
  | _ :: rest, n => blockCommentLength rest (n + 1)
  | [], _ => none

def heredocOpening (cs : List Char) : Option (Nat × List Char) :=
  match cs with
  | '<' :: '<' :: rest =>
    let (dash, rest) : Nat × List Char := match rest with
      | '-' :: r => (1, r)
      | r => (0, r)
    match rest with
    | c :: _ =>
      if isNameStart c then
        let name := rest.takeWhile isNameChar
        match rest.drop name.length with
        | '\n' :: _ => some (2 + dash + name.length + 1, name)
        | '\r' :: '\n' :: _ => some (2 + dash + name.length + 2, name)
        | _ => none
      else none
    | [] => none
  | _ => none

def quotedLitLength (cs : List Char) : Nat :=
  match cs with
  | '$' :: '$' :: '{' :: '~' :: _ => 4
  | '$' :: '$' :: '{' :: _ => 3
  | '$' :: c :: _ => if c == '{' then 0 else 1
  | '%' :: '%' :: '{' :: '~' :: _ => 4
  | '%' :: '%' :: '{' :: _ => 3
  | '%' :: c :: _ => if c == '{' then 0 else 1
  | _ => go cs 0
where
  go : List Char → Nat → Nat
    | '\\' :: c :: rest, n => if c == '\n' || c == '\r' then n else go rest (n + 2)
    | c :: rest, n =>
      if c == '$' || c == '%' || c == '"' || c == '\\' || c == '\n' || c == '\r' then n
      else go rest (n + 1)
    | [], n => n

def heredocLitLength (cs : List Char) : Nat :=
  match cs with
  | '$' :: '$' :: '{' :: '~' :: _ => 4
  | '$' :: '$' :: '{' :: _ => 3
  | '$' :: c :: _ => if c == '{' then 0 else 1
  | '%' :: '%' :: '{' :: '~' :: _ => 4
  | '%' :: '%' :: '{' :: _ => 3
  | '%' :: c :: _ => if c == '{' then 0 else 1
  | _ => runLength (fun c => c != '$' && c != '%' && c != '\n' && c != '\r') cs

def lineBreakLength : List Char → Nat
  | '\n' :: _ => 1
  | '\r' :: '\n' :: _ => 2
  | _ => 0

/-! ### The scanner -/

/-- What the scanner is reading: expression text, a quoted string, or a heredoc with its
marker and whether the reading is at the start of one of its lines. -/
inductive Mode where
  | expression
  | quoted
  | heredoc (marker : List Char) (lineStart : Bool)
  deriving Inhabited

structure Lexer where
  rest : List Char
  pos : Pos
  file : String
  modes : List Mode := []
  braces : Int := 0
  closers : List Int := []
  tokens : Array Token := #[]
  deriving Inhabited

namespace Lexer

def mode (s : Lexer) : Mode := s.modes.headD .expression

def emit (s : Lexer) (kind : TokenKind) (n : Nat) : Lexer :=
  let text := s.rest.take n
  let stop := advance s.pos text
  { s with rest := s.rest.drop n, pos := stop,
           tokens := s.tokens.push ⟨kind, text, ⟨s.file, s.pos, stop⟩⟩ }

def skip (s : Lexer) (n : Nat) : Lexer :=
  { s with rest := s.rest.drop n, pos := advance s.pos (s.rest.take n) }

def midLine (s : Lexer) : Lexer :=
  let rec mark : List Mode → List Mode
    | [] => []
    | .heredoc m _ :: r => .heredoc m false :: r
    | x :: r => x :: mark r
  { s with modes := mark s.modes }

def openSequence (s : Lexer) (kind : TokenKind) (n : Nat) : Lexer :=
  let s := (s.midLine.emit kind n)
  { s with braces := s.braces + 1, closers := (s.braces + 1) :: s.closers,
           modes := .expression :: s.modes }

def closeBrace (s : Lexer) (n : Nat) (tilde : Bool) : Lexer :=
  match s.closers with
  | top :: rest =>
    if top == s.braces then
      let s := s.emit .templateSeqEnd n
      { s with braces := s.braces - 1, closers := rest, modes := s.modes.drop 1 }
    else
      let s := s.emit (if tilde then .templateSeqEnd else .cBrace) n
      { s with braces := s.braces - 1 }
  | [] =>
    let s := s.emit (if tilde then .templateSeqEnd else .cBrace) n
    { s with braces := s.braces - 1 }

def sequenceOpening : List Char → Option (TokenKind × Nat)
  | '$' :: '{' :: '~' :: _ => some (.templateInterp, 3)
  | '$' :: '{' :: _ => some (.templateInterp, 2)
  | '%' :: '{' :: '~' :: _ => some (.templateControl, 3)
  | '%' :: '{' :: _ => some (.templateControl, 2)
  | _ => none

def stepExpression (s : Lexer) : Lexer :=
  match s.rest with
  | [] => s
  | c :: rest =>
    if isSpaceChar c then s.skip (1 + runLength isSpaceChar rest)
    else if isDigit c then s.emit .numberLit (numberLength rest 1 1)
    else if isNameStart c then s.emit .ident (1 + runLength isNameChar rest)
    else if c == '#' then s.emit .comment (lineCommentLength s.rest)
    else if c == '/' && rest.headD ' ' == '/' then s.emit .comment (lineCommentLength s.rest)
    else if c == '/' && rest.headD ' ' == '*' then
      match blockCommentLength (rest.drop 1) 2 with
      | some n => s.emit .comment n
      | none => s.emit .slash 1
    else if c == '\n' then s.emit .newline 1
    else if c == '\r' && rest.headD ' ' == '\n' then s.emit .newline 2
    else if c == '.' && rest.take 2 == ['.', '.'] then s.emit .ellipsis 3
    else if c == '{' then
      let s := s.emit .oBrace 1
      { s with braces := s.braces + 1 }
    else if c == '}' then s.closeBrace 1 false
    else if c == '~' && rest.headD ' ' == '}' then s.closeBrace 2 true
    else if c == '"' then
      let s := s.emit .oQuote 1
      { s with modes := .quoted :: s.modes }
    else
      match heredocOpening s.rest with
      | some (n, marker) =>
        let s := s.emit .oHeredoc n
        { s with modes := .heredoc marker true :: s.modes }
      | none =>
        match (rest.head?.bind (pairKind c ·)) with
        | some k => s.emit k 2
        | none =>
          match symbolKind c with
          | some k => s.emit k 1
          | none => s.emit .invalid 1

def stepQuoted (s : Lexer) : Lexer :=
  match s.rest with
  | [] => s
  | c :: _ =>
    match sequenceOpening s.rest with
    | some (k, n) => s.openSequence k n
    | none =>
      if c == '"' then
        let s := s.emit .cQuote 1
        { s with modes := s.modes.drop 1 }
      else
        let n := quotedLitLength s.rest
        if n > 0 then s.emit .quotedLit n
        else if c == '\n' || c == '\r' then
          s.emit .quotedNewline (runLength (fun c => c == '\n' || c == '\r') s.rest)
        else s.emit .invalid 1

def stepHeredoc (s : Lexer) (marker : List Char) (lineStart : Bool) : Lexer :=
  match sequenceOpening s.rest with
  | some (k, n) => s.openSequence k n
  | none =>
    let n := heredocLitLength s.rest
    let nl := lineBreakLength (s.rest.drop n)
    if nl > 0 then
      if lineStart && trim (s.rest.take n) == marker then
        let s := (s.emit .cHeredoc n).emit .newline nl
        { s with modes := s.modes.drop 1 }
      else
        let s := s.emit .stringLit (n + nl)
        { s with modes := match s.modes with
                          | .heredoc m _ :: r => .heredoc m true :: r
                          | ms => ms }
    else if n > 0 then (s.midLine.emit .stringLit n)
    else s.emit .invalid s.rest.length

def step (s : Lexer) : Lexer :=
  match s.mode with
  | .expression => s.stepExpression
  | .quoted => s.stepQuoted
  | .heredoc marker lineStart => s.stepHeredoc marker lineStart

def run : Nat → Lexer → Lexer
  | 0, s => s
  | fuel + 1, s => if s.rest.isEmpty then s else run fuel s.step

end Lexer

def scanTokens (file : String) (text : String) (start : Pos := {}) : Array Token :=
  let cs := text.toList
  let s := Lexer.run (cs.length + 1) { rest := cs, pos := start, file }
  s.tokens.push ⟨.eof, [], ⟨file, s.pos, s.pos⟩⟩

/-! ### Characters the language does not use -/

/-- Which of the reports that are made once have been made: backticks (counted), semicolons. -/
structure InvalidSeen where
  backticks : Nat := 0
  semicolon : Bool := false

def invalidTokens (tokens : List Token) : List Diagnostic :=
  go tokens {}
where
  go : List Token → InvalidSeen → List Diagnostic
    | [], _ => []
    | t :: rest, seen =>
      let r := t.range
      match t.kind with
      | .bitwiseAnd => Diagnostic.at r "Unsupported operator"
          "Bitwise operators are not supported. Did you mean boolean AND (\"&&\")?" :: go rest seen
      | .bitwiseOr => Diagnostic.at r "Unsupported operator"
          "Bitwise operators are not supported. Did you mean boolean OR (\"||\")?" :: go rest seen
      | .bitwiseNot => Diagnostic.at r "Unsupported operator"
          "Bitwise operators are not supported. Did you mean boolean NOT (\"!\")?" :: go rest seen
      | .bitwiseXor => Diagnostic.at r "Unsupported operator"
          "Bitwise operators are not supported." :: go rest seen
      | .backtick =>
        let seen' := { seen with backticks := if seen.backticks ≤ 2 then seen.backticks + 1 else seen.backticks }
        if seen.backticks % 2 == 0 then
          Diagnostic.at r "Invalid character"
            "The \"`\" character is not valid. To create a multi-line string, use the \"heredoc\" syntax, like \"<<EOT\"." :: go rest seen'
        else go rest seen'
      | .semicolon =>
        if seen.semicolon then go rest seen
        else Diagnostic.at r "Invalid character"
          "The \";\" character is not valid. Use newlines to separate arguments and blocks, and commas to separate items in collection values." :: go rest { seen with semicolon := true }
      | .apostrophe => Diagnostic.at r "Invalid character"
          "Single quotes are not valid. Use double quotes (\") to enclose strings." :: go rest seen
      | .invalid =>
        if t.text.any (fun c => c == '“' || c == '”') then
          Diagnostic.at r "Invalid character"
            "\"Curly quotes\" are not valid here. These can sometimes be inadvertently introduced when sharing code via documents or discussion forums. It might help to replace the character with a \"straight quote\"." :: go rest seen
        else Diagnostic.at r "Invalid character" "This character is not used within the language." :: go rest seen
      | _ => go rest seen

end TestRig.Hcl
