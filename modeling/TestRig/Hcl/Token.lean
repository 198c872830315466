import TestRig.Hcl.Source

/-!
The tokens of the configuration language. Besides the tokens that expressions and bodies are
made of, the scanner marks the pieces of string templates (literal text, the openings of
interpolation and directive sequences and their close), comments, line breaks, and characters
the language does not use, which are reported once scanning is done.
-/

namespace TestRig.Hcl

inductive TokenKind where
  | oBrace | cBrace | oBrack | cBrack | oParen | cParen
  | oQuote | cQuote | oHeredoc | cHeredoc
  | star | slash | plus | minus | percent
  | equal | equalOp | notEqual | lessThan | lessThanEq | greaterThan | greaterThanEq
  | and | or | bang | dot | comma | doubleColon | ellipsis | fatArrow | question | colon
  | templateInterp | templateControl | templateSeqEnd
  | quotedLit | stringLit | numberLit | ident
  | comment | newline | eof
  | bitwiseAnd | bitwiseOr | bitwiseNot | bitwiseXor
  | apostrophe | backtick | semicolon | invalid | quotedNewline
  deriving DecidableEq, Repr, Inhabited

/-- A token: its kind, its text and where it is. -/
structure Token where
  kind : TokenKind
  text : List Char
  range : Range
  deriving Repr, Inhabited

def TokenKind.closer : TokenKind → Option TokenKind
  | .oBrace => some .cBrace
  | .oBrack => some .cBrack
  | .oParen => some .cParen
  | .oQuote => some .cQuote
  | .oHeredoc => some .cHeredoc
  | .templateInterp | .templateControl => some .templateSeqEnd
  | _ => none

def TokenKind.opener : TokenKind → Option TokenKind
  | .cBrace => some .oBrace
  | .cBrack => some .oBrack
  | .cParen => some .oParen
  | .cQuote => some .oQuote
  | .cHeredoc => some .oHeredoc
  | _ => none

def symbolKind : Char → Option TokenKind
  | '[' => some .oBrack
  | ']' => some .cBrack
  | '(' => some .oParen
  | ')' => some .cParen
  | '.' => some .dot
  | ',' => some .comma
  | '*' => some .star
  | '/' => some .slash
  | '%' => some .percent
  | '+' => some .plus
  | '-' => some .minus
  | '=' => some .equal
  | '<' => some .lessThan
  | '>' => some .greaterThan
  | '!' => some .bang
  | '?' => some .question
  | ':' => some .colon
  | '&' => some .bitwiseAnd
  | '|' => some .bitwiseOr
  | '~' => some .bitwiseNot
  | '^' => some .bitwiseXor
  | ';' => some .semicolon
  | '\x60' => some .backtick
  | '\x27' => some .apostrophe
  | _ => none

def pairKind : Char → Char → Option TokenKind
  | '=', '=' => some .equalOp
  | '!', '=' => some .notEqual
  | '>', '=' => some .greaterThanEq
  | '<', '=' => some .lessThanEq
  | '&', '&' => some .and
  | '|', '|' => some .or
  | ':', ':' => some .doubleColon
  | '=', '>' => some .fatArrow
  | _, _ => none

end TestRig.Hcl
