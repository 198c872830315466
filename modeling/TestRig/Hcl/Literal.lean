import TestRig.Hcl.Token
import TestRig.Value.Basic
import TestRig.Number.Read
import TestRig.Text.Quoted

/-!
The values of literal tokens. A number literal is read as decimal text at 512 bits of
precision, the precision the language gives every number it parses.
-/

namespace TestRig.Hcl

open TestRig.Number TestRig.Text

/-! ### Numbers -/

def numberPrecision : Nat := 512

def numberValue (cs : List Char) : Option Value :=
  (Numeric.read? (String.ofList cs) numberPrecision).map .num

def numberLiteral (tok : Token) : Value × List Diagnostic :=
  match numberValue tok.text with
  | some v => (v, [])
  | none => (.unknown .number, [Diagnostic.at tok.range "Invalid number literal"
      "Failed to recognize the value of this number literal."])

/-! ### Strings -/

def isHexDigit (c : Char) : Bool := isDigit c || ('a' ≤ c && c ≤ 'f') || ('A' ≤ c && c ≤ 'F')

def hexValue (c : Char) : Nat :=
  if isDigit c then c.toNat - 48 else if 'a' ≤ c && c ≤ 'f' then c.toNat - 87 else c.toNat - 55

def hexDigitsValue (cs : List Char) : Nat := cs.foldl (fun n c => 16 * n + hexValue c) 0

def escapeLength : List Char → Nat
  | 'u' :: rest => if (rest.take 4).length == 4 && (rest.take 4).all isHexDigit then 5 else 1
  | 'U' :: rest => if (rest.take 8).length == 8 && (rest.take 8).all isHexDigit then 9 else 1
  | _ :: _ => 1
  | [] => 0

def endsRun (quoted : Bool) (c : Char) : Bool :=
  c == '$' || c == '%' || c == '\r' || c == '\n' || (quoted && c == '\\')

def sliceLength (quoted : Bool) (cs : List Char) : Nat :=
  match cs with
  | '\\' :: rest => if quoted then 1 + escapeLength rest else 1 + (rest.takeWhile (!endsRun false ·)).length
  | '$' :: '$' :: '{' :: _ | '%' :: '%' :: '{' :: _ => 3
  | '$' :: '$' :: _ | '%' :: '%' :: _ => 2
  | '$' :: _ | '%' :: _ => 1
  | '\r' :: '\n' :: _ => 2
  | '\r' :: _ | '\n' :: _ => 1
  | _ => max 1 (cs.takeWhile (!endsRun quoted ·)).length

def slices (quoted : Bool) : Nat → List Char → List (List Char)
  | 0, _ => []
  | _, [] => []
  | fuel + 1, cs =>
    let n := sliceLength quoted cs
    cs.take n :: slices quoted fuel (cs.drop n)

def escapeProblem (r : Range) (detail : String) : Diagnostic :=
  Diagnostic.at r "Invalid escape sequence" detail

def codeChar (n : Nat) : Option Char :=
  if n.isValidChar then some (Char.ofNat n) else none

def decodeSlice (quoted : Bool) (slice : List Char) (r : Range) : List Char × List Diagnostic :=
  match slice with
  | '\\' :: rest =>
    if !quoted then (slice, []) else
    match rest with
    | [] => (slice, [escapeProblem r "Backslash must be followed by an escape sequence selector character."])
    | 'n' :: _ => (['\n'], [])
    | 'r' :: _ => (['\r'], [])
    | 't' :: _ => (['\t'], [])
    | '"' :: _ => (['"'], [])
    | '\\' :: _ => (['\\'], [])
    | 'u' :: hex =>
      if slice.length != 6 then
        (slice, [escapeProblem r "The \\u escape sequence must be followed by four hexadecimal digits."])
      else unicode hex
    | 'U' :: hex =>
      if slice.length != 10 then
        (slice, [escapeProblem r "The \\U escape sequence must be followed by eight hexadecimal digits."])
      else unicode hex
    | _ => (rest, [escapeProblem r ("The symbol " ++ quote (String.ofList rest) ++
        " is not a valid escape sequence selector.")])
  | ['$', '$', '{'] => (['$', '{'], [])
  | ['%', '%', '{'] => (['%', '{'], [])
  | _ => (slice, [])
where
  /-- The character of a Unicode escape's digits. -/
  unicode (hex : List Char) : List Char × List Diagnostic :=
    let n := hexDigitsValue hex
    match codeChar n with
    | some c => ([c], [])
    | none =>
      let digits := hexDigits (max 4 (Nat.toDigits 16 n).length) n
      (slice, [escapeProblem r ("Cannot encode character U+" ++ String.ofList digits ++ " in UTF-8.")])

def stringLiteral (tok : Token) : String × List Diagnostic :=
  let quoted := tok.kind == .quotedLit
  let rec go (pos : Pos) : List (List Char) → List Char × List Diagnostic
    | [] => ([], [])
    | s :: rest =>
      let stop := advance pos s
      let (text, ds) := decodeSlice quoted s ⟨tok.range.file, pos, stop⟩
      let (more, ds') := go stop rest
      (text ++ more, ds ++ ds')
  let (text, ds) := go tok.range.start (slices quoted (tok.text.length + 1) tok.text)
  (String.ofList text, ds)

end TestRig.Hcl
