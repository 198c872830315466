import TestRig.Hcl.Parser
import TestRig.Text.Quoted

/-!
Configuration files: a body of attributes `name = expression` and blocks
`type "label" ... { body }`, one item a line. A block whose body is on the line of its header
holds a single attribute. An attribute defined twice in one body is reported at the second
definition, which is dropped.

As with expressions, a syntax error makes the parser skip ahead, here to the start of the next
item; a stray token in a body skips the rest of that body.
-/

namespace TestRig.Hcl

open TestRig.Text

inductive Item where
  | attribute (a : Attribute)
  | block (head : BlockHead) (body : Body)

def quotedLabel : ParseM (String × Range × Diags) := do
  let oQuote ← read
  if oQuote.kind != .oQuote then
    return ("", oQuote.range, [Diagnostic.at oQuote.range "Invalid string literal"
      "A string literal must be surrounded by double quote characters."])
  let fuel := (← get).tokens.size + 1
  let rec go : Nat → String → Diags → ParseM (String × Range × Diags)
    | 0, acc, ds => do return (acc, Range.between oQuote.range (← prevRange), ds)
    | fuel + 1, acc, ds => do
      let tok ← read
      match tok.kind with
      | .cQuote => return (acc, Range.between oQuote.range tok.range, ds)
      | .quotedLit =>
        let (s, d) := stringLiteral tok
        go fuel (acc ++ s) (ds ++ d)
      | .templateControl | .templateInterp =>
        let which := if tok.kind == .templateControl then "%" else "$"
        let d := Diagnostic.at tok.range "Invalid string literal"
          ("Template sequences are not allowed in this string. To include a literal " ++ quote which ++
            ", double it (as \"" ++ which ++ which ++ "\") to escape it.")
        discard (recover .templateSeqEnd)
        go fuel (acc ++ which ++ "\x7b ... \x7d") (ds ++ [d])
      | .eof =>
        return (acc, Range.between oQuote.range tok.range, ds ++ [Diagnostic.at tok.range
          "Unterminated string literal" "Unable to find the closing quote mark before the end of the file."])
      | _ =>
        let d := Diagnostic.at tok.range "Invalid string literal" "This item is not valid in a string literal."
        discard (recover .cQuote)
        return (acc, Range.between oQuote.range (← prevRange), ds ++ [d])
  go fuel "" []

def itemRequired (r : Range) (hint : Bool) : Diagnostic :=
  Diagnostic.at r "Argument or block definition required"
    ("An argument or block definition is required here." ++
      (if hint then " To set an argument, use the equals sign \"=\" to introduce the argument value."
       else ""))

def headerProblem (tok : Token) (recovering : Bool) : Diags :=
  match tok.kind with
  | .equal => [Diagnostic.at tok.range "Invalid block definition"
      "The equals sign \"=\" indicates an argument definition, and must not be used when defining a block."]
  | .newline => [Diagnostic.at tok.range "Invalid block definition"
      "A block definition must have block content delimited by \"\x7b\" and \"\x7d\", starting on the same line as the block header."]
  | _ => if recovering then [] else [Diagnostic.at tok.range "Invalid block definition"
      "Either a quoted string block label or an opening brace (\"\x7b\") is expected here."]

def singleLineProblem (tok : Token) (recovering : Bool) : Diags :=
  match tok.kind with
  | .comma => [Diagnostic.at tok.range "Invalid single-argument block definition"
      "Single-line block syntax can include only one argument definition. To define multiple arguments, use the multi-line block syntax with one argument definition per line."]
  | .newline => [Diagnostic.at tok.range "Invalid single-argument block definition"
      "An argument definition on the same line as its containing block creates a single-line block definition, which must also be closed on the same line. Place the block's closing brace immediately after the argument definition."]
  | _ => if recovering then [] else [Diagnostic.at tok.range "Invalid single-argument block definition"
      "A single-line block definition must end with a closing brace immediately after its single argument definition."]

def bodyOf (attrs : List Attribute) (blocks : List (BlockHead × Body)) (start stop : Range) : Body :=
  .mk attrs blocks (Range.between start stop) stop.atStop

def finishAttribute (fuel : Nat) (ident : Token) (singleLine : Bool) : ParseM (Attribute × Diags) := do
  discard read
  let (expr, ds) ← parseExpression fuel
  let attr (stop : Range) : Attribute :=
    { name := ident.str, expr, range := Range.between ident.range stop, nameRange := ident.range }
  if (← recovering) && !ds.isEmpty then
    recoverAfterBodyItem
    return (attr { file := ident.range.file }, ds)
  let stop ← prevRange
  if singleLine then return (attr stop, ds)
  let after ← peek
  if after.kind != .newline && after.kind != .eof then
    let d := if ← recovering then []
      else if after.kind == .comma then
        [Diagnostic.at after.range "Unexpected comma after argument"
          "Argument definitions must be separated by newlines, not commas. An argument definition must end with a newline."]
      else [Diagnostic.at after.range "Missing newline after argument"
          "An argument definition must end with a newline."]
    recoverAfterBodyItem
    return (attr stop, ds ++ d)
  discard read
  return (attr stop, ds)

def singleAttributeBody (fuel : Nat) : ParseM (Option Body × Diags) := do
  let ident ← read
  if ident.kind != .ident then
    recoverAfterBodyItem
    return (none, [itemRequired ident.range false])
  let next ← peek
  match next.kind with
  | .equal =>
    let (a, d) ← finishAttribute fuel ident true
    return (some (.mk [a] [] a.range a.range.atStop), d)
  | .oQuote | .oBrace | .ident =>
    recoverAfterBodyItem
    return (none, [Diagnostic.at (Range.between ident.range next.range) "Argument definition required"
      ("A single-line block definition can contain only a single argument. If you meant to define argument " ++
        quote ident.str ++ ", use an equals sign to assign it a value. To define a nested block, place it on a line of its own within its parent block.")])
  | _ =>
    recoverAfterBodyItem
    return (none, [itemRequired ident.range true])

mutual
def parseBody : Nat → TokenKind → ParseM (Body × Diags)
  | 0, _ => do
    let r ← nextRange
    return (bodyOf [] [] r r, [])
  | fuel + 1, stop => do
    let start ← prevRange
    bodyItems fuel stop start [] [] []

def bodyItems : Nat → TokenKind → Range → List Attribute → List (BlockHead × Body) → Diags →
    ParseM (Body × Diags)
  | 0, _, start, attrs, blocks, ds => do
    return (bodyOf attrs blocks start (← prevRange), ds)
  | fuel + 1, stop, start, attrs, blocks, ds => do
    let next ← peek
    if next.kind == stop then
      discard read
      return (bodyOf attrs blocks start next.range, ds)
    match next.kind with
    | .newline =>
      discard read
      bodyItems fuel stop start attrs blocks ds
    | .ident =>
      let (item, d) ← parseBodyItem fuel
      let ds := ds ++ d
      match item with
      | some (.block h b) => bodyItems fuel stop start attrs (blocks ++ [(h, b)]) ds
      | some (.attribute a) =>
        match attrs.find? (·.name == a.name) with
        | some first =>
          bodyItems fuel stop start attrs blocks (ds ++ [Diagnostic.at a.nameRange "Attribute redefined"
            ("The argument " ++ quote a.name ++ " was already set at " ++ first.nameRange.text ++
              ". Each argument may be set only once.")])
        | none => bodyItems fuel stop start (attrs ++ [a]) blocks ds
      | none => bodyItems fuel stop start attrs blocks ds
    | _ =>
      let bad ← read
      let d := if ← recovering then []
        else match bad.kind with
          | .oQuote => [Diagnostic.at bad.range "Invalid argument name" "Argument names must not be quoted."]
          | .eof => [Diagnostic.at start "Unclosed configuration block"
              "There is no closing brace for this block before the end of the file. This may be caused by incorrect brace nesting elsewhere in this file."]
          | _ => [itemRequired bad.range false]
      let stopRange ← prevRange
      discard (recover stop)
      return (bodyOf attrs blocks start stopRange, ds ++ d)

def parseBodyItem : Nat → ParseM (Option Item × Diags)
  | 0 => do return (none, [])
  | fuel + 1 => do
    let ident ← read
    if ident.kind != .ident then
      recoverAfterBodyItem
      return (none, [itemRequired ident.range false])
    let next ← peek
    match next.kind with
    | .equal =>
      let (a, d) ← finishAttribute fuel ident false
      return (some (.attribute a), d)
    | .oQuote | .oBrace | .ident =>
      let (h, b, d) ← finishBlock fuel ident
      return (some (.block h b), d)
    | _ =>
      recoverAfterBodyItem
      return (none, [itemRequired ident.range true])

def finishBlock : Nat → Token → ParseM (BlockHead × Body × Diags)
  | 0, ident => do
    return (⟨ident.str, [], ident.range, [], ident.range, ident.range⟩,
      bodyOf [] [] ident.range ident.range, [])
  | fuel + 1, ident => do
    let (labels, oBrace?, ds) ← blockLabels fuel ident [] []
    match oBrace? with
    | none =>
      let ranges := labels.map (·.2)
      return (⟨ident.str, labels.map (·.1), ident.range, ranges, ident.range, ident.range⟩,
        .mk [] [] ident.range ident.range, ds)
    | some oBrace =>
      let next ← peek
      let (body?, d) ← match next.kind with
        | .newline | .eof | .cBrace => do
          let (b, d) ← parseBody fuel .cBrace
          pure (some b, d)
        | _ => do
          let (b, d) ← singleAttributeBody fuel
          let after ← peek
          if after.kind == .cBrace then
            discard read
            pure (b, d)
          else
            let c := singleLineProblem after (← recovering)
            discard (recover .cBrace)
            pure (b, c ++ d)
      let ds := ds ++ d
      let closeRange ← prevRange
      let eol ← peek
      let ds ← if eol.kind == .newline || eol.kind == .eof then do
          discard read
          pure ds
        else do
          let e := if ← recovering then []
            else [Diagnostic.at eol.range "Missing newline after block definition"
              "A block definition must end with a newline."]
          recoverAfterBodyItem
          pure (ds ++ e)
      let body := body?.getD (.mk [] [] (Range.between oBrace.range closeRange) closeRange)
      return (⟨ident.str, labels.map (·.1), ident.range, labels.map (·.2), oBrace.range, closeRange⟩,
        body, ds)

def blockLabels : Nat → Token → List (String × Range) → Diags →
    ParseM (List (String × Range) × Option Token × Diags)
  | 0, _, labels, ds => do return (labels, none, ds)
  | fuel + 1, ident, labels, ds => do
    let tok ← peek
    match tok.kind with
    | .oBrace =>
      let o ← read
      return (labels, some o, ds)
    | .oQuote =>
      let (label, r, d) ← quotedLabel
      blockLabels fuel ident (labels ++ [(label, r)]) (ds ++ d)
    | .ident =>
      let t ← read
      blockLabels fuel ident (labels ++ [(t.str, t.range)]) ds
    | _ =>
      let d := headerProblem tok (← recovering)
      recoverAfterBodyItem
      return (labels, none, ds ++ d)
end

def parseConfig (file text : String) : Body × Diags :=
  let tokens := scanTokens file text
  let charDiags := invalidTokens tokens.toList
  let ((b, ds), _) := (parseBody (parseFuel tokens) .eof).run { tokens }
  (b, charDiags ++ ds)

end TestRig.Hcl
