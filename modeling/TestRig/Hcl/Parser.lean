import TestRig.Hcl.Lexer
import TestRig.Hcl.Literal
import TestRig.Hcl.Template
import TestRig.Text.Distance

/-!
The expression parser of the configuration language, by recursive descent over the tokens.
Whether line breaks count is a stack: they end an attribute's expression, but inside
brackets, parentheses and interpolations they are skipped. Comments are always skipped, a
line comment standing for the line break that ends it.
-/

namespace TestRig.Hcl

open TestRig.Text

/-! ### The token reader -/

/-- The parser: the tokens, the index of the next one, whether line breaks count (innermost
first), and whether it is recovering from an error. -/
structure Parser where
  tokens : Array Token
  next : Nat := 0
  newlines : List Bool := [true]
  recovery : Bool := false
  deriving Inhabited

abbrev ParseM := StateM Parser

abbrev Diags := List Diagnostic

namespace Parser

def lastToken (p : Parser) : Token := p.tokens.back?.getD ⟨.eof, [], {}⟩

def countsNewlines (p : Parser) : Bool := p.newlines.headD true

def seek (p : Parser) : Nat → Nat → Token × Nat
  | 0, _ => (p.lastToken, p.tokens.size)
  | fuel + 1, i =>
    match p.tokens[i]? with
    | none => (p.lastToken, p.tokens.size)
    | some t =>
      match t.kind with
      | .comment =>
        if p.countsNewlines && t.text.getLast? == some '\n' then (⟨.newline, ['\n'], t.range⟩, i + 1)
        else seek p fuel (i + 1)
      | .newline => if p.countsNewlines then (t, i + 1) else seek p fuel (i + 1)
      | _ => (t, i + 1)

def upcoming (p : Parser) : Token × Nat := p.seek p.tokens.size p.next

end Parser

def peek : ParseM Token := do return (← get).upcoming.1

def read : ParseM Token := do
  let p ← get
  let (t, i) := p.upcoming
  set { p with next := i }
  return t

def nextRange : ParseM Range := do return (← peek).range

def prevRange : ParseM Range := do
  let p ← get
  if p.next == 0 then nextRange
  else return (p.tokens[p.next - 1]?.getD p.lastToken).range

def recovering : ParseM Bool := do return (← get).recovery

def setRecovery : ParseM Unit := modify fun p => { p with recovery := true }

def pushNewlines (b : Bool) : ParseM Unit := modify fun p => { p with newlines := b :: p.newlines }

def popNewlines : ParseM Unit := modify fun p => { p with newlines := p.newlines.drop 1 }

def opposite : TokenKind → Option TokenKind
  | .cBrace => some .oBrace
  | .cBrack => some .oBrack
  | .cParen => some .oParen
  | .cQuote => some .oQuote
  | .cHeredoc => some .oHeredoc
  | .templateSeqEnd => some .templateInterp
  | _ => none

def recover (stop : TokenKind) : ParseM Token := do
  setRecovery
  let start := opposite stop
  let fuel := (← get).tokens.size + 1
  let rec go : Nat → Nat → ParseM Token
    | 0, _ => read
    | fuel + 1, nest => do
      let tok ← read
      let kind := if stop == .templateSeqEnd && tok.kind == .templateControl then .templateInterp
        else tok.kind
      if some kind == start then go fuel (nest + 1)
      else if kind == stop then (if nest < 1 then pure tok else go fuel (nest - 1))
      else if kind == .eof then pure tok
      else go fuel nest
  go fuel 0

def recoverOver (start : TokenKind) : ParseM Unit := do
  let fuel := (← get).tokens.size + 1
  let rec find : Nat → ParseM Unit
    | 0 => pure ()
    | fuel + 1 => do
      let tok ← read
      if tok.kind == start || tok.kind == .eof then pure () else find fuel
  find fuel
  match start.closer with
  | some stop => discard (recover stop)
  | none => pure ()

def recoverAfterBodyItem : ParseM Unit := do
  setRecovery
  let fuel := (← get).tokens.size + 1
  let rec go : Nat → List TokenKind → ParseM Unit
    | 0, _ => pure ()
    | fuel + 1, openers => do
      let tok ← read
      match tok.kind with
      | .newline => if openers.isEmpty then pure () else go fuel openers
      | .eof => pure ()
      | .oBrace | .oBrack | .oParen | .oQuote | .oHeredoc | .templateInterp | .templateControl =>
        go fuel (tok.kind :: openers)
      | .cBrace | .cBrack | .cParen | .cQuote | .cHeredoc =>
        let opener := opposite tok.kind
        let rest := openers.dropWhile (fun k => some k != opener)
        go fuel (rest.drop 1)
      | .templateSeqEnd =>
        let rest := openers.dropWhile (fun k => k != .templateInterp && k != .templateControl)
        go fuel (rest.drop 1)
      | _ => go fuel openers
  go fuel []

/-! ### Helpers -/

def Token.str (t : Token) : String := String.ofList t.text

def Token.isKeyword (t : Token) (kw : String) : Bool := t.kind == .ident && t.str == kw

def addStep (e : Expr) (step : Step) (rng : Range) : Expr :=
  match e with
  | .scope root rr steps r => .scope root rr (steps ++ [step]) (Range.between r rng)
  | .relative src steps r => .relative src (steps ++ [step]) (Range.between r rng)
  | other => .relative other [step] (Range.between other.range rng)

def binaryOperator : Nat → TokenKind → Option BinOp
  | 0, .or => some .or
  | 1, .and => some .and
  | 2, .equalOp => some .eq
  | 2, .notEqual => some .ne
  | 3, .greaterThan => some .gt
  | 3, .greaterThanEq => some .ge
  | 3, .lessThan => some .lt
  | 3, .lessThanEq => some .le
  | 4, .plus => some .add
  | 4, .minus => some .sub
  | 5, .star => some .mul
  | 5, .slash => some .div
  | 5, .percent => some .mod
  | _, _ => none

def precedenceLevels : Nat := 6

def literalTemplateKey : Expr → Option Value
  | .template [.literal v _] _ => some v
  | _ => none

def legacyIndexProblem (tok : Token) (r : Range) (splat : Bool) : Diagnostic :=
  let first := tok.text.takeWhile (· != '.')
  let second := (tok.text.dropWhile (· != '.')).drop 1
  Diagnostic.at r "Invalid legacy index syntax"
    ("When using the legacy index syntax, chaining two indexes together is not permitted. " ++
      "Use the proper index syntax" ++ (if splat then " with a full splat expression [*]" else "") ++
      " instead, like [" ++ String.ofList first ++ "][" ++ String.ofList second ++ "].")

def flushes (t : Token) : Bool := t.kind == .oHeredoc && (t.text.drop 2).headD ' ' == '-'

def trimLastLiteral : List Piece → List Piece
  | p :: rest => trimRightPiece p :: rest
  | [] => []

/-! ### Expressions -/

mutual
def parseExpression : Nat → ParseM (Expr × Diags)
  | 0 => do return (.placeholder (← nextRange), [])
  | fuel + 1 => parseConditional fuel

def parseConditional : Nat → ParseM (Expr × Diags)
  | 0 => do return (.placeholder (← nextRange), [])
  | fuel + 1 => do
    let startRange ← nextRange
    let (cond, d1) ← parseBinary fuel 0
    if (← recovering) && !d1.isEmpty then return (cond, d1)
    if (← peek).kind != .question then return (cond, d1)
    discard read
    let (yes, d2) ← parseExpression fuel
    let ds := d1 ++ d2
    if (← recovering) && !d2.isEmpty then return (cond, ds)
    let colon ← peek
    if colon.kind != .colon then
      return (cond, ds ++ [Diagnostic.at colon.range "Missing false expression in conditional"
        "The conditional operator (...?...:...) requires a false expression, delimited by a colon."])
    discard read
    let (no, d3) ← parseExpression fuel
    let ds := ds ++ d3
    if (← recovering) && !d3.isEmpty then return (cond, ds)
    return (.conditional cond yes no (Range.between startRange no.range), ds)

def parseBinary : Nat → Nat → ParseM (Expr × Diags)
  | 0, _ => do return (.placeholder (← nextRange), [])
  | fuel + 1, level => do
    if level ≥ precedenceLevels then parseWithTraversals fuel
    else
      let (lhs, ds) ← parseBinary fuel (level + 1)
      if (← recovering) && !ds.isEmpty then return (lhs, ds)
      binaryChain fuel level lhs none ds

def binaryChain : Nat → Nat → Expr → Option (BinOp × Expr) → Diags → ParseM (Expr × Diags)
  | 0, _, lhs, _, ds => return (lhs, ds)
  | fuel + 1, level, lhs, pending, ds => do
    let next ← peek
    match binaryOperator level next.kind with
    | none =>
      match pending with
      | none => return (lhs, ds)
      | some (op, rhs) => return (.binary op lhs rhs (Range.between lhs.range rhs.range), ds)
    | some op =>
      let lhs := match pending with
        | none => lhs
        | some (op', rhs) => .binary op' lhs rhs (Range.between lhs.range rhs.range)
      discard read
      let (rhs, d) ← parseBinary fuel (level + 1)
      let ds := ds ++ d
      if (← recovering) && !d.isEmpty then return (lhs, ds)
      binaryChain fuel level lhs (some (op, rhs)) ds

def parseWithTraversals : Nat → ParseM (Expr × Diags)
  | 0 => do return (.placeholder (← nextRange), [])
  | fuel + 1 => do
    let (term, d) ← parseTerm fuel
    let (e, d') ← parseTraversals fuel term term []
    return (e, d ++ d')

def parseTraversals : Nat → Expr → Expr → Diags → ParseM (Expr × Diags)
  | 0, _, acc, ds => return (acc, ds)
  | fuel + 1, source, acc, ds => do
    let next ← peek
    match next.kind with
    | .dot =>
      let dot ← read
      let attrTok ← peek
      match attrTok.kind with
      | .ident =>
        discard read
        let rng := Range.between dot.range attrTok.range
        parseTraversals fuel source (addStep acc (.attr attrTok.str rng) rng) ds
      | .numberLit =>
        discard read
        let rng := Range.between dot.range attrTok.range
        if attrTok.text.contains '.' then
          parseTraversals fuel source (addStep acc (.index (.unknown .dynamic) rng) rng)
            (ds ++ [legacyIndexProblem attrTok attrTok.range false])
        else
          let (v, d) := numberLiteral attrTok
          parseTraversals fuel source (addStep acc (.index v rng) rng) (ds ++ d)
      | .star =>
        let marker ← read
        let firstRange ← nextRange
        match ← splatSteps fuel attrTok [] marker.range [] with
        | (none, d) => parseTraversals fuel source acc (ds ++ d)
        | (some (steps, lastRange), d) =>
          let item : Expr := .anon (Range.between dot.range marker.range)
          let each := if steps.isEmpty then item
            else .relative item steps (Range.between firstRange lastRange)
          parseTraversals fuel source
            (.splat acc each (Range.between source.range lastRange) (Range.between dot.range marker.range))
            (ds ++ d)
      | _ =>
        setRecovery
        parseTraversals fuel source acc (ds ++ [Diagnostic.at attrTok.range "Invalid attribute name"
          "An attribute name is required after a dot."])
    | .oBrack =>
      let openTok ← read
      if (← peek).kind == .star then
        discard read
        let close ← read
        let (close, d) ← if close.kind != .cBrack && !(← recovering) then do
            let c ← recover .cBrack
            pure (c, [Diagnostic.at close.range "Missing close bracket on splat index"
              "The star for a full splat operator must be immediately followed by a closing bracket (\"]\")."])
          else pure (close, [])
        let item : Expr := .anon (Range.between openTok.range close.range)
        let (each, d') ← parseTraversals fuel item item []
        parseTraversals fuel source
          (.splat acc each (Range.between source.range each.range) (Range.between openTok.range close.range))
          (ds ++ d ++ d')
      else
        pushNewlines false
        let (key, kd) ← parseExpression fuel
        let (close, cd) ← if (← recovering) && !kd.isEmpty then do
            let c ← recover .cBrack
            pure (c, [])
          else do
            let c ← read
            if c.kind != .cBrack && !(← recovering) then
              let c' ← recover .cBrack
              pure (c', [Diagnostic.at c.range "Missing close bracket on index"
                "The index operator must end with a closing bracket (\"]\")."])
            else pure (c, [])
        popNewlines
        let rng := Range.between openTok.range close.range
        let acc := match key with
          | .literal v _ => addStep acc (.index v rng) rng
          | _ => match literalTemplateKey key with
            | some v => addStep acc (.index v rng) rng
            | none => .index acc key (Range.between source.range rng) rng
        parseTraversals fuel source acc (ds ++ kd ++ cd)
    | _ => return (acc, ds)

def splatSteps : Nat → Token → List Step → Range → Diags →
    ParseM (Option (List Step × Range) × Diags)
  | 0, _, steps, last, ds => return (some (steps, last), ds)
  | fuel + 1, starTok, steps, last, ds => do
    if (← peek).kind != .dot then return (some (steps, last), ds)
    let dot ← read
    let t ← peek
    if t.kind == .numberLit then
      discard read
      let rng := Range.between dot.range t.range
      if t.text.contains '.' then
        splatSteps fuel starTok (steps ++ [.index (.unknown .dynamic) rng]) t.range
          (ds ++ [legacyIndexProblem t starTok.range true])
      else
        let (v, d) := numberLiteral t
        splatSteps fuel starTok (steps ++ [.index v rng]) t.range (ds ++ d)
    else if t.kind != .ident then
      let d := if (← recovering) then []
        else if t.kind == .star then [Diagnostic.at t.range "Nested splat expression not allowed"
          "A splat expression (*) cannot be used inside another attribute-only splat expression."]
        else [Diagnostic.at starTok.range "Invalid attribute name" "An attribute name is required after a dot."]
      setRecovery
      return (none, ds ++ d)
    else
      discard read
      splatSteps fuel starTok (steps ++ [.attr t.str (Range.between dot.range t.range)]) t.range ds

def parseTerm : Nat → ParseM (Expr × Diags)
  | 0 => do return (.placeholder (← nextRange), [])
  | fuel + 1 => do
    let start ← peek
    match start.kind with
    | .oParen =>
      discard read
      pushNewlines false
      let (e, ds) ← parseExpression fuel
      if !ds.isEmpty then
        discard (recover .cParen)
        popNewlines
        return (e, ds)
      let close ← peek
      let ds ← if close.kind != .cParen then do
          setRecovery
          pure [Diagnostic.at close.range "Unbalanced parentheses"
            "Expected a closing parenthesis to terminate the expression."]
        else pure []
      let cParen ← read
      popNewlines
      return (.parens e (Range.between start.range cParen.range), ds)
    | .numberLit =>
      discard read
      let (v, ds) := numberLiteral start
      return (.literal v start.range, ds)
    | .ident =>
      discard read
      let nk := (← peek).kind
      if nk == .oParen || nk == .doubleColon then finishCall fuel start
      else match start.str with
        | "true" => return (.literal (.bool true) start.range, [])
        | "false" => return (.literal (.bool false) start.range, [])
        | "null" => return (.literal (.null .dynamic) start.range, [])
        | name => return (.scope name start.range [] start.range, [])
    | .oQuote | .oHeredoc =>
      discard read
      let closer : TokenKind := if start.kind == .oQuote then .cQuote else .cHeredoc
      let (pieces, ds) ← templatePieces fuel closer
      let pieces := meldLiterals (if flushes start then flushHeredoc pieces else pieces)
      let (exprs, ds') := templateExprs (pieces.length + 1) pieces
      let closeRange ← prevRange
      let rng := Range.between start.range closeRange
      match pieces, exprs with
      | [.interp _ _, _], [e] => return (.wrap e rng, ds ++ ds')
      | _, _ => return (.template exprs rng, ds ++ ds')
    | .minus | .bang =>
      discard read
      let (operand, ds) ← parseWithTraversals fuel
      let op : UnOp := if start.kind == .minus then .neg else .not
      return (.unary op operand (Range.between start.range operand.range) start.range, ds)
    | .oBrack => parseTuple fuel
    | .oBrace => parseObject fuel
    | _ =>
      let ds := if (← recovering) then []
        else if start.kind == .eof then [Diagnostic.at start.range "Missing expression"
          "Expected the start of an expression, but found the end of the file."]
        else [Diagnostic.at start.range "Invalid expression"
          "Expected the start of an expression, but found an invalid expression token."]
      setRecovery
      return (.placeholder start.range, ds)

def finishCall : Nat → Token → ParseM (Expr × Diags)
  | 0, name => return (.placeholder name.range, [])
  | fuel + 1, name => do
    let (fullName, nameStop, openTok, ds) ← callName fuel name name.str name.range.stop
    match ds with
    | _ :: _ => return (.placeholder name.range, ds)
    | [] =>
      let nameRange : Range := { name.range with stop := nameStop }
      if openTok.kind != .oParen then
        recoverOver .oParen
        return (.placeholder (Range.between name.range openTok.range),
          [Diagnostic.at openTok.range "Missing open parenthesis"
            "Function selector must be followed by an open parenthesis to begin the function call."])
      pushNewlines false
      let (args, expandFinal, closeTok, ds) ← callArgs fuel name openTok [] []
      popNewlines
      return (.call fullName args expandFinal nameRange openTok.range closeTok.range, ds)

def callName : Nat → Token → String → Pos → ParseM (String × Pos × Token × Diags)
  | 0, _, s, p => do return (s, p, ← read, [])
  | fuel + 1, first, s, p => do
    let tok ← read
    if tok.kind != .doubleColon then return (s, p, tok, [])
    let part ← read
    if part.kind != .ident then
      recoverOver .oParen
      return (s, p, tok, [Diagnostic.at part.range "Missing function name"
        "Function scope resolution symbol :: must be followed by a function name in this scope."])
    callName fuel first (s ++ "::" ++ part.str) part.range.stop

def callArgs : Nat → Token → Token → List Expr → Diags → ParseM (List Expr × Bool × Token × Diags)
  | 0, _, openTok, args, ds => return (args, false, openTok, ds)
  | fuel + 1, name, openTok, args, ds => do
    let tok ← peek
    if tok.kind == .cParen then
      discard read
      return (args, false, tok, ds)
    let (arg, d) ← parseExpression fuel
    let args := args ++ [arg]
    let ds := ds ++ d
    if (← recovering) && !d.isEmpty then
      let t ← recover .cParen
      return (args, false, (if t.kind == .cParen then t else ⟨.eof, [], {}⟩), ds)
    let sep ← read
    if sep.kind == .cParen then return (args, false, sep, ds)
    if sep.kind == .ellipsis then
      if (← peek).kind != .cParen then
        let d := if (← recovering) then [] else [Diagnostic.at sep.range "Missing closing parenthesis"
          "An expanded function argument (with ...) must be immediately followed by closing parentheses."]
        let t ← recover .cParen
        return (args, true, t, ds ++ d)
      let t ← read
      return (args, true, t, ds)
    if sep.kind != .comma then
      let d := if sep.kind == .eof then
          [Diagnostic.at (Range.between name.range openTok.range) "Unterminated function call"
            "There is no closing parenthesis for this function call before the end of the file. This may be caused by incorrect parethesis nesting elsewhere in this file."]
        else [Diagnostic.at sep.range "Missing argument separator"
          "A comma is required to separate each function argument from the next."]
      let t ← recover .cParen
      return (args, false, t, ds ++ d)
    if (← peek).kind == .cParen then
      let t ← read
      return (args, false, t, ds)
    callArgs fuel name openTok args ds

def parseTuple : Nat → ParseM (Expr × Diags)
  | 0 => do return (.placeholder (← nextRange), [])
  | fuel + 1 => do
    let openTok ← read
    pushNewlines false
    let r ← if (← peek).isKeyword "for" then finishFor fuel openTok
      else do
        let (items, close, ds) ← tupleItems fuel openTok [] []
        pure (.tuple items (Range.between openTok.range close.range) openTok.range, ds)
    popNewlines
    return r

def tupleItems : Nat → Token → List Expr → Diags → ParseM (List Expr × Token × Diags)
  | 0, openTok, items, ds => return (items, openTok, ds)
  | fuel + 1, openTok, items, ds => do
    if (← peek).kind == .cBrack then
      let t ← read
      return (items, t, ds)
    let (e, d) ← parseExpression fuel
    let items := items ++ [e]
    let ds := ds ++ d
    if (← recovering) && !d.isEmpty then
      let t ← recover .cBrack
      return (items, t, ds)
    let next ← peek
    if next.kind == .cBrack then
      let t ← read
      return (items, t, ds)
    if next.kind != .comma then
      let d := if (← recovering) then []
        else if next.kind == .eof then [Diagnostic.at openTok.range
          "Unterminated tuple constructor expression"
          "There is no corresponding closing bracket before the end of the file. This may be caused by incorrect bracket nesting elsewhere in this file."]
        else [Diagnostic.at next.range "Missing comma after tuple element"
          "Expected a comma to mark the beginning of the next tuple element."]
      let t ← recover .cBrack
      return (items, t, ds ++ d)
    discard read
    tupleItems fuel openTok items ds

def parseObject : Nat → ParseM (Expr × Diags)
  | 0 => do return (.placeholder (← nextRange), [])
  | fuel + 1 => do
    let openTok ← read
    pushNewlines false
    let isFor := (← peek).isKeyword "for"
    popNewlines
    if isFor then
      pushNewlines false
      let r ← finishFor fuel openTok
      popNewlines
      return r
    pushNewlines true
    let (items, close, ds) ← objectItems fuel openTok [] []
    popNewlines
    return (.object items (Range.between openTok.range close.range) openTok.range, ds)

def objectItems : Nat → Token → List (Expr × Expr) → Diags → ParseM (List (Expr × Expr) × Token × Diags)
  | 0, openTok, items, ds => return (items, openTok, ds)
  | fuel + 1, openTok, items, ds => do
    let next ← peek
    if next.kind == .newline then
      discard read
      return ← objectItems fuel openTok items ds
    if next.kind == .cBrace then
      let t ← read
      return (items, t, ds)
    let forceNonLiteral := next.kind == .oParen
    let (key, kd) ← parseExpression fuel
    let ds := ds ++ kd
    if (← recovering) && !kd.isEmpty then
      let t ← recover .cBrace
      return (items, t, ds)
    let key : Expr := .objectKey key forceNonLiteral
    let next ← peek
    if next.kind != .equal && next.kind != .colon then
      let d := if (← recovering) then [] else match next.kind with
        | .newline | .comma => [Diagnostic.at next.range "Missing attribute value"
            "Expected an attribute value, introduced by an equals sign (\"=\")."]
        | .ident => [Diagnostic.at next.range "Missing key/value separator"
            "Expected an equals sign (\"=\") to mark the beginning of the attribute value. If you intended to given an attribute name containing periods or spaces, write the name in quotes to create a string literal."]
        | .eof => [Diagnostic.at openTok.range "Unterminated object constructor expression"
            "There is no corresponding closing brace before the end of the file. This may be caused by incorrect brace nesting elsewhere in this file."]
        | _ => [Diagnostic.at next.range "Missing key/value separator"
            "Expected an equals sign (\"=\") to mark the beginning of the attribute value."]
      let t ← recover .cBrace
      return (items, t, ds ++ d)
    discard read
    let (value, vd) ← parseExpression fuel
    let ds := ds ++ vd
    if (← recovering) && !vd.isEmpty then
      let t ← recover .cBrace
      return (items, t, ds)
    let items := items ++ [(key, value)]
    let next ← peek
    if next.kind == .cBrace then
      let t ← read
      return (items, t, ds)
    if next.kind != .comma && next.kind != .newline then
      let d := if (← recovering) then []
        else if next.kind == .eof then [Diagnostic.at openTok.range
          "Unterminated object constructor expression"
          "There is no corresponding closing brace before the end of the file. This may be caused by incorrect brace nesting elsewhere in this file."]
        else [Diagnostic.at next.range "Missing attribute separator"
          "Expected a newline or comma to mark the beginning of the next attribute."]
      let t ← recover .cBrace
      return (items, t, ds ++ d)
    discard read
    objectItems fuel openTok items ds

def finishFor : Nat → Token → ParseM (Expr × Diags)
  | 0, openTok => return (.placeholder openTok.range, [])
  | fuel + 1, openTok => do
    pushNewlines false
    let r ← forBodyExpr fuel openTok
    popNewlines
    return r

def forBodyExpr : Nat → Token → ParseM (Expr × Diags)
  | 0, openTok => return (.placeholder openTok.range, [])
  | fuel + 1, openTok => do
    discard read
    let makeObject := openTok.kind == .oBrace
    let closeKind : TokenKind := if makeObject then .cBrace else .cBrack
    let bail (ds : Diags) (detail : String) : ParseM (Expr × Diags) := do
      let t ← peek
      let d := if (← recovering) then [] else
        [Diagnostic.at t.range "Invalid 'for' expression" detail]
      let close ← recover closeKind
      return (.placeholder (Range.between openTok.range close.range), ds ++ d)
    if (← peek).kind != .ident then
      return ← bail [] "For expression requires variable name after 'for'."
    let first ← read
    let (keyVar, valVar) ← if (← peek).kind == .comma then do
        discard read
        if (← peek).kind != .ident then pure (some first.str, none)
        else do
          let v ← read
          pure (some first.str, some v.str)
      else pure (none, some first.str)
    match valVar with
    | none => bail [] "For expression requires value variable name after comma."
    | some valVar =>
      if !(← peek).isKeyword "in" then
        return ← bail [] "For expression requires the 'in' keyword after its name declarations."
      discard read
      let (coll, cd) ← parseExpression fuel
      if (← recovering) && !cd.isEmpty then
        let close ← recover closeKind
        return (.placeholder (Range.between openTok.range close.range), cd)
      if (← peek).kind != .colon then
        return ← bail cd "For expression requires a colon after the collection expression."
      discard read
      let (first, fd) ← parseExpression fuel
      let (keyExpr, kd, valExpr, vd) ← if (← peek).kind == .fatArrow then do
          discard read
          let (v, vd) ← parseExpression fuel
          pure (some first, fd, v, vd)
        else pure (none, [], first, fd)
      let ds := cd ++ kd ++ vd
      if (← recovering) && (!kd.isEmpty || !vd.isEmpty) then
        let close ← recover closeKind
        return (.placeholder (Range.between openTok.range close.range), ds)
      let (group, ellipsis) ← if (← peek).kind == .ellipsis then do
          let e ← read
          pure (true, e.range)
        else pure (false, {})
      let (condExpr, cnd) ← if (← peek).isKeyword "if" then do
          discard read
          let (c, cnd) ← parseExpression fuel
          pure (some c, cnd)
        else pure (none, [])
      let ds := ds ++ cnd
      if (← recovering) && !cnd.isEmpty then
        let close ← recover closeKind
        return (.placeholder (Range.between openTok.range close.range), ds)
      let next ← peek
      let (close, ds) ← if next.kind == closeKind then do
          let t ← read
          pure (t, ds)
        else do
          let d := if (← recovering) then [] else [Diagnostic.at next.range "Invalid 'for' expression"
            "Extra characters after the end of the 'for' expression."]
          let t ← recover closeKind
          pure (t, ds ++ d)
      let ds := if !makeObject then
          ds ++ (match keyExpr with
            | some k => [Diagnostic.at k.range "Invalid 'for' expression"
                "Key expression is not valid when building a tuple."]
            | none => []) ++
          (if group then [Diagnostic.at ellipsis "Invalid 'for' expression"
            "Grouping ellipsis (...) cannot be used when building a tuple."] else [])
        else if keyExpr.isNone then ds ++ [Diagnostic.at valExpr.range "Invalid 'for' expression"
            "Key expression is required when building an object."]
        else ds
      return (.forExpr keyVar valVar coll keyExpr valExpr condExpr group
        (Range.between openTok.range close.range) openTok.range, ds)

def templatePieces : Nat → TokenKind → ParseM (List Piece × Diags)
  | 0, _ => return ([.finish {}], [])
  | fuel + 1, stop => do
    let startRange ← nextRange
    let (pieces, endRange, ds) ← templateLoop fuel stop startRange [] false false []
    let pieces := if pieces.isEmpty then [.literal "" startRange.atStart] else pieces
    return (pieces ++ [.finish endRange], ds)

def templateLoop : Nat → TokenKind → Range → List Piece → Bool → Bool → Diags →
    ParseM (List Piece × Range × Diags)
  | 0, _, _, acc, _, _, ds => return (acc.reverse, {}, ds)
  | fuel + 1, stop, startRange, acc, ltrim, canTrim, ds => do
    let next ← read
    if next.kind == stop then return (acc.reverse, next.range, ds)
    let tildeOpen := canTrim && next.text.length == 3 && next.text.getLast? == some '~'
    match next.kind with
    | .stringLit | .quotedLit =>
      let (s, d) := stringLiteral next
      let p : Piece := .literal s next.range
      templateLoop fuel stop startRange ((if ltrim then trimLeftPiece p else p) :: acc) false true (ds ++ d)
    | .quotedNewline =>
      templateLoop fuel stop startRange acc false false (ds ++ [Diagnostic.at next.range
        "Invalid multi-line string"
        "Quoted strings may not be split over multiple lines. To produce a multi-line string, either use the \\n escape to represent a newline character or use the \"heredoc\" multi-line template syntax."])
    | .templateInterp =>
      let acc := if tildeOpen then trimLastLiteral acc else acc
      pushNewlines false
      let (e, ed) ← parseExpression fuel
      let close ← peek
      let (d, ltrim') ← if close.kind != .templateSeqEnd then do
          let d := if (← recovering) then [] else match close.kind with
            | .eof => [Diagnostic.at startRange "Unclosed template interpolation sequence"
                "There is no closing brace for this interpolation sequence before the end of the file. This might be caused by incorrect nesting inside the given expression."]
            | .colon => [Diagnostic.at close.range "Extra characters after interpolation expression"
                "Template interpolation doesn't expect a colon at this location. Did you intend this to be a literal sequence to be processed as part of another language? If so, you can escape it by starting with \"$$\x7b\" instead of just \"$\x7b\"."]
            | k =>
              if (k == .cQuote || k == .oQuote) && stop == .cQuote then
                [Diagnostic.at startRange "Unclosed template interpolation sequence"
                  "There is no closing brace for this interpolation sequence before the end of the quoted template. This might be caused by incorrect nesting inside the given expression."]
              else [Diagnostic.at close.range "Extra characters after interpolation expression"
                "Expected a closing brace to end the interpolation expression, but found extra characters.\n\nThis can happen when you include interpolation syntax for another language, such as shell scripting, but forget to escape the interpolation start token. If this is an embedded sequence for another language, escape it by starting with \"$$\x7b\" instead of just \"$\x7b\"."]
          discard (recover .templateSeqEnd)
          pure (d, false)
        else do
          discard read
          pure ([], close.text.length == 2 && close.text.headD ' ' == '~')
      popNewlines
      templateLoop fuel stop startRange (.interp e (Range.between next.range close.range) :: acc)
        ltrim' false (ds ++ ed ++ d)
    | .templateControl =>
      let acc := if tildeOpen then trimLastLiteral acc else acc
      pushNewlines false
      let kw ← peek
      if kw.kind != .ident then
        let d := if (← recovering) then [] else [Diagnostic.at kw.range "Invalid template directive"
          "A template directive keyword (\"if\", \"for\", etc) is expected at the beginning of a %\x7b sequence."]
        discard (recover .templateSeqEnd)
        popNewlines
        return ← templateLoop fuel stop startRange acc false false (ds ++ d)
      discard read
      let opened : Option (Option Piece × Diags) ← match kw.str with
        | "if" => do
          let (c, cd) ← parseExpression fuel
          pure (some (some (.ifOpen c (Range.between next.range (← nextRange))), cd))
        | "else" => do pure (some (some (.directiveEnd .else_ (Range.between next.range (← nextRange))), []))
        | "endif" => do pure (some (some (.directiveEnd .endif (Range.between next.range (← nextRange))), []))
        | "endfor" => do pure (some (some (.directiveEnd .endfor (Range.between next.range (← nextRange))), []))
        | "for" => forDirective fuel next
        | _ => pure none
      match opened with
      | none =>
        let d := if (← recovering) then [] else
          let given := kw.str
          let hint := match ["if", "for", "else", "endif", "endfor"].find? (fun s => editDistance given s < 3) with
            | some s => " Did you mean " ++ quote s ++ "?"
            | none => ""
          [Diagnostic.at kw.range "Invalid template control keyword"
            (quote given ++ " is not a valid template control keyword." ++ hint)]
        discard (recover .templateSeqEnd)
        popNewlines
        templateLoop fuel stop startRange acc false false (ds ++ d)
      | some (none, d) =>
        popNewlines
        templateLoop fuel stop startRange acc false false (ds ++ d)
      | some (some piece, d) =>
        let close ← peek
        let (d', ltrim') ← if close.kind != .templateSeqEnd then do
            let d' := if (← recovering) then [] else [Diagnostic.at close.range
              ("Extra characters in " ++ kw.str ++ " marker")
              "Expected a closing brace to end the sequence, but found extra characters."]
            discard (recover .templateSeqEnd)
            pure (d', false)
          else do
            discard read
            pure ([], close.text.length == 2 && close.text.headD ' ' == '~')
        popNewlines
        templateLoop fuel stop startRange (piece :: acc) ltrim' false (ds ++ d ++ d')
    | _ =>
      let d := if (← recovering) then [] else if next.kind == .eof then
          [Diagnostic.at next.range "Unterminated template string" "No closing marker was found for the string."]
        else [Diagnostic.at next.range "Unexpected token in template"
          "This token is not valid inside a template."]
      discard (recover stop)
      return (acc.reverse, ⟨"", ⟨0, 0, 0⟩, ⟨0, 0, 0⟩⟩, ds ++ d)

def forDirective : Nat → Token → ParseM (Option (Option Piece × Diags))
  | 0, _ => return some (none, [])
  | fuel + 1, next => do
    let fail (detail : String) : ParseM (Option (Option Piece × Diags)) := do
      let t ← peek
      let d := if (← recovering) then [] else [Diagnostic.at t.range "Invalid 'for' directive" detail]
      discard (recover .templateSeqEnd)
      return some (none, d)
    if (← peek).kind != .ident then return ← fail "For directive requires variable name after 'for'."
    let first ← read
    let names ← if (← peek).kind == .comma then do
        discard read
        if (← peek).kind != .ident then pure none
        else do
          let v ← read
          pure (some (some first.str, v.str))
      else pure (some (none, first.str))
    match names with
    | none => fail "For directive requires value variable name after comma."
    | some (keyVar, valVar) =>
      if !(← peek).isKeyword "in" then return ← fail "For directive requires 'in' keyword after names."
      discard read
      let (coll, cd) ← parseExpression fuel
      return some (some (.forOpen keyVar valVar coll (Range.between next.range (← nextRange))), cd)
end

/-! ### Entry points -/

def parseFuel (tokens : Array Token) : Nat := 24 * tokens.size + 64

def parseExpressionText (file text : String) : Expr × Diags :=
  let tokens := scanTokens file text
  let charDiags := invalidTokens tokens.toList
  let run : ParseM (Expr × Diags) := do
    pushNewlines false
    let (e, ds) ← parseExpression (parseFuel tokens)
    let next ← peek
    let extra := if next.kind != .eof && !(← recovering) then
        [Diagnostic.at next.range "Extra characters after expression"
          "An expression was successfully parsed, but extra characters were found after it."]
      else []
    popNewlines
    return (e, ds ++ extra)
  let ((e, ds), _) := run.run { tokens }
  (e, charDiags ++ ds)

end TestRig.Hcl
