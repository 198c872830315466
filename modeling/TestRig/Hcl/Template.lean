import TestRig.Hcl.Syntax
import TestRig.Text.Blank

/-!
String templates, from their pieces to an expression. The parser reads a template as a flat
list of pieces: literal text, interpolations, the openings of `if` and `for` directives, their
`else`, `endif` and `endfor`, and a last piece marking the end. Neighbouring literals are
joined; a heredoc opened with `<<-` first loses the indentation common to its lines.
-/

namespace TestRig.Hcl

open TestRig.Text

/-- The directives that end or divide a directive. -/
inductive DirectiveEnd where
  | else_
  | endif
  | endfor
  deriving DecidableEq, Repr, Inhabited

def DirectiveEnd.name : DirectiveEnd → String
  | .else_ => "else"
  | .endif => "endif"
  | .endfor => "endfor"

/-- A piece of a template as the parser reads it. -/
inductive Piece where
  | literal (text : String) (range : Range)
  | interp (expr : Expr) (range : Range)
  | ifOpen (cond : Expr) (range : Range)
  | forOpen (keyVar : Option String) (valVar : String) (coll : Expr) (range : Range)
  | directiveEnd (kind : DirectiveEnd) (range : Range)
  | finish (range : Range)
  deriving Repr, Inhabited

def Expr.placeholder (r : Range) : Expr := .literal (.unknown .dynamic) r

/-! ### Literal text -/

def meldLiterals : List Piece → List Piece
  | .literal a ra :: .literal b rb :: rest => meldLiterals (.literal (a ++ b) { ra with stop := rb.stop } :: rest)
  | p :: rest => p :: meldLiterals rest
  | [] => []
termination_by ps => ps.length

def trimLeftPiece : Piece → Piece
  | .literal s r => .literal (String.ofList (s.toList.dropWhile isBlank)) r
  | p => p

def trimRightPiece : Piece → Piece
  | .literal s r => .literal (String.ofList ((s.toList.reverse.dropWhile isBlank).reverse)) r
  | p => p

def lineIndents : List Piece → Bool → List Nat
  | [], _ => []
  | .finish _ :: _, _ => []
  | p :: rest, lineStart =>
    let here : List Nat :=
      if !lineStart then []
      else match p with
        | .literal s _ =>
          let cs := s.toList
          let lead := cs.takeWhile isBlank
          if lead.length == cs.length && cs.getLast? == some '\n' then [] else [lead.length]
        | _ => [0]
    let nextStart := match p with
      | .literal s _ => s.toList.getLast? == some '\n'
      | _ => false
    here ++ lineIndents rest nextStart

def flushHeredoc (ps : List Piece) : List Piece :=
  match lineIndents ps true with
  | [] => ps
  | i :: is =>
    let least := is.foldl min i
    go ps true least
where
  go : List Piece → Bool → Nat → List Piece
    | [], _, _ => []
    | p :: rest, lineStart, n =>
      let nextStart := match p with
        | .literal s _ => s.toList.getLast? == some '\n'
        | _ => false
      let p' := match p, lineStart with
        | .literal s r, true =>
          let cs := s.toList
          let lead := cs.takeWhile isBlank
          if lead.length == cs.length && cs.getLast? == some '\n' then p
          else
            let k := min n lead.length
            .literal (String.ofList (cs.drop k))
              { r with start := { r.start with column := r.start.column + k,
                                                byte := r.start.byte + k } }
        | _, _ => p
      p' :: go rest nextStart n

/-! ### Nesting directives -/

def templateOf (parts : List Expr) (empty : Range) : Expr :=
  let parts := if parts.isEmpty then [.literal (.str "") empty] else parts
  .template parts (Range.between (parts.headD (.placeholder empty)).range
    (parts.getLastD (.placeholder empty)).range)

mutual
def pieceExpr : Nat → List Piece → Expr × List Piece × List Diagnostic
  | 0, ps => (.placeholder {}, ps, [])
  | fuel + 1, ps =>
    match ps with
    | [] => (.placeholder {}, [], [])
    | .literal s r :: rest => (.literal (.str (Text.nfc s)) r, rest, [])
    | .interp e _ :: rest => (e, rest, [])
    | .ifOpen c r :: rest => ifBody fuel r c rest [] [] false []
    | .forOpen k v c r :: rest => forBody fuel r k v c rest [] []
    | .finish r :: rest => (.placeholder r, .finish r :: rest, [Diagnostic.at r
        "Unexpected end of template" "The control directives within this template are unbalanced."])
    | .directiveEnd k r :: rest => (.placeholder r, rest, [Diagnostic.at r
        ("Unexpected " ++ k.name ++ " directive") "The control directives within this template are unbalanced."])

def ifBody : Nat → Range → Expr → List Piece → List Expr → List Expr → Bool → List Diagnostic →
    Expr × List Piece × List Diagnostic
  | 0, openRange, _, ps, _, _, _, ds => (.placeholder openRange, ps, ds)
  | fuel + 1, openRange, cond, ps, yes, no, inElse, ds =>
    match ps with
    | .finish r :: _ => (.placeholder r, ps, ds ++ [Diagnostic.at r "Unexpected end of template"
        ("The if directive at " ++ openRange.text ++ " is missing its corresponding endif directive.")])
    | .directiveEnd .else_ r :: rest =>
      if !inElse then ifBody fuel openRange cond rest yes no true ds
      else (.placeholder r, rest, ds ++ [Diagnostic.at r "Unexpected else directive"
        ("Already in the else clause for the if started at " ++ openRange.text ++ ".")])
    | .directiveEnd .endif r :: rest =>
      (.conditional cond (templateOf yes.reverse openRange.atStop) (templateOf no.reverse r.atStart)
        (Range.between openRange r), rest, ds)
    | .directiveEnd .endfor r :: rest => (.placeholder r, rest, ds ++ [Diagnostic.at r
        "Unexpected endfor directive"
        ("Expecting an endif directive for the if started at " ++ openRange.text ++ ".")])
    | _ =>
      let (e, rest, d) := pieceExpr fuel ps
      if inElse then ifBody fuel openRange cond rest yes (e :: no) inElse (ds ++ d)
      else ifBody fuel openRange cond rest (e :: yes) no inElse (ds ++ d)

def forBody : Nat → Range → Option String → String → Expr → List Piece → List Expr →
    List Diagnostic → Expr × List Piece × List Diagnostic
  | 0, openRange, _, _, _, ps, _, ds => (.placeholder openRange, ps, ds)
  | fuel + 1, openRange, k, v, coll, ps, content, ds =>
    match ps with
    | .finish r :: _ => (.placeholder r, ps, ds ++ [Diagnostic.at r "Unexpected end of template"
        ("The for directive at " ++ openRange.text ++ " is missing its corresponding endfor directive.")])
    | .directiveEnd .else_ r :: rest => (.placeholder r, rest, ds ++ [Diagnostic.at r
        "Unexpected else directive" "An else clause is not expected for a for directive."])
    | .directiveEnd .endfor r :: rest =>
      (.join (.forExpr k v coll none (templateOf content.reverse openRange.atStop) none false
        (Range.between openRange r) openRange), rest, ds)
    | .directiveEnd .endif r :: rest => (.placeholder r, rest, ds ++ [Diagnostic.at r
        "Unexpected endif directive"
        ("Expecting an endfor directive corresponding to the for directive at " ++ openRange.text ++ ".")])
    | _ =>
      let (e, rest, d) := pieceExpr fuel ps
      forBody fuel openRange k v coll rest (e :: content) (ds ++ d)
end

def templateExprs : Nat → List Piece → List Expr × List Diagnostic
  | 0, _ => ([], [])
  | _, [] => ([], [])
  | _, .finish _ :: _ => ([], [])
  | fuel + 1, ps =>
    let (e, rest, d) := pieceExpr (2 * ps.length + 2) ps
    let (es, d') := templateExprs fuel rest
    (e :: es, d ++ d')

end TestRig.Hcl
