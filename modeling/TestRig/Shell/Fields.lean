import TestRig.Shell.Syntax

/-!
Words expand into fields. Each field keeps two texts: what it says, and the same as a pattern,
in which every character that came from quoted text is escaped with a backslash, so that
pathname expansion and the pattern operators treat only unquoted `*`, `?` and `[` as
wildcards.

Quoted text and the text of the word itself join the field being built.
-/

namespace TestRig.Shell

/-- A field: its text, its text as a pattern, and whether an unquoted `*`, `?` or `[` is in it. -/
structure Field where
  text : String := ""
  pattern : String := ""
  globbed : Bool := false
  deriving Inhabited, Repr

def isPatternChar (c : Char) : Bool := c == '*' || c == '?' || c == '['

def escapePattern (s : String) : String :=
  String.ofList (s.toList.flatMap fun c => ['\\', c])

def Field.addQuoted (f : Field) (s : String) : Field :=
  { f with text := f.text ++ s, pattern := f.pattern ++ escapePattern s }

def Field.addPlain (f : Field) (s : String) : Field :=
  { text := f.text ++ s, pattern := f.pattern ++ s, globbed := f.globbed || s.any isPatternChar }

structure Fields where
  done : List Field := []
  current : Option Field := none
  delimited : Bool := true
  emptyQuotes : Bool := false
  deriving Inhabited

def Fields.quotedEmpty (f : Fields) : Fields :=
  if f.current.isSome then f else { f with emptyQuotes := true }

def Fields.add (f : Fields) (s : String) (quoted : Bool := true) : Fields :=
  let cur := f.current.getD {}
  { f with current := some (if quoted then cur.addQuoted s else cur.addPlain s), delimited := false }

def Fields.cut (f : Fields) : Fields :=
  match f.current with
  | some c => { f with done := f.done ++ [c], current := none, emptyQuotes := false }
  | none => if f.emptyQuotes then { f with done := f.done ++ [{}], emptyQuotes := false } else f

def separators (ifs : Option String) : String := ifs.getD " \t\n"

def isBlankSeparator (c : Char) : Bool := c == ' ' || c == '\t' || c == '\n'

def Fields.addSplit (f : Fields) (ifs : Option String) (s : String) : Fields :=
  let seps := separators ifs
  if seps.isEmpty then (if s.isEmpty then f else f.add s false)
  else s.foldl (fun f c =>
    if seps.contains c then
      if isBlankSeparator c then f.cut
      else
        match f.current with
        | some _ => { f.cut with delimited := true }
        | none =>
          if f.delimited then { f with done := f.done ++ [{}], delimited := true }
          else { f with delimited := true }
    else f.add (String.singleton c) false) f

def Fields.addEach (f : Fields) : List String → Fields
  | [] => { f with emptyQuotes := false }
  | [a] => f.add a
  | a :: rest => (f.add a).cut.addEach rest

def Fields.addSplitEach (f : Fields) (ifs : Option String) : List String → Fields
  | [] => f
  | [a] => f.addSplit ifs a
  | a :: rest => (f.addSplit ifs a).cut.addSplitEach ifs rest

def Fields.all (f : Fields) : List Field :=
  f.done ++ match f.current with
    | some c => [c]
    | none => if f.emptyQuotes then [{}] else []

def Fields.texts (f : Fields) : List String := f.all.map (·.text)

def Fields.joined (f : Fields) : String := " ".intercalate f.texts

def Fields.joinedPattern (f : Fields) : String := " ".intercalate (f.all.map (·.pattern))

/-! ### Brace expansion -/

/-- A piece of a word for brace expansion: a character of unquoted text, or any other part. -/
inductive BraceAtom where
  | ch (c : Char)
  | part (p : Part)
  deriving Inhabited

def braceAtoms (w : Word) : List BraceAtom :=
  w.flatMap fun
    | .text s false => s.toList.map .ch
    | p => [.part p]

def wordOfAtoms (as : List BraceAtom) : Word :=
  as.map fun
    | .ch c => .text (String.singleton c) false
    | .part p => p

def BraceAtom.is (a : BraceAtom) (c : Char) : Bool :=
  match a with
  | .ch d => c == d
  | .part _ => false

def atomsText? (as : List BraceAtom) : Option String :=
  as.foldlM (fun acc a => match a with
    | .ch c => some (acc.push c)
    | .part _ => none) ""

def braceGroup : Nat → Nat → List BraceAtom → List BraceAtom → List (List BraceAtom) →
    Option (List (List BraceAtom) × List BraceAtom)
  | 0, _, _, _, _ => none
  | _, _, [], _, _ => none
  | fuel + 1, depth, a :: rest, cur, items =>
    if a.is '}' && depth == 0 then some ((items ++ [cur.reverse]), rest)
    else if a.is ',' && depth == 0 then braceGroup fuel depth rest [] (items ++ [cur.reverse])
    else if a.is '{' then braceGroup fuel (depth + 1) rest (a :: cur) items
    else if a.is '}' then braceGroup fuel (depth - 1) rest (a :: cur) items
    else braceGroup fuel depth rest (a :: cur) items

def readSignedInt (s : String) : Option Int :=
  match s.toList with
  | '-' :: ds => if !ds.isEmpty && ds.all Char.isDigit then some (-(String.ofList ds).toNat! : Int) else none
  | '+' :: ds => if !ds.isEmpty && ds.all Char.isDigit then some (String.ofList ds).toNat! else none
  | ds => if !ds.isEmpty && ds.all Char.isDigit then some (String.ofList ds).toNat! else none

def braceSequence (body : String) : Option (List String) :=
  let parts := body.splitOn ".."
  let (lo, hi, stepText) := match parts with
    | [a, b] => (a, b, none)
    | [a, b, c] => (a, b, some c)
    | _ => ("", "", none)
  let step? : Option Int := match stepText with
    | some t => readSignedInt t
    | none => some 1
  match step?, readSignedInt lo, readSignedInt hi with
  | some step, some a, some b =>
    let stepN := max 1 step.natAbs
    let count := (a - b).natAbs / stepN + 1
    let values := (List.range count).map fun (k : Nat) =>
      if a ≤ b then a + (k * stepN : Nat) else a - (k * stepN : Nat)
    let padded := (lo.startsWith "0" && lo.length > 1) || (lo.startsWith "-0") ||
      (hi.startsWith "0" && hi.length > 1) || (hi.startsWith "-0")
    let width := max lo.length hi.length
    some (values.map fun v =>
      let digits := toString v.natAbs
      let sign := if v < 0 then "-" else ""
      if padded then
        let fill := width - sign.length - digits.length
        sign ++ String.ofList (List.replicate fill '0') ++ digits
      else sign ++ digits)
  | some step, none, none =>
    match lo.toList, hi.toList with
    | [x], [y] =>
      let stepN := max 1 step.natAbs
      let (a, b) := (x.toNat, y.toNat)
      let count := (if a ≤ b then b - a else a - b) / stepN + 1
      some ((List.range count).map fun k =>
        String.singleton (Char.ofNat (if a ≤ b then a + k * stepN else a - k * stepN)))
    | _, _ => none
  | _, _, _ => none

def sequenceAtoms (s : String) : List BraceAtom :=
  if s == "\\" then [.part (.text "" true)] else s.toList.map .ch

def braceExpandAtoms : Nat → List BraceAtom → List (List BraceAtom)
  | 0, as => [as]
  | fuel + 1, as =>
    let rec find : Nat → List BraceAtom → List BraceAtom → Option (List BraceAtom × List (List BraceAtom) × List BraceAtom)
      | 0, _, _ => none
      | _, [], _ => none
      | k + 1, a :: rest, pre =>
        if a.is '{' then
          match braceGroup (rest.length + 1) 0 rest [] [] with
          | some (items, post) =>
            if items.length > 1 then some (pre.reverse, items, post)
            else match items.head?.bind atomsText? with
              | some body => match braceSequence body with
                | some seq => some (pre.reverse, seq.map sequenceAtoms, post)
                | none => find k rest (a :: pre)
              | none => find k rest (a :: pre)
          | none => find k rest (a :: pre)
        else find k rest (a :: pre)
    match find (as.length + 1) as [] with
    | some (pre, items, post) => items.flatMap fun item => braceExpandAtoms fuel (pre ++ item ++ post)
    | none => [as]

def braceExpand (w : Word) : List Word :=
  let as := braceAtoms w
  if !as.any (·.is '{') then [w]
  else (braceExpandAtoms (as.length + 1) as).map wordOfAtoms

end TestRig.Shell
