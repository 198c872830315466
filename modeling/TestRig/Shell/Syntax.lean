/-!
The syntax of shell scripts, as far as build tools use them, and how words are read.

A script is a list of and-or lists, each a list of pipelines joined by `&&` and `||`, and
separated by `;`, `&` or line breaks; a pipeline is commands joined by `|`, its status negated
after a leading `!`.
-/

namespace TestRig.Shell

/-! ### Syntax -/

inductive Part where
  | text (s : String) (quoted : Bool)
  | param (name : String) (quoted : Bool)
  | subst (script : String) (quoted : Bool)
  | arith (expr : String) (quoted : Bool)
  | items (body : String)
  | procSubst (script : String)
  deriving Repr, Inhabited

abbrev Word := List Part

def Word.literal? (w : Word) : Option String :=
  w.foldlM (fun acc p => match p with
    | .text s false => some (acc ++ s)
    | _ => none) ""

inductive RedirectKind where
  | write
  | clobber
  | append
  | read
  | dup
  | heredoc (body : String) (expand : Bool) (delim : String)
  | herestring
  deriving DecidableEq, Repr, Inhabited

/-- A redirection of a descriptor to a target, with the target as it was written (for a
here-document, what follows its `<<`. -/
structure Redirect where
  fd : Nat
  kind : RedirectKind
  target : Word
  shown : String := ""
  deriving Repr, Inhabited

/-- A simple command: its words, with each word as it was written, its redirections, and the
line it starts on. -/
structure Simple where
  words : List Word := []
  redirects : List Redirect := []
  line : Nat := 1
  texts : List String := []
  deriving Repr, Inhabited

inductive Joint where
  | always
  | ifSuccess
  | ifFailure
  deriving DecidableEq, Repr, Inhabited

inductive CondExpr where
  | word (w : Word)
  | unary (op : String) (w : Word)
  | binary (op : String) (a b : Word)
  | not (e : CondExpr)
  | and (a b : CondExpr)
  | or (a b : CondExpr)
  deriving Repr, Inhabited

/-- How an arm of a `case` ends: `;;` leaves the `case`, `;&` runs the next arm's body as well,
and `;;&` goes on testing the arms after it. -/
inductive ArmEnd where
  | leave
  | fallThrough
  | testNext
  deriving DecidableEq, Repr, Inhabited

mutual

inductive Command where
  | simple (s : Simple)
  | group (body : List Step) (redirects : List Redirect)
  | subshell (body : List Step) (redirects : List Redirect)
  | ifThen (branches : List (List Step × List Step)) (otherwise : List Step) (redirects : List Redirect)
  | loop (untilHolds : Bool) (cond body : List Step) (redirects : List Redirect)
  | forIn (name : String) (words : Option (List Word)) (body : List Step) (redirects : List Redirect)
      (shown : String)
  | select (name : String) (words : Option (List Word)) (body : List Step) (redirects : List Redirect)
      (shown : String)
  | caseOf (subject : Word) (arms : List (List Word × List Step × ArmEnd)) (redirects : List Redirect)
      (shown : List String)
  | function (name : String) (body : Command)
  | arith (expr : String) (line : Nat) (redirects : List Redirect)
  | cond (e : CondExpr) (line : Nat) (redirects : List Redirect) (shown : String)
  | forArith (start test step : String) (body : List Step) (redirects : List Redirect)
  | timed (posix : Bool) (body : List Step)

/-- A pipeline with how it joins the one before, whether its status is negated, and whether
it ends an and-or list that `&` sends to the background. -/
inductive Step where
  | mk (joint : Joint) (negate : Bool) (pipeline : List Command) (background : Bool)

end

instance : Inhabited Command := ⟨.simple {}⟩

instance : Inhabited Step := ⟨.mk .always false [] false⟩

def Step.joint : Step → Joint
  | .mk j _ _ _ => j

def Step.negate : Step → Bool
  | .mk _ n _ _ => n

def Step.pipeline : Step → List Command
  | .mk _ _ cs _ => cs

def Step.background : Step → Bool
  | .mk _ _ _ b => b

def markBackground (steps : List Step) : List Step :=
  match steps.reverse with
  | .mk j n cs _ :: before => (.mk j n cs true :: before).reverse
  | [] => []

abbrev Script := List Step

/-! ### Reading words -/

def isDelimiter (c : Char) : Bool :=
  c == ' ' || c == '\t' || c == '\n' || c == ';' || c == '&' || c == '|' || c == '<' || c == '>' ||
  c == '(' || c == ')'

def isNameStart (c : Char) : Bool := c.isAlpha || c == '_'

def isNameChar (c : Char) : Bool := c.isAlphanum || c == '_'

def substBody : Nat → Nat → List Char → List Char → Option (List Char × List Char)
  | 0, _, _, _ => none
  | _, _, [], _ => none
  | fuel + 1, depth, c :: rest, acc =>
    match c with
    | ')' => if depth == 0 then some (acc.reverse, rest) else substBody fuel (depth - 1) rest (c :: acc)
    | '(' => substBody fuel (depth + 1) rest (c :: acc)
    | '\\' => match rest with
      | d :: r => substBody fuel depth r (d :: c :: acc)
      | [] => none
    | '\x27' =>
      let inner := rest.takeWhile (· != '\x27')
      let after := rest.drop inner.length
      match after with
      | q :: r => substBody fuel depth r (q :: inner.reverse ++ c :: acc)
      | [] => none
    | '"' =>
      let (inner, after) := quotedSpan rest []
      match after with
      | q :: r => substBody fuel depth r (q :: inner.reverse ++ c :: acc)
      | [] => none
    | _ => substBody fuel depth rest (c :: acc)
where
  quotedSpan : List Char → List Char → List Char × List Char
    | [], acc => (acc.reverse, [])
    | '"' :: r, acc => (acc.reverse, '"' :: r)
    | '\\' :: d :: r, acc => quotedSpan r (d :: '\\' :: acc)
    | c :: r, acc => quotedSpan r (c :: acc)

def braceBody : Nat → Nat → List Char → List Char → Option (List Char × List Char)
  | 0, _, _, _ => none
  | _, _, [], _ => none
  | fuel + 1, depth, c :: rest, acc =>
    match c, rest with
    | '}', _ => if depth == 0 then some (acc.reverse, rest) else braceBody fuel (depth - 1) rest (c :: acc)
    | '$', '{' :: r => braceBody fuel (depth + 1) r ('{' :: c :: acc)
    | '\\', d :: r => braceBody fuel depth r (d :: c :: acc)
    | '\x27', _ =>
      let inner := rest.takeWhile (· != '\x27')
      match rest.drop inner.length with
      | q :: r => braceBody fuel depth r (q :: inner.reverse ++ c :: acc)
      | [] => none
    | '"', _ =>
      let (inner, after) := substBody.quotedSpan rest []
      match after with
      | q :: r => braceBody fuel depth r (q :: inner.reverse ++ c :: acc)
      | [] => none
    | _, _ => braceBody fuel depth rest (c :: acc)

def bracketBody : Nat → Nat → List Char → List Char → Option (List Char × List Char)
  | 0, _, _, _ => none
  | _, _, [], _ => none
  | fuel + 1, depth, c :: rest, acc =>
    if c == ']' then (if depth == 0 then some (acc.reverse, rest) else bracketBody fuel (depth - 1) rest (c :: acc))
    else if c == '[' then bracketBody fuel (depth + 1) rest (c :: acc)
    else bracketBody fuel depth rest (c :: acc)

def codePointChars (v : Nat) : List Char :=
  if v ≤ 0x7f then [Char.ofNat v]
  else if v > 0x7fffffff then []
  else
    let width := if v < 0x10000 then 4 else 8
    let ds := (Nat.toDigits 16 v).map Char.toUpper
    '\\' :: (if v < 0x10000 then 'u' else 'U') :: (List.replicate (width - ds.length) '0' ++ ds)

def ansiText : Nat → List Char → List Char → Option (List Char × List Char)
  | 0, _, _ => none
  | _, [], _ => none
  | _ + 1, '\x27' :: rest, acc => some (acc.reverse.takeWhile (· != Char.ofNat 0), rest)
  | fuel + 1, '\\' :: rest, acc =>
    let hexRun (n : Nat) (r : List Char) : Nat × List Char :=
      let ds := (r.take n).takeWhile fun c => c.isDigit || ('a' ≤ c && c ≤ 'f') || ('A' ≤ c && c ≤ 'F')
      (ds.foldl (fun v c => v * 16 + (if c.isDigit then c.toNat - 48 else if c ≤ 'F' then c.toNat - 55 else c.toNat - 87)) 0,
       r.drop ds.length)
    match rest with
    | 'a' :: r => ansiText fuel r (Char.ofNat 7 :: acc)
    | 'b' :: r => ansiText fuel r (Char.ofNat 8 :: acc)
    | 'e' :: r | 'E' :: r => ansiText fuel r (Char.ofNat 27 :: acc)
    | 'f' :: r => ansiText fuel r (Char.ofNat 12 :: acc)
    | 'n' :: r => ansiText fuel r ('\n' :: acc)
    | 'r' :: r => ansiText fuel r ('\r' :: acc)
    | 't' :: r => ansiText fuel r ('\t' :: acc)
    | 'v' :: r => ansiText fuel r (Char.ofNat 11 :: acc)
    | 'c' :: x :: r => ansiText fuel r (Char.ofNat (x.toUpper.toNat % 32) :: acc)
    | 'x' :: r =>
      let (v, r') := hexRun 2 r
      if r'.length == r.length then ansiText fuel r ('x' :: '\\' :: acc)
      else ansiText fuel r' (Char.ofNat v :: acc)
    | 'u' :: r =>
      let (v, r') := hexRun 4 r
      if r'.length == r.length then ansiText fuel r ('u' :: '\\' :: acc)
      else ansiText fuel r' ((codePointChars v).reverse ++ acc)
    | 'U' :: r =>
      let (v, r') := hexRun 8 r
      if r'.length == r.length then ansiText fuel r ('U' :: '\\' :: acc)
      else ansiText fuel r' ((codePointChars v).reverse ++ acc)
    | d :: r =>
      if '0' ≤ d && d ≤ '7' then
        let ds := ((d :: r).take 3).takeWhile fun c => '0' ≤ c && c ≤ '7'
        let v := ds.foldl (fun v c => v * 8 + (c.toNat - 48)) 0
        ansiText fuel ((d :: r).drop ds.length) (Char.ofNat (v % 256) :: acc)
      else if d == '\\' || d == '\x27' || d == '"' || d == '?' then ansiText fuel r (d :: acc)
      else ansiText fuel r (d :: '\\' :: acc)
    | [] => none
  | fuel + 1, c :: rest, acc => ansiText fuel rest (c :: acc)

def readDollar (quoted : Bool) (cs : List Char) (bash : Bool := false) : Except String (Part × List Char) :=
  let ansi := bash
  match cs with
  | '[' :: rest =>
    match (if bash then bracketBody (rest.length + 1) 0 rest [] else none) with
    | some (body, after) => .ok (.arith (String.ofList body) quoted, after)
    | none =>
      if bash then .error "unexpected EOF while looking for matching `]'"
      else .ok (.text "$" quoted, cs)
  | '(' :: '(' :: rest =>
    match substBody (rest.length + 1) 0 rest [] with
    | some (body, ')' :: after) => .ok (.arith (String.ofList body) quoted, after)
    | _ =>
      match substBody (rest.length + 2) 0 ('(' :: rest) [] with
      | some (body, after) => .ok (.subst (String.ofList body) quoted, after)
      | none => .error "unexpected EOF while looking for matching `)'"
  | '(' :: rest =>
    match substBody (rest.length + 1) 0 rest [] with
    | some (body, after) => .ok (.subst (String.ofList body) quoted, after)
    | none => .error "unexpected EOF while looking for matching `)'"
  | '{' :: rest =>
    match braceBody (rest.length + 1) 0 rest [] with
    | some (body, after) => .ok (.param (String.ofList body) quoted, after)
    | none => .error "unexpected EOF while looking for matching `\x7d'"
  | '\x27' :: rest =>
    if ansi && !quoted then
      match ansiText (rest.length + 1) rest [] with
      | some (text, after) => .ok (.text (String.ofList text) true, after)
      | none => .error "unexpected EOF while looking for matching `''"
    else .ok (.text "$" quoted, cs)
  | '"' :: _ =>
    -- a string to translate, which the C locale leaves as it is
    if ansi && !quoted then .ok (.text "" true, cs) else .ok (.text "$" quoted, cs)
  | c :: rest =>
    if c.isDigit || c == '$' || c == '?' || c == '#' || c == '@' || c == '*' || c == '!' || c == '-' then
      .ok (.param (String.singleton c) quoted, rest)
    else if isNameStart c then
      let name := c :: rest.takeWhile isNameChar
      .ok (.param (String.ofList name) quoted, cs.drop name.length)
    else .ok (.text "$" quoted, cs)
  | [] => .ok (.text "$" quoted, [])

def backquoteBody (inDouble : Bool) : List Char → List Char → Option (List Char × List Char)
  | [], _ => none
  | '\x60' :: rest, acc => some (acc.reverse, rest)
  | '\\' :: d :: rest, acc =>
    if d == '$' || d == '\x60' || d == '\\' || (inDouble && d == '"') then backquoteBody inDouble rest (d :: acc)
    else backquoteBody inDouble rest (d :: '\\' :: acc)
  | c :: rest, acc => backquoteBody inDouble rest (c :: acc)

def readBackquote (quoted inDouble : Bool) (cs : List Char) : Except String (Part × List Char) :=
  match backquoteBody inDouble cs [] with
  | some (body, rest) => .ok (.subst (String.ofList body) quoted, rest)
  | none => .error "unexpected EOF while looking for matching ``'"

def readDouble (bash : Bool) : Nat → List Char → List Part → Except String (List Part × List Char)
  | 0, _, _ => .error "unexpected EOF while looking for matching `\"'"
  | _, [], _ => .error "unexpected EOF while looking for matching `\"'"
  | fuel + 1, c :: rest, acc =>
    match c with
    | '"' => .ok (acc.reverse, rest)
    | '\\' => match rest with
      | d :: r =>
        if d == '$' || d == '\x60' || d == '"' || d == '\\' then readDouble bash fuel r (.text (String.singleton d) true :: acc)
        else if d == '\n' then readDouble bash fuel r acc
        else readDouble bash fuel r (.text (String.ofList ['\\', d]) true :: acc)
      | [] => .error "unexpected EOF while looking for matching `\"'"
    | '$' => do
      let (p, r) ← readDollar true rest bash
      readDouble bash fuel r (p :: acc)
    | '\x60' => do
      let (p, r) ← readBackquote true true rest
      readDouble bash fuel r (p :: acc)
    | _ => readDouble bash fuel rest (.text (String.singleton c) true :: acc)

def readWord (bash : Bool) : Nat → List Char → List Part → Except String (Word × List Char)
  | 0, cs, acc => .ok (acc.reverse, cs)
  | _, [], acc => .ok (acc.reverse, [])
  | fuel + 1, c :: rest, acc =>
    if bash && c == '<' && rest.head? == some '(' then
      match substBody rest.length 0 (rest.drop 1) [] with
      | some (body, r) => readWord bash fuel r (.procSubst (String.ofList body) :: acc)
      | none => .error "unexpected EOF while looking for matching `)'"
    else if bash && "@?*+!".contains c && rest.head? == some '(' &&
        (substBody rest.length 0 (rest.drop 1) []).isSome then
      match substBody rest.length 0 (rest.drop 1) [] with
      | some (body, r) => readWord bash fuel r (.text (String.ofList (c :: '(' :: body ++ [')'])) false :: acc)
      | none => .ok (acc.reverse, c :: rest)
    else if isDelimiter c then .ok (acc.reverse, c :: rest)
    else match c with
      | '\x27' =>
        let inner := rest.takeWhile (· != '\x27')
        match rest.drop inner.length with
        | _ :: after => readWord bash fuel after (.text (String.ofList inner) true :: acc)
        | [] => .error "unexpected EOF while looking for matching `''"
      | '"' => do
        let (parts, after) ← readDouble bash (rest.length + 1) rest []
        readWord bash fuel after (parts.reverse ++ .text "" true :: acc)
      | '\\' => match rest with
        | '\n' :: r => readWord bash fuel r acc
        | d :: r => readWord bash fuel r (.text (String.singleton d) true :: acc)
        | [] => readWord bash fuel [] (.text "\\" false :: acc)
      | '$' => do
        let (p, r) ← readDollar false rest bash
        readWord bash fuel r (p :: acc)
      | '\x60' => do
        let (p, r) ← readBackquote false false rest
        readWord bash fuel r (p :: acc)
      | _ => readWord bash fuel rest (.text (String.singleton c) false :: acc)

def escapeSubscriptBlanks : Nat → Nat → List Char → Option (List Char)
  | 0, _, _ => none
  | _, _, [] => none
  | n + 1, depth, c :: rest =>
    if c == '[' then (c :: ·) <$> escapeSubscriptBlanks n (depth + 1) rest
    else if c == ']' then
      if depth ≤ 1 then some (c :: rest) else (c :: ·) <$> escapeSubscriptBlanks n (depth - 1) rest
    else if c == ' ' || c == '\t' then ('\\' :: c :: ·) <$> escapeSubscriptBlanks n depth rest
    else if c == '\\' then
      match rest with
      | d :: more => ([c, d] ++ ·) <$> escapeSubscriptBlanks n depth more
      | [] => none
    else if c == '"' || c == '\x27' then
      let quoted := rest.takeWhile (· != c)
      let more := rest.drop (quoted.length + 1)
      if quoted.length == rest.length then none
      else ((c :: quoted ++ [c]) ++ ·) <$> escapeSubscriptBlanks n depth more
    else (c :: ·) <$> escapeSubscriptBlanks n depth rest

def itemPieces (bash : Bool) (body : String) : List (Word × String) :=
  go (2 * body.length + 1) body.toList []
where
  go : Nat → List Char → List (Word × String) → List (Word × String)
    | 0, _, acc => acc.reverse
    | _, [], acc => acc.reverse
    | n + 1, c :: rest, acc =>
      let rest := if c == '[' && bash then
        (escapeSubscriptBlanks (rest.length + 1) 1 rest).getD rest else rest
      if c == ' ' || c == '\t' || c == '\n' then go n rest acc
      else if c == '#' then go n (rest.dropWhile (· != '\n')) acc
      else match readWord bash (rest.length + 2) (c :: rest) [] with
        | .ok ([], _) => go n rest acc
        | .ok (w, r) => go n r ((w, String.ofList ((c :: rest).take (rest.length + 1 - r.length))) :: acc)
        | .error _ => acc.reverse

def itemWords (bash : Bool) (body : String) : List Word := (itemPieces bash body).map (·.1)

def itemsText (bash : Bool) (body : String) : String :=
  "(" ++ " ".intercalate ((itemPieces bash body).map (·.2)) ++ ")"

def heredocParts (bash : Bool) : Nat → List Char → List Part → Except String (List Part)
  | 0, _, acc => .ok acc.reverse
  | _, [], acc => .ok acc.reverse
  | fuel + 1, c :: rest, acc =>
    match c with
    | '\\' => match rest with
      | d :: r =>
        if d == '$' || d == '\x60' || d == '\\' then heredocParts bash fuel r (.text (String.singleton d) true :: acc)
        else if d == '\n' then heredocParts bash fuel r acc
        else heredocParts bash fuel r (.text (String.ofList ['\\', d]) true :: acc)
      | [] => .ok (.text "\\" true :: acc).reverse
    | '$' => do
      let (p, r) ← readDollar true rest bash
      heredocParts bash fuel r (p :: acc)
    | '\x60' => do
      let (p, r) ← readBackquote true false rest
      heredocParts bash fuel r (p :: acc)
    | _ => heredocParts bash fuel rest (.text (String.singleton c) true :: acc)

end TestRig.Shell
