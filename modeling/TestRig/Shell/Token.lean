import TestRig.Shell.Syntax
import TestRig.Text.Chars

/-!
The tokens of a shell script: words, redirections and operators, each with the line it starts
on. Blanks separate tokens, and a `#` where a token could start begins a comment to the end of
the line. A here-document's text is taken out of the script where it stands, on the lines after
its operator, and goes with its redirection; the lines it took still count for the lines of the
tokens after it.
-/

namespace TestRig.Shell

/-- A token of a conditional expression: a word, or one of `&&`, `||`, `!`, `(`, `)`, `<`, `>`. -/
inductive CondToken where
  | word (w : Word)
  | op (s : String)
  deriving Repr, Inhabited

inductive Token where
  | word (w : Word)
  | redirect (r : Redirect)
  | op (s : String)
  | arith (expr : String)
  | cond (items : List CondToken) (shown : String)
  deriving Repr, Inhabited

/-- A token, the line it starts on, and a word as it was written. -/
structure Lexeme where
  token : Token
  line : Nat
  source : String := ""
  deriving Repr, Inhabited

def skipBlanks (cs : List Char) : List Char := cs.dropWhile fun c => c == ' ' || c == '\t'

def lineBreaks (cs : List Char) : Nat := (cs.filter (· == '\n')).length

def unexpectedAt (cs : List Char) : String :=
  match cs with
  | [] | '\n' :: _ => "newline"
  | _ =>
    match ["&&", "||", ";;", ">>", "<<", ";", "&", "|", "(", ")", "<", ">"].find? fun o => Text.startsWith cs o.toList with
    | some o => o
    | none => String.ofList (cs.takeWhile fun c => !isDelimiter c)

def passedText (cs rest : List Char) : String := String.ofList (cs.take (cs.length - rest.length))

def redirectTarget (bash : Bool) (cs : List Char) : Except String (Word × List Char) := do
  let cs := skipBlanks cs
  let (w, rest) ← readWord bash (cs.length + 1) cs []
  if w.isEmpty then throw ("syntax error near unexpected token `" ++ unexpectedAt rest ++ "'")
  -- digits right before `<` or `>` name a descriptor: they start another redirection
  match w.literal?, rest.head? with
  | some t, some c =>
    if (c == '<' || c == '>') && !t.isEmpty && t.all Char.isDigit then
      throw (if bash then "syntax error near unexpected token `" ++ t ++ "'" else "redirection unexpected")
    else return (w, rest)
  | _, _ => return (w, rest)

def heredocBody (delim : String) (stripTabs closeLast : Bool) :
    Nat → List Char → List Char → Nat → List Char × List Char × Nat × Bool
  | 0, _, acc, n => (acc, [], n, false)
  | _, [], acc, n => (acc, [], n, false)
  | fuel + 1, cs, acc, n =>
    let line := cs.takeWhile (· != '\n')
    let broken := line.length < cs.length
    let rest := cs.drop (line.length + 1)
    let line := if stripTabs then line.dropWhile (· == '\t') else line
    if String.ofList line == delim then (acc, rest, n + 1, true)
    else heredocBody delim stripTabs closeLast fuel rest
      (acc ++ line ++ (if broken || closeLast then ['\n'] else [])) (n + 1)

def readHeredoc (bash : Bool) (fd : Nat) (cs : List Char) :
    Except String (Redirect × List Char × Nat × Option String) := do
  let (stripTabs, cs) := match cs with
    | '-' :: r => (true, r)
    | r => (false, r)
  let cs := skipBlanks cs
  let (w, rest) ← readWord bash (cs.length + 1) cs []
  if w.isEmpty then throw "syntax error near unexpected token `newline'"
  let delim : String := String.join (w.map fun
    | .text s _ => s
    | .param name _ => "$" ++ name
    | .subst script _ => "$(" ++ script ++ ")"
    | .arith e _ => "$((" ++ e ++ "))"
    | .items body => "(" ++ body ++ ")"
    | .procSubst script => "<(" ++ script ++ ")")
  let quoted := w.any fun
    | .text _ q => q
    | _ => false
  let line := rest.takeWhile (· != '\n')
  let after := rest.drop (line.length + 1)
  let (body, afterBody, taken, closed) := heredocBody delim stripTabs bash (after.length + 1) after [] 0
  let next := if line.length < rest.length then line ++ '\n' :: afterBody else line
  let header := (if stripTabs then "-" else "") ++
    (if quoted then "'" ++ "'\\''".intercalate (delim.splitOn "'") ++ "'" else delim)
  return ({ fd, kind := .heredoc (String.ofList body) (!quoted) delim, target := [], shown := header },
    next, taken, if closed then none else some delim)

def readRedirect (bash : Bool) (fd : Option Nat) (cs : List Char) :
    Except String (List Redirect × List Char × Nat × Option String) :=
  let target (rest : List Char) (kind : RedirectKind) (dflt : Nat) := do
    let (w, r) ← redirectTarget bash rest
    return ([{ fd := fd.getD dflt, kind, target := w, shown := passedText (skipBlanks rest) r }], r, 0, none)
  match cs with
  | '<' :: '<' :: '<' :: rest => if bash then target rest .herestring 0 else .error "syntax error"
  | '<' :: '<' :: rest => do
    let (r, next, taken, unclosed) ← readHeredoc bash (fd.getD 0) rest
    return ([r], next, taken, unclosed)
  | '>' :: '>' :: rest => target rest .append 1
  | '>' :: '&' :: rest => target rest .dup 1
  | '>' :: '|' :: rest => target rest .clobber 1
  | '>' :: rest => target rest .write 1
  | '<' :: '&' :: rest => target rest .dup 0
  | '<' :: rest => target rest .read 0
  | _ => .error "syntax error"

def Part.isPatternGroup : Part → Bool
  | .text s false =>
    match s.toList with
    | c :: '(' :: _ => "@?*+!".contains c
    | _ => false
  | _ => false

/-- The tokens read from a script: all of them, or those before the first that does not read,
with what is wrong with it and the line it starts on. -/
structure Tokens where
  lexemes : List Lexeme
  failure : Option (String × Nat) := none
  unclosed : List (Nat × Nat × String) := []
  deriving Inhabited

def operatorTexts : List String := [";;", "&&", "||", ";", "|", "(", ")"]

def commandLeaders : List String :=
  ["then", "do", "else", "elif", "if", "while", "until", "!", "\x7b", "for", "time"]

def arithBody : Nat → Nat → List Char → List Char → Option (List Char × List Char)
  | 0, _, _, _ => none
  | _, _, [], _ => none
  | fuel + 1, depth, c :: rest, acc =>
    match c, rest with
    | ')', ')' :: r => if depth == 0 then some (acc.reverse, r) else arithBody fuel (depth - 1) rest (c :: acc)
    | ')', _ => if depth == 0 then none else arithBody fuel (depth - 1) rest (c :: acc)
    | '(', _ => arithBody fuel (depth + 1) rest (c :: acc)
    | _, _ => arithBody fuel depth rest (c :: acc)

def regexOpenAtEnd : String :=
  "unexpected EOF while looking for matching `)'\nunexpected argument to conditional binary operator"

def regexWord (bash : Bool) : Nat → Nat → List Char → List Part → Except String (Word × List Char)
  | 0, _, cs, acc => .ok (acc.reverse, cs)
  | _, depth, [], acc => if depth > 0 then .error regexOpenAtEnd else .ok (acc.reverse, [])
  | fuel + 1, depth, c :: rest, acc =>
    let plain (d : Nat) := regexWord bash fuel d rest (.text (String.singleton c) false :: acc)
    if depth == 0 && (c == ' ' || c == '\t' || c == '\n' || c == ';') then .ok (acc.reverse, c :: rest)
    else if depth == 0 && c == '&' && rest.head? == some '&' then .ok (acc.reverse, c :: rest)
    else match c with
      | '(' => plain (depth + 1)
      | ')' => if depth == 0 then .ok (acc.reverse, c :: rest) else plain (depth - 1)
      | '\x27' =>
        let inner := rest.takeWhile (· != '\x27')
        match rest.drop inner.length with
        | _ :: after => regexWord bash fuel depth after (.text (String.ofList inner) true :: acc)
        | [] => .error "unexpected EOF while looking for matching `''"
      | '"' => do
        let (parts, after) ← readDouble bash (rest.length + 1) rest []
        regexWord bash fuel depth after (parts.reverse ++ .text "" true :: acc)
      | '\\' => match rest with
        | d :: r => regexWord bash fuel depth r (.text (String.singleton d) true :: acc)
        | [] => plain depth
      | '$' => do
        let (p, r) ← readDollar false rest bash
        regexWord bash fuel depth r (p :: acc)
      | _ => plain depth

def condTokens (bash : Bool) : Nat → List Char → Nat → List CondToken → List String →
    Except String (List CondToken × List String × List Char × Nat)
  | 0, _, _, _, _ => .error "unexpected EOF while looking for `]]'"
  | fuel + 1, cs, lines, acc, shown =>
    let cs' := skipBlanks cs
    let op (o : String) (r : List Char) := condTokens bash fuel r lines (.op o :: acc) (o :: shown)
    match cs' with
    | [] => .error "unexpected EOF while looking for `]]'"
    | '\n' :: r => condTokens bash fuel r (lines + 1) acc shown
    | '\\' :: '\n' :: r => condTokens bash fuel r (lines + 1) acc shown
    | '&' :: '&' :: r => op "&&" r
    | '|' :: '|' :: r => op "||" r
    | '(' :: r => op "(" r
    | ')' :: r => op ")" r
    | '<' :: r => op "<" r
    | '>' :: r => op ">" r
    | c :: _ =>
      if c == ';' || c == '&' || c == '|' then .error ("syntax error in conditional expression: unexpected token `" ++ String.singleton c ++ "'")
      else do
        let (w, r) ← readWord bash (cs'.length + 1) cs' []
        let lines := lines + lineBreaks (cs'.take (cs'.length - r.length))
        let text := passedText cs' r
        match w.literal? with
        | some "]]" => return (acc.reverse, shown.reverse, r, lines)
        | some "!" => condTokens bash fuel r lines (.op "!" :: acc) ("!" :: shown)
        | some "=~" =>
          let r := skipBlanks r
          let (re, r2) ← regexWord bash (r.length + 1) 0 r []
          condTokens bash fuel r2 (lines + lineBreaks (r.take (r.length - r2.length)))
            (.word re :: .word w :: acc) (passedText r r2 :: text :: shown)
        | _ => condTokens bash fuel r lines (.word w :: acc) (text :: shown)

def isAssignmentLead (w : Word) : Bool :=
  match w.literal? with
  | some t =>
    let cs := t.toList.reverse
    let body := match cs with
      | '=' :: '+' :: r => r.reverse
      | '=' :: r => r.reverse
      | _ => []
    match body with
    | c :: rest => isNameStart c && rest.all isNameChar
    | [] => false
  | none => false

def tokenize (bash extglob : Bool) : Nat → Nat → Nat → Bool → List Char → List Lexeme → Tokens
  | 0, _, _, _, _, acc => { lexemes := acc.reverse }
  | fuel + 1, line, skip, start, cs, acc =>
    let lex (t : Token) : Lexeme := { token := t, line }
    let stop (msg : String) : Tokens := { lexemes := acc.reverse, failure := some (msg, line) }
    let cs := skipBlanks cs
    let arithCommand : Option (List Char × List Char) := match cs with
      | '(' :: '(' :: rest => if bash && start then arithBody (rest.length + 1) 0 rest [] else none
      | _ => none
    match arithCommand with
    | some (body, rest) =>
      tokenize bash extglob fuel (line + lineBreaks body) skip false rest (lex (.arith (String.ofList body)) :: acc)
    | none =>
    match cs with
    | [] => { lexemes := acc.reverse }
    | '#' :: rest => tokenize bash extglob fuel line skip start (rest.dropWhile (· != '\n')) acc
    | '\\' :: '\n' :: rest => tokenize bash extglob fuel (line + 1) skip start rest acc
    | '\n' :: rest => tokenize bash extglob fuel (line + 1 + skip) 0 true rest (lex (.op "\n") :: acc)
    | '|' :: '&' :: rest =>
      tokenize bash extglob fuel line skip true rest
        (lex (.op "|") :: lex (.redirect { fd := 2, kind := .dup, target := [.text "1" false], shown := "1" }) :: acc)
    | '&' :: '>' :: rest =>
      let (kind, rest) := match rest with
        | '>' :: r => (RedirectKind.append, r)
        | r => (RedirectKind.write, r)
      match redirectTarget bash rest with
      | .ok (w, r) =>
        tokenize bash extglob fuel line skip start r
          (lex (.redirect { fd := 2, kind := .dup, target := [.text "1" false] }) ::
            lex (.redirect { fd := 1, kind, target := w, shown := passedText (skipBlanks rest) r }) :: acc)
      | .error msg => stop msg
    | '&' :: '&' :: rest => tokenize bash extglob fuel line skip true rest (lex (.op "&&") :: acc)
    | '&' :: rest => tokenize bash extglob fuel line skip true rest (lex (.op "&") :: acc)
    | ';' :: ';' :: '&' :: rest =>
      if bash then tokenize bash extglob fuel line skip true rest (lex (.op ";;&") :: acc)
      else tokenize bash extglob fuel line skip true ('&' :: rest) (lex (.op ";;") :: acc)
    | ';' :: '&' :: rest =>
      if bash then tokenize bash extglob fuel line skip true rest (lex (.op ";&") :: acc)
      else tokenize bash extglob fuel line skip true ('&' :: rest) (lex (.op ";") :: acc)
    | cs@(c :: _) =>
      match operatorTexts.find? fun o => Text.startsWith cs o.toList with
      | some o => tokenize bash extglob fuel line skip true (cs.drop o.length) (lex (.op o) :: acc)
      | none =>
        let digits := cs.takeWhile Char.isDigit
        let afterDigits := cs.drop digits.length
        let redirectAt : Option (Option Nat × List Char) :=
          if c == '<' && bash && (cs.drop 1).head? == some '(' then none
          else if c == '>' || c == '<' then some (none, cs)
          else match afterDigits with
            | d :: _ => if !digits.isEmpty && (d == '>' || d == '<') then some (some (String.ofList digits).toNat!, afterDigits) else none
            | [] => none
        match redirectAt with
        | some (fd, opText) =>
          match readRedirect bash fd opText with
          | .ok (rs, r, taken, unclosed) =>
            let after := tokenize bash extglob fuel line (skip + taken) start r
              ((rs.map fun x => lex (.redirect x)).reverse ++ acc)
            match unclosed with
            | some delim => { after with unclosed := (acc.length, line + skip, delim) :: after.unclosed }
            | none => after
          | .error msg => stop msg
        | none =>
          match readWord bash (cs.length + 1) cs [] with
          | .ok (w, r) =>
            let lines (r : List Char) := line + lineBreaks (cs.take (cs.length - r.length))
            let opensCond := bash && start && w.literal? == some "[[" &&
              (r.isEmpty || r.head? == some ' ' || r.head? == some '\t' || r.head? == some '\n')
            if opensCond then
              match condTokens bash (r.length + 1) r 0 [] [] with
              | .ok (items, shown, r2, passed) =>
                tokenize bash extglob fuel (line + passed) skip false r2 (lex (.cond items (" ".intercalate shown)) :: acc)
              | .error msg => stop msg
            else if bash && isAssignmentLead w && r.head? == some '(' then
              match substBody (r.length + 1) 0 (r.drop 1) [] with
              | some (body, r2) =>
                tokenize bash extglob fuel (lines r2) skip start r2
                  ({ lex (.word (w ++ [.items (String.ofList body)])) with
                     source := passedText cs r ++ itemsText bash (String.ofList body) } :: acc)
              | none => stop "unexpected EOF while looking for matching `)'"
            else if bash && !extglob && w.any Part.isPatternGroup then
              stop "syntax error near unexpected token `('"
            else
              let leads := match w.literal? with
                | some t => commandLeaders.contains t
                | none => false
              tokenize bash extglob fuel (lines r) skip (start && leads) r ({ lex (.word w) with source := passedText cs r } :: acc)
          | .error msg => stop msg

def lex (bash extglob : Bool) (text : String) : Tokens :=
  tokenize bash extglob (text.length + 1) 1 0 true text.toList []

end TestRig.Shell
