import TestRig.Shell.Token

/-!
Reading scripts from their tokens by recursive descent. A script is read one complete command
at a time, each ending at a line break outside any compound command, so that a shell can run
the commands before one that does not parse, as shells do. A syntax error names the token it
met, or the end of the script, and the line.
-/

namespace TestRig.Shell

structure SyntaxError where
  message : String
  line : Nat
  left : Nat := 0
  lightMessage : Option String := none
  deriving Repr, Inhabited

abbrev Parse := ReaderT Bool (StateT (List Lexeme × Nat) (Except SyntaxError))

def forBash : Parse Bool := read

def peekLexeme : Parse (Option Lexeme) := do return (← get).1.head?

def advance : Parse Unit := modify fun (ts, line) =>
  match ts with
  | t :: rest => (rest, t.line)
  | [] => ([], line)

def Lexeme.isOp (l : Lexeme) (o : String) : Bool :=
  match l.token with
  | .op x => x == o
  | _ => false

def Lexeme.keyword? (l : Lexeme) : Option String :=
  match l.token with
  | .word w => w.literal?
  | _ => none

def Token.shown : Token → String
  | .op "\n" => "newline"
  | .op o => o
  | .word w => String.join (w.map fun
    | .text s _ => s
    | .param name _ => "$" ++ name
    | .subst script _ => "$(" ++ script ++ ")"
    | .arith e _ => "$((" ++ e ++ "))"
    | .items body => "(" ++ body ++ ")"
    | .procSubst script => "<(" ++ script ++ ")")
  | .redirect r => match r.kind with
    | .write => ">"
    | .clobber => ">|"
    | .append => ">>"
    | .read => "<"
    | .dup => ">&"
    | .heredoc _ _ _ => "<<"
    | .herestring => "<<<"
  | .arith e => "((" ++ e ++ "))"
  | .cond _ _ => "[["

def lightKeywords : List String :=
  ["!", "case", "do", "done", "elif", "else", "esac", "fi", "for", "if", "in", "then", "until",
   "while", "\x7b", "\x7d"]

def Token.lightName : Token → String
  | .op "\n" => "newline"
  | .op o => "\"" ++ o ++ "\""
  | .word w => match w.literal? with
    | some t => if lightKeywords.contains t then "\"" ++ t ++ "\"" else "word"
    | none => "word"
  | .redirect _ => "redirection"
  | .arith _ => "\"(\""
  | .cond _ _ => "word"

def unexpectedFor (expecting : Option String) : Parse α := do
  let tail := match expecting with
    | some e => " (expecting " ++ e ++ ")"
    | none => ""
  match ← peekLexeme with
  | some l => throw { message := "syntax error near unexpected token `" ++ l.token.shown ++ "'",
                      line := l.line, left := (← get).1.length,
                      lightMessage := some (l.token.lightName ++ " unexpected" ++ tail) }
  | none => throw { message := "syntax error: unexpected end of file", line := (← get).2,
                    lightMessage := some ("end of file unexpected" ++ tail) }

def unexpected : Parse α := unexpectedFor none

def compoundStarts : List String := ["\x7b", "if", "while", "until", "for", "case", "select"]

def expectCompound : Parse Unit := do
  match ← peekLexeme with
  | some l =>
    let compound := l.isOp "(" || (l.keyword?.any compoundStarts.contains) || match l.token with
      | .arith _ | .cond _ _ => true
      | _ => false
    if !compound then unexpected
  | none => pure ()

def atStop (stops : List String) : Parse Bool := do
  match ← peekLexeme with
  | some l => return (l.keyword?.any stops.contains) || stops.any l.isOp
  | none => return false

def skipNewlines : Parse Unit := modify fun (ts, line) =>
  let dropped := ts.takeWhile (·.isOp "\n")
  (ts.drop dropped.length, (dropped.getLast?.map (·.line)).getD line)

def expectKeyword (kw : String) : Parse Unit := do
  if ← atStop [kw] then advance else unexpectedFor (some ("\"" ++ kw ++ "\""))

def expectOp (o : String) : Parse Unit := do
  match ← peekLexeme with
  | some l => if l.isOp o then advance else unexpectedFor (some ("\"" ++ o ++ "\""))
  | none => unexpectedFor (some ("\"" ++ o ++ "\""))

def readRedirects : Parse (List Redirect) := do
  let (ts, line) ← get
  let rs := ts.takeWhile fun l => match l.token with
    | .redirect _ => true
    | _ => false
  set (ts.drop rs.length, (rs.getLast?.map (·.line)).getD line)
  return rs.filterMap fun l => match l.token with
    | .redirect r => some r
    | _ => none

def readSimple : Parse Simple := do
  let (ts, line) ← get
  let parts := ts.takeWhile fun l => match l.token with
    | .word _ | .redirect _ => true
    | _ => false
  if parts.isEmpty then unexpected
  set (ts.drop parts.length, (parts.getLast?.map (·.line)).getD line)
  return { words := parts.filterMap (fun l => match l.token with
             | .word w => some w
             | _ => none),
           texts := parts.filterMap (fun l => match l.token with
             | .word _ => some l.source
             | _ => none),
           redirects := parts.filterMap (fun l => match l.token with
             | .redirect r => some r
             | _ => none),
           line := (parts.head?.map (·.line)).getD line }

def closingWords : List String := ["then", "elif", "else", "fi", "do", "done", "esac", "\x7d"]

def isShellName (s : String) : Bool :=
  match s.toList with
  | c :: rest => isNameStart c && rest.all isNameChar
  | [] => false

def isAssignmentWord (s : String) : Bool :=
  match s.splitOn "=" with
  | name :: _ :: _ => isShellName name || (name.endsWith "+" && isShellName (name.dropEnd 1).toString)
  | _ => false

def specialBuiltinNames : List String :=
  [":", ".", "break", "continue", "eval", "exec", "exit", "export", "readonly", "return", "set",
   "shift", "times", "trap", "unset"]

def condUnaryOps : List String :=
  ["-a", "-b", "-c", "-d", "-e", "-f", "-g", "-h", "-k", "-p", "-r", "-s", "-t", "-u", "-w", "-x",
   "-G", "-L", "-N", "-O", "-S", "-z", "-n", "-o", "-v", "-R"]

def condBinaryOps : List String :=
  ["==", "=", "!=", "=~", "-eq", "-ne", "-lt", "-le", "-gt", "-ge", "-nt", "-ot", "-ef"]

def CondToken.text? : CondToken → Option String
  | .word w => w.literal?
  | .op o => some o

mutual
def condOr : Nat → List CondToken → Option (CondExpr × List CondToken)
  | 0, _ => none
  | n + 1, ts => do
    let (a, r) ← condAnd n ts
    match r with
    | .op "||" :: rest => do
      let (b, r2) ← condOr n rest
      return (.or a b, r2)
    | _ => return (a, r)

def condAnd : Nat → List CondToken → Option (CondExpr × List CondToken)
  | 0, _ => none
  | n + 1, ts => do
    let (a, r) ← condFactor n ts
    match r with
    | .op "&&" :: rest => do
      let (b, r2) ← condAnd n rest
      return (.and a b, r2)
    | _ => return (a, r)

def condFactor : Nat → List CondToken → Option (CondExpr × List CondToken)
  | 0, _ => none
  | n + 1, ts =>
    match ts with
    | .op "!" :: rest => do
      let (e, r) ← condFactor n rest
      return (.not e, r)
    | .op "(" :: rest => do
      let (e, r) ← condOr n rest
      match r with
      | .op ")" :: after => return (e, after)
      | _ => none
    | .word a :: (t :: .word b :: rest) =>
      match t.text? with
      | some o =>
        if condBinaryOps.contains o || ((o == "<" || o == ">") && t matches .op _) then
          some (.binary o a b, rest)
        else if condUnaryOps.contains (a.literal?.getD "") then some (.unary (a.literal?.getD "") (match t with
          | .word w => w
          | .op s => [.text s false]), .word b :: rest)
        else some (.word a, t :: .word b :: rest)
      | none => some (.word a, t :: .word b :: rest)
    | .word a :: .word b :: rest =>
      if condUnaryOps.contains (a.literal?.getD "") then some (.unary (a.literal?.getD "") b, rest)
      else some (.word a, .word b :: rest)
    | .word a :: rest => some (.word a, rest)
    | _ => none
end

def CondExpr.ofTokens (ts : List CondToken) : Option CondExpr :=
  match condOr (2 * ts.length + 2) ts with
  | some (e, []) => some e
  | _ => none

def nonEmpty (stops : List String) (body : Script) : Parse Script := do
  if !body.isEmpty then return body
  match ← peekLexeme with
  | none => unexpectedFor (stops.getLast?.map fun s => "\"" ++ s ++ "\"")
  | some _ => unexpected

def listEnders : List String :=
  ["then", "elif", "else", "fi", "do", "done", "esac", "\x7d", ")", ";;", ";&", ";;&"]

mutual

def parseList : Nat → List String → Parse Script
  | 0, _ => unexpected
  | n + 1, stops => do
    skipNewlines
    if ← atStop stops then return []
    match ← peekLexeme with
    | none => return []
    | some _ =>
      let steps ← parseAndOr n
      match ← peekLexeme with
      | none => return steps
      | some l =>
        if l.isOp ";" || l.isOp "\n" || l.isOp "&" then
          advance
          let steps := if l.isOp "&" then markBackground steps else steps
          -- after a command the list also ends at a word that ends some other list
          return steps ++ (← parseList n (stops ++ listEnders.filter (!stops.contains ·)))
        else if ← atStop stops then return steps
        else unexpected

def parseAndOr : Nat → Parse Script
  | 0 => unexpected
  | n + 1 => do
    let first ← parsePipeline n .always
    parseAndOrRest n [first]

def parseAndOrRest : Nat → Script → Parse Script
  | 0, _ => unexpected
  | n + 1, acc => do
    match ← peekLexeme with
    | some l =>
      if l.isOp "&&" || l.isOp "||" then
        advance
        skipNewlines
        let p ← parsePipeline n (if l.isOp "&&" then .ifSuccess else .ifFailure)
        parseAndOrRest n (acc ++ [p])
      else return acc
    | none => return acc

def parsePipeline : Nat → Joint → Parse Step
  | 0, _ => unexpected
  | n + 1, joint => do
    let negate ← atStop ["!"]
    if negate then advance
    -- bash negates again at each further `!`; the light shell takes one
    let bash ← forBash
    let (ts, line) ← get
    let more := if bash then (ts.takeWhile fun l => l.keyword? == some "!").length else 0
    set (ts.drop more, line)
    let negate := if more % 2 == 1 then !negate else negate
    if bash && (← atStop ["time"]) then do
      -- bash's `time` reports on the pipeline after it; before the end of a list, on nothing
      advance
      let posix ← match ← peekLexeme with
        | some l => if l.keyword? == some "-p" then do advance; pure true else pure false
        | none => pure false
      let ends ← match ← peekLexeme with
        | some l => pure (l.isOp ";" || l.isOp "\n")
        | none => pure true
      -- a negation before `time` is the timed pipeline's, which bash writes after it
      if ends then return .mk joint negate [.timed posix []] false
      let inner ← parsePipeline n .always
      let inner := if negate then Step.mk .always (!inner.negate) inner.pipeline false else inner
      return .mk joint false [.timed posix [inner]] false
    let c ← parseCommand n
    let cs ← parsePipeRest n [c]
    return .mk joint negate cs false

def parsePipeRest : Nat → List Command → Parse (List Command)
  | 0, _ => unexpected
  | n + 1, acc => do
    match ← peekLexeme with
    | some l =>
      if l.isOp "|" then
        advance
        skipNewlines
        let c ← parseCommand n
        parsePipeRest n (acc ++ [c])
      else return acc
    | none => return acc

def parseCommand : Nat → Parse Command
  | 0 => unexpected
  | n + 1 => do
    match ← peekLexeme with
    | none => unexpected
    | some l =>
      if l.isOp "(" then
        advance
        let body ← nonEmpty [")"] (← parseList n [")"])
        expectOp ")"
        return .subshell body (← readRedirects)
      else match l.token with
      | .arith e => do
        advance
        return .arith e l.line (← readRedirects)
      | .cond items shown => do
        match CondExpr.ofTokens items with
        | some e =>
          advance
          return .cond e l.line (← readRedirects) shown
        | none => throw { message := "syntax error in conditional expression", line := l.line, left := (← get).1.length }
      | _ =>
      if l.keyword? == some "select" && (← forBash) then do advance; parseFor n true else
      match l.keyword? with
        | some "if" => do
          advance
          let cond ← nonEmpty ["then"] (← parseList n ["then"])
          expectKeyword "then"
          let body ← nonEmpty ["elif", "else", "fi"] (← parseList n ["elif", "else", "fi"])
          parseIfRest n [(cond, body)]
        | some "while" => do advance; parseLoop n false
        | some "until" => do advance; parseLoop n true
        | some "for" => do advance; parseFor n false
        | some "case" => do advance; parseCase n
        | some "\x7b" => do
          advance
          let body ← nonEmpty ["\x7d"] (← parseList n ["\x7d"])
          expectKeyword "\x7d"
          return .group body (← readRedirects)
        | some "function" => do
          advance
          let name ← match ← peekLexeme with
            | some m => match m.keyword? with
              | some s => pure s
              | none => unexpected
            | none => unexpected
          advance
          let ts := (← get).1
          match ts with
          | a :: b :: _ => if a.isOp "(" && b.isOp ")" then do advance; advance
          | _ => pure ()
          skipNewlines
          expectCompound
          return .function name (← parseCommand n)
        | some kw =>
          let bash ← forBash
          if closingWords.contains kw || (!bash && kw == "!") then unexpected
          else
            let ts := (← get).1
            match ts with
            | w :: a :: _ =>
              if a.isOp "(" && !(w.token matches .word _ && isAssignmentWord kw) then do
                -- a function definition: the name, then the parentheses, then its body
                advance; advance
                match ← peekLexeme with
                | some b =>
                  if b.isOp ")" then advance
                  else match b.token with
                    | .word _ => throw { message := "syntax error near unexpected token `" ++ b.token.shown ++ "'",
                                         line := b.line, left := (← get).1.length,
                                         lightMessage := some "word unexpected (expecting \")\")" }
                    | _ => unexpectedFor (some "\")\"")
                | none =>
                  if bash then throw { message := "syntax error near unexpected token `newline'",
                                       line := l.line, lightMessage := none }
                  else unexpectedFor (some "\")\"")
                if !bash && !(isShellName kw && !specialBuiltinNames.contains kw) then
                  throw { message := "Bad function name", line := l.line,
                          left := (← get).1.length, lightMessage := some "Bad function name" }
                skipNewlines
                if bash then expectCompound
                return .function kw (← parseCommand n)
              else return .simple (← readSimple)
            | _ => return .simple (← readSimple)
        | none => return .simple (← readSimple)

def parseIfRest : Nat → List (Script × Script) → Parse Command
  | 0, _ => unexpected
  | n + 1, branches => do
    if ← atStop ["elif"] then
      advance
      let cond ← nonEmpty ["then"] (← parseList n ["then"])
      expectKeyword "then"
      let body ← nonEmpty ["elif", "else", "fi"] (← parseList n ["elif", "else", "fi"])
      parseIfRest n (branches ++ [(cond, body)])
    else if ← atStop ["else"] then
      advance
      let other ← nonEmpty ["fi"] (← parseList n ["fi"])
      expectKeyword "fi"
      return .ifThen branches other (← readRedirects)
    else
      expectKeyword "fi"
      return .ifThen branches [] (← readRedirects)

def parseLoop : Nat → Bool → Parse Command
  | 0, _ => unexpected
  | n + 1, untilHolds => do
    let cond ← nonEmpty ["do"] (← parseList n ["do"])
    expectKeyword "do"
    let body ← nonEmpty ["done"] (← parseList n ["done"])
    expectKeyword "done"
    return .loop untilHolds cond body (← readRedirects)

def parseFor : Nat → Bool → Parse Command
  | 0, _ => unexpected
  | n + 1, menu => do
    if let some l ← peekLexeme then
      if let .arith e := l.token then
        if menu then unexpected
        advance
        let parts := e.splitOn ";"
        match parts with
        | [a, b, c] =>
          match ← peekLexeme with
          | some m => if m.isOp ";" || m.isOp "\n" then advance
          | none => pure ()
          skipNewlines
          let body ← if ← atStop ["\x7b"] then do
              advance
              let body ← nonEmpty ["\x7d"] (← parseList n ["\x7d"])
              expectKeyword "\x7d"
              pure body
            else do
              expectKeyword "do"
              let body ← nonEmpty ["done"] (← parseList n ["done"])
              expectKeyword "done"
              pure body
          return .forArith a b c body (← readRedirects)
        | _ => throw { message := "syntax error: arithmetic expression required", line := l.line, left := (← get).1.length }
    let badVariable : Parse String := do
      if ← forBash then unexpected
      else throw { message := "Bad for loop variable", line := (← get).2,
                   left := (← get).1.length, lightMessage := some "Bad for loop variable" }
    let name ← match ← peekLexeme with
      | some l => match l.keyword? with
        | some s => if isShellName s then pure s else badVariable
        | none => badVariable
      | none => badVariable
    advance
    skipNewlines
    let words ← if ← atStop ["in"] then do
        advance
        let (ts, line) ← get
        let ws := ts.takeWhile fun l => match l.token with
          | .word _ => true
          | _ => false
        set (ts.drop ws.length, (ws.getLast?.map (·.line)).getD line)
        match ← peekLexeme with
        | some l => if l.isOp ";" || l.isOp "\n" then advance else unexpected
        | none => unexpected
        pure (some (ws.filterMap fun l => match l.token with
          | .word w => some (w, l.source)
          | _ => none))
      else do
        match ← peekLexeme with
        | some l => if l.isOp ";" then advance
        | none => pure ()
        pure none
    skipNewlines
    expectKeyword "do"
    let body ← nonEmpty ["done"] (← parseList n ["done"])
    expectKeyword "done"
    -- without a list the loop goes over the arguments, as if "$@" were written
    let shown := match words with
      | some ws => " ".intercalate (ws.map (·.2))
      | none => "\"$@\""
    let words := words.map (·.map (·.1))
    if menu then return .select name words body (← readRedirects) shown
    else return .forIn name words body (← readRedirects) shown

def parseCase : Nat → Parse Command
  | 0 => unexpected
  | n + 1 => do
    let (subject, subjectText) ← match ← peekLexeme with
      | some l => match l.token with
        | .word w => pure (w, l.source)
        | _ => unexpectedFor (some "word")
      | none => unexpectedFor (some "word")
    advance
    skipNewlines
    expectKeyword "in"
    let arms ← parseArms n []
    expectKeyword "esac"
    return .caseOf subject (arms.map fun (ps, body, ending) => (ps.map (·.1), body, ending))
      (← readRedirects) (subjectText :: arms.map fun (ps, _, _) => " | ".intercalate (ps.map (·.2)))

def parseArms : Nat → List (List (Word × String) × Script × ArmEnd) →
    Parse (List (List (Word × String) × Script × ArmEnd))
  | 0, _ => unexpected
  | n + 1, acc => do
    skipNewlines
    if ← atStop ["esac"] then return acc
    if let some l ← peekLexeme then
      if l.isOp "(" then advance
    let patterns ← parsePatterns n []
    expectOp ")"
    let body ← parseList n [";;", ";&", ";;&", "esac"]
    let ending ← match ← peekLexeme with
      | some l =>
        if l.isOp ";;" then do advance; pure ArmEnd.leave
        else if l.isOp ";&" then do advance; pure ArmEnd.fallThrough
        else if l.isOp ";;&" then do advance; pure ArmEnd.testNext
        else if l.keyword? == some "esac" then pure ArmEnd.leave
        else unexpectedFor (some "\";;\"")
      | none => unexpectedFor (some "\";;\"")
    parseArms n (acc ++ [(patterns, body, ending)])

def parsePatterns : Nat → List (Word × String) → Parse (List (Word × String))
  | 0, _ => unexpected
  | n + 1, acc => do
    match ← peekLexeme with
    | some l =>
      match l.token with
      | .word w =>
        advance
        let acc := acc ++ [(w, l.source)]
        match ← peekLexeme with
        | some m => if m.isOp "|" then do advance; parsePatterns n acc else return acc
        | none => return acc
      | _ => unexpectedFor (some "\")\"")
    | none => unexpectedFor (some "\")\"")

end

def parseComplete : Nat → Parse Script
  | 0 => unexpected
  | n + 1 => do
    let steps ← parseAndOr n
    match ← peekLexeme with
    | none => return steps
    | some l =>
      if l.isOp "\n" then do advance; return steps
      else if l.isOp ";" || l.isOp "&" then do
        advance
        let steps := if l.isOp "&" then markBackground steps else steps
        match ← peekLexeme with
        | none => return steps
        | some m =>
          if m.isOp "\n" then do advance; return steps
          else return steps ++ (← parseComplete n)
      else unexpected

/-- A script read as its complete commands in order, up to the first that does not parse,
and that command's syntax error, if any. -/
structure Program where
  commands : List Script
  error : Option SyntaxError := none
  unclosed : List (Nat × String) := []

def readCommands (bash : Bool) (cut : Option SyntaxError) : Nat → List Lexeme → Nat → List Script → Program
  | 0, _, _, acc => { commands := acc.reverse, error := cut }
  | fuel + 1, tokens, line, acc =>
    let tokens := tokens.dropWhile (·.isOp "\n")
    if tokens.isEmpty then { commands := acc.reverse, error := cut }
    else match ((parseComplete (4 * tokens.length + 8)).run bash).run (tokens, line) with
      | .ok (script, (rest, line)) =>
        if rest.isEmpty && cut.isSome && !(tokens.getLast?.any (·.isOp "\n")) then
          { commands := acc.reverse, error := cut }
        else readCommands bash cut fuel rest line (script :: acc)
      | .error e =>
        let atEnd := e.message == "syntax error: unexpected end of file"
        { commands := acc.reverse, error := if atEnd && cut.isSome then cut else some e }

def parseProgram (bash : Bool) (text : String) (extglob : Bool := false) : Program :=
  let tokens := lex bash extglob text
  let prog := readCommands bash (tokens.failure.map fun (msg, line) => { message := msg, line }) (tokens.lexemes.length + 1)
    tokens.lexemes 1 []
  -- a here-document is only read when the shell gets to it: not after an error before it
  let total := tokens.lexemes.length
  let reached := tokens.unclosed.filter fun (place, _, _) =>
    (prog.error.map fun e => decide (place + e.left < total)).getD true
  { prog with unclosed := reached.map fun (_, start, delim) => (start, delim) }

end TestRig.Shell
