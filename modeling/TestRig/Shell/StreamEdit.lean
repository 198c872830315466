import TestRig.Shell.Search

/-!
`sed`: a script of editing commands run on each line of the input in turn. Each line is read
into the pattern space, the commands whose addresses select it run on it in order, and the
pattern space is printed at the end of the cycle unless `-n` is given or a command deleted it.
Beside the pattern space there is a hold space that `h`, `H`, `g`, `G` and `x` copy to and from.
-/

namespace TestRig.Shell

open TestRig.Files TestRig.Regex TestRig.Text

/-! ### Scripts -/

inductive EditAddress where
  | line (n : Nat)
  | last
  | pattern (prog : Option Regex.Program)
  | step (first step : Nat)
  deriving Inhabited

inductive RangeEnd where
  | address (a : EditAddress)
  | count (n : Nat)
  | multiple (n : Nat)
  deriving Inhabited

/-- How a replacement changes the case of letters. -/
inductive CaseMode where
  | keep
  | upper
  | lower
  deriving Inhabited, BEq

inductive ReplacePiece where
  | text (s : String)
  | group (k : Nat)
  | recase (m : CaseMode)
  | once (m : CaseMode)
  deriving Inhabited

/-- When a branch is taken: always (`b`), after a substitution (`t`), or when none was made
(`T`); `t` and `T` forget the substitutions they looked at. -/
inductive BranchWhen where
  | always
  | replaced
  | notReplaced
  deriving Inhabited, BEq

inductive EditAction where
  | block (after : Nat)
  | blockEnd
  | label (name : String)
  | branch (name : String) (cond : BranchWhen)
  | substitute (prog : Option Regex.Program) (repl : List ReplacePiece) (every : Bool) (nth : Nat)
      (print : Bool) (write : Option String) (eval : Bool)
  | execute (command : String)
  | transliterate (src dst : List Char)
  | print
  | printFirst
  | delete
  | deleteFirst
  | next
  | appendNext
  | hold
  | holdAppend
  | get
  | getAppend
  | exchange
  | zap
  | quit (status : Nat) (print : Bool)
  | lineNumber
  | fileName
  | append (text : String)
  | insert (text : String)
  | change (text : String)
  | readFile (name : String)
  | readLine (name : String)
  | write (name : String)
  | writeFirst (name : String)
  | list (width : Option Nat)
  deriving Inhabited

structure EditCommand where
  first : Option EditAddress := none
  second : Option RangeEnd := none
  fromZero : Bool := false
  negate : Bool := false
  action : EditAction
  deriving Inhabited

/-- A fault of a script: how many characters were read when it was found, and what it is. -/
structure ScriptFault where
  pos : Nat
  msg : String

def scriptBlank (c : Char) : Bool := c == ' ' || c == '\t'

def scriptSpace (c : Char) : Bool :=
  c == ' ' || c == '\t' || c == '\n' || c == '\r' || c == '\x0b' || c == '\x0c'

def controlEscape (d : Char) : Option Char :=
  match d with
  | 'a' => some '\x07'
  | 'f' => some '\x0c'
  | 'v' => some '\x0b'
  | 'r' => some '\r'
  | 't' => some '\t'
  | _ => none

def bracketMembers : Nat → List Char → List Char → Option (List Char × List Char)
  | 0, _, _ => none
  | _, [], _ => none
  | n + 1, c :: rest, acc =>
    if c == ']' then some (']' :: acc, rest)
    else if c == '\n' then none
    else match c, rest with
      | '[', d :: more =>
        if d == ':' || d == '.' || d == '=' then
          let name := more.takeWhile (· != d)
          match more.drop name.length with
          | _ :: ']' :: after => bracketMembers n after (']' :: d :: name.reverse ++ d :: '[' :: acc)
          | _ => bracketMembers n rest ('[' :: acc)
        else bracketMembers n rest ('[' :: acc)
      | '\\', d :: more =>
        if d == 'n' then bracketMembers n more ('\n' :: acc)
        else match controlEscape d with
          | some e => bracketMembers n more (e :: acc)
          | none => bracketMembers n rest ('\\' :: acc)
      | _, _ => bracketMembers n rest (c :: acc)

def digitRun (base most : Nat) (cs : List Char) : Nat × List Char :=
  let value (c : Char) : Option Nat :=
    if c.isDigit then (if c.toNat - '0'.toNat < base then some (c.toNat - '0'.toNat) else none)
    else if base == 16 && 'a' ≤ c.toLower && c.toLower ≤ 'f' then some (c.toLower.toNat - 'a'.toNat + 10)
    else none
  let ds := (cs.take most).takeWhile fun c => (value c).isSome
  (ds.foldl (fun acc c => acc * base + (value c).getD 0) 0, cs.drop ds.length)

def numberEscape (d : Char) (rest : List Char) : Option (Char × List Char) :=
  let number (base most : Nat) : Char × List Char :=
    let (v, r) := digitRun base most rest
    if r.length == rest.length then (d, rest) else (Char.ofNat (v % 256), r)
  match d with
  | 'd' => some (number 10 3)
  | 'o' => some (number 8 3)
  | 'x' => some (number 16 2)
  | 'c' =>
    match rest with
    | x :: r => some (Char.ofNat (x.toUpper.toNat ^^^ 0x40), r)
    | [] => none
  | _ => none

def delimited (delim : Char) (regex : Bool) : Nat → List Char → List Char → Option (List Char × List Char)
  | 0, _, _ => none
  | _, [], _ => none
  | n + 1, c :: rest, acc =>
    if c == delim then some (acc.reverse, rest)
    else if c == '\n' then none
    else if regex && c == '[' then
      let (opening, members) := match rest with
        | '^' :: ']' :: r => ([']', '^', '['], r)
        | '^' :: r => (['^', '['], r)
        | ']' :: r => ([']', '['], r)
        | r => (['['], r)
      match bracketMembers (members.length + 1) members (opening ++ acc) with
      | some (acc, after) => delimited delim regex n after acc
      | none => none
    else if c == '\\' then
      match rest with
      | [] => none
      | d :: rest =>
        if d == '\n' then delimited delim regex n rest ('\n' :: acc)
        else if regex && d == 'n' then delimited delim regex n rest ('\n' :: acc)
        else if d == delim && (regex || d != '&') then delimited delim regex n rest (d :: acc)
        else match regex, controlEscape d with
          | true, some e => delimited delim regex n rest (e :: acc)
          | true, none =>
            match numberEscape d rest with
            | some (e, r) => delimited delim regex n r (e :: acc)
            | none => delimited delim regex n rest (d :: '\\' :: acc)
          | _, _ => delimited delim regex n rest (d :: '\\' :: acc)
    else delimited delim regex n rest (c :: acc)

def replacePieces : Nat → List Char → List ReplacePiece
  | 0, _ => []
  | _, [] => []
  | n + 1, '&' :: rest => .group 0 :: replacePieces n rest
  | n + 1, '\\' :: d :: rest =>
    let number (base most : Nat) : List ReplacePiece :=
      let (v, r) := digitRun base most rest
      if r.length == rest.length then .text (String.singleton d) :: replacePieces n rest
      else .text (String.singleton (Char.ofNat (v % 256))) :: replacePieces n r
    if d.isDigit then .group (d.toNat - '0'.toNat) :: replacePieces n rest
    else match d with
      | 'n' => .text "\n" :: replacePieces n rest
      | 'U' => .recase .upper :: replacePieces n rest
      | 'L' => .recase .lower :: replacePieces n rest
      | 'E' => .recase .keep :: replacePieces n rest
      | 'u' => .once .upper :: replacePieces n rest
      | 'l' => .once .lower :: replacePieces n rest
      | 'd' => number 10 3
      | 'o' => number 8 3
      | 'x' => number 16 2
      | 'c' =>
        match rest with
        | x :: r => .text (String.singleton (Char.ofNat (x.toUpper.toNat ^^^ 0x40))) :: replacePieces n r
        | [] => .text "c" :: replacePieces n rest
      | _ =>
        match controlEscape d with
        | some e => .text (String.singleton e) :: replacePieces n rest
        | none => .text (String.singleton d) :: replacePieces n rest
  | n + 1, c :: rest => .text (String.singleton c) :: replacePieces n rest

def editPattern (extended fold multiline : Bool) (text : List Char) : Except String Regex.Program := do
  let (body, _) ← rewritePattern extended true text
  let flags := (if fold then "i" else "") ++ (if multiline then "m" else "s")
  (Regex.Program.longestOf ("(?" ++ flags ++ ")" ++ body)).mapError regexFaultText

def scriptNumber (cs : List Char) : Nat × List Char :=
  let ds := cs.takeWhile Char.isDigit
  ((String.ofList ds).toNat!, cs.drop ds.length)

/-- The state of reading a script: the commands so far, the open blocks (the places of their
`{`), and the files `w` writes. -/
structure ScriptRead where
  cmds : Array EditCommand := #[]
  blocks : List Nat := []
  writes : List String := []

def readAddressPattern (extended : Bool) (total : Nat) (delim : Char) (cs : List Char) :
    Except ScriptFault (EditAddress × List Char) :=
  match delimited delim true (cs.length + 1) cs [] with
  | none => .error ⟨total - (cs.dropWhile (· != '\n')).length, "unterminated address regex"⟩
  | some (re, after) =>
    let rec flags : Nat → List Char → Bool × Bool → (Bool × Bool) × List Char
      | 0, r, f => (f, r)
      | k + 1, r, (fold, multi) =>
        match r.dropWhile scriptBlank with
        | 'I' :: r' => flags k r' (true, multi)
        | 'M' :: r' => flags k r' (fold, true)
        | _ => ((fold, multi), r)
    let ((fold, multi), after) := flags (after.length + 1) after (false, false)
    if re.isEmpty then .ok (.pattern none, after)
    else match editPattern extended fold multi re with
      | .ok prog => .ok (.pattern (some prog), after)
      | .error msg => .error ⟨total - after.length, msg⟩

def readAddress (extended : Bool) (total : Nat) (cs : List Char) :
    Except ScriptFault (Option EditAddress × List Char) :=
  match cs with
  | '$' :: rest => .ok (some .last, rest)
  | '/' :: rest => (readAddressPattern extended total '/' rest).map fun (a, r) => (some a, r)
  | '\\' :: d :: rest => (readAddressPattern extended total d rest).map fun (a, r) => (some a, r)
  | c :: _ =>
    if c.isDigit then
      let (k, rest) := scriptNumber cs
      match rest.dropWhile scriptBlank with
      | '~' :: r =>
        let (step, r) := scriptNumber (r.dropWhile scriptBlank)
        .ok (some (if step == 0 then .line k else .step k step), r)
      | _ => .ok (some (.line k), rest)
    else .ok (none, cs)
  | [] => .ok (none, cs)

def commandText (total : Nat) (cs : List Char) : Except ScriptFault (String × List Char) :=
  let cs := cs.dropWhile scriptBlank
  let rec body : Nat → List Char → List Char → String × List Char
    | 0, r, acc => (String.ofList acc.reverse ++ "\n", r)
    | _, [], acc => (String.ofList acc.reverse ++ "\n", [])
    | _ + 1, '\n' :: r, acc => (String.ofList acc.reverse ++ "\n", r)
    | k + 1, '\\' :: d :: r, acc => body k r ((controlEscape d).getD d :: acc)
    | k + 1, c :: r, acc => if c == '\\' then body k r acc else body k r (c :: acc)
  match cs with
  | [] => .error ⟨total, "expected \\ after `a', `c' or `i'"⟩
  | ['\\'] => .ok ("", [])
  | '\\' :: '\n' :: r => .ok (body (r.length + 1) r [])
  | '\\' :: r => .ok (body (r.length + 1) r [])
  | r => .ok (body (r.length + 1) r [])

def commandEnd (total : Nat) (cs : List Char) : Except ScriptFault (List Char) :=
  match cs.dropWhile scriptBlank with
  | [] => .ok []
  | ';' :: r => .ok r
  | '\n' :: r => .ok r
  | '}' :: r => .ok ('}' :: r)
  | '#' :: r => .ok ('#' :: r)
  | _ :: r => .error ⟨total - r.length, "extra characters after command"⟩

def labelText (cs : List Char) : String × List Char :=
  let cs := cs.dropWhile scriptBlank
  let name := cs.takeWhile fun c => !scriptSpace c && c != ';'
  (String.ofList name, cs.drop name.length)

def fileText (total : Nat) (cs : List Char) : Except ScriptFault (String × List Char) :=
  let cs := cs.dropWhile scriptBlank
  let name := cs.takeWhile (· != '\n')
  if name.isEmpty then .error ⟨total - (cs.drop 1).length, "missing filename in r/R/w/W commands"⟩
  else .ok (String.ofList name, cs.drop name.length)

/-- The flags of `s`: `g`, `p`, a number, `i` or `I`, `m` or `M`, and last `w` with a file. -/
structure SubstituteFlags where
  every : Bool := false
  nth : Nat := 0
  print : Bool := false
  fold : Bool := false
  multiline : Bool := false
  write : Option String := none
  eval : Bool := false

def substituteFlags (total : Nat) : Nat → List Char → SubstituteFlags →
    Except ScriptFault (SubstituteFlags × List Char)
  | 0, cs, f => .ok (f, cs)
  | _, [], f => .ok (f, [])
  | n + 1, c :: rest, f =>
    let here := total - rest.length
    match c with
    | 'g' =>
      if f.every then .error ⟨here, "multiple `g' options to `s' command"⟩
      else substituteFlags total n rest { f with every := true }
    | 'p' =>
      if f.print then .error ⟨here, "multiple `p' options to `s' command"⟩
      else substituteFlags total n rest { f with print := true }
    | 'i' | 'I' => substituteFlags total n rest { f with fold := true }
    | 'm' | 'M' => substituteFlags total n rest { f with multiline := true }
    | 'e' => substituteFlags total n rest { f with eval := true }
    | 'w' => do
      let (name, r) ← fileText total rest
      .ok ({ f with write := some name }, r)
    | ';' | '\n' => .ok (f, rest)
    | '}' | '#' => .ok (f, c :: rest)
    | _ =>
      if scriptBlank c then substituteFlags total n rest f
      else if c.isDigit then
        let (k, r) := scriptNumber (c :: rest)
        if f.nth != 0 then .error ⟨total - r.length, "multiple number options to `s' command"⟩
        else if k == 0 then .error ⟨total - r.length, "number option to `s' command may not be zero"⟩
        else substituteFlags total n r { f with nth := k }
      else .error ⟨here, "unknown option to `s'"⟩

def transliterateChars : Nat → List Char → List Char
  | 0, _ => []
  | _, [] => []
  | n + 1, '\\' :: d :: rest =>
    if d == 'n' then '\n' :: transliterateChars n rest
    else if d == '\\' then '\\' :: transliterateChars n rest
    else match controlEscape d with
      | some e => e :: transliterateChars n rest
      | none => '\\' :: transliterateChars n (d :: rest)
  | n + 1, c :: rest => c :: transliterateChars n rest

def readScript (extended : Bool) (total : Nat) : Nat → List Char → ScriptRead →
    Except ScriptFault ScriptRead
  | 0, _, r => .ok r
  | n + 1, cs, r => do
    let cs := cs.dropWhile fun c => c == ';' || scriptSpace c
    if cs.isEmpty then
      if r.blocks.isEmpty then return r else throw ⟨0, "unmatched `\x7b'"⟩
    let (first, cs) ← readAddress extended total cs
    let (second, cs) ← match first, cs.dropWhile scriptBlank with
      | some _, ',' :: rest =>
        let rest := rest.dropWhile scriptBlank
        match rest with
        | '+' :: r => let (k, r) := scriptNumber r; pure (some (RangeEnd.count k), r)
        | '~' :: r => let (k, r) := scriptNumber r; pure (some (RangeEnd.multiple k), r)
        | _ => do
          let (a, r) ← readAddress extended total rest
          match a with
          | some a => pure (some (RangeEnd.address a), r)
          | none => throw ⟨total - (rest.drop 1).length, "unexpected `,'"⟩
      | _, _ => pure (none, cs)
    let cs := cs.dropWhile scriptBlank
    let fromZero := match first, second with
      | some (.line 0), some (.address (.pattern _)) => true
      | _, _ => false
    if !fromZero && (match first with | some (.line 0) => true | _ => false) then
      throw ⟨total - (cs.drop 1).length, "invalid usage of line address 0"⟩
    let (negate, cs) ← match cs with
      | '!' :: r =>
        match r.dropWhile scriptBlank with
        | '!' :: r' => throw ⟨total - r'.length, "multiple `!'s"⟩
        | r' => pure (true, r')
      | r => pure (false, r)
    let read := total - (cs.drop 1).length
    let push (action : EditAction) : ScriptRead :=
      { r with cmds := r.cmds.push { first, second, fromZero, negate, action } }
    let simple (action : EditAction) (rest : List Char) : Except ScriptFault ScriptRead := do
      let rest ← commandEnd total rest
      readScript extended total n rest (push action)
    let noAddress (what : String) : Except ScriptFault Unit :=
      if first.isSome then throw ⟨read, what⟩ else pure ()
    let oneAddress : Except ScriptFault Unit :=
      if second.isSome then throw ⟨read, "command only uses one address"⟩ else pure ()
    match cs with
    | [] => throw ⟨total, "missing command"⟩
    | '#' :: rest =>
      noAddress "comments don't accept any addresses"
      readScript extended total n (rest.dropWhile (· != '\n')) r
    | '{' :: rest =>
      readScript extended total n rest { push (.block 0) with blocks := r.cmds.size :: r.blocks }
    | '}' :: rest =>
      match r.blocks with
      | [] => throw ⟨read, "unexpected `\x7d'"⟩
      | b :: bs =>
        noAddress "unexpected `\x7d'"
        let rest ← commandEnd total rest
        let opened := r.cmds[b]!
        let cmds := r.cmds.set! b { opened with action := .block (r.cmds.size + 1) }
        readScript extended total n rest
          { r with cmds := cmds.push { action := .blockEnd }, blocks := bs }
    | ':' :: rest =>
      noAddress ": doesn't want any addresses"
      let (name, rest) := labelText rest
      if name.isEmpty then throw ⟨total - (rest.drop 1).length, "\":\" lacks a label"⟩
      readScript extended total n rest (push (.label name))
    | 'b' :: rest => let (name, rest) := labelText rest; readScript extended total n rest (push (.branch name .always))
    | 't' :: rest => let (name, rest) := labelText rest; readScript extended total n rest (push (.branch name .replaced))
    | 'T' :: rest => let (name, rest) := labelText rest; readScript extended total n rest (push (.branch name .notReplaced))
    | 'p' :: rest => simple .print rest
    | 'P' :: rest => simple .printFirst rest
    | 'd' :: rest => simple .delete rest
    | 'D' :: rest => simple .deleteFirst rest
    | 'n' :: rest => simple .next rest
    | 'N' :: rest => simple .appendNext rest
    | 'h' :: rest => simple .hold rest
    | 'H' :: rest => simple .holdAppend rest
    | 'g' :: rest => simple .get rest
    | 'G' :: rest => simple .getAppend rest
    | 'x' :: rest => simple .exchange rest
    | 'z' :: rest => simple .zap rest
    | '=' :: rest => simple .lineNumber rest
    | 'F' :: rest => simple .fileName rest
    | 'v' :: rest =>
      let (_, rest) := labelText rest
      readScript extended total n rest r
    | 'q' :: rest => do
      oneAddress
      let (k, rest) := scriptNumber (rest.dropWhile scriptBlank)
      simple (.quit k true) rest
    | 'Q' :: rest => do
      oneAddress
      let (k, rest) := scriptNumber (rest.dropWhile scriptBlank)
      simple (.quit k false) rest
    | 'l' :: rest =>
      let rest := rest.dropWhile scriptBlank
      match rest with
      | c :: _ =>
        if c.isDigit then
          let (k, rest) := scriptNumber rest
          simple (.list (some k)) rest
        else simple (.list none) rest
      | [] => simple (.list none) rest
    | 'a' :: rest => do let (t, rest) ← commandText total rest; readScript extended total n rest (push (.append t))
    | 'e' :: rest =>
      let after := rest.dropWhile scriptBlank
      if after.isEmpty || after.head? == some '\n' then
        readScript extended total n (after.drop 1) (push (.execute ""))
      else do
        let (t, rest) ← commandText total rest
        readScript extended total n rest (push (.execute (String.ofList (t.toList.reverse.dropWhile (· == '\n')).reverse)))
    | 'i' :: rest => do let (t, rest) ← commandText total rest; readScript extended total n rest (push (.insert t))
    | 'c' :: rest => do let (t, rest) ← commandText total rest; readScript extended total n rest (push (.change t))
    | 'r' :: rest => do let (f, rest) ← fileText total rest; readScript extended total n rest (push (.readFile f))
    | 'R' :: rest => do let (f, rest) ← fileText total rest; readScript extended total n rest (push (.readLine f))
    | 'w' :: rest => do
      let (f, rest) ← fileText total rest
      readScript extended total n rest { push (.write f) with writes := r.writes ++ [f] }
    | 'W' :: rest => do
      let (f, rest) ← fileText total rest
      readScript extended total n rest { push (.writeFirst f) with writes := r.writes ++ [f] }
    | 's' :: d :: rest =>
      let unterminated : ScriptFault :=
        ⟨total - (rest.dropWhile (· != '\n')).length, "unterminated `s' command"⟩
      match delimited d true (rest.length + 1) rest [] with
      | none => throw unterminated
      | some (re, rest) =>
        match delimited d false (rest.length + 1) rest [] with
        | none => throw unterminated
        | some (rep, rest) => do
          let (f, rest) ← substituteFlags total (rest.length + 1) rest {}
          let prog ← if re.isEmpty then pure none
            else match editPattern extended f.fold f.multiline re with
              | .ok p => pure (some p)
              | .error msg => throw ⟨total - rest.length, msg⟩
          let writes := match f.write with
            | some w => r.writes ++ [w]
            | none => r.writes
          readScript extended total n rest
            { push (.substitute prog (replacePieces (rep.length + 1) rep) f.every f.nth f.print f.write f.eval)
              with writes }
    | ['s'] => throw ⟨total, "unterminated `s' command"⟩
    | 'y' :: d :: rest =>
      let unterminated : ScriptFault :=
        ⟨total - (rest.dropWhile (· != '\n')).length, "unterminated `y' command"⟩
      match delimited d false (rest.length + 1) rest [] with
      | none => throw unterminated
      | some (src, rest) =>
        match delimited d false (rest.length + 1) rest [] with
        | none => throw unterminated
        | some (dst, rest) =>
          let src := transliterateChars (src.length + 1) src
          let dst := transliterateChars (dst.length + 1) dst
          if src.length != dst.length then
            throw ⟨total - rest.length, "strings for `y' command are different lengths"⟩
          else simple (.transliterate src dst) rest
    | ['y'] => throw ⟨total, "unterminated `y' command"⟩
    | c :: rest => throw ⟨total - rest.length, "unknown command: `" ++ String.singleton c ++ "'"⟩

def missingLabel (cmds : Array EditCommand) : Option String :=
  let defined := cmds.toList.filterMap fun c => match c.action with
    | .label name => some name
    | _ => none
  cmds.toList.findSome? fun c => match c.action with
    | .branch name _ => if name.isEmpty || defined.contains name then none else some name
    | _ => none

/-! ### Running -/

def CaseMode.apply (m : CaseMode) (c : Char) : Char :=
  match m with
  | .upper => c.toUpper
  | .lower => c.toLower
  | .keep => c

def replaceText (pieces : List ReplacePiece) (groups : List (Option String)) : String :=
  let add (st : CaseMode × CaseMode × String) (s : String) : CaseMode × CaseMode × String :=
    let (mode, once, acc) := st
    match s.toList with
    | [] => st
    | c :: cs =>
      let head := if once == .keep then mode.apply c else once.apply c
      (mode, .keep, acc.push head ++ String.ofList (cs.map mode.apply))
  let (_, _, out) := pieces.foldl (fun st piece =>
    let (mode, _, acc) := st
    match piece with
    | .text s => add st s
    | .group k => add st ((groups[k]?.bind id).getD "")
    | .recase m => (m, .keep, acc)
    | .once m => (mode, m, acc)) (CaseMode.keep, CaseMode.keep, "")
  out

def substituteLine (prog : Regex.Program) (pieces : List ReplacePiece) (every : Bool) (nth : Nat) (line : String) :
    String × Bool :=
  let input := line.toList.toArray
  let found := prog.allSlots input
  let want := if nth == 0 then 1 else nth
  let chosen := found.zipIdx.filter fun (_, i) => i + 1 == want || (every && i + 1 ≥ want)
  if chosen.isEmpty then (line, false)
  else
    let (out, last) := chosen.foldl (fun (out, last) (m, _) =>
      let a := (m[0]?.getD 0).toNat
      let b := (m[1]?.getD 0).toNat
      (out ++ slice input last a ++ replaceText pieces (groupsOf input m), b)) ("", 0)
    (out ++ slice input last input.size, true)

def listText (width : Nat) (space : String) : String :=
  let shown (c : Char) : String :=
    if c == '\\' then "\\\\"
    else if 32 ≤ c.toNat && c.toNat < 127 then String.singleton c
    else match c with
      | '\x07' => "\\a"
      | '\x08' => "\\b"
      | '\x0c' => "\\f"
      | '\n' => "\\n"
      | '\r' => "\\r"
      | '\t' => "\\t"
      | '\x0b' => "\\v"
      | _ =>
        let ds := Nat.toDigits 8 (c.toNat % 256)
        "\\" ++ String.ofList (List.replicate (3 - ds.length) '0' ++ ds)
  let (out, _) := space.toList.foldl (fun (out, col) c =>
    let s := shown c
    if width > 1 && col + s.length > width - 1 then (out ++ "\\\n" ++ s, s.length)
    else (out ++ s, col + s.length)) ("", 0)
  out ++ "$\n"

/-- A line of the input: its text, whether a line break ended it, and the file it came from. -/
structure EditLine where
  text : String
  ended : Bool
  file : String

/-- Text written to one place, and whether the last pattern space written there lacked its
line break (which is then written before anything else comes). -/
structure EditSink where
  text : String := ""
  missing : Bool := false

def EditSink.put (s : EditSink) (t : String) : EditSink :=
  { text := (if s.missing then s.text.push '\n' else s.text) ++ t, missing := false }

def EditSink.putSpace (s : EditSink) (t : String) (ended : Bool) (delim : Char) : EditSink :=
  let s := s.put t
  if ended then { s with text := s.text.push delim } else { s with missing := true }

/-- What waits to be printed at the end of a cycle: text of `a` or `R`, or a file of `r`. -/
inductive Queued where
  | text (s : String)
  | file (name : String)

/-- Whether a range is open: not, up to a line number, or up to a line its end address
selects. -/
inductive RangeState where
  | idle
  | untilLine (n : Nat)
  | untilMatch
  deriving Inhabited, BEq

/-- The options a run needs, and how it runs the command lines of `e`. -/
structure EditOptions where
  quiet : Bool := false
  delim : Char := '\n'
  width : Nat := 70
  run : CommandRun := fun t _ => ("", "", t)

structure EditRun where
  space : String := ""
  ended : Bool := true
  hold : String := ""
  lineNo : Nat := 0
  file : String := "-"
  rest : List EditLine := []
  out : EditSink := {}
  sinks : List (String × EditSink) := []
  queued : List Queued := []
  ranges : Array RangeState := #[]
  replaced : Bool := false
  lastPattern : Option Regex.Program := none
  taken : List (String × Nat) := []
  errs : String := ""
  fs : Tree

def EditRun.toSink (st : EditRun) (name : String) (f : EditSink → EditSink) : EditRun :=
  if name == "/dev/stdout" then { st with out := f st.out }
  else
    let sink := (st.sinks.lookup name).getD {}
    { st with sinks := (name, f sink) :: st.sinks.filter (·.1 != name) }

def EditRun.execute (o : EditOptions) (st : EditRun) (command : String) : String × EditRun :=
  let (out, err, fs) := o.run st.fs command
  (out, { st with fs, errs := st.errs ++ err })

def spaceOfOutput (delim : Char) (out : String) : String :=
  if out.endsWith (String.singleton delim) then String.ofList out.toList.dropLast else out

def EditRun.printSpace (o : EditOptions) (st : EditRun) : EditRun :=
  { st with out := st.out.putSpace st.space st.ended o.delim }

def firstLine (delim : Char) (space : String) : String × Bool :=
  let cs := space.toList
  let head := cs.takeWhile (· != delim)
  (String.ofList head, head.length < cs.length)

def EditRun.flush (st : EditRun) : EditRun :=
  let out := st.queued.reverse.foldl (fun out q => match q with
    | .text s => out.put s
    | .file name =>
      match readBytes st.fs name with
      | .ok t => out.put t
      | .error _ => out) st.out
  { st with out, queued := [] }

def EditRun.readNext (o : EditOptions) (join : Bool) (st : EditRun) : Option EditRun :=
  match st.rest with
  | [] => none
  | l :: rest =>
    some { st with
      space := if join then (st.space.push o.delim) ++ l.text else l.text
      ended := l.ended, file := l.file, rest, lineNo := st.lineNo + 1, replaced := false }

def EditRun.hits (st : EditRun) (a : EditAddress) : Bool × EditRun :=
  match a with
  | .line k => (k == st.lineNo, st)
  | .last => (st.rest.isEmpty, st)
  | .step f s => (st.lineNo ≥ f && (st.lineNo - f) % s == 0, st)
  | .pattern p =>
    match p <|> st.lastPattern with
    | some prog => (prog.test st.space, { st with lastPattern := some prog })
    | none => (false, st)

def EditRun.selects (st : EditRun) (i : Nat) (c : EditCommand) : Bool × EditRun :=
  let setRange (st : EditRun) (r : RangeState) : EditRun := { st with ranges := st.ranges.set! i r }
  let (sel, st) : Bool × EditRun := match c.first, c.second with
    | none, _ => (true, st)
    | some a, none => st.hits a
    | some a, some e =>
      match st.ranges[i]?.getD .idle with
      | .untilLine k =>
        (st.lineNo ≤ k, if st.lineNo ≥ k then setRange st .idle else st)
      | .untilMatch =>
        match e with
        | .address b =>
          let (h, st) := st.hits b
          (true, if h then setRange st .idle else st)
        | _ => (true, setRange st .idle)
      | .idle =>
        let (h, st) := st.hits a
        if !h then (false, st)
        else match e with
          | .address (.line k) => (true, if k ≤ st.lineNo then st else setRange st (.untilLine k))
          | .count k => (true, if k == 0 then st else setRange st (.untilLine (st.lineNo + k)))
          | .multiple k =>
            (true, if k == 0 then st else setRange st (.untilLine ((st.lineNo / k + 1) * k)))
          | .address _ => (true, setRange st .untilMatch)
  (sel != c.negate, st)

inductive CycleEnd where
  | done (autoprint : Bool)
  | again
  | quit (status : Nat) (autoprint : Bool)

def labelPlace (cmds : Array EditCommand) (name : String) : Nat :=
  if name.isEmpty then cmds.size
  else (cmds.toList.findIdx? fun c => match c.action with
    | .label l => l == name
    | _ => false).getD cmds.size

def fileLines (t : String) : List String :=
  let parts := t.splitOn "\n"
  let n := parts.length
  (parts.zipIdx.filterMap fun (p, i) =>
    if i + 1 < n then some (p ++ "\n") else if p.isEmpty then none else some p)

def runEditCommands (o : EditOptions) (cmds : Array EditCommand) :
    Nat → Nat → EditRun → EditRun × CycleEnd
  | 0, _, st => (st, .done true)
  | fuel + 1, pc, st =>
    match cmds[pc]? with
    | none => (st, .done true)
    | some c =>
      let (sel, st) := st.selects pc c
      match c.action with
      | .block after =>
        if sel then runEditCommands o cmds fuel (pc + 1) st
        else runEditCommands o cmds fuel after st
      | action =>
      if !sel then runEditCommands o cmds fuel (pc + 1) st
      else match action with
      | .block _ | .blockEnd | .label _ => runEditCommands o cmds fuel (pc + 1) st
      | .branch name cond =>
        let target := labelPlace cmds name
        match cond with
        | .always => runEditCommands o cmds fuel target st
        | .replaced =>
          if st.replaced then runEditCommands o cmds fuel target { st with replaced := false }
          else runEditCommands o cmds fuel (pc + 1) st
        | .notReplaced =>
          if st.replaced then runEditCommands o cmds fuel (pc + 1) { st with replaced := false }
          else runEditCommands o cmds fuel target st
      | .substitute p pieces every nth print write eval =>
        match p <|> st.lastPattern with
        | none => runEditCommands o cmds fuel (pc + 1) st
        | some prog =>
          let st := { st with lastPattern := some prog }
          let (space, changed) := substituteLine prog pieces every nth st.space
          if !changed then runEditCommands o cmds fuel (pc + 1) st
          else
            let (space, st) := if eval then
                let (out, st) := st.execute o space
                (spaceOfOutput o.delim out, st)
              else (space, st)
            let st := { st with space, replaced := true }
            let st := if print then st.printSpace o else st
            let st := match write with
              | some name => st.toSink name fun s => s.putSpace st.space st.ended o.delim
              | none => st
            runEditCommands o cmds fuel (pc + 1) st
      | .transliterate src dst =>
        let swap (ch : Char) : Char := match src.findIdx? (· == ch) with
          | some i => dst[i]?.getD ch
          | none => ch
        runEditCommands o cmds fuel (pc + 1) { st with space := st.space.map swap }
      | .print => runEditCommands o cmds fuel (pc + 1) (st.printSpace o)
      | .printFirst =>
        let (head, broken) := firstLine o.delim st.space
        runEditCommands o cmds fuel (pc + 1)
          { st with out := st.out.putSpace head (broken || st.ended) o.delim }
      | .delete => (st, .done false)
      | .deleteFirst =>
        let (head, broken) := firstLine o.delim st.space
        if broken then ({ st with space := String.ofList (st.space.toList.drop (head.length + 1)) }, .again)
        else (st, .done false)
      | .next =>
        if st.rest.isEmpty then (st, .done true)
        else
          let st := (if o.quiet then st else st.printSpace o).flush
          match st.readNext o false with
          | some st => runEditCommands o cmds fuel (pc + 1) st
          | none => (st, .done false)
      | .appendNext =>
        match st.flush.readNext o true with
        | some st => runEditCommands o cmds fuel (pc + 1) st
        | none => (st, .done true)
      | .hold => runEditCommands o cmds fuel (pc + 1) { st with hold := st.space }
      | .holdAppend => runEditCommands o cmds fuel (pc + 1) { st with hold := (st.hold.push o.delim) ++ st.space }
      | .get => runEditCommands o cmds fuel (pc + 1) { st with space := st.hold }
      | .getAppend => runEditCommands o cmds fuel (pc + 1) { st with space := (st.space.push o.delim) ++ st.hold }
      | .exchange => runEditCommands o cmds fuel (pc + 1) { st with space := st.hold, hold := st.space }
      | .zap => runEditCommands o cmds fuel (pc + 1) { st with space := "" }
      | .quit status print => (st, .quit status print)
      | .lineNumber => runEditCommands o cmds fuel (pc + 1) { st with out := st.out.put (toString st.lineNo ++ "\n") }
      | .execute command =>
        if command.isEmpty then
          let (out, st) := st.execute o st.space
          runEditCommands o cmds fuel (pc + 1) { st with space := spaceOfOutput o.delim out }
        else
          let (out, st) := st.execute o command
          runEditCommands o cmds fuel (pc + 1) { st with out := st.out.put out }
      | .fileName => runEditCommands o cmds fuel (pc + 1) { st with out := st.out.put (st.file ++ "\n") }
      | .append text => runEditCommands o cmds fuel (pc + 1) { st with queued := .text text :: st.queued }
      | .insert text => runEditCommands o cmds fuel (pc + 1) { st with out := st.out.put text }
      | .change text =>
        let closed := c.second.isNone || c.negate || st.ranges[pc]?.getD .idle == .idle
        ({ st with out := if closed then st.out.put text else st.out }, .done false)
      | .readFile name => runEditCommands o cmds fuel (pc + 1) { st with queued := .file name :: st.queued }
      | .readLine name =>
        let taken := (st.taken.lookup name).getD 0
        let lines := match readBytes st.fs name with
          | .ok t => fileLines t
          | .error _ => []
        match lines[taken]? with
        | some line =>
          let taken := (name, taken + 1) :: st.taken.filter (·.1 != name)
          runEditCommands o cmds fuel (pc + 1) { st with queued := .text line :: st.queued, taken }
        | none => runEditCommands o cmds fuel (pc + 1) st
      | .write name =>
        runEditCommands o cmds fuel (pc + 1) (st.toSink name fun s => s.putSpace st.space st.ended o.delim)
      | .writeFirst name =>
        let (head, _) := firstLine o.delim st.space
        runEditCommands o cmds fuel (pc + 1) (st.toSink name fun s => s.putSpace head true o.delim)
      | .list width =>
        runEditCommands o cmds fuel (pc + 1) { st with out := st.out.put (listText (width.getD o.width) st.space) }

def runEditCycles (o : EditOptions) (cmds : Array EditCommand) (steps : Nat) :
    Nat → EditRun → Bool → EditRun × Option Nat
  | 0, st, _ => (st, none)
  | n + 1, st, again =>
    match (if again then some st else st.readNext o false) with
    | none => (st, none)
    | some st =>
      match runEditCommands o cmds steps 0 st with
      | (st, .done autoprint) =>
        let st := if autoprint && !o.quiet then st.printSpace o else st
        runEditCycles o cmds steps n st.flush false
      | (st, .again) => runEditCycles o cmds steps n st.flush true
      | (st, .quit status autoprint) =>
        let st := if autoprint && !o.quiet then (st.printSpace o).flush else st
        (st, some status)

def editLines (delim : Char) (file text : String) : List EditLine :=
  if text.isEmpty then []
  else
    let parts := text.splitOn (String.singleton delim)
    let whole := text.endsWith (String.singleton delim)
    let parts := if whole then parts.dropLast else parts
    let n := parts.length
    parts.zipIdx.map fun (p, i) => { text := p, ended := whole || i + 1 < n, file }

def sedUsage : String :=
  "Usage: sed [OPTION]... \x7bscript-only-if-no-other-script\x7d [input-file]...\n\n" ++
  "  -n, --quiet, --silent\n                 suppress automatic printing of pattern space\n" ++
  "      --debug\n                 annotate program execution\n" ++
  "  -e script, --expression=script\n                 add the script to the commands to be executed\n" ++
  "  -f script-file, --file=script-file\n                 add the contents of script-file to the commands to be executed\n" ++
  "  --follow-symlinks\n                 follow symlinks when processing in place\n" ++
  "  -i[SUFFIX], --in-place[=SUFFIX]\n                 edit files in place (makes backup if SUFFIX supplied)\n" ++
  "  -l N, --line-length=N\n                 specify the desired line-wrap length for the `l' command\n" ++
  "  --posix\n                 disable all GNU extensions.\n" ++
  "  -E, -r, --regexp-extended\n                 use extended regular expressions in the script\n" ++
  "                 (for portability use POSIX -E).\n" ++
  "  -s, --separate\n                 consider files as separate rather than as a single,\n" ++
  "                 continuous long stream.\n" ++
  "      --sandbox\n                 operate in sandbox mode (disable e/r/w commands).\n" ++
  "  -u, --unbuffered\n                 load minimal amounts of data from the input files and flush\n" ++
  "                 the output buffers more often\n" ++
  "  -z, --null-data\n                 separate lines by NUL characters\n" ++
  "      --help     display this help and exit\n" ++
  "      --version  output version information and exit\n\n" ++
  "If no -e, --expression, -f, or --file option is given, then the first\n" ++
  "non-option argument is taken as the sed script to interpret.  All\n" ++
  "remaining arguments are names of input files; if no input files are\n" ++
  "specified, then the standard input is read.\n\n" ++
  "GNU sed home page: <https://www.gnu.org/software/sed/>.\n" ++
  "General help using GNU software: <https://www.gnu.org/gethelp/>.\n"

/-- Where a part of the script came from: an `-e` text (by its number) or an `-f` file. -/
inductive ScriptSource where
  | expression (k : Nat) (text : String)
  | file (name text : String)

def ScriptSource.text : ScriptSource → String
  | .expression _ t => t
  | .file _ t => if t.endsWith "\n" then String.ofList t.toList.dropLast else t

structure SedCommandLine where
  quiet : Bool := false
  extended : Bool := false
  separate : Bool := false
  inPlace : Option String := none
  delim : Char := '\n'
  width : Nat := 70
  scripts : List ScriptSource := []
  operands : List String := []
  fault : Option (String × Nat) := none

def SedCommandLine.scriptFile (c : SedCommandLine) (fs : Tree) (name : String) : SedCommandLine :=
  match readBytes fs name with
  | .ok t => { c with scripts := c.scripts ++ [.file name t] }
  | .error err =>
    { c with fault := some ("sed: couldn't open file " ++ name ++ ": " ++ errnoText err.errno ++ "\n", 4) }

def SedCommandLine.expression (c : SedCommandLine) (s : String) : SedCommandLine :=
  { c with scripts := c.scripts ++ [.expression (c.scripts.length + 1) s] }

def sedCluster (fs : Tree) : Nat → List Char → SedCommandLine → List String → SedCommandLine × List String
  | 0, _, c, r => (c, r)
  | _, [], c, r => (c, r)
  | k + 1, l :: ls, c, r =>
    let valued (use : String → SedCommandLine) : SedCommandLine × List String :=
      if !ls.isEmpty then (use (String.ofList ls), r)
      else match r with
        | v :: r' => (use v, r')
        | [] => ({ c with fault := some ("sed: option requires an argument -- '" ++
            String.singleton l ++ "'\n" ++ sedUsage, 1) }, r)
    match l with
    | 'n' => sedCluster fs k ls { c with quiet := true } r
    | 'E' | 'r' => sedCluster fs k ls { c with extended := true } r
    | 's' => sedCluster fs k ls { c with separate := true } r
    | 'z' => sedCluster fs k ls { c with delim := '\x00' } r
    | 'u' => sedCluster fs k ls c r
    | 'i' => ({ c with inPlace := some (String.ofList ls), separate := true }, r)
    | 'e' => valued c.expression
    | 'f' => valued (c.scriptFile fs)
    | 'l' => valued fun v => { c with width := v.toNat! }
    | _ => ({ c with fault := some ("sed: invalid option -- '" ++ String.singleton l ++ "'\n" ++ sedUsage, 1) }, r)

def sedCommandLine (fs : Tree) : Nat → List String → SedCommandLine → SedCommandLine
  | 0, _, c => c
  | _, [], c => c
  | n + 1, a :: rest, c =>
    let invalid (what : String) : SedCommandLine :=
      { c with fault := some ("sed: " ++ what ++ "\n" ++ sedUsage, 1) }
    if a == "--" then { c with operands := c.operands ++ rest }
    else if a.startsWith "--" then
      let (name, value) := match a.splitOn "=" with
        | [nm] => (nm, none)
        | nm :: vs => (nm, some ("=".intercalate vs))
        | [] => (a, none)
      let takes (k : String → SedCommandLine) : SedCommandLine :=
        match value, rest with
        | some v, _ => sedCommandLine fs n rest (k v)
        | none, v :: r => sedCommandLine fs n r (k v)
        | none, [] => invalid ("option '" ++ name ++ "' requires an argument")
      match name with
      | "--quiet" | "--silent" => sedCommandLine fs n rest { c with quiet := true }
      | "--regexp-extended" => sedCommandLine fs n rest { c with extended := true }
      | "--separate" => sedCommandLine fs n rest { c with separate := true }
      | "--null-data" => sedCommandLine fs n rest { c with delim := '\x00' }
      | "--in-place" => sedCommandLine fs n rest { c with inPlace := some (value.getD ""), separate := true }
      | "--posix" | "--debug" | "--unbuffered" | "--sandbox" | "--follow-symlinks" => sedCommandLine fs n rest c
      | "--expression" => takes c.expression
      | "--file" => takes (c.scriptFile fs)
      | "--line-length" => takes fun v => { c with width := v.toNat! }
      | _ => invalid ("unrecognized option '" ++ a ++ "'")
    else if a.startsWith "-" && a.length > 1 then
      let (c, rest) := sedCluster fs (a.length + 1) (a.toList.drop 1) c rest
      if c.fault.isSome then c else sedCommandLine fs n rest c
    else sedCommandLine fs n rest { c with operands := c.operands ++ [a] }

def faultPlace (sources : List ScriptSource) (pos : Nat) : String :=
  let at_ (src : ScriptSource) (p : Nat) : String :=
    match src with
    | .expression k _ => "-e expression #" ++ toString k ++ ", char " ++ toString p
    | .file name t => "file " ++ name ++ " line " ++ toString (((t.toList.take p).filter (· == '\n')).length + 1)
  let rec find : List ScriptSource → Nat → String
    | [], _ => match sources.getLast? with
      | some src => at_ src 0
      | none => "-e expression #1, char 0"
    | [src], p => at_ src p
    | src :: more, p =>
      if p ≤ src.text.length then at_ src p else find more (p - src.text.length - 1)
  if pos == 0 then find [] 0 else find sources pos

def EditRun.finish (st : EditRun) (errs : String) (status : Nat) : Effect :=
  let e : Effect := { files := st.fs }
  let e := if errs.isEmpty then e else e.err errs
  let e := if st.errs.isEmpty then e else e.err st.errs
  let e := match st.sinks.lookup "/dev/stderr" with
    | some s => e.err s.text
    | none => e
  let fs := st.sinks.foldr (fun (name, s) t =>
    if name == "/dev/stderr" then t else (writeBytes t name s.text).toOption.getD t) e.files
  let e := { e with files := fs }
  let e := if st.out.text.isEmpty then e else e.out st.out.text
  e.fail status

def sed (fs : Tree) (args : List String) (input : String) (run : CommandRun) : Effect :=
  let plain : Effect := { files := fs }
  let c := sedCommandLine fs (args.length + 1) args {}
  match c.fault with
  | some (msg, status) => (plain.err msg).fail status
  | none =>
  let (sources, files) : List ScriptSource × List String := if c.scripts.isEmpty then
      match c.operands with
      | s :: rest => ([.expression 1 s], rest)
      | [] => ([], [])
    else (c.scripts, c.operands)
  if sources.isEmpty then (plain.err sedUsage).fail 1
  else
  let script := "\n".intercalate (sources.map ScriptSource.text)
  let quiet := c.quiet || script == "#n" || script.startsWith "#n\n"
  match readScript c.extended script.length (script.length + 1) script.toList {} with
  | .error f => (plain.err ("sed: " ++ faultPlace sources f.pos ++ ": " ++ f.msg ++ "\n")).fail 1
  | .ok r =>
    match missingLabel r.cmds with
    | some name => (plain.err ("sed: can't find label for jump to `" ++ name ++ "'\n")).fail 4
    | none =>
    let cmds := r.cmds
    -- the files `w` writes are emptied before any line is read
    let opened := r.writes.foldl (fun (acc : Except String Tree) name =>
      match acc with
      | .error m => .error m
      | .ok t =>
        if name == "/dev/stdout" || name == "/dev/stderr" then .ok t
        else match writeBytes t name "" with
          | .ok t => .ok t
          | .error err => .error ("sed: couldn't open file " ++ name ++ ": " ++ errnoText err.errno ++ "\n")) (.ok fs)
    match opened with
    | .error m => (plain.err m).fail 4
    | .ok fs =>
    let o : EditOptions := { quiet, delim := c.delim, width := c.width, run }
    let names := if files.isEmpty then ["-"] else files
    let size := names.foldl (fun acc f => acc + ((readBytes fs f).toOption.map String.length).getD 0) input.length
    let steps := 64 * (cmds.size + 2) * (size + 2)
    let freshRanges : Array RangeState := cmds.map fun cmd => if cmd.fromZero then .untilMatch else .idle
    let read (f : String) : Except String (List EditLine) :=
      if f == "-" && c.inPlace.isNone then .ok (editLines c.delim "-" input)
      else match readBytes fs f with
        | .ok t => .ok (editLines c.delim f t)
        | .error err => .error ("sed: can't read " ++ f ++ ": " ++ errnoText err.errno ++ "\n")
    if c.separate then
      -- each file on its own: line numbers, `$` and ranges start again, and under `-i` the
      -- output replaces the file
      let start : EditRun := { fs, ranges := freshRanges }
      let (st, errs, status, stop) := names.foldl (fun (st, errs, status, stop) f =>
        match stop with
        | some _ => (st, errs, status, stop)
        | none =>
          match read f with
          | .error m => (st, errs ++ m, 2, none)
          | .ok lines =>
            let before := st.out
            let st := { st with rest := lines, lineNo := 0, ranges := freshRanges,
                                out := if c.inPlace.isSome then {} else st.out }
            let (st, stop) := runEditCycles o cmds steps (size + 2) st false
            match c.inPlace with
            | some suffix =>
              let t := if suffix.isEmpty then st.fs
                else (writeBytes st.fs (f ++ suffix) ((readBytes st.fs f).toOption.getD "")).toOption.getD st.fs
              let t := (writeBytes t f st.out.text).toOption.getD t
              ({ st with fs := t, out := before }, errs, status, stop)
            | none => (st, errs, status, stop)) (start, "", 0, none)
      st.finish errs (stop.getD status)
    else
      let (lines, errs, status) := names.foldl (fun (lines, errs, status) f =>
        match read f with
        | .ok ls => (lines ++ ls, errs, status)
        | .error m => (lines, errs ++ m, 2)) ([], "", 0)
      let st : EditRun := { fs, rest := lines, ranges := freshRanges }
      let (st, stop) := runEditCycles o cmds steps (size + 2) st false
      st.finish errs (stop.getD status)

end TestRig.Shell
