import TestRig.Shell.Variables
import TestRig.Regex.Machine

/-!
Expanding words. Words expand into fields (`TestRig.Shell.Fields`): the full shell first expands
braces, then parameters, command substitutions and arithmetic, splits unquoted results at
`IFS`, and expands unquoted patterns into the sorted paths of the files they match; a pattern
that matches nothing stays as it is (or goes, under `nullglob`).
-/

namespace TestRig.Shell

open TestRig.Files TestRig.Text

abbrev Substitution := Proc → String → Bool → Shell (Proc × String)

abbrev Tracer := Proc → String → Shell Proc

/-! ### Fields and words -/

def Fields.addText (f : Fields) (ifs : Option String) (s : String) (quoted split : Bool) : Fields :=
  if quoted then f.add s else if split then f.addSplit ifs s else f.add s false

def Fields.addExpansion (f : Fields) (ifs : Option String) (joiner : String) (e : Expansion)
    (quoted split : Bool) : Fields :=
  match e with
  | .one s => f.addText ifs s quoted split
  | .many items star =>
    if quoted then (if star then f.add (joiner.intercalate items) else f.addEach items)
    else if split then f.addSplitEach ifs items
    else f.add (" ".intercalate items) false

def Proc.globOptions (p : Proc) : GlobOptions :=
  { dotglob := p.shopt "dotglob", nocase := p.shopt "nocaseglob", globstar := p.shopt "globstar" }

def Proc.globKept (p : Proc) (paths : List String) : List String :=
  let ignores := p.globIgnores
  if ignores.isEmpty then paths
  else paths.filter fun path =>
    let last := ((path.splitOn "/").getLast?.getD "")
    let last := if last.isEmpty then path else last
    last != "." && last != ".." && !ignores.any fun pat => patternMatch pat path

def Proc.globFields (p : Proc) (fs : Tree) (fields : List Field) : List String × Option String :=
  fields.foldl (fun (acc, failed) fld =>
    if fld.globbed && !p.noglob then
      match p.globKept (globPaths fs fld.pattern p.globOptions) with
      | [] =>
        if p.shopt "failglob" then (acc, failed <|> some fld.text)
        else if p.shopt "nullglob" then (acc, failed)
        else (acc ++ [fld.text], failed)
      | ms => (acc ++ ms, failed)
    else (acc ++ [fld.text], failed)) ([], none)

def wordParts (bash : Bool) (text : String) : List Part :=
  go (text.length + 1) text.toList []
where
  go : Nat → List Char → List Part → List Part
    | 0, _, acc => acc
    | _, [], acc => acc
    | n + 1, cs, acc =>
      match readWord bash (cs.length + 1) cs [] with
      | .ok ([], c :: rest) => go n rest (acc ++ [.text (String.singleton c) false])
      | .ok (w, rest) => go n rest (acc ++ w)
      | .error _ => acc ++ [.text (String.ofList cs) false]

def keyedItem? (w : Word) : Option (String × Word) :=
  match braceAtoms w with
  | .ch '[' :: r =>
    match subscriptAtoms (r.length + 1) 0 r "" with
    | some (key, .ch '=' :: value) => some (key, wordOfAtoms value)
    | _ => none
  | _ => none

def regexQuote (s : String) : String :=
  String.join (s.toList.map fun c =>
    if "\\.+*?()|[]^$".contains c || c == '\x7b' || c == '\x7d' then "\\" ++ String.singleton c else String.singleton c)

def Proc.unaryCond (p : Proc) (fs : Tree) (op arg : String) : Bool :=
  ((p.testWorld fs).unary op arg).getD false

def declItemOf (s : String) : DeclItem :=
  if (s.startsWith "-" || s.startsWith "+") && s.length > 1 then .option s
  else match s.splitOn "=" with
    | n :: v :: more =>
      let append := n.endsWith "+"
      let name := if append then String.ofList n.toList.dropLast else n
      .assign { name, append, value := .scalar ("=".intercalate (v :: more)) }
    | _ => .name s

def isBlankText (s : String) : Bool := s.all fun c => c == ' ' || c == '\t' || c == '\n'

/-! ### Expansions -/

def arithParts (bash : Bool) : Nat → List Char → List Part → Except String (List Part)
  | 0, _, acc => .ok acc
  | fuel + 1, cs, acc =>
    match readDouble bash (cs.length + 1) cs [] with
    | .error e => .error e
    | .ok (parts, []) => .ok (acc ++ parts)
    | .ok (parts, rest) => arithParts bash fuel rest (acc ++ parts)

def condTrace (inverted : Bool) (items : List String) : String :=
  "[[ " ++ (if inverted then "! " else "") ++
    " ".intercalate (items.map fun t => if t.isEmpty then "''" else t) ++ " ]]"

mutual

def expandPatterns (run : Substitution) : Nat → Proc → List Word → Shell (Proc × List String)
  | 0, p, _ => pure (p, [])
  | _, p, [] => pure (p, [])
  | n + 1, p, w :: rest => do
    let (p, f) ← expandParts run n p w {} false
    let (p, more) ← expandPatterns run n p rest
    pure (p, f.joinedPattern :: more)

def evalCond (run : Substitution) (trace : Tracer) : Nat → Proc → Bool → CondExpr →
    Shell (Proc × Except (Nat × String) Bool)
  | 0, p, _, _ => pure (p, .ok false)
  | n + 1, p, inverted, .word w => do
    let (p, t) ← expandWord run n p w
    let p ← trace p (condTrace inverted ["-n", t])
    pure (p, .ok !t.isEmpty)
  | n + 1, p, inverted, .unary op w => do
    let (p, t) ← expandWord run n p w
    let p ← trace p (condTrace inverted [op, t])
    let fs ← filesFrom p
    pure (p, .ok (p.unaryCond fs op t))
  | n + 1, p, inverted, .binary op a b => do
    let (p, x) ← expandWord run n p a
    if op == "==" || op == "=" || op == "!=" then do
      let (p, f) ← expandParts run n p b {} false
      let p ← trace p (condTrace inverted [x, op, f.joinedPattern])
      let m := matchFolded (p.shopt "nocasematch") (Pattern.items f.joinedPattern) x.toList
      pure (p, .ok (if op == "!=" then !m else m))
    else if op == "=~" then do
      let (p, re) ← regexText run n p b
      let p ← trace p (condTrace inverted [x, op, re])
      match TestRig.Regex.Program.longestOf ((if p.shopt "nocasematch" then "(?i)" else "") ++ re) with
      | .error _ => pure (p, .error (2, ""))
      | .ok prog =>
        match prog.groups? x with
        | some groups =>
          pure ({ p with vars := setElements p.vars "BASH_REMATCH" (groups.map (·.getD "")) }, .ok true)
        | none => pure ({ p with vars := setElements p.vars "BASH_REMATCH" [] }, .ok false)
    else do
      let (p, y) ← expandWord run n p b
      let p ← trace p (condTrace inverted [x, op, y])
      if op == "<" then pure (p, .ok (x < y))
      else if op == ">" then pure (p, .ok (y < x))
      else if op == "-nt" || op == "-ot" || op == "-ef" then do
        let fs ← filesFrom p
        pure (p, .ok ((p.testWorld fs).compareFiles op x y))
      else if ["-eq", "-ne", "-lt", "-le", "-gt", "-ge"].contains op then
        let (p, rx) := p.arith x
        let (p, ry) := p.arith y
        match rx, ry with
        | .ok i, .ok j =>
          pure (p, .ok (if op == "-eq" then i == j else if op == "-ne" then i != j else if op == "-lt" then i < j
            else if op == "-le" then i ≤ j else if op == "-gt" then i > j else i ≥ j))
        | .error msg, _ | _, .error msg =>
          if p.expansionFault.isSome then do
            complain p msg
            pure (p, .ok false)
          else pure (p, .error (1, "[[: " ++ msg))
      else pure (p, .ok false)
  | n + 1, p, inverted, .not e => do
    let (p, r) ← evalCond run trace n p (!inverted) e
    pure (p, r.map (!·))
  | n + 1, p, _, .and a b => do
    let (p, r) ← evalCond run trace n p false a
    match r with
    | .ok true => evalCond run trace n p false b
    | other => pure (p, other)
  | n + 1, p, _, .or a b => do
    let (p, r) ← evalCond run trace n p false a
    match r with
    | .ok false => evalCond run trace n p false b
    | other => pure (p, other)

def regexText (run : Substitution) : Nat → Proc → Word → Shell (Proc × String)
  | 0, p, _ => pure (p, "")
  | _, p, [] => pure (p, "")
  | n + 1, p, part :: rest => do
    let (p, f) ← expandParts run n p [part] {} false
    let quoted := match part with
      | .text _ q | .param _ q | .subst _ q | .arith _ q => q
      | .items _ | .procSubst _ => false
    let (p, more) ← regexText run n p rest
    pure (p, (if quoted then regexQuote f.joined else f.joined) ++ more)

def declItems (run : Substitution) : Nat → Proc → List Word → Shell (Proc × List DeclItem)
  | 0, p, _ => pure (p, [])
  | _, p, [] => pure (p, [])
  | n + 1, p, w :: rest => do
    let (p, here) ← match assignmentOf? w with
      | some a => do
        let (p, x) ← expandAssignment run n p a
        pure (p, [DeclItem.assign x])
      | none => do
        let (p, fs) ← expandWords run n p [w]
        pure (p, fs.map fun s =>
          if (s.startsWith "-" || s.startsWith "+") && s.length > 1 then DeclItem.option s else DeclItem.name s)
    let (p, more) ← declItems run n p rest
    pure (p, here ++ more)

def paramValue (run : Substitution) : Nat → Proc → String → Bool → Shell (Proc × Expansion)
  | 0, p, _, _ => pure (p, .one "")
  | n + 1, p, raw, quoted => do
    let bash := p.dialect == .bash
    let unbound (p : Proc) (name : String) : Shell (Proc × Expansion) := do
      complain p (name ++ if bash then ": unbound variable" else ": parameter not set")
      pure ({ p with expansionFault := some .exitShell }, .one "")
    let fail (p : Proc) (msg : String) : Shell (Proc × Expansion) := do
      complain p msg
      pure ({ p with expansionFault := some .dropCommand }, .one "")
    let badSubst : String := if bash then "$\x7b" ++ raw ++ "\x7d: bad substitution" else "Bad substitution"
    let counting := raw.startsWith "#" && raw.length > 1
    let indirect := raw.startsWith "!" && raw.length > 1 && bash
    let body := if counting || indirect then (raw.drop 1).toString else raw
    let pre := String.ofList body.toList.dropLast
    if indirect && (body.endsWith "@" || body.endsWith "*") && isName pre then
      let names := ((p.vars.filter fun v => v.name.startsWith pre && !v.elements.isEmpty).map (·.name)).mergeSort (· ≤ ·)
      pure (p, .many names (body.endsWith "*"))
    else
      let ref := parseRef body
      let op := ParamOp.parse ref.op
      if ((op.bashOnly || ref.sub.isSome) && !bash) || (counting && !ref.op.isEmpty) then fail p badSubst
      else
        let (p, sub) ← match ref.sub with
          | none => pure (p, none)
          | some s =>
            if s == "@" || s == "*" then pure (p, some s)
            else do
              let (p, t) ← expandWord run n p (wordParts bash s)
              pure (p, some t)
        if indirect then
          match sub with
          | some s =>
            if s == "@" || s == "*" then pure (p, .many (((p.var? ref.name).map (·.keys)).getD []) (s == "*"))
            else fail p badSubst
          | none =>
            -- the parameter names another, which must be a name; under `-u` it must be set
            match p.param ref.name with
            | some target =>
              let named := isName target || (!target.isEmpty && target.all Char.isDigit) ||
                ["@", "*", "#", "?", "$", "!", "-"].contains target
              if !named then fail p (target ++ ": invalid variable name")
              else if p.nounset && (p.param target).isNone && !op.exempt && bash && target != "@" && target != "*" then
                unbound p ("!" ++ ref.name)
              else paramValue run n p (target ++ ref.op) quoted
            | none => if bash then fail p (ref.name ++ ": invalid indirect expansion") else pure (p, .one "")
        else
          match p.lookup ref.name sub with
          | (p, .error msg) =>
            if msg == badSubscript ref.name then do
              complain p msg
              pure (p, .one "")
            else fail p msg
          | (p, .ok v) =>
            -- an element is named with its subscript as written
            let shownName := match ref.sub with
              | some s => if s == "@" || s == "*" then ref.name else ref.name ++ "[" ++ s ++ "]"
              | none => ref.name
            let allOf := ref.sub == some "@" || ref.sub == some "*"
            if counting then
              match v with
              | some e =>
                if allOf && p.nounset && bash && (p.var? ref.name).isNone then do
                  complain p (ref.name ++ ": unbound variable")
                  pure ({ p with expansionFault := some .dropCommand }, .one "")
                else pure (p, .one (toString e.length))
              | none => if p.nounset then unbound p shownName else pure (p, .one "0")
            else if p.nounset && v.isNone && !op.exempt && ref.name != "@" && ref.name != "*" then unbound p shownName
            else paramOp run n p ref.name sub quoted v op badSubst

def paramOp (run : Substitution) : Nat → Proc → String → Option String → Bool → Option Expansion → ParamOp → String →
    Shell (Proc × Expansion)
  | 0, p, _, _, _, _, _, _ => pure (p, .one "")
  | n + 1, p, name, sub, quoted, v, op, badSubst => do
    let value := v.getD (.one "")
    let isNull := match v with
      | none => true
      | some e => e.texts.all String.isEmpty || e.texts.isEmpty
    let missing (nullToo : Bool) : Bool := v.isNone || (nullToo && isNull)
    let fail (p : Proc) (fault : ExpansionFault) (msg : String) : Shell (Proc × Expansion) := do
      complain p msg
      pure ({ p with expansionFault := some fault }, .one "")
    match op with
    | .plain => pure (p, value)
    | .default w nullToo =>
      if missing nullToo then do
        let (p, d) ← opWord run n p quoted w
        pure (p, .one d)
      else pure (p, value)
    | .assignDefault w nullToo =>
      if missing nullToo then do
        let (p, d) ← opWord run n p quoted w
        let (p, _) ← assignTo p name sub false d
        pure (p, .one d)
      else pure (p, value)
    | .alternative w nullToo =>
      if missing nullToo then pure (p, .one "")
      else do
        let (p, d) ← opWord run n p quoted w
        pure (p, .one d)
    | .require w nullToo =>
      if missing nullToo then do
        let (p, msg) ← if w.isEmpty then pure (p, p.dialect.requiredMessage nullToo) else opWord run n p quoted w
        fail p .exitShell (name ++ ": " ++ msg)
      else pure (p, value)
    | .slice off len => do
      let (p, o) ← opWord run n p quoted off
      let (p, l) ← match len with
        | some t => do
          let (p, x) ← opWord run n p quoted t
          pure (p, some x)
        | none => pure (p, none)
      match p.slice name value o l with
      | (p, .ok e) => pure (p, e)
      | (p, .error msg) => fail p .dropCommand msg
    | .trimEnd pat longest => do
      let (p, t) ← opPattern run n p pat
      pure (p, value.map (removeSuffix · t longest))
    | .trimStart pat longest => do
      let (p, t) ← opPattern run n p pat
      pure (p, value.map (removePrefix · t longest))
    | .replace pat rep every fromStart toEnd => do
      let (p, t) ← opPattern run n p pat
      let marked (w : String) := if p.shopt "patsub_replacement" then markAmpersands quoted w else w
      let (p, r) ← match rep with
        | some w => opWord run n p quoted (marked w)
        | none => pure (p, "")
      pure (p, value.map (replacePattern · t r every fromStart toEnd))
    | .recase pat change every => do
      let (p, t) ← opPattern run n p pat
      pure (p, value.map (changeCase · t change every))
    | .transform letter =>
      match v with
      | none => pure (p, value)
      | some e => pure (p, transformValue (p.var? name) (sub == some "@" || sub == some "*") letter e)
    | .bad => fail p .dropCommand badSubst

def opWord (run : Substitution) : Nat → Proc → Bool → String → Shell (Proc × String)
  | 0, p, _, _ => pure (p, "")
  | n + 1, p, quoted, text =>
    if quoted then
      match readDouble (p.dialect == .bash) (text.length + 2) (text.toList ++ ['"']) [] with
      | .ok (parts, _) => expandWord run n p parts
      | .error _ => pure (p, text)
    else expandWord run n p (wordParts (p.dialect == .bash) text)

def markAmpersands (quoted : Bool) (text : String) : String :=
  String.ofList (go (text.length + 1) text.toList none)
where
  go : Nat → List Char → Option Char → List Char
    | 0, cs, _ => cs
    | _, [], _ => []
    | n + 1, c :: rest, inQuote =>
      match inQuote, c, rest with
      | none, '\\', '&' :: r => (if quoted then ['&'] else ['\\', '&']) ++ go n r none
      | none, '\\', d :: r => '\\' :: d :: go n r none
      | none, '&', r => matchedMark :: go n r none
      | none, '\x27', r => if quoted then c :: go n r none else c :: go n r (some c)
      | none, '"', r => if quoted then c :: go n r none else c :: go n r (some c)
      | some q, _, r => c :: go n r (if c == q then none else some q)
      | none, _, r => c :: go n r none

def opPattern (run : Substitution) : Nat → Proc → String → Shell (Proc × String)
  | 0, p, _ => pure (p, "")
  | n + 1, p, text => do
    let (p, f) ← expandParts run n p (wordParts (p.dialect == .bash) text) {} false
    pure (p, f.joinedPattern)

def expandParts (run : Substitution) : Nat → Proc → List Part → Fields → Bool → Shell (Proc × Fields)
  | 0, p, _, f, _ => pure (p, f)
  | _, p, [], f, _ => pure (p, f)
  | n + 1, p, part :: rest, f, split =>
    if p.expansionFault.isSome then pure (p, f) else
    let ifs := p.lookupVar "IFS"
    match part with
    | .text s q => expandParts run n p rest (if q && s.isEmpty then f.quotedEmpty else f.add s q) split
    | .items body => expandParts run n p rest (f.add ("(" ++ body ++ ")") false) split
    | .param raw quoted => do
      let (p, e) ← paramValue run n p raw quoted
      expandParts run n p rest (f.addExpansion ifs p.joiner e quoted split) split
    | .subst script quoted => do
      let (p, out) ← run p script false
      expandParts run n p rest (f.addText ifs out quoted split) split
    | .procSubst script => do
      -- the output waits in a file of a descriptor, counted down from 63
      let (p, out) ← run p script true
      let path := "/dev/fd/" ++ toString (63 - p.pipes.length)
      let fs ← filesFrom p
      setFiles (fs.withFile (toText path) (toByteArray out))
      expandParts run n { p with pipes := path :: p.pipes } rest (f.add path true) split
    | .arith expr quoted => do
      let (p, text) ← arithText run n p expr
      expandParts run n p rest (f.addText ifs text quoted split) split

def expandArith (run : Substitution) : Nat → Proc → String → Shell (Proc × Option String)
  | 0, p, _ => pure (p, none)
  | n + 1, p, expr =>
    match arithParts (p.dialect == .bash) (expr.length + 1) (expr.toList ++ ['"']) [] with
    | .error _ => pure (p, none)
    | .ok parts => do
      let (p, text) ← expandWord run n p parts
      pure (p, some text)

def arithValue (run : Substitution) : Nat → Proc → String → Shell (Proc × Except String Int)
  | 0, p, _ => pure (p, .ok 0)
  | n + 1, p, expr => do
    let (p, text) ← expandArith run n p expr
    match text with
    | some t => pure (p.arith t)
    | none => pure (p, .ok 0)

def arithText (run : Substitution) : Nat → Proc → String → Shell (Proc × String)
  | 0, p, _ => pure (p, "")
  | n + 1, p, expr => do
    let (p, r) ← arithValue run n p expr
    match r with
    | .ok v => pure (p, toString v)
    | .error msg => do
      complain p msg
      pure ({ p with expansionFault := some (p.expansionFault.getD .dropCommand) }, "")

def expandWord (run : Substitution) : Nat → Proc → Word → Shell (Proc × String)
  | 0, p, _ => pure (p, "")
  | n + 1, p, w => do
    let (p, f) ← expandParts run n p w {} false
    pure (p, f.joined)

def expandWords (run : Substitution) : Nat → Proc → List Word → Shell (Proc × List String)
  | 0, p, _ => pure (p, [])
  | _, p, [] => pure (p, [])
  | n + 1, p, w :: rest => do
    let (p, here) ← expandBraced run n p (if p.dialect == .bash then braceExpand w else [w])
    let (p, more) ← expandWords run n p rest
    pure (p, here ++ more)

def expandBraced (run : Substitution) : Nat → Proc → List Word → Shell (Proc × List String)
  | 0, p, _ => pure (p, [])
  | _, p, [] => pure (p, [])
  | n + 1, p, w :: rest => do
    let (p, f) ← expandParts run n p w {} true
    let fs ← filesFrom p
    let (here, failed) := p.globFields fs f.all
    match failed with
    | some pat => do
      complain p ("no match: " ++ pat)
      pure ({ p with expansionFault := some .dropCommand }, [])
    | none =>
      let (p, more) ← expandBraced run n p rest
      pure (p, here ++ more)

def expandAssignment (run : Substitution) : Nat → Proc → Assignment → Shell (Proc × Assigning)
  | 0, p, a => pure (p, { name := a.name, value := .scalar "" })
  | n + 1, p, a => do
    let bash := p.dialect == .bash
    let (p, sub) ← match a.subscript with
      | some s => do
        let (p, t) ← expandWord run n p (wordParts bash s)
        pure (p, some t)
      | none => pure (p, none)
    match a.value with
    | [.items body] => do
      let (p, items) ← expandItems run n p (itemWords bash body)
      pure (p, { name := a.name, sub, append := a.append, value := .items items })
    | w => do
      let (p, t) ← expandWord run n p w
      pure (p, { name := a.name, sub, append := a.append, value := .scalar t })

def expandAssignments (run : Substitution) : Nat → Proc → List Assignment → Shell (Proc × List Assigning)
  | 0, p, _ => pure (p, [])
  | _, p, [] => pure (p, [])
  | n + 1, p, a :: rest => do
    let (p, x) ← expandAssignment run n p a
    let (p, more) ← expandAssignments run n p rest
    pure (p, x :: more)

def expandItems (run : Substitution) : Nat → Proc → List Word → Shell (Proc × List (Option String × String))
  | 0, p, _ => pure (p, [])
  | _, p, [] => pure (p, [])
  | n + 1, p, w :: rest => do
    let (p, here) ← match keyedItem? w with
      | some (key, value) => do
        let (p, k) ← expandWord run n p (wordParts (p.dialect == .bash) key)
        let (p, v) ← expandWord run n p value
        pure (p, [(some k, v)])
      | none => do
        let (p, vs) ← expandWords run n p [w]
        pure (p, vs.map fun v => (none, v))
    let (p, more) ← expandItems run n p rest
    pure (p, here ++ more)

def applyRedirects (run : Substitution) : Nat → Proc → Descriptors → List Redirect →
    Shell (Proc × Except String Descriptors)
  | 0, p, d, _ => pure (p, .ok d)
  | _, p, d, [] => pure (p, .ok d)
  | n + 1, p, d, r :: rest => do
    let (p, target) ← expandWord run n p r.target
    let fs ← filesFrom p
    let abs := fs.resolve (toText target)
    let underFile := (Tree.ancestors abs).any fun a => hostDevices.contains a || hostFiles.contains a
    match r.kind with
    | .heredoc body expand _ =>
      if !expand then applyRedirects run n p (d.reading r.fd body) rest
      else match heredocParts (p.dialect == .bash) (body.length + 1) body.toList [] with
        | .ok parts => do
          let (p, text) ← expandWord run n p parts
          applyRedirects run n p (d.reading r.fd text) rest
        | .error msg => pure (p, .error msg)
    | .herestring => applyRedirects run n p (d.reading r.fd (target ++ "\n")) rest
    | .dup =>
      if target == "-" then applyRedirects run n p (d.close r.fd) rest
      else match target.toNat? with
        | some m =>
          match d.sinks.lookup m, d.sources.lookup m with
          | some s, _ => applyRedirects run n p (d.writing r.fd s) rest
          | none, some text => applyRedirects run n p (d.reading r.fd text) rest
          | none, none =>
            if m == 0 then applyRedirects run n p (d.reading r.fd d.input) rest
            else pure (p, .error (target ++ ": Bad file descriptor"))
        | none =>
          -- bash reads >&file as &>file; the light shell stops at a descriptor that is no number
          if p.dialect == .dash then do
            complain p "Syntax error: Bad fd number"
            pure ({ p with expansionFault := some .dropCommand }, .ok d)
          else if r.fd == 1 then
            let file : Redirect := { fd := 1, kind := .write, target := [.text target true] }
            let both : Redirect := { fd := 2, kind := .dup, target := [.text "1" true] }
            applyRedirects run n p d (file :: both :: rest)
          else pure (p, .error (target ++ ": ambiguous redirect"))
    | .read =>
      if target == nullDevice then applyRedirects run n p (d.reading r.fd "") rest
      else match readBytes fs target with
        | .ok text => applyRedirects run n p (d.reading r.fd text) rest
        | .error e => match p.dialect with
          | .bash => pure (p, .error (target ++ ": " ++ errnoText (if underFile then .notDir else e.errno)))
          | .dash => pure (p, .error ("cannot open " ++ target ++ ": " ++
              (if underFile then "Not a directory" else "No such file")))
    | kind =>
      if target == nullDevice then applyRedirects run n p (d.writing r.fd .discard) rest
      else if kind == .write && p.noclobber && fileExists fs target && !dirExists fs target then
        match p.dialect with
        | .bash => pure (p, .error (target ++ ": cannot overwrite existing file"))
        | .dash => pure (p, .error ("cannot create " ++ target ++ ": File exists"))
      else
        let opened := if kind == .append && fileExists fs target then Except.ok fs
          else writeBytes fs target ""
        match opened with
        | .ok t => do
          setFiles t
          applyRedirects run n p (d.writing r.fd (.file abs)) rest
        | .error e =>
          let errno := if underFile then .notDir else e.errno
          match p.dialect with
          | .bash => pure (p, .error (target ++ ": " ++ errnoText errno))
          | .dash => pure (p, .error ("cannot create " ++ target ++ ": " ++
              (if errno == .notExist then "Directory nonexistent" else errnoText errno)))

end

end TestRig.Shell
