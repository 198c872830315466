import TestRig.Shell.Builtins
import TestRig.Shell.Arith

/-!
Variables as scripts change them: assignments to variables and to the elements of arrays, the
`local` variables of functions, the declaration builtins (`declare`, `typeset`, `local`,
`export`, `readonly`) and `let`, and what parameters expand to.

An assignment to an integer variable reckons its value as arithmetic, and `+=` adds to it; on
other variables `+=` appends text.
-/

namespace TestRig.Shell

open TestRig.Files TestRig.Text

/-! ### Parameters -/

/-- What a parameter expands to: one text, or the several texts of `@`, `*` or an array's `[@]`
and `[*]`; those of `*` join into one inside quotes. -/
inductive Expansion where
  | one (s : String)
  | many (items : List String) (star : Bool)
  deriving Inhabited

def Expansion.texts : Expansion → List String
  | .one s => [s]
  | .many items _ => items

def Expansion.map (f : String → String) : Expansion → Expansion
  | .one s => .one (f s)
  | .many items star => .many (items.map f) star

/-- A parameter reference: a name, the subscript after it, and the operator text after those. -/
structure ParamRef where
  name : String
  sub : Option String := none
  op : String := ""
  deriving Inhabited

def parseRef (raw : String) : ParamRef :=
  let (name, after) := splitParam raw
  if isName name then
    match after.toList with
    | '[' :: r => match subscriptBody (r.length + 1) 0 r [] with
      | some (sub, rest) => { name, sub := some (String.ofList sub), op := String.ofList rest }
      | none => { name, op := after }
    | _ => { name, op := after }
  else { name, op := after }

def Var.maxIndex? (v : Var) : Option Nat := (v.cells.map (·.1)).max?

def replaceVar (vars : List Var) (v : Var) : List Var := updateOwnVar vars v.name fun _ => v

def Var.element? (v : Var) (i : Int) : Option String :=
  let j := if i < 0 then i + ((v.maxIndex?.map (· + 1)).getD 0 : Nat) else i
  if j < 0 then none else v.cells.lookup j.toNat

def Proc.arithVars (p : Proc) : Arith.Lookup where
  value := p.param
  isSet n := (p.param n).isSome || (p.var? n).any fun v => !v.cells.isEmpty || !v.entries.isEmpty
  keyed n := (p.var? n).any (·.shape == .assoc)
  element n i := (p.var? n).bind (·.element? i)
  entry n k := (p.var? n).bind (·.entries.lookup k)

def setArithTarget (vars : List Var) : Arith.Target × Int64 → List Var
  | (.name n, x) => setVar vars n (toString x.toInt) false
  | (.index n i, x) =>
    updateVar vars n fun v =>
      let j := if i < 0 then i + ((v.maxIndex?.map (· + 1)).getD 0 : Nat) else i
      if j < 0 then v
      else { v with shape := if v.shape == .scalar then .indexed else v.shape, cells := setCell v.cells j.toNat (toString x.toInt) }
  | (.key n k, x) => updateVar vars n fun v => { v with entries := setEntry v.entries k (toString x.toInt) }

def Proc.arith (p : Proc) (text : String) : Proc × Except String Int :=
  match Arith.eval p.arithVars (p.dialect == .bash) text (p.dialect == .bash && p.nounset) with
  | .ok (v, assigned) => ({ p with vars := assigned.foldl setArithTarget p.vars }, .ok v.toInt)
  | .error fault =>
    let p := if let .unbound _ := fault.problem then { p with expansionFault := some .exitShell } else p
    (p, .error (match p.dialect with
      | .bash => fault.bashText
      | .dash => fault.dashText))

def Proc.arithComplaint (p : Proc) (lead msg : String) : Shell Unit :=
  complain p (if p.expansionFault == some .exitShell then msg else lead ++ msg)

def Proc.index (p : Proc) (v : Var) (sub : String) : Proc × Except String (Option Nat) :=
  let (p, r) := p.arith sub
  match r with
  | .error msg => (p, .error msg)
  | .ok i =>
    if i ≥ 0 then (p, .ok (some i.toNat))
    else
      let j := i + ((v.maxIndex?.map (· + 1)).getD 0 : Nat)
      (p, .ok (if j < 0 then none else some j.toNat))

def badSubscript (name : String) : String := name ++ ": bad array subscript"

def Proc.lookup (p : Proc) (name : String) (sub : Option String) : Proc × Except String (Option Expansion) :=
  if name == "@" then (p, .ok (some (.many p.args false)))
  else if name == "*" then (p, .ok (some (.many p.args true)))
  else match sub with
    | none => (p, .ok ((p.param name).map .one))
    | some s =>
      match p.var? name with
      | none => (p, .ok (if s == "@" || s == "*" then some (.many [] (s == "*")) else none))
      | some v =>
        if s == "@" || s == "*" then (p, .ok (some (.many v.elements (s == "*"))))
        else if v.shape == .assoc then (p, .ok ((v.at? s).map .one))
        else
          let (p, r) := p.index v s
          match r with
          | .error msg => (p, .error msg)
          | .ok none => (p, .error (badSubscript name))
          | .ok (some i) => (p, .ok ((v.cells.lookup i).map .one))

def Proc.joiner (p : Proc) : String :=
  match p.lookupVar "IFS" with
  | none => " "
  | some s => String.ofList (s.toList.take 1)

def Expansion.length : Expansion → Nat
  | .one s => s.length
  | .many items _ => items.length

/-- An operator of a parameter expression, with the source text of its words. -/
inductive ParamOp where
  | plain
  | default (word : String) (nullToo : Bool)
  | assignDefault (word : String) (nullToo : Bool)
  | alternative (word : String) (nullToo : Bool)
  | require (word : String) (nullToo : Bool)
  | slice (offset : String) (length : Option String)
  | trimEnd (pattern : String) (longest : Bool)
  | trimStart (pattern : String) (longest : Bool)
  | replace (pattern : String) (rep : Option String) (every fromStart toEnd : Bool)
  | recase (pattern : String) (change : CaseChange) (every : Bool)
  | transform (letter : Char)
  | bad
  deriving Inhabited

def offsetEnd : List Char → Nat → Nat → List Char → List Char × Option (List Char)
  | [], _, _, acc => (acc.reverse, none)
  | c :: rest, depth, pending, acc =>
    if c == '(' then offsetEnd rest (depth + 1) pending (c :: acc)
    else if c == ')' then offsetEnd rest (depth - 1) pending (c :: acc)
    else if c == '?' && depth == 0 then offsetEnd rest depth (pending + 1) (c :: acc)
    else if c == ':' && depth == 0 then
      if pending > 0 then offsetEnd rest depth (pending - 1) (c :: acc) else (acc.reverse, some rest)
    else offsetEnd rest depth pending (c :: acc)

def ParamOp.parse (op : String) : ParamOp :=
  let rest (k : Nat) : String := (op.drop k).toString
  if op.isEmpty then .plain
  else if op.startsWith ":-" then .default (rest 2) true
  else if op.startsWith ":=" then .assignDefault (rest 2) true
  else if op.startsWith ":+" then .alternative (rest 2) true
  else if op.startsWith ":?" then .require (rest 2) true
  else if op.startsWith ":" then
    let (o, l) := offsetEnd (rest 1).toList 0 0 []
    .slice (String.ofList o) (l.map String.ofList)
  else if op.startsWith "-" then .default (rest 1) false
  else if op.startsWith "=" then .assignDefault (rest 1) false
  else if op.startsWith "+" then .alternative (rest 1) false
  else if op.startsWith "?" then .require (rest 1) false
  else if op.startsWith "%%" then .trimEnd (rest 2) true
  else if op.startsWith "%" then .trimEnd (rest 1) false
  else if op.startsWith "##" then .trimStart (rest 2) true
  else if op.startsWith "#" then .trimStart (rest 1) false
  else if op.startsWith "/" then
    let (every, fromStart, toEnd, body) := match (rest 1).toList with
      | '/' :: r => (true, false, false, r)
      | '#' :: r => (false, true, false, r)
      | '%' :: r => (false, false, true, r)
      | r => (false, false, false, r)
    let (pat, rep) := splitAtSlash body []
    .replace (String.ofList pat) (rep.map String.ofList) every fromStart toEnd
  else if op.startsWith "^^" then .recase (rest 2) .upper true
  else if op.startsWith "^" then .recase (rest 1) .upper false
  else if op.startsWith ",," then .recase (rest 2) .lower true
  else if op.startsWith "," then .recase (rest 1) .lower false
  else if op.startsWith "~~" then .recase (rest 2) .toggle true
  else if op.startsWith "~" then .recase (rest 1) .toggle false
  else if op.startsWith "@" then
    match (rest 1).toList with
    | [c] => if "QEPAKaUuLk".contains c then .transform c else .bad
    | _ => .bad
  else .bad

def ParamOp.bashOnly : ParamOp → Bool
  | .slice .. | .replace .. | .recase .. | .transform .. => true
  | _ => false

def ParamOp.exempt : ParamOp → Bool
  | .default .. | .assignDefault .. | .alternative .. | .require .. => true
  | _ => false

def Dialect.requiredMessage (d : Dialect) (nullToo : Bool) : String :=
  match d, nullToo with
  | .bash, true => "parameter null or not set"
  | .dash, true => "parameter not set or null"
  | _, false => "parameter not set"

def Proc.slice (p : Proc) (name : String) (value : Expansion) (offText : String) (lenText : Option String) :
    Proc × Except String Expansion :=
  let (p, off) := p.arith offText
  let (p, len) : Proc × Option (Except String Int) := match lenText with
    | some t => let (p, r) := p.arith t; (p, some r)
    | none => (p, none)
  match off, len with
  | .error msg, _ => (p, .error msg)
  | _, some (.error msg) => (p, .error msg)
  | .ok off, len =>
    let len : Option Int := len.map fun
      | .ok x => x
      | .error _ => 0
    let lenShown := lenText.getD ""
    match value with
    | .one s =>
      let cs := s.toList
      let start := if off < 0 then off + cs.length else off
      if start < 0 || start > cs.length then (p, .ok (.one ""))
      else match len with
        | none => (p, .ok (.one (String.ofList (cs.drop start.toNat))))
        | some l =>
          let stop := if l < 0 then cs.length + l else start + l
          if stop < start then (p, .error (lenShown ++ ": substring expression < 0"))
          else (p, .ok (.one (String.ofList ((cs.drop start.toNat).take (stop - start).toNat))))
    | .many items star =>
      let list := if name == "@" || name == "*" then p.zero :: items else items
      let start := if off < 0 then off + list.length else off
      if start < 0 then (p, .ok (.many [] star))
      else match len with
        | none => (p, .ok (.many (list.drop start.toNat) star))
        | some l =>
          if l < 0 then (p, .error (lenShown ++ ": substring expression < 0"))
          else (p, .ok (.many ((list.drop start.toNat).take l.toNat) star))

/-! ### Assignments -/

/-- An assigned value: a text, or the items of an array, each with its subscript if it has
one. -/
inductive Assigned where
  | scalar (s : String)
  | items (list : List (Option String × String))
  deriving Inhabited

/-- An assignment with its subscript and value expanded. -/
structure Assigning where
  name : String
  sub : Option String := none
  append : Bool := false
  value : Assigned
  deriving Inhabited

def Proc.readonlyMessage (p : Proc) (name : String) : String :=
  match p.dialect with
  | .bash => name ++ ": readonly variable"
  | .dash => name ++ ": is read only"

def assignTo (p : Proc) (name : String) (sub : Option String) (append : Bool) (value : String) :
    Shell (Proc × Bool) := do
  let name := p.resolve name
  let v := (p.var? name).getD { name }
  if v.readonly then do
    complain p (p.readonlyMessage name)
    pure (p, false)
  else
    let (p, key) : Proc × Except String (Option String) := match sub with
      | none => (p, .ok none)
      | some k =>
        if v.shape == .assoc then (p, .ok (some k))
        else
          let (p, r) := p.index v k
          match r with
          | .ok (some i) => (p, .ok (some (toString i)))
          | .ok none => (p, .error (name ++ "[" ++ k ++ "]: bad array subscript"))
          | .error msg => (p, .error msg)
    match key with
    | .error msg => do
      complain p msg
      pure (p, false)
    | .ok key =>
      let old := match key with
        | none => v.value?
        | some k => v.at? k
      let (p, value) : Proc × Except String String :=
        if v.integer then
          let (p, r) := p.arith value
          match r with
          | .ok x => (p, .ok (toString (if append then x + ((old.bind String.toInt?).getD 0) else x)))
          | .error msg => (p, .error msg)
        else (p, .ok (v.cased (if append then old.getD "" ++ value else value)))
      match value with
      | .error msg => do
        complain p msg
        pure (p, false)
      | .ok value =>
        let v := (p.var? name).getD { name }
        let v := { v with declaredOnly := false }
        let v := match key with
          | none => match v.shape with
            | .assoc => { v with entries := setEntry v.entries "0" value }
            | _ => { v with cells := setCell v.cells 0 value }
          | some k => match v.shape with
            | .assoc => { v with entries := setEntry v.entries k value }
            | _ => { v with shape := .indexed, cells := setCell v.cells k.toNat! value }
        pure ({ p with vars := replaceVar p.vars v }, true)

def assignItems (p : Proc) (name : String) (append : Bool) (items : List (Option String × String)) :
    Shell (Proc × Bool) := do
  let name := p.resolve name
  let v := (p.var? name).getD { name }
  if v.readonly then do
    complain p (p.readonlyMessage name)
    pure (p, false)
  else
    let v := if append then v else { v with cells := [], entries := [] }
    let v := { v with declaredOnly := false }
    let v := if v.shape == .scalar then { v with shape := .indexed } else v
    let start := if append then (v.maxIndex?.map (· + 1)).getD 0 else 0
    let (p, v, _) := items.foldl (fun (p, v, next) (key, value) =>
      let value := if v.integer then
          match (p.arith value).2 with
          | .ok x => toString x
          | .error _ => "0"
        else v.cased value
      match v.shape, key with
      | .assoc, some k => (p, { v with entries := setEntry v.entries k value }, next)
      | .assoc, none => (p, v, next)
      | _, some k =>
        match p.index v k with
        | (p, .ok (some i)) => (p, { v with cells := setCell v.cells i value }, i + 1)
        | (p, _) => (p, v, next)
      | _, none => (p, { v with cells := setCell v.cells next value }, next + 1)) (p, v, start)
    pure ({ p with vars := replaceVar p.vars v }, true)

def Proc.assign (p : Proc) (a : Assigning) : Shell (Proc × Bool) := do
  let (q, ok) ← match a.value with
    | .scalar s => assignTo p a.name a.sub a.append s
    | .items list => assignItems p a.name a.append list
  let q := if ok then q.noteChanged (p.resolve a.name) else q
  if ok && q.allexport then pure ({ q with vars := updateVar q.vars a.name fun v => { v with exported := true } }, ok)
  else pure (q, ok)

/-! ### Functions' variables -/

def Proc.makeLocal (p : Proc) (name : String) : Proc :=
  match p.frames with
  | [] => p
  | frame :: rest =>
    if frame.any (·.1 == name) then p
    else
      let old := p.var? name
      let fresh : Var := match p.dialect, old with
        | .dash, some v => v
        | _, _ => { name }
      { p with frames := ((name, old) :: frame) :: rest, vars := replaceVar p.vars fresh }

def Proc.popFrame (p : Proc) : Proc :=
  match p.frames with
  | [] => p
  | frame :: rest =>
    let vars := frame.foldl (fun vs (name, old) => match old with
      | some v => replaceVar vs v
      | none => unsetVar vs name) p.vars
    { p with vars, frames := rest }

def Proc.setPipeStatus (p : Proc) (statuses : List Nat) : Proc :=
  if p.dialect == .bash then { p with vars := setElements p.vars "PIPESTATUS" (statuses.map toString) } else p

/-! ### Declarations -/

def Dialect.declarers : Dialect → List String
  | .bash => ["declare", "typeset", "local", "export", "readonly"]
  | .dash => ["local", "export", "readonly"]

/-- An argument of a declaration builtin: an option word, a name, or an assignment. -/
inductive DeclItem where
  | option (s : String)
  | name (s : String)
  | assign (a : Assigning)
  deriving Inhabited

def doubleQuoted (s : String) : String :=
  "\"" ++ String.join (s.toList.map fun c =>
    if c == '\\' || c == '"' || c == '$' || c == '\x60' then "\\" ++ String.singleton c else String.singleton c) ++ "\""

def declaredValue (s : String) : String :=
  if s.any (fun c => !isPrintable c) then ansiQuote s else doubleQuoted s

def declaredKey (k : String) : String :=
  if k.any (fun c => !isPrintable c) then ansiQuote k
  else if hasShellMeta k then doubleQuoted k
  else k

def Var.flagLetters (v : Var) : String :=
  (if v.shape == .indexed then "a" else "") ++ (if v.shape == .assoc then "A" else "") ++
    (if v.integer then "i" else "") ++ (if v.nameref then "n" else "") ++
    (if v.readonly then "r" else "") ++ (if v.traced then "t" else "") ++
    (if v.exported then "x" else "") ++ (if v.letterCase == some .capital then "c" else "") ++
    (if v.letterCase == some .lower then "l" else "") ++ (if v.letterCase == some .upper then "u" else "")

def Var.arrayText (v : Var) : String :=
  match v.shape with
  | .assoc => "(" ++ String.join (v.entries.map fun (k, s) => "[" ++ declaredKey k ++ "]=" ++ declaredValue s ++ " ") ++ ")"
  | _ => "(" ++ " ".intercalate (v.cells.map fun (i, s) => "[" ++ toString i ++ "]=" ++ declaredValue s) ++ ")"

def Var.declaration (v : Var) : String :=
  let flags := if v.flagLetters.isEmpty then "-" else v.flagLetters
  let body := if v.declaredOnly then "" else match v.shape with
    | .scalar => match v.value? with
      | some s => "=" ++ declaredValue s
      | none => ""
    | _ => "=" ++ v.arrayText
  "declare -" ++ flags ++ " " ++ v.name ++ body

def listedValue (s : String) : String :=
  if s.any (fun c => !isPrintable c) then ansiQuote s
  else if hasShellMeta s then singleQuoted s
  else s

def Var.listing? (v : Var) : Option String :=
  if v.declaredOnly then none
  else match v.shape with
    | .scalar => v.value?.map fun s => v.name ++ "=" ++ listedValue s
    | _ => some (v.name ++ "=" ++ v.arrayText)

def Proc.listedVars (p : Proc) : List Var :=
  let dynamic : List Var := match p.dialect with
    | .bash =>
      [{ name := "BASHOPTS", cells := [(0, (p.param "BASHOPTS").getD "")], readonly := true },
       { name := "SHELLOPTS", cells := [(0, (p.param "SHELLOPTS").getD "")], readonly := true }]
    | .dash => []
  let own := p.vars.filter fun v => !dynamic.any (·.name == v.name)
  (own ++ dynamic).mergeSort fun a b => a.name ≤ b.name

def Proc.shownVar? (p : Proc) (name : String) : Option Var :=
  p.listedVars.find? (·.name == name)

def Proc.sortedFunctions (p : Proc) : List (String × Command) :=
  p.functions.mergeSort fun a b => a.1 ≤ b.1

def Proc.setListing (p : Proc) : String :=
  match p.dialect with
  | .bash =>
    String.join (p.listedVars.filterMap fun v => v.listing?.map (· ++ "\n")) ++
      String.join (p.sortedFunctions.map fun (name, body) => name ++ " " ++ definitionText none body ++ "\n")
  | .dash =>
    String.join (p.listedVars.filterMap fun v => v.value?.map fun s => v.name ++ "=" ++ lightQuoted s ++ "\n")

def reusableQuote (s : String) : String :=
  if s.isEmpty then "''"
  else if s.any (fun c => !isPrintable c) then ansiQuote s
  else singleQuoted s

def expandEscapes (s : String) : String :=
  let mark := Char.ofNat 0x100
  let cs := s.toList.map fun c => if c == '\x27' then mark else c
  match ansiText (cs.length + 2) (cs ++ ['\x27']) [] with
  | some (out, _) => String.ofList (out.map fun c => if c == mark then '\x27' else c)
  | none => s

def Var.assignmentText (v : Var) (value : String) : String :=
  (if v.flagLetters.isEmpty then "" else "declare -" ++ v.flagLetters ++ " ") ++ v.name ++ "=" ++
    reusableQuote value

def transformValue (v? : Option Var) (all : Bool) (letter : Char) (e : Expansion) : Expansion :=
  match letter with
  | 'U' => e.map (·.map Char.toUpper)
  | 'u' => e.map fun s => match s.toList with
    | c :: rest => String.ofList (c.toUpper :: rest)
    | [] => s
  | 'L' => e.map (·.map Char.toLower)
  | 'K' | 'k' =>
    match v? with
    | some v =>
      if all && v.shape != .scalar then
        let pairs := match v.shape with
          | .assoc => v.entries.map fun ((k : String), (x : String)) => [k, x]
          | _ => v.cells.map fun (i, x) => [toString (i : Nat), x]
        if letter == 'K' then
          .one (" ".intercalate (pairs.map fun kv => declaredKey (kv.getD 0 "") ++ " " ++ declaredValue (kv.getD 1 "")))
        else .many pairs.flatten false
      else e.map reusableQuote
    | none => e.map reusableQuote
  | 'Q' => e.map reusableQuote
  | 'E' => e.map expandEscapes
  | 'a' => e.map fun _ => (v?.map (·.flagLetters)).getD ""
  | 'A' => match v? with
    | some v => if all && v.shape != .scalar then .one v.declaration else e.map v.assignmentText
    | none => e
  | _ => e

def Var.lightDeclaration (word : String) (v : Var) : String :=
  word ++ " " ++ v.name ++ match v.value? with
    | some s => "=" ++ lightQuoted s
    | none => ""

def Proc.listDeclared (p : Proc) (cmd : String) (keep : Var → Bool) : String :=
  let vs := p.listedVars.filter keep
  String.join (vs.map fun v =>
    (if p.dialect == .bash then v.declaration else v.lightDeclaration cmd) ++ "\n")

def Var.hasAttribute (v : Var) : Char → Bool
  | 'i' => v.integer
  | 'n' => v.nameref
  | 'r' => v.readonly
  | 't' => v.traced
  | 'x' => v.exported
  | 'l' => v.letterCase == some .lower
  | 'u' => v.letterCase == some .upper
  | 'c' => v.letterCase == some .capital
  | _ => false

def Var.withAttributes (v : Var) (on off : List Char) : Var :=
  let flag (c : Char) (now : Bool) := if on.contains c then true else if off.contains c then false else now
  let letterCase :=
    if on.contains 'l' then some LetterCase.lower
    else if on.contains 'u' then some .upper
    else if on.contains 'c' then some .capital
    else if off.contains 'l' && v.letterCase == some .lower then none
    else if off.contains 'u' && v.letterCase == some .upper then none
    else if off.contains 'c' && v.letterCase == some .capital then none
    else v.letterCase
  { v with integer := flag 'i' v.integer, nameref := flag 'n' v.nameref, traced := flag 't' v.traced, letterCase }

def isReferenceTarget (s : String) : Bool :=
  match s.splitOn "[" with
  | [name] => isName name
  | name :: _ => isName name && s.endsWith "]"
  | [] => false

def runDeclare (p : Proc) (cmd : String) (items : List DeclItem) : Shell (Proc × Flow) := do
  let opts := (items.takeWhile fun | .option _ => true | _ => false).filterMap fun
    | .option s => some s
    | _ => none
  let targets := items.drop opts.length
  let on := (opts.filter (·.startsWith "-")).flatMap fun s => s.toList.drop 1
  let off := (opts.filter (·.startsWith "+")).flatMap fun s => s.toList.drop 1
  let names := targets.map fun
    | .option s => s
    | .name s => s
    | .assign a => a.name
  let bash := p.dialect == .bash
  let declaring := bash && (cmd == "declare" || cmd == "typeset" || cmd == "local")
  let funcs := declaring && (on.contains 'f' || on.contains 'F' || off.contains 'f' || off.contains 'F')
  let nodefs := on.contains 'F' || off.contains 'F'
  let attrs := on.filter fun c => "aAilnrtuxc".contains c
  let functionText (name : String) (body : Command) : String :=
    if nodefs then "declare -f " ++ name ++ "\n" else definitionText (some name) body ++ "\n"
  if cmd == "local" && p.frames.isEmpty then do
    complain p (match p.dialect with
      | .bash => "local: can only be used in a function"
      | .dash => "local: not in a function")
    if p.dialect == .dash then pure ({ p with status := 2 }, .exit 2) else pure ({ p with status := 1 }, .next)
  else if declaring && targets.isEmpty then do
    if cmd == "local" then
      let locals := (p.frames.headD []).map (·.1)
      emit p 1 (String.join ((p.listedVars.filter fun v => locals.contains v.name).map (·.declaration ++ "\n")))
    else if funcs then
      emit p 1 (String.join (p.sortedFunctions.map fun (name, body) => functionText name body))
    else if !attrs.isEmpty then
      let shapeOk (v : Var) := (!attrs.contains 'a' || v.shape == .indexed) && (!attrs.contains 'A' || v.shape == .assoc)
      let others := attrs.filter fun c => c != 'a' && c != 'A'
      emit p 1 (p.listDeclared cmd fun v => shapeOk v && (others.isEmpty || others.any v.hasAttribute))
    else if on.contains 'p' then emit p 1 (p.listDeclared cmd fun _ => true)
    else emit p 1 p.setListing
    pure ({ p with status := 0 }, .next)
  else if on.contains 'p' || (targets.isEmpty && (cmd == "export" || cmd == "readonly" || on.contains 'x' || on.contains 'r')) then
    if names.isEmpty then do
      let keep : Var → Bool := if cmd == "readonly" || on.contains 'r' then (·.readonly)
        else if cmd == "export" || on.contains 'x' then (·.exported) else fun _ => true
      emit p 1 (p.listDeclared cmd keep)
      pure ({ p with status := 0 }, .next)
    else
      names.foldlM (fun (q, flow) n => do
        let shown := if funcs then (q.functions.lookup n).map (functionText n)
          else (q.shownVar? n).map fun v => (if q.dialect == .bash then v.declaration else v.lightDeclaration cmd) ++ "\n"
        match shown with
        | some text => do
          emit q 1 text
          pure (q, flow)
        | none => do
          complain q (cmd ++ ": " ++ n ++ ": not found")
          pure ({ q with status := 1 }, flow)) ({ p with status := 0 }, Flow.next)
  else if funcs then
    if targets.any fun | .assign _ => true | _ => false then do
      complain p (cmd ++ ": cannot use `-f' to make functions")
      pure ({ p with status := 1 }, .next)
    else
      names.foldlM (fun (q, flow) n => do
        match q.functions.lookup n with
        | some body => do
          if attrs.isEmpty && off.all (fun c => c == 'f' || c == 'F') then
            emit q 1 (if nodefs then n ++ "\n" else functionText n body)
          pure (q, flow)
        | none => pure ({ q with status := 1 }, flow)) ({ p with status := 0 }, Flow.next)
  else
    targets.foldlM (fun (q, flow) item => do
      let name := match item with
        | .option s | .name s => s
        | .assign a => a.name
      if !isName name then do
        match q.dialect with
        | .bash =>
          complain q (cmd ++ ": `" ++ name ++ "': not a valid identifier")
          pure ({ q with status := 1 }, flow)
        | .dash =>
          complain q (cmd ++ ": " ++ name ++ ": bad variable name")
          pure ({ q with status := 2 }, Flow.exit 2)
      else
        let isLocal := cmd == "local" || ((cmd == "declare" || cmd == "typeset") && !on.contains 'g' && !q.frames.isEmpty)
        let q := if isLocal then q.makeLocal name else q
        -- a name reference is declared itself; other attributes go to the variable it names
        -- export and readonly read -n otherwise
        let attrOn := if declaring then on else on.filter (· != 'n')
        let attrOff := if declaring then off else off.filter (· != 'n')
        let reference := attrOn.contains 'n' || attrOff.contains 'n'
        let v := (if reference then q.ownVar? name else q.var? name).getD { name }
        let v := v.withAttributes attrOn attrOff
        let fresh := match item with
          | .assign _ => false
          | _ => true
        let v := if on.contains 'a' && v.shape == .scalar then
            { v with shape := .indexed, declaredOnly := fresh && v.value?.isNone } else v
        let v := if on.contains 'A' && v.shape != .assoc then
            { v with shape := .assoc, entries := v.cells.foldl (fun es (i, s) => setEntry es (toString i) s) [], cells := [],
                     declaredOnly := fresh && v.cells.isEmpty } else v
        let exportOn := (cmd == "export" && !on.contains 'n') || on.contains 'x'
        let exportOff := off.contains 'x' || (cmd == "export" && on.contains 'n')
        let v := if exportOn then { v with exported := true } else if exportOff then { v with exported := false } else v
        let q := { q with vars := replaceVar q.vars v }
        match item with
        | .assign a =>
          if v.nameref && reference then
            let target := match a.value with
              | .scalar s => s
              | .items _ => ""
            if !isReferenceTarget target then do
              complain q (cmd ++ ": `" ++ target ++ "': invalid variable name for name reference")
              pure ({ q with status := 1 }, flow)
            else if target == name then do
              complain q (cmd ++ ": " ++ name ++ ": nameref variable self references not allowed")
              pure ({ q with status := 1 }, flow)
            else
              pure ({ q with vars := replaceVar q.vars { v with cells := [(0, target)], declaredOnly := false } }, flow)
          else do
            let (q, done) ← q.assign a
            let q := if done && (cmd == "readonly" || on.contains 'r') then
                { q with vars := updateVar q.vars name fun v => { v with readonly := true } } else q
            if done then pure (q, flow)
            else if q.dialect == .dash then pure ({ q with status := 2 }, Flow.exit 2)
            else pure ({ q with status := 1 }, flow)
        | _ =>
          let q := if cmd == "readonly" || on.contains 'r' then
              { q with vars := updateVar q.vars name fun v => { v with readonly := true } } else q
          pure (q, flow)) ({ p with status := 0 }, Flow.next)

def runLet (p : Proc) (args : List String) : Shell (Proc × Flow) := do
  if args.isEmpty then do
    complain p "let: expression expected"
    pure ({ p with status := 1 }, .next)
  else
    let (q, last) := args.foldl (fun (q, last) a =>
      match last with
      | .error e => (q, .error e)
      | .ok _ => q.arith a) (p, (Except.ok 0 : Except String Int))
    match last with
    | .ok v => pure ({ q with status := if v != 0 then 0 else 1 }, .next)
    | .error msg => do
      q.arithComplaint "let: " msg
      if q.expansionFault.isSome then pure q.afterFailedExpansion
      else pure ({ q with status := 1 }, .next)

end TestRig.Shell
