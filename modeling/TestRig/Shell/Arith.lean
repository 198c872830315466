import TestRig.Text.Chars

/-!
Shell arithmetic, the text inside `$(( ... ))`, over signed 64-bit integers that wrap around.

Constants are decimal, hexadecimal (`0x`), octal (a leading `0`) or, in the full shell,
`base#digits` for bases 2 to 64. A variable stands for its value read as an expression, an unset
or empty one for zero.
-/

namespace TestRig.Shell.Arith

open TestRig.Text

/-- What an expression reads of the shell's variables. -/
structure Lookup where
  value : String → Option String
  isSet : String → Bool := fun n => (value n).isSome
  keyed : String → Bool := fun _ => false
  element : String → Int → Option String := fun _ _ => none
  entry : String → String → Option String := fun _ _ => none

/-- A variable that an expression assigns: by name, at an index of an array, or at a key of an
associative array. -/
inductive Target where
  | name (n : String)
  | index (n : String) (i : Int)
  | key (n : String) (k : String)
  deriving Repr, Inhabited, BEq

inductive Problem where
  | divisionByZero
  | operandExpected
  | expressionExpected
  | invalidOperator
  | extraTokens
  | missingParen
  | missingColon
  | notAssignable
  | negativeExponent
  | valueTooGreat
  | invalidBase
  | invalidNumber
  | invalidConstant
  | badSubscript
  | tooDeep
  | unbound (name : String)
  | illegalNumber (value : String)
  deriving Repr, Inhabited, BEq

inductive Token where
  | num (n : Int64)
  | name (s : String) (sub : Option String)
  | op (s : String)
  | bad (p : Problem) (stop : Option Nat)
  | stop
  deriving Repr, Inhabited, BEq

/-- A token and the offset in the text where the reading stood when it was read: its start,
and for the end of the text the start of the last token. -/
structure Lexeme where
  token : Token
  start : Nat
  deriving Repr, Inhabited

/-- A failure: its problem, the text it was found in (an expression, or the value of a
variable read as one), and the offset in that text where it was found. -/
structure Failure where
  problem : Problem
  start : Nat
  text : String
  deriving Repr, Inhabited

def cutText (text : String) : Option Nat → String
  | some e => String.ofList (text.toList.take e)
  | none => text

def Problem.bashText : Problem → String
  | .divisionByZero => "division by 0"
  | .operandExpected => "syntax error: operand expected"
  | .expressionExpected => "expression expected"
  | .invalidOperator => "syntax error: invalid arithmetic operator"
  | .extraTokens => "syntax error in expression"
  | .missingParen => "missing `)'"
  | .missingColon => "`:' expected for conditional expression"
  | .notAssignable => "attempted assignment to non-variable"
  | .negativeExponent => "exponent less than 0"
  | .valueTooGreat => "value too great for base"
  | .invalidBase => "invalid arithmetic base"
  | .invalidNumber => "invalid number"
  | .invalidConstant => "invalid integer constant"
  | .badSubscript => "bad array subscript"
  | .tooDeep => "expression recursion level exceeded"
  | .unbound name => name ++ ": unbound variable"
  | .illegalNumber v => "Illegal number: " ++ v

def Problem.dashText : Problem → String
  | .divisionByZero => "division by zero"
  | .extraTokens | .notAssignable => "expecting EOF"
  | .missingParen => "expecting ')'"
  | .missingColon => "expecting ':'"
  | _ => "expecting primary"

def Failure.bashText (f : Failure) : String :=
  if let .unbound _ := f.problem then f.problem.bashText else
  let shown := (f.text.toList.dropWhile fun c => c == ' ' || c == '\t' || c == '\n')
  let rest := (f.text.toList.drop f.start).dropWhile fun c => c == ' ' || c == '\t' || c == '\n'
  String.ofList shown ++ ": " ++ f.problem.bashText ++ " (error token is \"" ++ String.ofList rest ++ "\")"

def Failure.dashText (f : Failure) : String :=
  if let .illegalNumber v := f.problem then "Illegal number: " ++ v else
  "arithmetic expression: " ++ f.problem.dashText ++ ": \"" ++ f.text ++ "\""

/-! ### Tokens -/

def bashOperators : List String :=
  ["<<=", ">>=", "**", "<=", ">=", "==", "!=", "&&", "||", "<<", ">>", "*=", "/=", "%=", "+=", "-=",
   "&=", "^=", "|=", "+", "-", "*", "/", "%", "<", ">", "!", "~", "&", "^", "|", "?", ":", "=", "(",
   ")", ","]

def dashOperators : List String :=
  ["<<=", ">>=", "<=", ">=", "==", "!=", "&&", "||", "<<", ">>", "*=", "/=", "%=", "+=", "-=", "&=",
   "^=", "|=", "+", "-", "*", "/", "%", "<", ">", "!", "~", "&", "^", "|", "?", ":", "=", "(", ")"]

def digitValue (base : Nat) (c : Char) : Option Nat :=
  if c.isDigit then some (c.toNat - '0'.toNat)
  else if 'a' ≤ c && c ≤ 'z' then some (c.toNat - 'a'.toNat + 10)
  else if 'A' ≤ c && c ≤ 'Z' then
    some (if base ≤ 36 then c.toNat - 'A'.toNat + 10 else c.toNat - 'A'.toNat + 36)
  else if c == '@' then some 62
  else if c == '_' then some 63
  else none

def constantDigits (base : Nat) (foundBase : Bool) (acc : Nat) : List Char → Except Problem Nat
  | [] => .ok acc
  | '#' :: rest =>
    if foundBase then .error .invalidNumber
    else if acc < 2 || acc > 64 then .error .invalidBase
    else match rest with
      | c :: _ => if (digitValue 64 c).isSome then constantDigits acc true 0 rest else .error .invalidConstant
      | [] => .error .invalidConstant
  | c :: rest =>
    match digitValue base c with
    | some d => if d < base then constantDigits base foundBase ((acc * base + d) % Nat.pow 2 64) rest else .error .valueTooGreat
    | none => .ok acc

def constant (word : List Char) : Except Problem Nat :=
  match word with
  | ['0'] => .ok 0
  | '0' :: 'x' :: ds | '0' :: 'X' :: ds => constantDigits 16 true 0 ds
  | '0' :: ds => constantDigits 8 true 0 ds
  | ds => constantDigits 10 false 0 ds

def isConstantChar (c : Char) : Bool := c.isAlphanum || c == '#' || c == '@' || c == '_'

def isNameStart (c : Char) : Bool := c.isAlpha || c == '_'

def isNameChar (c : Char) : Bool := c.isAlphanum || c == '_'

def isSpace (c : Char) : Bool := c == ' ' || c == '\t' || c == '\n' || c == '\r'

def cNumber (cs : List Char) : Option (Nat × List Char) :=
  let hexStart := match cs with
    | '0' :: x :: h :: _ => (x == 'x' || x == 'X') && (digitValue 16 h).any (· < 16) && h.isAlphanum
    | _ => false
  let (base, ds) := if hexStart then (16, cs.drop 2)
    else match cs with
      | '0' :: rest => (8, rest)
      | _ => (10, cs)
  let digits := ds.takeWhile fun c => (digitValue base c).any (· < base) && c.isAlphanum
  match cs with
  | c :: _ =>
    if !c.isDigit then none
    else some (digits.foldl (fun acc c => acc * base + (digitValue base c).getD 0) 0, ds.drop digits.length)
  | [] => none

def wordMax : Nat := Nat.pow 2 63 - 1

def lightNumber (value : String) : Option Int :=
  let cs := value.toList.dropWhile Char.isWhitespace
  if cs.isEmpty then some 0
  else
    let (neg, body) := match cs with
      | '-' :: r => (true, r)
      | '+' :: r => (false, r)
      | r => (false, r)
    match cNumber body with
    | none => none
    | some (v, rest) =>
      if !(rest.all Char.isWhitespace) then none
      else if neg then (if v > wordMax + 1 then none else some (-(v : Int)))
      else if v > wordMax then none
      else some v

def subscriptEnd : Nat → Nat → List Char → Option Nat
  | _, _, [] => none
  | depth, pos, c :: rest =>
    if c == ']' then (if depth == 0 then some (pos + 1) else subscriptEnd (depth - 1) (pos + 1) rest)
    else if c == '[' then subscriptEnd (depth + 1) (pos + 1) rest
    else subscriptEnd depth (pos + 1) rest

def tokenize (bash : Bool) : Nat → List Char → Nat → Nat → Option Token → List Lexeme → List Lexeme
  | 0, _, _, last, _, acc => acc ++ [⟨.stop, last⟩]
  | fuel + 1, cs, pos, last, prev, acc =>
    match cs with
    | [] => acc ++ [⟨.stop, last⟩]
    | c :: rest =>
      if isSpace c then tokenize bash fuel rest (pos + 1) last prev acc
      else if c.isDigit then
        if bash then
          let word := cs.takeWhile isConstantChar
          match constant word with
          | .ok v =>
            let t := Token.num (Int64.ofNat v)
            tokenize bash fuel (cs.drop word.length) (pos + word.length) pos (some t) (acc ++ [⟨t, pos⟩])
          | .error p => acc ++ [⟨.bad p (some (pos + word.length)), pos⟩]
        else
          match cNumber cs with
          | some (v, after) =>
            let t := Token.num (Int64.ofNat (min v wordMax))
            let used := cs.length - after.length
            tokenize bash fuel after (pos + used) pos (some t) (acc ++ [⟨t, pos⟩])
          | none => acc ++ [⟨.op (String.singleton c), pos⟩]
      else if isNameStart c then
        let word := cs.takeWhile isNameChar
        let after := cs.drop word.length
        let name := String.ofList word
        match bash, after with
        | true, '[' :: inner =>
          match subscriptEnd 0 0 inner with
          | some len =>
            let t := Token.name name (some (String.ofList (inner.take (len - 1))))
            let used := word.length + 1 + len
            tokenize bash fuel (cs.drop used) (pos + used) pos (some t) (acc ++ [⟨t, pos⟩])
          | none => acc ++ [⟨.bad .badSubscript none, pos⟩]
        | _, _ =>
          let t := Token.name name none
          tokenize bash fuel after (pos + word.length) pos (some t) (acc ++ [⟨t, pos⟩])
      else
        let step := match cs with
          | d :: e :: after =>
            if bash && (d == '+' || d == '-') && e == d &&
                ((match prev with | some (.name _ _) => true | _ => false) ||
                 (match after.dropWhile isSpace with | f :: _ => isNameStart f | [] => false)) then
              some (String.ofList [d, e])
            else none
          | _ => none
        let found := match step with
          | some o => some o
          | none => (if bash then bashOperators else dashOperators).find? fun o => startsWith cs o.toList
        match found with
        | some o =>
          let t := Token.op o
          tokenize bash fuel (cs.drop o.length) (pos + o.length) pos (some t) (acc ++ [⟨t, pos⟩])
        | none =>
          if bash then
            -- after an operand (an increment here can only follow its variable) the character
            -- stands where an operator should, else where an operand should
            let problem := match prev with
              | some (.num _) | some (.name _ _) | some (.op "++") | some (.op "--") => Problem.invalidOperator
              | _ => .operandExpected
            acc ++ [⟨.bad problem none, pos⟩]
          else acc ++ [⟨.op (String.singleton c), pos⟩]

def lexemes (bash : Bool) (text : String) : List Lexeme :=
  tokenize bash (text.length + 1) text.toList 0 0 none []

/-! ### Evaluation -/

structure Scope where
  vars : Lookup
  bash : Bool
  nounset : Bool := false
  text : String
  depth : Nat := 1

def maxDepth : Nat := 1024

abbrev Eval := StateT (List (Target × Int64)) (Except Failure)

def Scope.failAt {α : Type} (s : Scope) (p : Problem) (l : Lexeme) : Eval α := throw ⟨p, l.start, s.text⟩

def ofBool (b : Bool) : Int64 := if b then 1 else 0

def powWord (base : Int64) (e : Nat) : Int64 :=
  go 64 base e 1
where
  go : Nat → Int64 → Nat → Int64 → Int64
    | 0, _, _, acc => acc
    | fuel + 1, b, e, acc =>
      if e == 0 then acc
      else go fuel (b * b) (e / 2) (if e % 2 == 1 then acc * b else acc)

def applyBinary (s : Scope) (live : Bool) (o : String) (a b : Int64) (divAt : Nat) : Eval Int64 :=
  match o with
  | "*" => pure (a * b)
  | "/" => if b == 0 then (if live then throw ⟨.divisionByZero, divAt, s.text⟩ else pure 0) else pure (a / b)
  | "%" => if b == 0 then (if live then throw ⟨.divisionByZero, divAt, s.text⟩ else pure 0) else pure (a % b)
  | "+" => pure (a + b)
  | "-" => pure (a - b)
  | "<<" => pure (a <<< b)
  | ">>" => pure (a >>> b)
  | "<" => pure (ofBool (a < b))
  | "<=" => pure (ofBool (a ≤ b))
  | ">" => pure (ofBool (a > b))
  | ">=" => pure (ofBool (a ≥ b))
  | "==" => pure (ofBool (a == b))
  | "!=" => pure (ofBool (a != b))
  | "&" => pure (a &&& b)
  | "^" => pure (a ^^^ b)
  | "|" => pure (a ||| b)
  | _ => pure 0

def levelOf : String → Option Nat
  | "||" => some 1
  | "&&" => some 2
  | "|" => some 3
  | "^" => some 4
  | "&" => some 5
  | "==" | "!=" => some 6
  | "<" | "<=" | ">" | ">=" => some 7
  | "<<" | ">>" => some 8
  | "+" | "-" => some 9
  | "*" | "/" | "%" => some 10
  | _ => none

def assignOps : List String := ["=", "*=", "/=", "%=", "+=", "-=", "<<=", ">>=", "&=", "^=", "|="]

def assignVar (live : Bool) (t : Target) (v : Int64) : Eval Unit :=
  if live then modify fun vs => (t, v) :: vs.filter (·.1 != t) else pure ()

def Lexeme.after (l : Lexeme) : Nat :=
  match l.token with
  | .op o => l.start + o.length
  | _ => l.start

def Scope.advance (s : Scope) (rest : List Lexeme) : Eval (List Lexeme) :=
  match rest with
  | ⟨.bad p stop, st⟩ :: _ => throw ⟨p, st, cutText s.text stop⟩
  | _ => pure rest

def Lookup.textOf (vars : Lookup) : Target → Option String
  | .name n => vars.value n
  | .index n i => vars.element n i
  | .key n k => vars.entry n k

mutual

def target (s : Scope) : Nat → Lexeme → String → Option String → Eval Target
  | 0, l, _, _ => s.failAt .tooDeep l
  | n + 1, l, name, sub =>
    match sub with
    | none => pure (.name name)
    | some k =>
      if s.vars.keyed name then pure (.key name k)
      else if s.depth ≥ maxDepth then s.failAt .tooDeep l
      else do
        let i ← nested { s with text := k, depth := s.depth + 1 } n
        pure (.index name i.toInt)

def lookup (s : Scope) : Nat → Bool → Lexeme → String → Option String → Eval Int64
  | 0, _, l, _, _ => s.failAt .tooDeep l
  | n + 1, live, l, name, sub =>
    if !live then pure 0
    else do
      if s.nounset && !s.vars.isSet name then throw ⟨.unbound name, 0, s.text⟩
      let t ← target s n l name sub
      match (← get).lookup t with
      | some v => pure v
      | none =>
        let text := (s.vars.textOf t).getD ""
        if !s.bash then
          match lightNumber text with
          | some v => pure (Int64.ofInt v)
          | none => throw ⟨.illegalNumber text, 0, s.text⟩
        else if text.toList.all isSpace then pure 0
        else if s.depth ≥ maxDepth then s.failAt .tooDeep l
        else nested { s with text, depth := s.depth + 1 } n

def nested (s : Scope) : Nat → Eval Int64
  | 0 => throw ⟨.tooDeep, 0, s.text⟩
  | n + 1 =>
    match lexemes s.bash s.text with
    | [⟨.stop, _⟩] => pure 0
    | ts => do
      let (v, rest) ← comma s n true ts
      match rest with
      | ⟨.stop, _⟩ :: _ | [] => pure v
      | l :: _ => s.failAt .extraTokens l

def comma (s : Scope) : Nat → Bool → List Lexeme → Eval (Int64 × List Lexeme)
  | 0, _, _ => throw ⟨.tooDeep, 0, s.text⟩
  | n + 1, live, ts => do
    let (v, r) ← assign s n live ts
    match r with
    | ⟨.op ",", _⟩ :: rest => if s.bash then comma s n live rest else pure (v, r)
    | _ => pure (v, r)

def assign (s : Scope) : Nat → Bool → List Lexeme → Eval (Int64 × List Lexeme)
  | 0, _, _ => throw ⟨.tooDeep, 0, s.text⟩
  | n + 1, live, ts =>
    match ts with
    | (x@⟨.name name sub, _⟩) :: (l@⟨.op o, _⟩) :: rest =>
      if assignOps.contains o then do
        let rest ← s.advance rest
        let binop := String.ofList o.toList.dropLast
        if o == "=" then do
          let (rhs, r) ← assign s n live rest
          if live then do
            let t ← target s n x name sub
            assignVar live t rhs
          pure (rhs, r)
        else if s.bash then do
          let old ← lookup s n live x name sub
          let t ← if live then target s n x name sub else pure (.name name)
          let (rhs, r) ← assign s n live rest
          let v ← applyBinary s live binop old rhs l.after
          assignVar live t v
          pure (v, r)
        else do
          let (rhs, r) ← assign s n live rest
          let old ← lookup s n live x name sub
          let v ← applyBinary s live binop old rhs l.after
          assignVar live (.name name) v
          pure (v, r)
      else conditional s n live ts
    | _ => conditional s n live ts

def conditional (s : Scope) : Nat → Bool → List Lexeme → Eval (Int64 × List Lexeme)
  | 0, _, _ => throw ⟨.tooDeep, 0, s.text⟩
  | n + 1, live, ts => do
    let (c, r) ← binary s n live 1 ts
    match r with
    | (q@⟨.op "?", _⟩) :: rest => do
      match s.bash, rest with
      | true, (l@⟨.stop, _⟩) :: _ | true, (l@⟨.op ":", _⟩) :: _ =>
        s.failAt .expressionExpected { l with start := if l.token == .stop then q.start else l.start }
      | _, _ =>
      let (a, r2) ← (if s.bash then comma s n (live && c != 0) rest else assign s n (live && c != 0) rest)
      match r2 with
      | ⟨.op ":", cs⟩ :: rest2 => do
        match s.bash, rest2 with
        | true, ⟨.stop, _⟩ :: _ => throw ⟨.expressionExpected, cs, s.text⟩
        | _, _ =>
        let (b, r3) ← conditional s n (live && c == 0) rest2
        pure (if c != 0 then a else b, r3)
      | l :: _ => s.failAt .missingColon l
      | [] => throw ⟨.missingColon, 0, s.text⟩
    | (l@⟨.op o, _⟩) :: _ => if assignOps.contains o then s.failAt .notAssignable l else pure (c, r)
    | _ => pure (c, r)

def binary (s : Scope) : Nat → Bool → Nat → List Lexeme → Eval (Int64 × List Lexeme)
  | 0, _, _, _ => throw ⟨.tooDeep, 0, s.text⟩
  | n + 1, live, level, ts =>
    if level > 10 then power s n live ts
    else do
      let (lhs, r) ← binary s n live (level + 1) ts
      binaryRest s n live level lhs r

def binaryRest (s : Scope) : Nat → Bool → Nat → Int64 → List Lexeme → Eval (Int64 × List Lexeme)
  | 0, _, _, _, _ => throw ⟨.tooDeep, 0, s.text⟩
  | n + 1, live, level, lhs, ts =>
    match ts with
    | (l@⟨.op o, _⟩) :: rest =>
      if levelOf o == some level then
        if o == "&&" then do
          let (rhs, r) ← binary s n (live && lhs != 0) (level + 1) rest
          binaryRest s n live level (ofBool (lhs != 0 && rhs != 0)) r
        else if o == "||" then do
          let (rhs, r) ← binary s n (live && lhs == 0) (level + 1) rest
          binaryRest s n live level (ofBool (lhs != 0 || rhs != 0)) r
        else do
          let (rhs, r) ← binary s n live (level + 1) rest
          let v ← applyBinary s live o lhs rhs l.after
          binaryRest s n live level v r
      else pure (lhs, ts)
    | _ => pure (lhs, ts)

def power (s : Scope) : Nat → Bool → List Lexeme → Eval (Int64 × List Lexeme)
  | 0, _, _ => throw ⟨.tooDeep, 0, s.text⟩
  | n + 1, live, ts => do
    let (b, r) ← unary s n live ts
    match r with
    | (l@⟨.op "**", _⟩) :: rest => do
      let (e, r2) ← power s n live rest
      if e < 0 then
        if live then throw ⟨.negativeExponent, (r2.head?.map (·.start)).getD l.after, s.text⟩ else pure (0, r2)
      else pure (powWord b e.toInt.toNat, r2)
    | _ => pure (b, r)

def unary (s : Scope) : Nat → Bool → List Lexeme → Eval (Int64 × List Lexeme)
  | 0, _, _ => throw ⟨.tooDeep, 0, s.text⟩
  | n + 1, live, ts =>
    match ts with
    | ⟨.op "-", _⟩ :: rest => do let (v, r) ← unary s n live rest; pure (-v, r)
    | ⟨.op "+", _⟩ :: rest => unary s n live rest
    | ⟨.op "!", _⟩ :: rest => do let (v, r) ← unary s n live rest; pure (ofBool (v == 0), r)
    | ⟨.op "~", _⟩ :: rest => do let (v, r) ← unary s n live rest; pure (~~~v, r)
    | ⟨.op "++", _⟩ :: (x@⟨.name name sub, _⟩) :: rest => do
      let rest ← s.advance rest
      let v := (← lookup s n live x name sub) + 1
      if live then assignVar live (← target s n x name sub) v
      pure (v, rest)
    | ⟨.op "--", _⟩ :: (x@⟨.name name sub, _⟩) :: rest => do
      let rest ← s.advance rest
      let v := (← lookup s n live x name sub) - 1
      if live then assignVar live (← target s n x name sub) v
      pure (v, rest)
    | _ => operand s n live ts

def operand (s : Scope) : Nat → Bool → List Lexeme → Eval (Int64 × List Lexeme)
  | 0, _, _ => throw ⟨.tooDeep, 0, s.text⟩
  | n + 1, live, ts =>
    match ts with
    | ⟨.num v, _⟩ :: rest => do pure (v, ← s.advance rest)
    | (x@⟨.name name sub, _⟩) :: ⟨.op "++", _⟩ :: rest => do
      let v ← lookup s n live x name sub
      if live then assignVar live (← target s n x name sub) (v + 1)
      pure (v, ← s.advance rest)
    | (x@⟨.name name sub, _⟩) :: ⟨.op "--", _⟩ :: rest => do
      let v ← lookup s n live x name sub
      if live then assignVar live (← target s n x name sub) (v - 1)
      pure (v, ← s.advance rest)
    | (x@⟨.name name sub, _⟩) :: rest => do
      let rest ← s.advance rest
      pure (← lookup s n live x name sub, rest)
    | ⟨.op "(", _⟩ :: rest => do
      let (v, r) ← (if s.bash then comma s n live rest else assign s n live rest)
      match r with
      | ⟨.op ")", _⟩ :: after => pure (v, ← s.advance after)
      | l :: _ => s.failAt .missingParen l
      | [] => throw ⟨.missingParen, 0, s.text⟩
    | ⟨.bad p stop, st⟩ :: _ => throw ⟨p, st, cutText s.text stop⟩
    | l :: _ => s.failAt .operandExpected l
    | [] => throw ⟨.operandExpected, 0, s.text⟩

end

def eval (vars : Lookup) (bash : Bool) (text : String) (nounset : Bool) :
    Except Failure (Int64 × List (Target × Int64)) := do
  let scope : Scope := { vars, bash, nounset, text }
  let fuel := 8 * text.length + 64 * (maxDepth + 1) * 16
  let (v, assigned) ← (nested scope fuel).run []
  return (v, assigned.reverse)

end TestRig.Shell.Arith
