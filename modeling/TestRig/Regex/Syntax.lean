import TestRig.Text.Case
import TestRig.Text.Category
import TestRig.Text.Script

/-!
Regular expressions: their syntax tree and the reader of their text. The text is the usual
Perl-like dialect without back-references or lookaround: groups, named groups, inline flags
(`i`, `m`, `s`, `U`), classes with ranges, POSIX names, Perl escapes and Unicode categories,
counted repetition up to one thousand, and `\Q...\E` literal runs. `parse` accepts exactly the
texts of that dialect; a text outside it is refused with the reason.
-/

namespace TestRig.Regex

open TestRig.Text

/-- Zero-width conditions on the position between two characters. -/
inductive Anchor where
  | lineStart
  | lineEnd
  | textStart
  | textEnd
  | wordBoundary
  | notWordBoundary
  deriving DecidableEq, Repr, Inhabited

/-- A set of characters that a class names: ranges of code points, a union of general
categories, or a script. -/
inductive CharClass where
  | ranges (rs : List (Nat × Nat))
  | category (kinds : List GeneralCategory)
  | script (id : Nat)
  deriving Repr, Inhabited

/-- One item of a bracketed class: a named set, closed under case folding when read without
regard to case, and complemented after that when written negated. -/
structure CharItem where
  base : CharClass
  folded : Bool := false
  negated : Bool := false
  asciiFold : Bool := false
  deriving Repr, Inhabited

/-- A set of characters: the union of its items, complemented as a whole when the class is
negated. -/
structure CharSet where
  items : List CharItem
  negated : Bool := false
  deriving Repr, Inhabited

inductive Node where
  | empty
  | chars (set : CharSet)
  | anchor (a : Anchor)
  | cat (parts : List Node)
  | alt (choices : List Node)
  | repeat (body : Node) (least : Nat) (most : Option Nat) (greedy : Bool)
  | group (index : Option Nat) (body : Node)
  | backref (index : Nat)
  deriving Repr, Inhabited

/-- Why a text is not a regular expression of the dialect. -/
inductive SyntaxError where
  | missingParen
  | unexpectedParen
  | missingBracket
  | badRange
  | badEscape
  | trailingBackslash
  | missingRepeatArgument
  | nestedRepeat
  | badRepeatSize
  | badNamedCapture
  | badPerlOp
  | nestingDepth
  | badBackref
  | countTooBig
  deriving DecidableEq, Repr

structure Flags where
  fold : Bool := false
  multiLine : Bool := false
  dotNewline : Bool := false
  ungreedy : Bool := false
  deriving Repr, Inhabited

/-! ### Character sets -/

def CharClass.has (k : CharClass) (c : Char) : Bool :=
  match k with
  | .ranges rs => rs.any fun r => r.1 ≤ c.toNat && c.toNat ≤ r.2
  | .category kinds => kinds.contains (generalCategory c)
  | .script id => scriptOf c == id

def CharItem.mem (i : CharItem) (c : Char) : Bool :=
  let orbit := if !i.asciiFold then foldOrbit c
    else if c.isLower then [c, c.toUpper] else if c.isUpper then [c, c.toLower] else [c]
  let hit := if i.folded then orbit.any i.base.has else i.base.has c
  hit != i.negated

namespace CharSet

def ofItem (i : CharItem) : CharSet := ⟨[i], false⟩

def single (c : Nat) (fold : Bool) : CharSet := ofItem ⟨.ranges [(c, c)], fold, false, false⟩

def mem (s : CharSet) (c : Char) : Bool := (s.items.any fun i => i.mem c) != s.negated

def digits : List (Nat × Nat) := [(0x30, 0x39)]

def spaces : List (Nat × Nat) := [(9, 10), (12, 13), (32, 32)]

def wordRanges : List (Nat × Nat) := [(0x30, 0x39), (0x41, 0x5A), (0x5F, 0x5F), (0x61, 0x7A)]

end CharSet

def posixClass : String → Option (List (Nat × Nat))
  | "alnum" => some [(0x30, 0x39), (0x41, 0x5A), (0x61, 0x7A)]
  | "alpha" => some [(0x41, 0x5A), (0x61, 0x7A)]
  | "ascii" => some [(0, 0x7F)]
  | "blank" => some [(9, 9), (32, 32)]
  | "cntrl" => some [(0, 0x1F), (0x7F, 0x7F)]
  | "digit" => some [(0x30, 0x39)]
  | "graph" => some [(0x21, 0x7E)]
  | "lower" => some [(0x61, 0x7A)]
  | "print" => some [(0x20, 0x7E)]
  | "punct" => some [(0x21, 0x2F), (0x3A, 0x40), (0x5B, 0x60), (0x7B, 0x7E)]
  | "space" => some [(9, 13), (32, 32)]
  | "upper" => some [(0x41, 0x5A)]
  | "word" => some [(0x30, 0x39), (0x41, 0x5A), (0x5F, 0x5F), (0x61, 0x7A)]
  | "xdigit" => some [(0x30, 0x39), (0x41, 0x46), (0x61, 0x66)]
  | _ => none

def unicodeClass (name : String) : Option (CharClass × Bool) :=
  let key := looseName name
  if key == "any" then some (.ranges [(0, 0x10FFFF)], false)
  else if key == "ascii" then some (.ranges [(0, 0x7F)], false)
  else if key == "assigned" then some (.category [.Cn], true)
  else match GeneralCategory.ofName? name with
    | some kinds => some (.category kinds, false)
    | none => (scriptOfName? name).map fun k => (.script k, false)

/-! ### Reading escapes -/

def hexValue (c : Char) : Option Nat :=
  if '0' ≤ c && c ≤ '9' then some (c.toNat - 48)
  else if 'a' ≤ c && c ≤ 'f' then some (c.toNat - 87)
  else if 'A' ≤ c && c ≤ 'F' then some (c.toNat - 55)
  else none

private def isOctal (c : Char) : Bool := '0' ≤ c && c ≤ '7'

def octalRun : Nat → Nat → List Char → Nat × List Char
  | 0, v, cs => (v, cs)
  | n + 1, v, c :: cs => if isOctal c then octalRun n (v * 8 + (c.toNat - 48)) cs else (v, c :: cs)
  | _ + 1, v, [] => (v, [])

def hexRun : List Char → Nat → Nat → Option (Nat × List Char)
  | [], _, _ => none
  | c :: cs, v, count =>
    if c == '}' then (if count == 0 then none else some (v, cs))
    else match hexValue c with
      | some d => if v * 16 + d > 0x10FFFF then none else hexRun cs (v * 16 + d) (count + 1)
      | none => none

def escapeChar : List Char → Except SyntaxError (Nat × List Char)
  | [] => .error .trailingBackslash
  | c :: t =>
    if c.toNat < 0x80 && !(isAsciiLetter c || isDigit c) then .ok (c.toNat, t)
    else if '1' ≤ c && c ≤ '7' then
      match t with
      | d :: _ => if isOctal d then .ok (octalRun 2 (c.toNat - 48) t) else .error .badEscape
      | [] => .error .badEscape
    else if c == '0' then .ok (octalRun 2 0 t)
    else if c == 'x' then
      match t with
      | [] => .error .badEscape
      | '{' :: r => match hexRun r 0 0 with
        | some p => .ok p
        | none => .error .badEscape
      | a :: b :: r => match hexValue a, hexValue b with
        | some x, some y => .ok (x * 16 + y, r)
        | _, _ => .error .badEscape
      | [_] => .error .badEscape
    else if c == 'a' then .ok (7, t)
    else if c == 'f' then .ok (12, t)
    else if c == 'n' then .ok (10, t)
    else if c == 'r' then .ok (13, t)
    else if c == 't' then .ok (9, t)
    else if c == 'v' then .ok (11, t)
    else .error .badEscape

def perlClass? : List Char → Option ((CharClass × Bool) × List Char)
  | '\\' :: 'd' :: t => some ((.ranges CharSet.digits, false), t)
  | '\\' :: 'D' :: t => some ((.ranges CharSet.digits, true), t)
  | '\\' :: 's' :: t => some ((.ranges CharSet.spaces, false), t)
  | '\\' :: 'S' :: t => some ((.ranges CharSet.spaces, true), t)
  | '\\' :: 'w' :: t => some ((.ranges CharSet.wordRanges, false), t)
  | '\\' :: 'W' :: t => some ((.ranges CharSet.wordRanges, true), t)
  | _ => none

def unicodeEscape? : List Char → Option (Except SyntaxError ((CharClass × Bool) × List Char))
  | '\\' :: p :: t =>
    if p == 'p' || p == 'P' then
      let neg := p == 'P'
      let named : Option (List Char × List Char) :=
        match t with
        | '{' :: r => match r.findIdx? (· == '}') with
          | some i => some (r.take i, r.drop (i + 1))
          | none => none
        | c :: r => some ([c], r)
        | [] => some ([], [])
      match named with
      | none => some (.error .badRange)
      | some (name, rest) =>
        let (neg, name) := match name with
          | '^' :: n => (!neg, n)
          | n => (neg, n)
        match unicodeClass (String.ofList name) with
        | some (k, inv) => some (.ok ((k, neg != inv), rest))
        | none => some (.error .badRange)
    else none
  | _ => none

/-! ### Classes -/

def posixClass? (cs : List Char) : Option (Except SyntaxError ((CharClass × Bool) × List Char)) :=
  match cs with
  | '[' :: ':' :: r =>
    match indexOf? r [':', ']'] with
    | some i =>
      let inner := r.take i
      let rest := r.drop (i + 2)
      let (neg, name) := match inner with
        | '^' :: n => (true, n)
        | n => (false, n)
      match posixClass (String.ofList name) with
      | some rs => some (.ok ((.ranges rs, neg), rest))
      | none => some (.error .badRange)
    | none => none
  | _ => none

def classChar : List Char → Except SyntaxError (Nat × List Char)
  | [] => .error .missingBracket
  | '\\' :: t => escapeChar t
  | c :: t => .ok (c.toNat, t)

def classItems (fold : Bool) : Nat → List Char → Bool → List CharItem →
    Except SyntaxError (List CharItem × List Char)
  | 0, _, _, _ => .error .missingBracket
  | fuel + 1, cs, first, acc =>
    match cs with
    | ']' :: t => if first then (do
        let (lo, hi, rest) ← rangeFrom cs
        classItems fold fuel rest false (acc ++ [⟨.ranges [(lo, hi)], fold, false, false⟩]))
      else .ok (acc, t)
    | [] => .error .missingBracket
    | _ =>
      match posixClass? cs with
      | some (.error e) => .error e
      | some (.ok ((k, neg), rest)) => classItems fold fuel rest false (acc ++ [⟨k, fold, neg, false⟩])
      | none =>
        match unicodeEscape? cs with
        | some (.error e) => .error e
        | some (.ok ((k, neg), rest)) => classItems fold fuel rest false (acc ++ [⟨k, fold, neg, false⟩])
        | none =>
          match perlClass? cs with
          | some ((k, neg), rest) => classItems fold fuel rest false (acc ++ [⟨k, fold, neg, false⟩])
          | none => do
            let (lo, hi, rest) ← rangeFrom cs
            classItems fold fuel rest false (acc ++ [⟨.ranges [(lo, hi)], fold, false, false⟩])
where
  rangeFrom (cs : List Char) : Except SyntaxError (Nat × Nat × List Char) := do
    let (lo, t) ← classChar cs
    match t with
    | '-' :: d :: r =>
      if d == ']' then .ok (lo, lo, t)
      else do
        let (hi, r') ← classChar (d :: r)
        if hi < lo then .error .badRange else .ok (lo, hi, r')
    | _ => .ok (lo, lo, t)

def parseClass (cs : List Char) (flags : Flags) : Except SyntaxError (CharSet × List Char) :=
  let (neg, body) := match cs with
    | '^' :: t => (true, t)
    | t => (false, t)
  match classItems flags.fold (cs.length + 1) body true [] with
  | .ok (items, rest) => .ok (⟨items, neg⟩, rest)
  | .error e => .error e

/-! ### Counted repetition -/

def countValue (cs : List Char) : Option (Nat × List Char) :=
  let ds := cs.takeWhile isDigit
  if ds.isEmpty then none
  else if ds.length ≥ 2 && ds.head? == some '0' then none
  else if ds.length > 8 then some (100000000, cs.drop ds.length)
  else some (digitsValue ds, cs.drop ds.length)

def parseCount (cs : List Char) : Option ((Nat × Option Nat) × List Char) := do
  let (lo, r) ← countValue cs
  match r with
  | '}' :: t => some ((lo, some lo), t)
  | ',' :: '}' :: t => some ((lo, none), t)
  | ',' :: r' =>
    let (hi, r'') ← countValue r'
    match r'' with
    | '}' :: t => some ((lo, some hi), t)
    | _ => none
  | _ => none

/-! ### The reader -/

/-- An open group while reading: the alternatives finished so far, the sequence being read,
its capture index and the flags outside it. -/
structure Frame where
  done : List Node := []
  seq : List Node := []
  index : Option Nat := none
  outer : Flags := {}
  deriving Inhabited

def mkAlt (choices : List Node) : Node :=
  match choices with
  | [x] => x
  | xs => .alt xs

def mkCat (items : List Node) : Node :=
  match items with
  | [] => .empty
  | [x] => x
  | xs => .cat xs

def Frame.close (f : Frame) : Node := mkAlt (f.done ++ [mkCat f.seq.reverse])

def literal (c : Nat) (flags : Flags) : Node := .chars (CharSet.single c flags.fold)

/-- The state of the reader: open groups (innermost first), the group being read, the flags,
the number of captures so far, and whether the last item was a repetition. -/
structure Reader where
  outer : List Frame
  cur : Frame
  flags : Flags
  captures : Nat
  afterRepeat : Bool
  /-- Reading a POSIX expression: `\1` to `\9` are back-references, and counts go up to
  the POSIX limit. -/
  posix : Bool := false

def Reader.push (r : Reader) (n : Node) : Reader :=
  { r with cur := { r.cur with seq := n :: r.cur.seq }, afterRepeat := false }

mutual
def Node.repeatFits : Node → Nat → Bool
  | .repeat body least most _, budget =>
    match most with
    | some 0 => true
    | _ =>
      let m := most.getD least
      if m > budget then false else body.repeatFits (if m > 0 then budget / m else budget)
  | .cat parts, budget => repeatFitsAll parts budget
  | .alt choices, budget => repeatFitsAll choices budget
  | .group _ body, budget => body.repeatFits budget
  | _, _ => true

def repeatFitsAll : List Node → Nat → Bool
  | [], _ => true
  | n :: ns, budget => n.repeatFits budget && repeatFitsAll ns budget
end

def repeatBudget : Nat := 1000

def posixCountMax : Nat := 32767

def Reader.repeatLast (r : Reader) (least : Nat) (most : Option Nat) (lazy : Bool) :
    Except SyntaxError Reader :=
  if r.afterRepeat then .error .nestedRepeat
  else match r.cur.seq with
    | [] => .error .missingRepeatArgument
    | x :: xs =>
      let greedy := lazy == r.flags.ungreedy
      let node := Node.repeat x least most greedy
      if !node.repeatFits (if r.posix then posixCountMax else repeatBudget) then
        .error (if r.posix then .countTooBig else .badRepeatSize)
      else .ok { r with cur := { r.cur with seq := node :: xs }, afterRepeat := true }

def perlFlags : List Char → Flags → Bool → Bool → Except SyntaxError (Flags × Bool × List Char)
  | [], _, _, _ => .error .missingParen
  | c :: t, f, neg, saw =>
    if c == 'i' then perlFlags t { f with fold := !neg } neg true
    else if c == 'm' then perlFlags t { f with multiLine := !neg } neg true
    else if c == 's' then perlFlags t { f with dotNewline := !neg } neg true
    else if c == 'U' then perlFlags t { f with ungreedy := !neg } neg true
    else if c == '-' then (if neg then .error .badPerlOp else perlFlags t f true false)
    else if c == ':' || c == ')' then
      (if neg && !saw then .error .badPerlOp else .ok (f, c == ':', t))
    else .error .badPerlOp

def validCaptureName (name : List Char) : Bool := !name.isEmpty && name.all isWordChar

def quotedRun (cs : List Char) : List Char × List Char :=
  match indexOf? cs ['\\', 'E'] with
  | some i => (cs.take i, cs.drop (i + 2))
  | none => (cs, [])

def step (r : Reader) : List Char → Except SyntaxError (Reader × List Char)
  | [] => .ok (r, [])
  | c :: t =>
    if c == '(' then
      match t with
      | '?' :: 'P' :: '<' :: rest => openNamed rest
      | '?' :: '<' :: rest => openNamed rest
      | '?' :: rest => do
        let (f, opens, rest') ← perlFlags rest r.flags false false
        if opens then
          .ok ({ r with outer := r.cur :: r.outer, cur := { outer := r.flags }, flags := f,
                        afterRepeat := false }, rest')
        else .ok ({ r with flags := f, afterRepeat := false }, rest')
      | _ =>
        let k := r.captures + 1
        .ok ({ r with outer := r.cur :: r.outer, cur := { index := some k, outer := r.flags },
                      captures := k, afterRepeat := false }, t)
    else if c == ')' then
      match r.outer with
      | [] => .error .unexpectedParen
      | parent :: rest =>
        let node := Node.group r.cur.index r.cur.close
        let r' : Reader := { r with outer := rest, cur := parent, flags := r.cur.outer }
        .ok (r'.push node, t)
    else if c == '|' then
      .ok ({ r with cur := { r.cur with done := r.cur.done ++ [mkCat r.cur.seq.reverse], seq := [] },
                    afterRepeat := false }, t)
    else if c == '*' || c == '+' || c == '?' then
      let (lazy, rest) := match t with
        | '?' :: rest => (true, rest)
        | rest => (false, rest)
      let (lo, hi) : Nat × Option Nat :=
        if c == '*' then (0, none) else if c == '+' then (1, none) else (0, some 1)
      return (← r.repeatLast lo hi lazy, rest)
    else if c == '{' then
      match parseCount t with
      | some ((lo, hi), rest) =>
        let limit := if r.posix then posixCountMax else 1000
        let reversed := match hi with
          | some h => h < lo
          | none => false
        let beyond := lo > limit || hi.any (· > limit)
        if r.afterRepeat then .error .nestedRepeat
        else if r.cur.seq.isEmpty then .error .missingRepeatArgument
        else if reversed || (beyond && !r.posix) then .error .badRepeatSize
        else if beyond then .error .countTooBig
        else
          let (lazy, rest') := match rest with
            | '?' :: rest' => (true, rest')
            | rest' => (false, rest')
          return (← r.repeatLast lo hi lazy, rest')
      | none => .ok (r.push (literal '{'.toNat r.flags), t)
    else if c == '^' then
      .ok (r.push (.anchor (if r.flags.multiLine then .lineStart else .textStart)), t)
    else if c == '$' then
      .ok (r.push (.anchor (if r.flags.multiLine then .lineEnd else .textEnd)), t)
    else if c == '.' then
      let set : CharSet := if r.flags.dotNewline then CharSet.ofItem ⟨.ranges [(0, 0x10FFFF)], false, false, false⟩
        else ⟨[⟨.ranges [(10, 10)], false, false, false⟩], true⟩
      .ok (r.push (.chars set), t)
    else if c == '[' then do
      let (set, rest) ← parseClass t r.flags
      .ok (r.push (.chars set), rest)
    else if c == '\\' then
      match t with
      | 'A' :: rest => .ok (r.push (.anchor .textStart), rest)
      | 'z' :: rest => .ok (r.push (.anchor .textEnd), rest)
      | 'b' :: rest => .ok (r.push (.anchor .wordBoundary), rest)
      | 'B' :: rest => .ok (r.push (.anchor .notWordBoundary), rest)
      | 'C' :: _ => .error .badEscape
      | d :: rest =>
        if r.posix && '1' ≤ d && d ≤ '9' then
          let k := d.toNat - '0'.toNat
          let open_ := (r.cur :: r.outer).any (·.index == some k)
          if k ≤ r.captures && !open_ then .ok (r.push (.backref k), rest)
          else .error .badBackref
        else escapeItem r c t
      | [] => escapeItem r c t
    else .ok (r.push (literal c.toNat r.flags), t)
where
  openNamed (rest : List Char) : Except SyntaxError (Reader × List Char) :=
    match rest.findIdx? (· == '>') with
    | none => .error .badNamedCapture
    | some i =>
      if validCaptureName (rest.take i) then
        let k := r.captures + 1
        .ok ({ r with outer := r.cur :: r.outer, cur := { index := some k, outer := r.flags },
                      captures := k, afterRepeat := false }, rest.drop (i + 1))
      else .error .badNamedCapture
  /-- Reads an escape other than an anchor or a back-reference: a quoted run, a class or a
  character. -/
  escapeItem (r : Reader) (c : Char) (t : List Char) : Except SyntaxError (Reader × List Char) :=
    match t with
    | 'Q' :: rest =>
      let (lit, rest') := quotedRun rest
      .ok (lit.foldl (fun acc d => acc.push (literal d.toNat r.flags)) r, rest')
    | _ =>
      match unicodeEscape? (c :: t) with
      | some (.error e) => .error e
      | some (.ok ((k, neg), rest)) => .ok (r.push (.chars (CharSet.ofItem ⟨k, r.flags.fold, neg, false⟩)), rest)
      | none =>
        match perlClass? (c :: t) with
        | some ((k, neg), rest) => .ok (r.push (.chars (CharSet.ofItem ⟨k, r.flags.fold, neg, false⟩)), rest)
        | none => do
          let (v, rest) ← escapeChar t
          .ok (r.push (literal v r.flags), rest)

def readAll : Nat → Reader → List Char → Except SyntaxError Reader
  | 0, r, _ => .ok r
  | _ + 1, r, [] => .ok r
  | fuel + 1, r, c :: t => do
    let (r', rest) ← step r (c :: t)
    readAll fuel r' rest

mutual
def Node.height : Node → Nat
  | .cat parts => if parts.all Node.isChars then 1 else 1 + heightMax parts
  | .alt choices => if choices.all Node.isChars then 1 else 1 + heightMax choices
  | .repeat body _ _ _ => 1 + body.height
  | .group none body => body.height
  | .group (some _) body => 1 + body.height
  | _ => 1

def heightMax : List Node → Nat
  | [] => 0
  | n :: ns => max n.height (heightMax ns)

def Node.isChars : Node → Bool
  | .chars _ => true
  | _ => false
end

def maxHeight : Nat := 1000

/-- A parsed expression: its tree and the number of capture groups. -/
structure Parsed where
  root : Node
  captures : Nat

mutual
def Node.hasBackref : Node → Bool
  | .backref _ => true
  | .cat parts => anyBackref parts
  | .alt choices => anyBackref choices
  | .repeat body _ _ _ => body.hasBackref
  | .group _ body => body.hasBackref
  | _ => false

def anyBackref : List Node → Bool
  | [] => false
  | n :: ns => n.hasBackref || anyBackref ns
end

mutual
def Node.asciiFolded : Node → Node
  | .chars set => .chars { set with items := set.items.map fun i => { i with asciiFold := true } }
  | .cat parts => .cat (allAsciiFolded parts)
  | .alt choices => .alt (allAsciiFolded choices)
  | .repeat body least most greedy => .repeat body.asciiFolded least most greedy
  | .group k body => .group k body.asciiFolded
  | n => n

def allAsciiFolded : List Node → List Node
  | [] => []
  | n :: ns => n.asciiFolded :: allAsciiFolded ns
end

def parseWith (posix : Bool) (s : String) : Except SyntaxError Parsed := do
  let cs := s.toList
  let r ← readAll (cs.length + 1) { outer := [], cur := {}, flags := {}, captures := 0,
                                    afterRepeat := false, posix } cs
  match r.outer with
  | [] =>
    let root := r.cur.close
    if root.height > maxHeight then .error .nestingDepth
    else .ok ⟨if posix then root.asciiFolded else root, r.captures⟩
  | _ => .error .missingParen

def parse (s : String) : Except SyntaxError Parsed := parseWith false s

def quoteMeta (s : String) : String :=
  String.ofList (s.toList.flatMap fun c =>
    if "\\.+*?()|[]{}^$".toList.contains c then ['\\', c] else [c])

end TestRig.Regex
