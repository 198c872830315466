import TestRig.Files.Tree
import TestRig.Text.Bytes

/-!
Shell patterns, as `case`, the pattern operators of parameter expansion, `[[ == ]]` and pathname
expansion read them, over byte texts (the shells run in the C locale). In a pattern `*` matches
any run of characters, `?` any one character, and a bracket expression `[...]` one character of
its set: single characters, ranges `a-z` and named classes `[:alpha:]`, the whole set negated by
a leading `!` or `^`, a `]` first standing for itself.
-/

namespace TestRig.Shell

open TestRig.Files TestRig.Text

inductive PatternItem where
  | char (c : Char)
  | one
  | any
  | set (negated : Bool) (ranges : List (Char × Char)) (classes : List String)
  | group (kind : Char) (alternatives : List (List PatternItem))
  deriving Repr, Inhabited

def inClass (name : String) (c : Char) : Bool :=
  let n := c.toNat
  let alpha := ('a' ≤ c && c ≤ 'z') || ('A' ≤ c && c ≤ 'Z')
  let digit := '0' ≤ c && c ≤ '9'
  match name with
  | "alpha" => alpha
  | "digit" => digit
  | "alnum" => alpha || digit
  | "upper" => 'A' ≤ c && c ≤ 'Z'
  | "lower" => 'a' ≤ c && c ≤ 'z'
  | "space" => c == ' ' || (9 ≤ n && n ≤ 13)
  | "blank" => c == ' ' || c == '\t'
  | "punct" => 33 ≤ n && n ≤ 126 && !alpha && !digit
  | "print" => 32 ≤ n && n ≤ 126
  | "graph" => 33 ≤ n && n ≤ 126
  | "cntrl" => n < 32 || n == 127
  | "xdigit" => digit || ('a' ≤ c && c ≤ 'f') || ('A' ≤ c && c ≤ 'F')
  | "word" => alpha || digit || c == '_'
  | _ => false

def collatingNames : List (String × Nat) :=
  [("NUL", 0), ("SOH", 1), ("STX", 2), ("ETX", 3), ("EOT", 4), ("ENQ", 5), ("ACK", 6),
   ("alert", 7), ("backspace", 8), ("tab", 9), ("newline", 10), ("vertical-tab", 11),
   ("form-feed", 12), ("carriage-return", 13), ("SO", 14), ("SI", 15), ("DLE", 16), ("DC1", 17),
   ("DC2", 18), ("DC3", 19), ("DC4", 20), ("NAK", 21), ("SYN", 22), ("ETB", 23), ("CAN", 24),
   ("EM", 25), ("SUB", 26), ("ESC", 27), ("IS4", 28), ("FS", 28), ("IS3", 29), ("GS", 29),
   ("IS2", 30), ("RS", 30), ("IS1", 31), ("US", 31), ("space", 32), ("exclamation-mark", 33),
   ("quotation-mark", 34), ("number-sign", 35), ("dollar-sign", 36), ("percent-sign", 37),
   ("ampersand", 38), ("apostrophe", 39), ("left-parenthesis", 40), ("right-parenthesis", 41),
   ("asterisk", 42), ("plus-sign", 43), ("comma", 44), ("hyphen", 45), ("hyphen-minus", 45),
   ("period", 46), ("full-stop", 46), ("slash", 47), ("solidus", 47), ("zero", 48), ("one", 49),
   ("two", 50), ("three", 51), ("four", 52), ("five", 53), ("six", 54), ("seven", 55),
   ("eight", 56), ("nine", 57), ("colon", 58), ("semicolon", 59), ("less-than-sign", 60),
   ("equals-sign", 61), ("greater-than-sign", 62), ("question-mark", 63), ("commercial-at", 64),
   ("left-square-bracket", 91), ("backslash", 92), ("reverse-solidus", 92),
   ("right-square-bracket", 93), ("circumflex", 94), ("circumflex-accent", 94),
   ("underscore", 95), ("low-line", 95), ("grave-accent", 96), ("left-brace", 123),
   ("left-curly-bracket", 123), ("vertical-line", 124), ("right-brace", 125),
   ("right-curly-bracket", 125), ("tilde", 126), ("DEL", 127)]

def collatingSymbol (name : List Char) : Option Char :=
  match name with
  | [c] => some c
  | _ => ((collatingNames.lookup (String.ofList name)).map Char.ofNat)

def bracketChar (cs : List Char) : Option (Option Char × List Char) :=
  match cs with
  | '[' :: '.' :: rest =>
    match (List.range rest.length).find? (fun i => (rest.drop i).take 2 == ['.', ']']) with
    | some i => some (collatingSymbol (rest.take i), rest.drop (i + 2))
    | none => some (some '[', '.' :: rest)
  | '\\' :: d :: r => some (some d, r)
  | c :: r => some (some c, r)
  | [] => none

def bracketItems : Nat → List Char → Bool → List (Char × Char) → List String →
    Option (List (Char × Char) × List String × List Char)
  | 0, _, _, _, _ => none
  | _, [], _, _, _ => none
  | fuel + 1, c :: rest, first, ranges, classes =>
    if c == ']' && !first then some (ranges.reverse, classes.reverse, rest)
    else if c == '[' && rest.head? == some ':' then
      let body := rest.drop 1
      let name := body.takeWhile (· != ':')
      match body.drop name.length with
      | ':' :: ']' :: after => bracketItems fuel after false ranges (String.ofList name :: classes)
      | _ => bracketItems fuel rest false ((c, c) :: ranges) classes
    else match c, rest with
      | '[', '=' :: x :: '=' :: ']' :: after => bracketItems fuel after false ((x, x) :: ranges) classes
      | _, _ =>
      match bracketChar (c :: rest) with
      | none => none
      | some (lo, rest) =>
        -- a symbol that names nothing stands for an empty range
        let add (lo hi : Option Char) : List (Char × Char) :=
          match lo, hi with
          | some l, some h => (l, h) :: ranges
          | _, _ => (Char.ofNat 1, Char.ofNat 0) :: ranges
        match rest with
        | '-' :: hi :: after =>
          if hi == ']' then bracketItems fuel ('-' :: hi :: after) false (add lo lo) classes
          else match bracketChar (hi :: after) with
            | some (hi, after) => bracketItems fuel after false (add lo hi) classes
            | none => none
        | _ => bracketItems fuel rest false (add lo lo) classes

def groupParts : Nat → List Char → Nat → List Char → List (List Char) →
    Option (List (List Char) × List Char)
  | 0, _, _, _, _ => none
  | _, [], _, _, _ => none
  | fuel + 1, c :: rest, depth, cur, alts =>
    match c with
    | '\\' => match rest with
      | d :: r => groupParts fuel r depth (d :: c :: cur) alts
      | [] => none
    | '(' => groupParts fuel rest (depth + 1) (c :: cur) alts
    | ')' =>
      if depth == 0 then some ((cur.reverse :: alts).reverse, rest)
      else groupParts fuel rest (depth - 1) (c :: cur) alts
    | '|' =>
      if depth == 0 then groupParts fuel rest depth [] (cur.reverse :: alts)
      else groupParts fuel rest depth (c :: cur) alts
    | _ => groupParts fuel rest depth (c :: cur) alts

def PatternItem.isAny : PatternItem → Bool
  | .any => true
  | _ => false

def parsePattern : Nat → List Char → List PatternItem → List PatternItem
  | 0, _, acc => acc.reverse
  | _, [], acc => acc.reverse
  | fuel + 1, c :: rest, acc =>
    let group? : Option (List (List Char) × List Char) :=
      if "@?*+!".contains c && rest.head? == some '(' then groupParts (rest.length + 1) (rest.drop 1) 0 [] []
      else none
    match group? with
    | some (alts, after) =>
      parsePattern fuel after (.group c (alts.map fun a => parsePattern fuel a []) :: acc)
    | none =>
    match c with
    | '*' => parsePattern fuel rest (if (acc.head?.map PatternItem.isAny).getD false then acc else .any :: acc)
    | '?' => parsePattern fuel rest (.one :: acc)
    | '\\' => match rest with
      | d :: r => parsePattern fuel r (.char d :: acc)
      | [] => parsePattern fuel [] (.char '\\' :: acc)
    | '[' =>
      let (negated, body) := match rest with
        | '!' :: r => (true, r)
        | '^' :: r => (true, r)
        | r => (false, r)
      match bracketItems (body.length + 1) body true [] [] with
      | some (ranges, classes, after) => parsePattern fuel after (.set negated ranges classes :: acc)
      | none => parsePattern fuel rest (.char '[' :: acc)
    | _ => parsePattern fuel rest (.char c :: acc)

def Pattern.items (p : String) : List PatternItem := parsePattern (p.length + 1) p.toList []

def foldCase (fold : Bool) (c : Char) : Char := if fold then c.toLower else c

def PatternItem.accepts (fold : Bool) (item : PatternItem) (c : Char) : Bool :=
  match item with
  | .char d => foldCase fold c == foldCase fold d
  | .one => true
  | .any => true
  | .set negated ranges classes =>
    let inRanges (c : Char) := ranges.any fun (lo, hi) => lo ≤ c && c ≤ hi
    (inRanges c || (fold && (inRanges c.toLower || inRanges c.toUpper)) || classes.any (inClass · c)) != negated
  | .group _ _ => false

mutual
def matchSteps (fold : Bool) : Nat → List PatternItem → List Char → Bool
  | 0, _, _ => false
  | _ + 1, [], s => s.isEmpty
  | f + 1, .any :: p, s =>
    matchSteps fold f p s || (match s with
      | _ :: r => matchSteps fold f (.any :: p) r
      | [] => false)
  | f + 1, .group k alts :: p, s =>
    (List.range (s.length + 1)).any fun i =>
      groupMatches fold f k alts (s.take i) && matchSteps fold f p (s.drop i)
  | f + 1, item :: p, s => match s with
    | c :: r => item.accepts fold c && matchSteps fold f p r
    | [] => false

def groupMatches (fold : Bool) : Nat → Char → List (List PatternItem) → List Char → Bool
  | 0, _, _, _ => false
  | f + 1, k, alts, s =>
    match k with
    | '?' => s.isEmpty || alts.any fun a => matchSteps fold f a s
    | '*' => s.isEmpty || repeatMatches fold f alts s
    | '+' => repeatMatches fold f alts s
    | '!' => !(alts.any fun a => matchSteps fold f a s)
    | _ => alts.any fun a => matchSteps fold f a s

def repeatMatches (fold : Bool) : Nat → List (List PatternItem) → List Char → Bool
  | 0, _, _ => false
  | f + 1, alts, s =>
    (List.range s.length).any fun i =>
      (alts.any fun a => matchSteps fold f a (s.take (i + 1))) &&
        (i + 1 == s.length || repeatMatches fold f alts (s.drop (i + 1)))
end

def patternSize : List PatternItem → Nat
  | [] => 0
  | .group _ alts :: p => 1 + groupSize alts + patternSize p
  | _ :: p => 1 + patternSize p
where
  groupSize : List (List PatternItem) → Nat
    | [] => 0
    | a :: more => patternSize a + groupSize more

def matchFolded (fold : Bool) (items : List PatternItem) (s : List Char) : Bool :=
  matchSteps fold ((patternSize items + 2) * (s.length + 2) * 4) items s

def matchItems (items : List PatternItem) (s : List Char) : Bool := matchFolded false items s

def patternMatch (pattern text : String) : Bool := matchItems (Pattern.items pattern) text.toList

def Pattern.isWild (p : String) : Bool :=
  (Pattern.items p).any fun
    | .char _ => false
    | _ => true

def Pattern.literal (p : String) : String :=
  String.ofList ((Pattern.items p).filterMap fun
    | .char c => some c
    | _ => none)

/-! ### Prefixes, suffixes and matches inside a text -/

def removeSuffix (value pattern : String) (longest : Bool) : String :=
  let items := Pattern.items pattern
  let cs := value.toList
  let cuts := (List.range (cs.length + 1)).map fun k => cs.length - k
  let cuts := if longest then cuts.reverse else cuts
  match cuts.find? fun i => matchItems items (cs.drop i) with
  | some i => String.ofList (cs.take i)
  | none => value

def removePrefix (value pattern : String) (longest : Bool) : String :=
  let items := Pattern.items pattern
  let cs := value.toList
  let cuts := List.range (cs.length + 1)
  let cuts := if longest then cuts.reverse else cuts
  match cuts.find? fun i => matchItems items (cs.take i) with
  | some i => String.ofList (cs.drop i)
  | none => value

def firstMatch (items : List PatternItem) (cs : List Char) (fromStart toEnd : Bool) : Option (Nat × Nat) :=
  let n := cs.length
  let starts := if fromStart then [0] else List.range (n + 1)
  starts.findSome? fun i =>
    let ends := if toEnd then [n] else (List.range (n + 1 - i)).reverse.map (i + ·)
    (ends.find? fun j => matchItems items ((cs.drop i).take (j - i))).map fun j => (i, j)

def matchedMark : Char := Char.ofNat 0x101

def fillMatched (rep matched : List Char) : List Char :=
  rep.flatMap fun c => if c == matchedMark then matched else [c]

def replaceEvery (items : List PatternItem) (rep : List Char) : Nat → List Char → List Char → List Char
  | 0, cs, acc => acc ++ cs
  | fuel + 1, cs, acc =>
    match firstMatch items cs false false with
    | some (i, j) =>
      if j == i then
        match cs.drop i with
        | c :: rest => replaceEvery items rep fuel rest (acc ++ cs.take i ++ [c])
        | [] => acc ++ cs
      else replaceEvery items rep fuel (cs.drop j) (acc ++ cs.take i ++ fillMatched rep ((cs.drop i).take (j - i)))
    | none => acc ++ cs

def replacePattern (value pat rep : String) (every fromStart toEnd : Bool) : String :=
  let cs := value.toList
  let items := Pattern.items pat
  if pat.isEmpty && !fromStart && !toEnd then value
  else if every && !fromStart && !toEnd then
    String.ofList (replaceEvery items rep.toList (cs.length + 1) cs [])
  else match firstMatch items cs fromStart toEnd with
    | some (i, j) => String.ofList (cs.take i ++ fillMatched rep.toList ((cs.drop i).take (j - i)) ++ cs.drop j)
    | none => value

/-- How a case operator changes a letter: to upper case, to lower case, or to the other one. -/
inductive CaseChange where
  | upper
  | lower
  | toggle
  deriving DecidableEq, Repr, Inhabited

def CaseChange.apply : CaseChange → Char → Char
  | .upper, c => c.toUpper
  | .lower, c => c.toLower
  | .toggle, c => if c.isUpper then c.toLower else c.toUpper

def changeCase (value pat : String) (change : CaseChange) (every : Bool) : String :=
  let items := Pattern.items pat
  let flip (c : Char) : Char :=
    if !pat.isEmpty && !matchItems items [c] then c
    else change.apply c
  match value.toList with
  | [] => ""
  | c :: rest => String.ofList (flip c :: if every then rest.map flip else rest)

/-! ### Pathname expansion -/

def patternElements (p : String) : List String := p.splitOn "/"

structure GlobOptions where
  dotglob : Bool := false
  nocase : Bool := false
  globstar : Bool := false

def startsWithChar (items : List PatternItem) (c : Char) : Bool :=
  match items with
  | .char d :: _ => d == c
  | _ => false

def elementMatches (element name : String) (o : GlobOptions) : Bool :=
  let items := Pattern.items element
  let dotOk := !name.startsWith "." || o.dotglob || startsWithChar items '.'
  dotOk && name != "." && name != ".." && matchFolded o.nocase items name.toList

def descendants (t : Tree) (o : GlobOptions) (files : Bool) : Nat → String → List String
  | 0, _ => []
  | fuel + 1, p =>
    let dir := if p.isEmpty then "." else p
    let join (name : String) := if p.isEmpty then name else if p.endsWith "/" then p ++ name else p ++ "/" ++ name
    ((t.children (t.resolve (toText dir))).map ofText).flatMap fun name =>
      if name.startsWith "." && !o.dotglob then []
      else
        let q := join name
        if t.isDir (toText q) then q :: descendants t o files fuel q
        else if files then [q] else []

def expandElements (t : Tree) (o : GlobOptions) : List String → List String → List String
  | [], found => found
  | [""], found => (found.filter fun p => t.isDir (toText p)).map (· ++ "/")
  | e :: rest, found =>
    let depth := t.nodes.length + 1
    let next := if o.globstar && e == "**" then
      found.flatMap fun p => (if rest.isEmpty && p.isEmpty then [] else [p]) ++ descendants t o rest.isEmpty depth p
    else found.flatMap fun p =>
      let dir := if p.isEmpty then "." else p
      let join (name : String) := if p.isEmpty then name else if p.endsWith "/" then p ++ name else p ++ "/" ++ name
      if e.isEmpty then [p]
      else if !Pattern.isWild e then
        let q := join (Pattern.literal e)
        if t.exists_ (toText q) then [q] else []
      else if !t.isDir (toText dir) then []
      else ((t.children (t.resolve (toText dir))).map ofText).filterMap fun name =>
        if elementMatches e name o then some (join name) else none
    expandElements t o rest next

def globPaths (t : Tree) (pattern : String) (o : GlobOptions) : List String :=
  let found := match patternElements pattern with
    | "" :: rest => expandElements t o rest ["/"]
    | elements => expandElements t o elements [""]
  found.mergeSort (· ≤ ·)

end TestRig.Shell
