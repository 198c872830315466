import TestRig.Shell.Filters
import TestRig.Regex.Machine

/-!
`grep`: the lines of files, or of the input, that a pattern selects. A pattern is a basic
regular expression, an extended one under `-E`, or fixed text under `-F`; it is written again
in the syntax of `TestRig.Regex` and compiled once. A line is selected when the pattern matches
somewhere in it (all of it under `-x`, a whole word under `-w`), or when it does not under `-v`.
-/

namespace TestRig.Shell

open TestRig.Files TestRig.Regex TestRig.Text

/-! ### Patterns -/

def literalText (c : Char) : String := quoteMeta (String.singleton c)

def unmatchedBracket : String := "Unmatched [, [^, [:, [., or [="

def classMember (c : Char) : String :=
  "\\x\x7b" ++ String.ofList (Nat.toDigits 16 c.toNat) ++ "\x7d"

def bracketRest : Nat → List Char → String → Except String (String × List Char)
  | 0, _, _ => .error unmatchedBracket
  | _, [], _ => .error unmatchedBracket
  | n + 1, ']' :: rest, acc => .ok (acc ++ "]", rest)
  | n + 1, '[' :: ':' :: rest, acc =>
    let name := rest.takeWhile (· != ':')
    match rest.drop name.length with
    | ':' :: ']' :: after => bracketRest n after (acc ++ "[:" ++ String.ofList name ++ ":]")
    | _ => bracketRest n (':' :: rest) (acc ++ "\\[")
  | n + 1, '[' :: mark :: rest, acc =>
    if mark == '.' || mark == '=' then
      match (List.range rest.length).find? (fun i => (rest.drop i).take 2 == [mark, ']']) with
      | some i =>
        match rest.take i with
        | [c] => bracketRest n (rest.drop (i + 2)) (acc ++ classMember c)
        | _ => .error "Invalid collation character"
      | none => .error unmatchedBracket
    else bracketRest n (mark :: rest) (acc ++ "\\[")
  | n + 1, '\\' :: rest, acc => bracketRest n rest (acc ++ "\\\\")
  | n + 1, '[' :: rest, acc => bracketRest n rest (acc ++ "\\[")
  | n + 1, c :: rest, acc => bracketRest n rest (acc.push c)

def bracketText (cs : List Char) : Except String (String × List Char) :=
  let (neg, cs) := match cs with
    | '^' :: r => ("^", r)
    | r => ("", r)
  let (first, cs) := match cs with
    | ']' :: r => ("\\]", r)
    | r => ("", r)
  bracketRest (cs.length + 1) cs ("[" ++ neg ++ first)

def regexFaultText : Regex.SyntaxError → String
  | .missingParen => "Unmatched ( or \\("
  | .unexpectedParen => "Unmatched ) or \\)"
  | .missingBracket => unmatchedBracket
  | .badRange => "Invalid range end"
  | .badRepeatSize => "Invalid content of \\\x7b\\\x7d"
  | .missingRepeatArgument | .nestedRepeat => "Invalid preceding regular expression"
  | .trailingBackslash => "Trailing backslash"
  | .nestingDepth | .countTooBig => "Regular expression too big"
  | .badBackref => "Invalid back reference"
  | _ => "Invalid regular expression"

def intervalText (extended : Bool) (cs : List Char) : Option (String × List Char) :=
  let body := cs.takeWhile fun c => c.isDigit || c == ','
  let rest := cs.drop body.length
  let closed := if extended then (match rest with | '}' :: r => some r | _ => none)
    else (match rest with | '\\' :: '}' :: r => some r | _ => none)
  match closed with
  | none => none
  | some r =>
    if body.isEmpty || body.count ',' > 1 then none
    else some ("\x7b" ++ (if body.head? == some ',' then "0" else "") ++ String.ofList body ++ "\x7d", r)

structure Rewriting where
  out : String := ""
  start : Bool := true
  atom : Nat := 0
  repeated : Bool := false
  groups : List Nat := []
  warnings : List String := []

def Rewriting.atomic (w : Rewriting) (t : String) : Rewriting :=
  { w with out := w.out ++ t, atom := w.out.length, start := false, repeated := false }

def Rewriting.anchor (w : Rewriting) (t : String) : Rewriting :=
  { w with out := w.out ++ t, atom := w.out.length, repeated := false }

def Rewriting.repetition (w : Rewriting) (t : String) : Rewriting :=
  let out := if w.repeated then
      String.ofList (w.out.toList.take w.atom) ++ "(?:" ++ String.ofList (w.out.toList.drop w.atom) ++ ")"
    else w.out
  { w with out := out ++ t, start := false, repeated := true }

def rewriteWith (extended strict : Bool) : Nat → List Char → Rewriting → Except String Rewriting
  | 0, _, w => .ok w
  | _, [], w => .ok w
  | n + 1, c :: rest, w =>
    let next (r : List Char) (w : Rewriting) := rewriteWith extended strict n r w
    let endsHere : Bool := match rest with
      | [] => true
      | '\\' :: d :: _ => !extended && (d == ')' || d == '|')
      | d :: _ => extended && (d == ')' || d == '|')
    let preceding : Except String Rewriting := .error "Invalid preceding regular expression"
    -- a repetition; `name` is how a warning calls it, `literal` what a basic one means at a start
    let repeat_ (op name literal : String) (r : List Char) : Except String Rewriting :=
      if w.start then
        if !extended then next r (w.atomic literal)
        else if strict then preceding
        else next r { w with warnings := w.warnings ++ [name ++ " at start of expression"] }
      else if w.repeated && strict && !extended then preceding
      else next r (w.repetition op)
    match c with
    | '[' =>
      if rest.isEmpty || rest == ['^'] then .error "Invalid regular expression"
      else match bracketText rest with
      | .ok (t, r) => next r (w.atomic t)
      | .error msg => .error msg
    | '\\' =>
      match rest with
      | [] => .error "Trailing backslash"
      | d :: r =>
        if !extended && d == '(' then
          next r { w with out := w.out ++ "(", groups := w.out.length :: w.groups, start := true, repeated := false }
        else if !extended && d == ')' then
          match w.groups with
          | [] => .error "Unmatched ) or \\)"
          | g :: gs => next r { w with out := w.out ++ ")", atom := g, groups := gs, start := false, repeated := false }
        else if !extended && d == '|' then
          next r { w with out := w.out ++ "|", start := true, repeated := false }
        else if !extended && (d == '+' || d == '?') then repeat_ (String.singleton d) (String.singleton d) (literalText d) r
        else if !extended && d == '{' then
          if w.start then next r (w.atomic (literalText '{'))
          else match intervalText false r with
            | some (t, r') => repeat_ t "\x7b...\x7d" "" r'
            | none =>
              if (r.zip (r.drop 1)).any (fun (a, b) => a == '\\' && b == '}') then .error "Invalid content of \\\x7b\\\x7d"
              else .error "Unmatched \\\x7b"
        else if !extended && d == '}' then next r (w.atomic (literalText '}'))
        else if d == '<' || d == '>' || d == 'b' || d == 'B' then
          next r (w.anchor (if d == 'B' then "\\B" else "\\b"))
        else if "wWsS".toList.contains d then next r (w.atomic ("\\" ++ String.singleton d))
        else if '1' ≤ d && d ≤ '9' then next r (w.atomic ("\\" ++ String.singleton d))
        else next r (w.atomic (literalText d))
    | '*' => repeat_ "*" "*" "\\*" rest
    | '^' => if extended || w.start then next rest (w.anchor "^") else next rest (w.atomic "\\^")
    | '$' => if extended || endsHere then next rest (w.anchor "$") else next rest (w.atomic "\\$")
    | '(' =>
      if extended then
        next rest { w with out := w.out ++ "(", groups := w.out.length :: w.groups, start := true, repeated := false }
      else next rest (w.atomic (literalText c))
    | ')' =>
      if extended then
        match w.groups with
        | [] => if strict then .error "Unmatched ) or \\)" else next rest (w.atomic (literalText c))
        | g :: gs => next rest { w with out := w.out ++ ")", atom := g, groups := gs, start := false, repeated := false }
      else next rest (w.atomic (literalText c))
    | '|' =>
      if extended then next rest { w with out := w.out ++ "|", start := true, repeated := false }
      else next rest (w.atomic (literalText c))
    | '{' =>
      if extended then
        match intervalText true rest with
        | some (t, r) => repeat_ t "\x7b...\x7d" "" r
        | none => next rest (w.atomic (literalText c))
      else next rest (w.atomic (literalText c))
    | '+' | '?' =>
      if extended then repeat_ (String.singleton c) (String.singleton c) "" rest
      else next rest (w.atomic (literalText c))
    | '.' => next rest (w.atomic ".")
    | _ => next rest (w.atomic (literalText c))

def rewritePattern (extended strict : Bool) (pat : List Char) : Except String (String × List String) :=
  (rewriteWith extended strict (pat.length + 1) pat {}).map fun w => (w.out, w.warnings)

inductive PatternKind where
  | basic
  | extended
  | fixed
  deriving DecidableEq, Inhabited

structure SearchOptions where
  kind : PatternKind := .basic
  patterns : List String := []
  invert : Bool := false
  count : Bool := false
  ignoreCase : Bool := false
  numbered : Bool := false
  onlyMatching : Bool := false
  quiet : Bool := false
  wordsOnly : Bool := false
  wholeLine : Bool := false
  namesWith : Bool := false
  namesWithout : Bool := false
  withName : Option Bool := none
  silent : Bool := false
  maxCount : Option Nat := none
  operands : List String := []
  bad : Option String := none
  deriving Inhabited

def SearchOptions.letter (o : SearchOptions) (c : Char) : Option SearchOptions :=
  match c with
  | 'E' => some { o with kind := .extended }
  | 'F' => some { o with kind := .fixed }
  | 'G' => some { o with kind := .basic }
  | 'v' => some { o with invert := true }
  | 'c' => some { o with count := true }
  | 'i' | 'y' => some { o with ignoreCase := true }
  | 'n' => some { o with numbered := true }
  | 'o' => some { o with onlyMatching := true }
  | 'q' => some { o with quiet := true }
  | 'w' => some { o with wordsOnly := true }
  | 'x' => some { o with wholeLine := true }
  | 'l' => some { o with namesWith := true }
  | 'L' => some { o with namesWithout := true }
  | 'H' => some { o with withName := some true }
  | 'h' => some { o with withName := some false }
  | 's' => some { o with silent := true }
  | 'r' | 'R' | 'a' | 'I' | 'U' | 'z' | 'T' | 'Z' | 'b' => some o
  | _ => none

def searchValued : List Char := ['e', 'f', 'm', 'A', 'B', 'C', 'd', 'D']

def searchOptions : Nat → List String → SearchOptions → SearchOptions
  | 0, _, o => o
  | _, [], o => o
  | n + 1, a :: rest, o =>
    if a == "--" then { o with operands := o.operands ++ rest }
    else if a.startsWith "--" then
      let (name, value) := match a.splitOn "=" with
        | k :: v :: more => (k, some ("=".intercalate (v :: more)))
        | k :: [] => (k, none)
        | [] => (a, none)
      let flag (o : SearchOptions) (c : Char) := searchOptions n rest ((o.letter c).getD o)
      match name with
      | "--regexp" => match value, rest with
        | some v, _ => searchOptions n rest { o with patterns := o.patterns ++ [v] }
        | none, v :: r => searchOptions n r { o with patterns := o.patterns ++ [v] }
        | none, [] => o
      | "--extended-regexp" => flag o 'E'
      | "--fixed-strings" => flag o 'F'
      | "--basic-regexp" => flag o 'G'
      | "--invert-match" => flag o 'v'
      | "--count" => flag o 'c'
      | "--ignore-case" => flag o 'i'
      | "--line-number" => flag o 'n'
      | "--only-matching" => flag o 'o'
      | "--quiet" | "--silent" => flag o 'q'
      | "--word-regexp" => flag o 'w'
      | "--line-regexp" => flag o 'x'
      | "--files-with-matches" => flag o 'l'
      | "--files-without-match" => flag o 'L'
      | "--with-filename" => flag o 'H'
      | "--no-filename" => flag o 'h'
      | "--no-messages" => flag o 's'
      | "--max-count" => searchOptions n rest { o with maxCount := value.bind String.toNat? }
      | _ => searchOptions n rest o
    else if a.startsWith "-" && a.length > 1 then
      letters n (a.toList.drop 1) rest o
    else searchOptions n rest { o with operands := o.operands ++ [a] }
where
  letters : Nat → List Char → List String → SearchOptions → SearchOptions
    | 0, _, _, o => o
    | n + 1, [], rest, o => searchOptions n rest o
    | n + 1, c :: more, rest, o =>
      if searchValued.contains c then
        let (value, rest) := match more, rest with
          | [], v :: r => (some v, r)
          | [], [] => (none, [])
          | m, r => (some (String.ofList m), r)
        let o := match c, value with
          | 'e', some v => { o with patterns := o.patterns ++ [v] }
          | 'm', some v => { o with maxCount := v.toNat? }
          | _, none => { o with bad := some ("option requires an argument -- '" ++ String.singleton c ++ "'") }
          | _, _ => o
        searchOptions n rest o
      else match o.letter c with
        | some o => letters n more rest o
        | none => { o with bad := some ("invalid option -- '" ++ String.singleton c ++ "'") }

def SearchOptions.expression (o : SearchOptions) (patterns : List String) :
    Except String (String × List String) := do
  let each := patterns.flatMap (·.splitOn "\n")
  let parts ← each.mapM fun pat =>
    match o.kind with
    | .fixed => pure (quoteMeta pat, [])
    | k => rewritePattern (k == .extended) false pat.toList
  let body := "|".intercalate (parts.map fun (t, _) => "(?:" ++ t ++ ")")
  let body := if o.wholeLine then "^(?:" ++ body ++ ")$"
    else if o.wordsOnly then "\\b(?:" ++ body ++ ")\\b" else body
  pure ((if o.ignoreCase then "(?i)" else "") ++ body, parts.flatMap (·.2))

/-! ### Searching -/

def matchedParts (prog : Regex.Program) (line : String) : List String :=
  let input := line.toList.toArray
  ((prog.allSlots input).filterMap fun m =>
    let a := (m[0]?.getD 0).toNat
    let b := (m[1]?.getD 0).toNat
    if b > a then some (slice input a b) else none)

/-- What searching one input found: the lines to print and how many lines were selected. -/
structure Found where
  text : String := ""
  selected : Nat := 0

def searchText (o : SearchOptions) (prog : Regex.Program) (label : String) (named : Bool) (text : String) : Found :=
  let lines := textLines text
  let lead := if named then label ++ ":" else ""
  let picked := (lines.zipIdx.filter fun (l, _) => prog.test l != o.invert)
  let picked := match o.maxCount with
    | some m => picked.take m
    | none => picked
  let shown := picked.map fun (l, i) =>
    let head := lead ++ (if o.numbered then toString (i + 1) ++ ":" else "")
    if o.onlyMatching then
      if o.invert then "" else String.join ((matchedParts prog l).map fun t => head ++ t ++ "\n")
    else head ++ l ++ "\n"
  { text := String.join shown, selected := picked.length }

def grep (fs : Tree) (args : List String) (input : String) : Effect :=
  let o := searchOptions (args.foldl (fun n a => n + a.length + 1) 1) args {}
  let plain : Effect := { files := fs }
  let usage := "Usage: grep [OPTION]... PATTERNS [FILE]...\nTry 'grep --help' for more information.\n"
  match o.bad with
  | some msg => (plain.err ("grep: " ++ msg ++ "\n" ++ usage)).fail 2
  | none =>
    let (patterns, files) := if o.patterns.isEmpty then (o.operands.take 1, o.operands.drop 1)
      else (o.patterns, o.operands)
    if patterns.isEmpty then (plain.err usage).fail 2
    else match o.expression patterns >>= fun (e, ws) => ((Regex.Program.longestOf e).mapError regexFaultText).map (·, ws) with
    | .error msg => (plain.err ("grep: " ++ msg ++ "\n")).fail 2
    | .ok (prog, warnings) =>
      let plain := warnings.foldl (fun e w => e.err ("grep: warning: " ++ w ++ "\n")) plain
      let names := if files.isEmpty then ["-"] else files
      let named := o.withName.getD (names.length > 1)
      let (e, selected, failed) := names.foldl (fun (e, selected, failed) f =>
        let label := if f == "-" then "(standard input)" else f
        let read : Except Errno String :=
          if f == "-" then .ok input
          else if fs.isDir (toText f) then .error .isDir
          else (readBytes fs f).mapError (·.errno)
        match read with
        | .error err =>
          let e := if o.silent then e else e.err ("grep: " ++ f ++ ": " ++ errnoText err ++ "\n")
          (e, selected, true)
        | .ok text =>
          let found := searchText o prog label named text
          let out :=
            if o.quiet then ""
            else if o.namesWith then (if found.selected > 0 then label ++ "\n" else "")
            else if o.namesWithout then (if found.selected == 0 then label ++ "\n" else "")
            else if o.count then (if named then label ++ ":" else "") ++ toString found.selected ++ "\n"
            else found.text
          (if out.isEmpty then e else e.out out, selected + found.selected, failed)) (plain, 0, false)
      let status := if o.quiet && selected > 0 then 0 else if failed then 2 else if selected > 0 then 0 else 1
      e.fail status

end TestRig.Shell
