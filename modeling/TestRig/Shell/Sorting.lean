import TestRig.Shell.Filters
import TestRig.Number.Scan

/-!
`sort` and `uniq`, as the GNU tools do them in the C locale.

`sort` compares lines by their keys in turn; a key is the text between two positions of a line
(a field, and a character in it), compared as the key's letters say: as text (bytes), as a
number (`n`), a general number (`g`), a number with a unit (`h`), a month (`M`) or a version
(`V`), after leaving out characters (`d`, `i`) and folding case (`f`), and reversed by `r`.
-/

namespace TestRig.Shell

open TestRig.Files

/-! ### Keys -/

def fieldBlank (c : Char) : Bool := c == ' ' || c == '\t' || c == '\n'

def lexCompare : List Char → List Char → Ordering
  | [], [] => .eq
  | [], _ :: _ => .lt
  | _ :: _, [] => .gt
  | a :: as, b :: bs => match compare a b with
    | .eq => lexCompare as bs
    | o => o

structure KeyOrder where
  skipStart : Bool := false
  skipEnd : Bool := false
  dictionary : Bool := false
  fold : Bool := false
  printable : Bool := false
  numeric : Bool := false
  general : Bool := false
  human : Bool := false
  month : Bool := false
  version : Bool := false
  random : Bool := false
  reverse : Bool := false
  deriving Inhabited

def KeyOrder.plain (o : KeyOrder) : Bool :=
  !(o.skipStart || o.skipEnd || o.dictionary || o.fold || o.printable || o.numeric || o.general ||
    o.human || o.month || o.version || o.random)

def KeyOrder.set (o : KeyOrder) (start finish : Bool) (c : Char) : Option KeyOrder :=
  match c with
  | 'b' => some { o with skipStart := o.skipStart || start, skipEnd := o.skipEnd || finish }
  | 'd' => some { o with dictionary := true }
  | 'f' => some { o with fold := true }
  | 'g' => some { o with general := true }
  | 'h' => some { o with human := true }
  | 'i' => some { o with printable := !o.dictionary }
  | 'M' => some { o with month := true }
  | 'n' => some { o with numeric := true }
  | 'R' => some { o with random := true }
  | 'r' => some { o with reverse := true }
  | 'V' => some { o with version := true }
  | _ => none

def KeyOrder.clash (o : KeyOrder) : Option String :=
  let kinds := [o.numeric, o.general, o.human, o.month, o.version || o.random || o.dictionary || o.printable]
  if (kinds.filter id).length ≤ 1 then none
  else some (String.ofList ([('d', o.dictionary), ('f', o.fold), ('g', o.general), ('h', o.human),
    ('i', o.printable), ('M', o.month), ('n', o.numeric), ('R', o.random), ('V', o.version)].filterMap
      fun (c, on) => if on then some c else none))

/-- A key: its start (a field and a character in it, both counted from zero. -/
structure SortKey where
  start : Option (Nat × Nat) := none
  finish : Option (Nat × Nat) := none
  order : KeyOrder := {}
  deriving Inhabited

def readOrder (start finish : Bool) : Nat → List Char → KeyOrder → KeyOrder × List Char
  | 0, cs, o => (o, cs)
  | _, [], o => (o, [])
  | n + 1, c :: cs, o => match o.set start finish c with
    | some o => readOrder start finish n cs o
    | none => (o, c :: cs)

def readKey (spec : String) : Except String SortKey := do
  let bad (what : String) : String := what ++ ": invalid field specification '" ++ spec ++ "'"
  let count (what : String) (cs : List Char) : Except String (Nat × List Char) :=
    let ds := cs.takeWhile Char.isDigit
    if ds.isEmpty then .error (what ++ ": invalid count at start of '" ++ String.ofList cs ++ "'")
    else .ok ((String.ofList ds).toNat!, cs.drop ds.length)
  let (f, cs) ← count "invalid number at field start" spec.toList
  if f == 0 then throw (bad "field number is zero")
  let (c, cs) ← match cs with
    | '.' :: r => do
      let (c, r) ← count "invalid number after '.'" r
      if c == 0 then throw (bad "character offset is zero")
      pure (c, r)
    | r => pure (1, r)
  let start := if f == 1 && c == 1 then none else some (f - 1, c - 1)
  let (order, cs) := readOrder true false (cs.length + 1) cs {}
  let (finish, order, cs) ← match cs with
    | ',' :: r => do
      let (e, r) ← count "invalid number after ','" r
      if e == 0 then throw (bad "field number is zero")
      let (ec, r) ← match r with
        | '.' :: r' => count "invalid number after '.'" r'
        | r' => pure (0, r')
      let (order, r) := readOrder false true (r.length + 1) r order
      pure (some (e - 1, ec), order, r)
    | r => pure (none, order, r)
  if !cs.isEmpty then throw (bad "stray character in field spec")
  pure { start, finish, order }

def skipFields (tab : Option Char) : Nat → List Char → List Char
  | 0, cs => cs
  | n + 1, cs =>
    if cs.isEmpty then cs
    else match tab with
      | some t => skipFields tab n ((cs.dropWhile (· != t)).drop 1)
      | none => skipFields tab n ((cs.dropWhile fieldBlank).dropWhile fun c => !fieldBlank c)

def SortKey.startIn (k : SortKey) (tab : Option Char) (line : List Char) : Nat :=
  match k.start with
  | none => if k.order.skipStart then line.length - (line.dropWhile fieldBlank).length else 0
  | some (f, c) =>
    let rest := skipFields tab f line
    let rest := if k.order.skipStart then rest.dropWhile fieldBlank else rest
    min line.length (line.length - rest.length + c)

def skipToFieldEnd (tab : Option Char) (past : Bool) : Nat → List Char → List Char
  | 0, cs => cs
  | n + 1, cs =>
    if cs.isEmpty then cs
    else match tab with
      | some t =>
        let cs := cs.dropWhile (· != t)
        if !cs.isEmpty && (n != 0 || past) then skipToFieldEnd tab past n (cs.drop 1)
        else skipToFieldEnd tab past n cs
      | none => skipToFieldEnd tab past n ((cs.dropWhile fieldBlank).dropWhile fun c => !fieldBlank c)

def SortKey.endIn (k : SortKey) (tab : Option Char) (line : List Char) : Nat :=
  match k.finish with
  | none => line.length
  | some (f, c) =>
    let rest := skipToFieldEnd tab (c != 0) (if c == 0 then f + 1 else f) line
    if c == 0 then line.length - rest.length
    else
      let rest := if k.order.skipEnd then rest.dropWhile fieldBlank else rest
      min line.length (line.length - rest.length + c)

def SortKey.textIn (k : SortKey) (tab : Option Char) (line : List Char) : List Char :=
  let s := k.startIn tab line
  let e := k.endIn tab line
  (line.drop s).take (e - s)

/-! ### Comparisons -/

def plainNumber (cs : List Char) : Bool × List Char × List Char :=
  let cs := cs.dropWhile fieldBlank
  let (neg, cs) := match cs with
    | '-' :: r => (true, r)
    | r => (false, r)
  let digits := cs.takeWhile Char.isDigit
  let whole := digits.dropWhile (· == '0')
  let frac := match cs.drop digits.length with
    | '.' :: r => r.takeWhile Char.isDigit
    | _ => []
  let frac := (frac.reverse.dropWhile (· == '0')).reverse
  (neg && !(whole.isEmpty && frac.isEmpty), whole, frac)

def compareMagnitude (a b : List Char × List Char) : Ordering :=
  match compare a.1.length b.1.length with
  | .eq => match lexCompare a.1 b.1 with
    | .eq => lexCompare a.2 b.2
    | o => o
  | o => o

def numericCompare (a b : List Char) : Ordering :=
  let (na, wa, fa) := plainNumber a
  let (nb, wb, fb) := plainNumber b
  match na, nb with
  | false, false => compareMagnitude (wa, fa) (wb, fb)
  | true, true => compareMagnitude (wb, fb) (wa, fa)
  | true, false => .lt
  | false, true => .gt

def unitOrder (cs : List Char) : Int :=
  let cs := cs.dropWhile fieldBlank
  let (neg, cs) := match cs with
    | '-' :: r => (true, r)
    | r => (false, r)
  let whole := cs.takeWhile Char.isDigit
  let rest := cs.drop whole.length
  let (frac, rest) := match rest with
    | '.' :: r => (r.takeWhile Char.isDigit, r.dropWhile Char.isDigit)
    | r => ([], r)
  let order : Int := match rest.head? with
    | some 'K' | some 'k' => 1
    | some 'M' => 2
    | some 'G' => 3
    | some 'T' => 4
    | some 'P' => 5
    | some 'E' => 6
    | some 'Z' => 7
    | some 'Y' => 8
    | some 'R' => 9
    | some 'Q' => 10
    | _ => 0
  if (whole ++ frac).all (· == '0') then 0 else if neg then -order else order

def humanCompare (a b : List Char) : Ordering :=
  match compare (unitOrder a) (unitOrder b) with
  | .eq => numericCompare a b
  | o => o

def compareBinary (n : Bool) (m : Nat) (e : Int) (n' : Bool) (m' : Nat) (e' : Int) : Ordering :=
  let sign (neg : Bool) (mant : Nat) : Int := if mant == 0 then 0 else if neg then -1 else 1
  if sign n m != sign n' m' then compare (sign n m) (sign n' m')
  else
    let low := min e e'
    let mag := compare (m * Nat.pow 2 (e - low).toNat) (m' * Nat.pow 2 (e' - low).toNat)
    if sign n m < 0 then mag.swap else mag

def generalCompare (a b : List Char) : Ordering :=
  let read (cs : List Char) : Option TestRig.Number.FloatValue :=
    let s := TestRig.Number.scanFloat .extended cs
    if s.found then some s.value else none
  match read a, read b with
  | none, none => .eq
  | none, some _ => .lt
  | some _, none => .gt
  | some x, some y =>
    match x, y with
    | .nan n, .nan m => compare n m
    | .nan _, _ => .lt
    | _, .nan _ => .gt
    | .infinity n, .infinity m => if n == m then .eq else if n then .lt else .gt
    | .infinity n, _ => if n then .lt else .gt
    | _, .infinity m => if m then .gt else .lt
    | .finite n m e, .finite n' m' e' => compareBinary n m e n' m' e'

def monthOf (cs : List Char) : Nat :=
  let name := ((cs.dropWhile fieldBlank).take 3).map Char.toUpper
  let months := ["JAN", "FEB", "MAR", "APR", "MAY", "JUN", "JUL", "AUG", "SEP", "OCT", "NOV", "DEC"]
  match months.findIdx? (· == String.ofList name) with
  | some i => i + 1
  | none => 0

def versionWeight : Option Char → Int
  | none => 0
  | some c =>
    if c.isDigit then 0
    else if c.isAlpha then c.toNat
    else if c == '~' then -1
    else 256 + c.toNat

def versionRuns : Nat → List Char → List Char → Int
  | 0, _, _ => 0
  | _, [], [] => 0
  | n + 1, a, b =>
    let nonDigitA := a.takeWhile fun c => !c.isDigit
    let nonDigitB := b.takeWhile fun c => !c.isDigit
    let rec letters : Nat → List Char → List Char → Int
      | 0, _, _ => 0
      | _, [], [] => 0
      | k + 1, x, y =>
        let wx := versionWeight x.head?
        let wy := versionWeight y.head?
        if wx != wy then wx - wy else letters k (x.drop 1) (y.drop 1)
    let d := letters (nonDigitA.length + nonDigitB.length + 1) nonDigitA nonDigitB
    if d != 0 then d
    else
      let a := (a.drop nonDigitA.length).dropWhile (· == '0')
      let b := (b.drop nonDigitB.length).dropWhile (· == '0')
      let da := a.takeWhile Char.isDigit
      let db := b.takeWhile Char.isDigit
      if da.length != db.length then (if da.length > db.length then 1 else -1)
      else match lexCompare da db with
        | .lt => -1
        | .gt => 1
        | .eq => versionRuns n (a.drop da.length) (b.drop db.length)

def versionStem (cs : List Char) : Nat :=
  let n := cs.length
  let arr := cs.toArray
  let rec go : Nat → Nat → Nat → Nat
    | 0, _, prefixLen => prefixLen
    | fuel + 1, i, prefixLen =>
      if i ≥ n then prefixLen
      else
        let i := i + 1
        let rec suffix : Nat → Nat → Nat
          | 0, j => j
          | f + 1, j =>
            if j + 1 < n && arr[j]! == '.' && (arr[j + 1]!.isAlpha || arr[j + 1]! == '~') then
              let rest := ((cs.drop (j + 2)).takeWhile fun c => c.isAlphanum || c == '~').length
              suffix f (j + 2 + rest)
            else j
        let j := suffix (n + 1) i
        go fuel j i
  go (n + 1) 0 0

def versionCompare (a b : List Char) : Ordering :=
  let sign (d : Int) : Ordering := if d < 0 then .lt else if d > 0 then .gt else .eq
  if a.isEmpty || b.isEmpty then compare (!a.isEmpty) (!b.isEmpty)
  else
    let dotRank (cs : List Char) : Nat :=
      if cs == ['.'] then 0 else if cs == ['.', '.'] then 1 else if cs.head? == some '.' then 2 else 3
    let ra := dotRank a
    let rb := dotRank b
    if ra != rb || ra < 2 then compare ra rb
    else
      let sa := versionStem a
      let sb := versionStem b
      let first := versionRuns (a.length + b.length + 1) (a.take sa) (b.take sb)
      if first != 0 || (sa == a.length && sb == b.length) then sign first
      else sign (versionRuns (a.length + b.length + 1) a b)

def KeyOrder.compareTexts (o : KeyOrder) (a b : List Char) : Ordering :=
  let prepare (cs : List Char) : List Char :=
    let cs := if o.dictionary then cs.filter fun c => c.isAlphanum || fieldBlank c
      else if o.printable then cs.filter fun c => 32 ≤ c.toNat && c.toNat < 127
      else cs
    if o.fold then cs.map Char.toUpper else cs
  let a := prepare a
  let b := prepare b
  if o.numeric then numericCompare a b
  else if o.general then generalCompare a b
  else if o.human then humanCompare a b
  else if o.month then compare (monthOf a) (monthOf b)
  else if o.version then versionCompare a b
  else lexCompare a b

/-- How `sort` compares lines: its keys, the field separator, whether whole lines break ties
(not under `-u` or `-s`), and whether those ties go the other way (`-r`). -/
structure LineOrder where
  keys : List SortKey := []
  tab : Option Char := none
  unique : Bool := false
  stable : Bool := false
  reverse : Bool := false

def LineOrder.compareLines (s : LineOrder) (a b : List Char) : Ordering :=
  let byKeys := s.keys.foldl (fun acc k =>
    if acc != .eq then acc
    else
      let o := k.order.compareTexts (k.textIn s.tab a) (k.textIn s.tab b)
      if k.order.reverse then o.swap else o) Ordering.eq
  if !s.keys.isEmpty && (byKeys != .eq || s.unique || s.stable) then byKeys
  else
    let d := lexCompare a b
    if s.reverse then d.swap else d

def uniqueRuns (s : LineOrder) : List (List Char) → List (List Char)
  | [] => []
  | a :: rest =>
    let same := rest.takeWhile fun b => s.compareLines a b == .eq
    a :: uniqueRuns s (rest.drop same.length)
termination_by l => l.length
decreasing_by simp only [List.length_drop, List.length_cons]; omega

def mergeAll (le : List Char → List Char → Bool) (lists : List (List (List Char))) : List (List Char) :=
  lists.foldl (fun acc l => acc.merge l le) []

def firstDisorder (s : LineOrder) (lines : List (List Char)) : Option (Nat × List Char) :=
  (lines.zip (lines.drop 1)).zipIdx.findSome? fun ((a, b), i) =>
    let c := s.compareLines a b
    if c == .gt || (s.unique && c == .eq) then some (i + 2, b) else none

/-! ### `sort` -/

def sortSpecs : List OptionSpec :=
  [{ name := "b", short := some 'b', long := some "ignore-leading-blanks" },
   { name := "c", short := some 'c' },
   { name := "check", long := some "check", value := .optional },
   { name := "C", short := some 'C' },
   { name := "d", short := some 'd', long := some "dictionary-order" },
   { name := "f", short := some 'f', long := some "ignore-case" },
   { name := "g", short := some 'g', long := some "general-numeric-sort" },
   { name := "h", short := some 'h', long := some "human-numeric-sort" },
   { name := "i", short := some 'i', long := some "ignore-nonprinting" },
   { name := "k", short := some 'k', long := some "key", value := .required },
   { name := "m", short := some 'm', long := some "merge" },
   { name := "M", short := some 'M', long := some "month-sort" },
   { name := "n", short := some 'n', long := some "numeric-sort" },
   { name := "o", short := some 'o', long := some "output", value := .required },
   { name := "r", short := some 'r', long := some "reverse" },
   { name := "R", short := some 'R', long := some "random-sort" },
   { name := "s", short := some 's', long := some "stable" },
   { name := "S", short := some 'S', long := some "buffer-size", value := .required },
   { name := "t", short := some 't', long := some "field-separator", value := .required },
   { name := "T", short := some 'T', long := some "temporary-directory", value := .required },
   { name := "u", short := some 'u', long := some "unique" },
   { name := "V", short := some 'V', long := some "version-sort" },
   { name := "z", short := some 'z', long := some "zero-terminated" },
   { name := "sort", long := some "sort", value := .required },
   { name := "debug", long := some "debug" },
   { name := "parallel", long := some "parallel", value := .required },
   { name := "batch-size", long := some "batch-size", value := .required },
   { name := "compress-program", long := some "compress-program", value := .required },
   { name := "files0-from", long := some "files0-from", value := .required },
   { name := "random-source", long := some "random-source", value := .required }]

structure SortSettings where
  order : KeyOrder := {}
  keys : List SortKey := []
  tab : Option Char := none
  unique : Bool := false
  stable : Bool := false
  merge : Bool := false
  check : Option Char := none
  output : Option String := none
  zero : Bool := false

def sortSettings (options : List FoundOption) : Except (String × Nat) SortSettings :=
  options.foldlM (fun (s : SortSettings) opt => do
    let v := opt.value.getD ""
    match opt.name with
    | "k" => do
      let k ← (readKey v).mapError fun m => ("sort: " ++ m ++ "\n", 2)
      pure { s with keys := s.keys ++ [k] }
    | "t" =>
      let t := v.toList
      match t with
      | [] => throw ("sort: empty tab\n", 2)
      | [c] => match s.tab with
        | some old => if old != c then throw ("sort: incompatible tabs\n", 2) else pure s
        | none => pure { s with tab := some c }
      | _ => if v == "\\0" then pure { s with tab := some '\x00' } else throw ("sort: multi-character tab '" ++ v ++ "'\n", 2)
    | "u" => pure { s with unique := true }
    | "s" => pure { s with stable := true }
    | "m" => pure { s with merge := true }
    | "c" => pure { s with check := some 'c' }
    | "C" => pure { s with check := some 'C' }
    | "check" =>
      match opt.value with
      | none => pure { s with check := some 'c' }
      | some w => do
        let c ← (pickChoice "sort" "check" [(["quiet", "silent"], 'C'), (["diagnose-first"], 'c')] w).mapError (·, 1)
        pure { s with check := some c }
    | "o" => pure { s with output := some v }
    | "z" => pure { s with zero := true }
    | "sort" => do
      let letter ← pickChoice "sort" "sort" [(["general-numeric"], 'g'), (["human-numeric"], 'h'),
        (["month"], 'M'), (["numeric"], 'n'), (["random"], 'R'), (["version"], 'V')] v |>.mapError (·, 1)
      pure { s with order := (s.order.set true true letter).getD s.order }
    | name =>
      match name.toList with
      | [c] => match s.order.set true true c with
        | some o => pure { s with order := o }
        | none => pure s
      | _ => pure s) {}

def SortSettings.lineOrder (s : SortSettings) : LineOrder :=
  let keys := s.keys.map fun k =>
    if k.order.plain && !k.order.reverse then { k with order := s.order } else k
  let keys := if keys.isEmpty && !s.order.plain then [{ order := s.order }] else keys
  { keys, tab := s.tab, unique := s.unique, stable := s.stable, reverse := s.order.reverse }

def recordLines (delim : Char) (t : String) : List (List Char) :=
  if t.isEmpty then []
  else
    let parts := (t.splitOn (String.singleton delim)).map String.toList
    if t.endsWith (String.singleton delim) then parts.dropLast else parts

def sort (fs : Tree) (args : List String) (input : String) : Effect :=
  let plain : Effect := { files := fs }
  match readCommandWords sortSpecs args with
  | .error f => (plain.err (usageFault "sort" f)).fail 2
  | .ok w =>
    match sortSettings w.options with
    | .error (m, status) => (plain.err m).fail status
    | .ok s =>
      let order := s.lineOrder
      match (order.keys.map (·.order)).findSome? KeyOrder.clash with
      | some letters => (plain.err ("sort: options '-" ++ letters ++ "' are incompatible\n")).fail 2
      | none =>
      let delim := if s.zero then '\x00' else '\n'
      let names := if w.operands.isEmpty then ["-"] else w.operands
      let read (f : String) : Except String String :=
        if f == "-" then .ok input
        else match readBytes fs f with
          | .ok t => .ok t
          | .error err =>
            if err.errno == .isDir then .error ("read failed: " ++ f ++ ": Is a directory")
            else .error ((if s.check.isSome then "open failed: " else "cannot read: ") ++ f ++ ": " ++ errnoText err.errno)
      match s.check with
      | some mode =>
        match names with
        | [f] =>
          match read f with
          | .error m => (plain.err ("sort: " ++ m ++ "\n")).fail 2
          | .ok t =>
            match firstDisorder order (recordLines delim t) with
            | some (n, line) =>
              let e := if mode == 'c' then
                  plain.err ("sort: " ++ f ++ ":" ++ toString n ++ ": disorder: " ++ String.ofList line ++ "\n")
                else plain
              e.fail 1
            | none => plain
        | _ => (plain.err ("sort: extra operand '" ++ names.getD 1 "" ++ "' not allowed with -c\n")).fail 2
      | none =>
        let texts := names.map read
        match texts.findSome? fun | .error m => some m | .ok _ => none with
        | some m => (plain.err ("sort: " ++ m ++ "\n")).fail 2
        | none =>
          let inputs := (texts.filterMap (·.toOption)).map (recordLines delim)
          let le (a b : List Char) : Bool := order.compareLines a b != .gt
          let sorted := if s.merge then mergeAll le inputs else (inputs.flatten).mergeSort le
          let sorted := if s.unique then uniqueRuns order sorted else sorted
          let text := String.join (sorted.map fun l => String.ofList l ++ String.singleton delim)
          match s.output with
          | none => if text.isEmpty then plain else plain.out text
          | some f =>
            match writeBytes fs f text with
            | .ok t => { plain with files := t }
            | .error err => (plain.err ("sort: open failed: " ++ f ++ ": " ++ errnoText err.errno ++ "\n")).fail 2

/-! ### `uniq` -/

def uniqSpecs : List OptionSpec :=
  [{ name := "c", short := some 'c', long := some "count" },
   { name := "d", short := some 'd', long := some "repeated" },
   { name := "D", short := some 'D' },
   { name := "all-repeated", long := some "all-repeated", value := .optional },
   { name := "f", short := some 'f', long := some "skip-fields", value := .required },
   { name := "group", long := some "group", value := .optional },
   { name := "i", short := some 'i', long := some "ignore-case" },
   { name := "s", short := some 's', long := some "skip-chars", value := .required },
   { name := "u", short := some 'u', long := some "unique" },
   { name := "w", short := some 'w', long := some "check-chars", value := .required },
   { name := "z", short := some 'z', long := some "zero-terminated" }]

def comparedPart (fields chars : Nat) (width : Option Nat) (line : List Char) : List Char :=
  let blank (c : Char) : Bool := c == ' ' || c == '\t' || c == '\n'
  let rest := (List.range fields).foldl (fun cs _ => (cs.dropWhile blank).dropWhile fun c => !blank c) line
  let rest := rest.drop chars
  match width with
  | some w => rest.take w
  | none => rest

def equalRuns (same : List Char → List Char → Bool) : List (List Char) → List (List (List Char))
  | [] => []
  | a :: rest =>
    let more := rest.takeWhile (same a)
    (a :: more) :: equalRuns same (rest.drop more.length)
termination_by l => l.length
decreasing_by simp only [List.length_drop, List.length_cons]; omega

def uniq (fs : Tree) (args : List String) (input : String) : Effect :=
  let plain : Effect := { files := fs }
  match readCommandWords uniqSpecs args with
  | .error f => (plain.err (usageFault "uniq" f)).fail 1
  | .ok w =>
    let number (name what : String) : Except String (Option Nat) :=
      match w.last? name with
      | none => .ok none
      | some v =>
        -- blanks and a plus sign may lead the digits
        let body := match v.toList.dropWhile TestRig.Number.isCBlank with
          | '+' :: r => r
          | r => r
        if !body.isEmpty && body.all Char.isDigit then .ok (some (String.ofList body).toNat!)
        else .error ("uniq: " ++ v ++ ": invalid number of " ++ what ++ "\n")
    let method (name : String) (choices : List String) (bare : String) : Except String (Option String) :=
      match (w.options.reverse.find? (·.name == name)) with
      | some { value := some v, .. } => (pickChoice "uniq" name (choices.map fun c => ([c], c)) v).map some
      | some _ => .ok (some bare)
      | none => .ok none
    let allRepeated : Except String (Option String) := match method "all-repeated" ["none", "prepend", "separate"] "none" with
      | .ok none => .ok (if w.has "D" then some "none" else none)
      | r => r
    let group := method "group" ["prepend", "append", "separate", "both"] "separate"
    match number "f" "fields to skip", number "s" "bytes to skip", number "w" "bytes to compare",
      allRepeated, group with
    | .error m, _, _, _, _ | _, .error m, _, _, _ | _, _, .error m, _, _ | _, _, _, .error m, _
    | _, _, _, _, .error m => (plain.err m).fail 1
    | .ok fields, .ok chars, .ok width, .ok allRepeated, .ok group =>
      if w.operands.length > 2 then
        (plain.err ("uniq: extra operand '" ++ w.operands.getD 2 "" ++ "'\nTry 'uniq --help' for more information.\n")).fail 1
      else if allRepeated.isSome && w.has "c" then
        (plain.err "uniq: printing all duplicated lines and repeat counts is meaningless\nTry 'uniq --help' for more information.\n").fail 1
      else if group.isSome && (w.has "c" || w.has "d" || allRepeated.isSome || w.has "u") then
        (plain.err "uniq: --group is mutually exclusive with -c/-d/-D/-u\nTry 'uniq --help' for more information.\n").fail 1
      else
        let source := w.operands.headD "-"
        let text : Except String String := if source == "-" then .ok input
          else (readBytes fs source).mapError fun err => "uniq: " ++ source ++ ": " ++ errnoText err.errno ++ "\n"
        match text with
        | .error m => (plain.err m).fail 1
        | .ok t =>
          let delim := if w.has "z" then '\x00' else '\n'
          let d := String.singleton delim
          let fold := w.has "i"
          let key (l : List Char) : List Char :=
            let p := comparedPart (fields.getD 0) (chars.getD 0) width l
            if fold then p.map Char.toLower else p
          let runs : List (List (List Char)) := equalRuns (fun a b => key a == key b) (recordLines delim t)
          let line (l : List Char) : String := String.ofList l ++ d
          let out := match allRepeated, group with
            | some method, _ =>
              let repeated := runs.filter (·.length > 1)
              String.join (repeated.zipIdx.map fun ((run : List (List Char)), (i : Nat)) =>
                let sep := if (method == "separate" && i > 0) || method == "prepend" then d else ""
                sep ++ String.join (run.map line))
            | none, some method =>
              let body := String.join (runs.zipIdx.map fun ((run : List (List Char)), (i : Nat)) =>
                let sep := if ((method == "separate" || method == "append" || method == "both") && i > 0) ||
                    method == "prepend" || method == "both" then d else ""
                sep ++ String.join (run.map line))
              if (method == "append" || method == "both") && !runs.isEmpty then body ++ d else body
            | none, none =>
              let kept := runs.filter fun (run : List (List Char)) =>
                (!w.has "d" || run.length > 1) && (!w.has "u" || run.length == 1)
              String.join (kept.map fun (run : List (List Char)) =>
                (if w.has "c" then
                  let c := toString run.length
                  String.ofList (List.replicate (7 - c.length) ' ') ++ c ++ " " else "") ++ line (run.headD []))
          match w.operands.drop 1 with
          | target :: _ =>
            match writeBytes fs target out with
            | .ok t => { plain with files := t }
            | .error err => (plain.err ("uniq: " ++ target ++ ": " ++ errnoText err.errno ++ "\n")).fail 1
          | [] => if out.isEmpty then plain else plain.out out

end TestRig.Shell
