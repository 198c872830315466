import TestRig.Shell.Programs

/-!
`cut`: parts of each line, as GNU `cut` selects them in the C locale: bytes or characters
(`-b`, `-c`; a character is a byte) or fields (`-f`) split at a delimiter (`-d`, a tab unless
given).

A list (`readPositions`) is items separated by commas or blanks, each a number `N`, or a range
`N-M`, `N-` or `-M`; the ranges are sorted and those that overlap are merged, and `--complement`
takes the positions outside them.
-/

namespace TestRig.Shell

open TestRig.Files

/-- A range of positions, counted from one; none for a range without end. -/
structure PositionRange where
  lo : Nat
  hi : Option Nat
  deriving BEq, Inhabited

def PositionRange.holds (r : PositionRange) (k : Nat) : Bool :=
  r.lo ≤ k && (r.hi.map fun h => decide (k ≤ h)).getD true

/-- Where reading a list is: the start of a range, the number being read, whether numbers
came before and after the dash, and whether the dash came. -/
structure ListRead where
  start : Nat := 1
  value : Nat := 0
  before : Bool := false
  after : Bool := false
  dash : Bool := false
  digitsFrom : Nat := 0
  inDigits : Bool := false
  ranges : List PositionRange := []

def positionLimit : Nat := Nat.pow 2 64 - 1

def readPositionList (bytes : Bool) (text : Array Char) : Nat → Nat → ListRead → Except String (List PositionRange)
  | 0, _, st => .ok st.ranges
  | fuel + 1, i, st =>
    let numbered := if bytes then "byte/character positions are numbered from 1" else "fields are numbered from 1"
    let c := text.getD i '\x00'
    let atEnd := i ≥ text.size
    if !atEnd && c == '-' then
      if st.dash then .error (if bytes then "invalid byte or character range" else "invalid field range")
      else if st.before && st.value == 0 then .error numbered
      else readPositionList bytes text fuel (i + 1)
        { st with dash := true, start := if st.before then st.value else 1, value := 0, inDigits := false }
    else if atEnd || c == ',' || c == ' ' || c == '\t' then
      let closed : Except String ListRead :=
        if st.dash then
          if !st.before && !st.after then .error "invalid range with no endpoint: -"
          else if !st.after then .ok { st with ranges := st.ranges ++ [⟨st.start, none⟩] }
          else if st.value < st.start then .error "invalid decreasing range"
          else .ok { st with ranges := st.ranges ++ [⟨st.start, some st.value⟩] }
        else if st.value == 0 then .error numbered
        else .ok { st with ranges := st.ranges ++ [⟨st.value, some st.value⟩] }
      match closed with
      | .error m => .error m
      | .ok st =>
        if atEnd then .ok st.ranges
        else readPositionList bytes text fuel (i + 1)
          { st with value := 0, dash := false, before := false, after := false, inDigits := false }
    else if c.isDigit then
      let digitsFrom := if st.inDigits then st.digitsFrom else i
      let value := st.value * 10 + (c.toNat - '0'.toNat)
      if value ≥ positionLimit then
        let number := String.ofList ((text.toList.drop digitsFrom).takeWhile Char.isDigit)
        .error ((if bytes then "byte/character offset '" else "field number '") ++ number ++ "' is too large")
      else readPositionList bytes text fuel (i + 1)
        { st with value, digitsFrom, inDigits := true,
                  before := st.before || !st.dash, after := st.after || st.dash }
    else
      .error ((if bytes then "invalid byte/character position '" else "invalid field value '") ++
        String.ofList (text.toList.drop i) ++ "'")

def mergeRanges (rs : List PositionRange) : List PositionRange :=
  let sorted := rs.mergeSort fun a b => a.lo ≤ b.lo
  (sorted.foldl (fun acc r =>
    match acc with
    | last :: rest =>
      let overlaps : Bool := (last.hi.map fun h => decide (r.lo ≤ h)).getD true
      if overlaps then
        let hi := match last.hi, r.hi with
          | some a, some b => some (max a b)
          | _, _ => none
        { last with hi } :: rest
      else r :: acc
    | [] => [r]) []).reverse

def complementRanges (rs : List PositionRange) : List PositionRange :=
  let first := match rs.head? with
    | some r => if r.lo > 1 then [⟨1, some (r.lo - 1)⟩] else []
    | none => []
  let between := (rs.zip (rs.drop 1)).filterMap fun (a, b) =>
    match a.hi with
    | some h => if h + 1 == b.lo then none else some ⟨h + 1, some (b.lo - 1)⟩
    | none => none
  let last := match rs.getLast? with
    | some r => match r.hi with
      | some h => [⟨h + 1, none⟩]
      | none => []
    | none => []
  first ++ between ++ last

def readPositions (bytes complement : Bool) (text : String) : Except String (List PositionRange) :=
  let arr := text.toList.toArray
  match readPositionList bytes arr (arr.size + 2) 0 {} with
  | .error m => .error m
  | .ok [] => .error (if bytes then "missing list of byte/character positions" else "missing list of fields")
  | .ok rs =>
    let rs := mergeRanges rs
    .ok (if complement then complementRanges rs else rs)

/-- How `cut` cuts: its ranges, by bytes or by fields, the delimiters, and `-s`. -/
structure CutSpec where
  ranges : List PositionRange
  fields : Bool
  delim : Char := '\t'
  outDelim : Option String := none
  onlyDelimited : Bool := false
  lineEnd : Char := '\n'

def CutSpec.selects (s : CutSpec) (k : Nat) : Bool := s.ranges.any (·.holds k)

def CutSpec.cutBytes (s : CutSpec) (line : List Char) : String :=
  let (out, _) := line.zipIdx.foldl (fun (out, started) (c, i) =>
    let k := i + 1
    if !s.selects k then (out, started)
    else
      let sep := match s.outDelim with
        | some d => if started && s.ranges.any (·.lo == k) then d else ""
        | none => ""
      (out ++ sep ++ String.singleton c, true)) ("", false)
  out

def CutSpec.cutFields (s : CutSpec) (line : List Char) : Option String :=
  if !line.contains s.delim then (if s.onlyDelimited then none else some (String.ofList line))
  else
    let fields := (String.ofList line).splitOn (String.singleton s.delim)
    let kept := fields.zipIdx.filterMap fun (f, i) => if s.selects (i + 1) then some f else none
    some ((s.outDelim.getD (String.singleton s.delim)).intercalate kept)

def CutSpec.cutText (s : CutSpec) (t : String) : String :=
  let lines := (t.splitOn (String.singleton s.lineEnd)).map String.toList
  let lines := if t.endsWith (String.singleton s.lineEnd) || t.isEmpty then lines.dropLast else lines
  String.join (lines.filterMap fun l =>
    (if s.fields then s.cutFields l else some (s.cutBytes l)).map (· ++ String.singleton s.lineEnd))

def cutSpecs : List OptionSpec :=
  [{ name := "b", short := some 'b', long := some "bytes", value := .required },
   { name := "b", short := some 'c', long := some "characters", value := .required },
   { name := "d", short := some 'd', long := some "delimiter", value := .required },
   { name := "f", short := some 'f', long := some "fields", value := .required },
   { name := "n", short := some 'n' },
   { name := "s", short := some 's', long := some "only-delimited" },
   { name := "z", short := some 'z', long := some "zero-terminated" },
   { name := "output-delimiter", long := some "output-delimiter", value := .required },
   { name := "complement", long := some "complement" }]

def cutUsage (message : String) : String :=
  "cut: " ++ message ++ "\nTry 'cut --help' for more information.\n"

/-- The settings of a `cut` command line, read in order: the list and whether it is of fields,
the delimiter, the output delimiter, `-s`, `-z` and `--complement`. -/
structure CutOptions where
  list : Option (String × Bool) := none
  delim : Option Char := none
  outDelim : Option String := none
  onlyDelimited : Bool := false
  zero : Bool := false
  complement : Bool := false

def cutOptions (options : List FoundOption) : Except String CutOptions :=
  options.foldlM (fun (o : CutOptions) f =>
    let v := f.value.getD ""
    match f.name with
    | "b" | "f" =>
      if o.list.isSome then .error (cutUsage "only one list may be specified")
      else .ok { o with list := some (v, f.name == "f") }
    | "d" =>
      if v.length > 1 then .error (cutUsage "the delimiter must be a single character")
      else .ok { o with delim := some (v.toList.headD '\x00') }
    | "output-delimiter" => .ok { o with outDelim := some (if v.isEmpty then "\x00" else v) }
    | "s" => .ok { o with onlyDelimited := true }
    | "z" => .ok { o with zero := true }
    | "complement" => .ok { o with complement := true }
    | _ => .ok o) {}

def cut (fs : Tree) (args : List String) (input : String) : Effect :=
  let plain : Effect := { files := fs }
  let (w, fault) := scanCommandWords cutSpecs args
  match cutOptions w.options, fault with
  | .error m, _ => (plain.err m).fail 1
  | .ok _, some f => (plain.err (usageFault "cut" f)).fail 1
  | .ok o, none =>
    match o.list with
    | none => (plain.err (cutUsage "you must specify a list of bytes, characters, or fields")).fail 1
    | some (list, fields) =>
      if o.delim.isSome && !fields then
        (plain.err (cutUsage "an input delimiter may be specified only when operating on fields")).fail 1
      else if o.onlyDelimited && !fields then
        (plain.err (cutUsage "suppressing non-delimited lines makes sense\n\tonly when operating on fields")).fail 1
      else
        match readPositions (!fields) o.complement list with
        | .error m => (plain.err (cutUsage m)).fail 1
        | .ok ranges =>
          let delim := o.delim.getD '\t'
          let outDelim := if fields then some (o.outDelim.getD (String.singleton delim)) else o.outDelim
          let lineEnd := if o.zero then '\x00' else '\n'
          let spec : CutSpec := { ranges, fields, delim, onlyDelimited := o.onlyDelimited, outDelim, lineEnd }
          let names := if w.operands.isEmpty then ["-"] else w.operands
          (names.foldl (fun ((e : Effect), (rest : String)) f =>
            let text := if f == "-" then .ok rest else readBytes e.files f
            let rest := if f == "-" then "" else rest
            match text with
            | .ok t =>
              let shown := spec.cutText t
              (if shown.isEmpty then e else e.out shown, rest)
            | .error err => ((e.err ("cut: " ++ f ++ ": " ++ errnoText err.errno ++ "\n")).fail 1, rest))
            (plain, input)).1

end TestRig.Shell
