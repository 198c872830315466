import TestRig.Yaml.Token

/-!
The YAML scanner: text to tokens, produced on demand. Block structure is made explicit here:
a key at a deeper column opens a block mapping, a `-` at a deeper column a block sequence, and
going back to a shallower column closes them.
-/

namespace TestRig.Yaml

structure SimpleKey where
  possible : Bool := false
  required : Bool := false
  tokenNumber : Nat := 0
  mark : Mark := {}
  deriving Repr, Inhabited

/-- The scanner: the text, the position, the tokens produced and not yet taken, and the state
of block structure and possible keys. -/
structure Scanner where
  input : Array Char
  pos : Nat := 0
  mark : Mark := {}
  started : Bool := false
  flowLevel : Nat := 0
  queue : List Token := []
  taken : Nat := 0
  ready : Bool := false
  indent : Int := -1
  indents : List Int := []
  keyAllowed : Bool := false
  keys : Array SimpleKey := #[]
  keysByToken : List (Nat × Nat) := []
  deriving Inhabited

abbrev ScanM := StateT Scanner (Except Problem)

def Scanner.peek (s : Scanner) (k : Nat) : Char := s.input.getD (s.pos + k) '\x00'

def ahead (k : Nat) : ScanM Char := do return (← get).peek k

def remaining : ScanM Nat := do
  let s ← get
  return s.input.size - s.pos + 2

def scanFail (context : String) (contextMark : Mark) (problem : String) : ScanM α := do
  throw { stage := .scanner, context, contextMark, problem, problemMark := (← get).mark }

def skip : ScanM Unit :=
  modify fun s => { s with
    pos := s.pos + 1
    mark := { s.mark with index := s.mark.index + 1, column := s.mark.column + 1 } }

def skipLine : ScanM Unit := do
  let s ← get
  if s.peek 0 == '\r' && s.peek 1 == '\n' then
    set { s with pos := s.pos + 2, mark := ⟨s.mark.index + 2, s.mark.line + 1, 0⟩ }
  else if isBreak (s.peek 0) then
    set { s with pos := s.pos + 1, mark := ⟨s.mark.index + 1, s.mark.line + 1, 0⟩ }

def readChar : ScanM String := do
  let c ← ahead 0
  skip
  return c.toString

def readBreak : ScanM String := do
  let s ← get
  let c := s.peek 0
  if c == '\r' && s.peek 1 == '\n' then
    set { s with pos := s.pos + 2, mark := ⟨s.mark.index + 2, s.mark.line + 1, 0⟩ }
    return "\n"
  else if isBreak c then
    set { s with pos := s.pos + 1, mark := ⟨s.mark.index + 1, s.mark.line + 1, 0⟩ }
    return (if c == '\u2028' || c == '\u2029' then c.toString else "\n")
  else return ""

def skipBlanks : Nat → ScanM Unit
  | 0 => pure ()
  | n + 1 => do
    if isBlank (← ahead 0) then
      skip
      skipBlanks n

def skipToBreak : Nat → ScanM Unit
  | 0 => pure ()
  | n + 1 => do
    if !isBreakEnd (← ahead 0) then
      skip
      skipToBreak n

/-! ### The token queue -/

def insertToken (pos : Option Nat) (t : Token) : ScanM Unit :=
  modify fun s => match pos with
    | none => { s with queue := s.queue ++ [t] }
    | some p => { s with queue := s.queue.take p ++ t :: s.queue.drop p }

def pointToken (kind : TokenKind) (m : Mark) : ScanM Unit := insertToken none ⟨kind, m, m⟩

/-! ### Possible simple keys -/

def keyStillValid (i : Nat) : ScanM Bool := do
  let s ← get
  let k := s.keys.getD i {}
  if !k.possible then return false
  if k.mark.line < s.mark.line || k.mark.index + 1024 < s.mark.index then
    if k.required then scanFail "while scanning a simple key" k.mark "could not find expected ':'"
    modify fun s => { s with keys := s.keys.set! i { k with possible := false } }
    return false
  return true

def removeKey : ScanM Unit := do
  let s ← get
  let i := s.keys.size - 1
  let k := s.keys.getD i {}
  if k.possible then
    if k.required then scanFail "while scanning a simple key" k.mark "could not find expected ':'"
    set { s with
      keys := s.keys.set! i { k with possible := false }
      keysByToken := s.keysByToken.filter (·.1 != k.tokenNumber) }

def saveKey : ScanM Unit := do
  let s ← get
  if s.keyAllowed then
    let k : SimpleKey := {
      possible := true
      required := s.flowLevel == 0 && s.indent == (s.mark.column : Int)
      tokenNumber := s.taken + s.queue.length
      mark := s.mark }
    removeKey
    modify fun s =>
      let i := s.keys.size - 1
      { s with
        keys := s.keys.set! i k
        keysByToken := (k.tokenNumber, i) :: s.keysByToken.filter (·.1 != k.tokenNumber) }

def enterFlow : ScanM Unit := do
  modify fun s => { s with keys := s.keys.push {}, flowLevel := s.flowLevel + 1 }
  if (← get).flowLevel > 10000 then
    scanFail "while increasing flow level" {} "exceeded max depth of 10000"

def leaveFlow : ScanM Unit :=
  modify fun s =>
    if s.flowLevel > 0 then
      let k := s.keys.back?.getD {}
      { s with
        flowLevel := s.flowLevel - 1
        keysByToken := s.keysByToken.filter (·.1 != k.tokenNumber)
        keys := s.keys.pop }
    else s

/-! ### Block structure -/

def rollIndent (column : Int) (number : Option Nat) (kind : TokenKind) (m : Mark) :
    ScanM Unit := do
  let s ← get
  if s.flowLevel == 0 && s.indent < column then
    set { s with indents := s.indent :: s.indents, indent := column }
    if s.indents.length + 1 > 10000 then
      scanFail "while increasing indent level" ((s.keys.back?.getD {}).mark)
        "exceeded max depth of 10000"
    insertToken (number.map fun n => n - s.taken) ⟨kind, m, m⟩

def unrollIndent (column : Int) (scanMark : Mark) : ScanM Unit := do
  let s ← get
  if s.flowLevel == 0 then
    let m := { scanMark with index := scanMark.index - 1 }
    go m s.indents.length
where
  go (m : Mark) : Nat → ScanM Unit
    | 0 => pure ()
    | n + 1 => do
      let s ← get
      if s.indent > column then
        pointToken .blockEnd m
        modify fun s => match s.indents with
          | i :: rest => { s with indent := i, indents := rest }
          | [] => { s with indent := -1 }
        go m n

/-! ### Whitespace and comments -/

def scanToNextToken : Nat → ScanM Unit
  | 0 => pure ()
  | n + 1 => do
    let s ← get
    if s.mark.column == 0 && s.peek 0 == '\uFEFF' then skip
    let fuel ← remaining
    let rec blanks : Nat → ScanM Unit
      | 0 => pure ()
      | k + 1 => do
        let s ← get
        let c := s.peek 0
        if c == ' ' || ((s.flowLevel > 0 || !s.keyAllowed) && c == '\t') then
          skip
          blanks k
    blanks fuel
    if (← ahead 0) == '#' then skipToBreak (← remaining)
    if isBreak (← ahead 0) then
      skipLine
      modify fun s => if s.flowLevel == 0 then { s with keyAllowed := true } else s
      scanToNextToken n

/-! ### Scalars -/

/-- The text of a scalar being read, with the blanks and breaks not yet folded into it. -/
structure Folding where
  text : String := ""
  leadingBreak : String := ""
  trailingBreaks : String := ""
  whitespaces : String := ""
  leadingBlanks : Bool := false
  deriving Inhabited

def Folding.join (f : Folding) : Folding :=
  if f.leadingBlanks then
    let t :=
      if f.leadingBreak.front == '\n' then
        if f.trailingBreaks.isEmpty then f.text ++ " " else f.text ++ f.trailingBreaks
      else f.text ++ f.leadingBreak ++ f.trailingBreaks
    { f with text := t, leadingBreak := "", trailingBreaks := "", leadingBlanks := false }
  else if f.whitespaces.isEmpty then f
  else { f with text := f.text ++ f.whitespaces, whitespaces := "" }

def atDocumentMarker : ScanM Bool := do
  let s ← get
  let a := s.peek 0
  return s.mark.column == 0 && ((a == '-' && s.peek 1 == '-' && s.peek 2 == '-') ||
    (a == '.' && s.peek 1 == '.' && s.peek 2 == '.')) && isBlankEnd (s.peek 3)

def foldBlanks (start : Mark) (indent : Int) (checkTabs : Bool) : Nat → Folding → ScanM Folding
  | 0, f => pure f
  | n + 1, f => do
    let s ← get
    let c := s.peek 0
    if isBlank c then
      if checkTabs && f.leadingBlanks && (s.mark.column : Int) < indent && c == '\t' then
        scanFail "while scanning a plain scalar" start
          "found a tab character that violates indentation"
      if !f.leadingBlanks then
        let w ← readChar
        foldBlanks start indent checkTabs n { f with whitespaces := f.whitespaces ++ w }
      else
        skip
        foldBlanks start indent checkTabs n f
    else if isBreak c then
      if !f.leadingBlanks then
        let b ← readBreak
        foldBlanks start indent checkTabs n
          { f with whitespaces := "", leadingBreak := b, leadingBlanks := true }
      else
        let b ← readBreak
        foldBlanks start indent checkTabs n { f with trailingBreaks := f.trailingBreaks ++ b }
    else pure f

def plainRun (f : Folding) (endMark : Mark) : Nat → ScanM (Folding × Mark)
  | 0 => pure (f, endMark)
  | n + 1 => do
    let s ← get
    let c := s.peek 0
    if isBlankEnd c then return (f, endMark)
    if (c == ':' && isBlankEnd (s.peek 1)) ||
        (s.flowLevel > 0 && (c == ',' || c == '?' || c == '[' || c == ']' || c == '{' || c == '}'))
    then return (f, endMark)
    let f := f.join
    let ch ← readChar
    plainRun { f with text := f.text ++ ch } (← get).mark n

def scanPlain : ScanM Token := do
  let s ← get
  let start := s.mark
  let indent := s.indent + 1
  let rec loop : Nat → Folding → Mark → ScanM (Folding × Mark)
    | 0, f, e => pure (f, e)
    | n + 1, f, e => do
      if ← atDocumentMarker then return (f, e)
      if (← ahead 0) == '#' then return (f, e)
      let (f, e) ← plainRun f e (← remaining)
      let c ← ahead 0
      if !(isBlank c || isBreak c) then return (f, e)
      let f ← foldBlanks start indent true (← remaining) f
      let s ← get
      if s.flowLevel == 0 && (s.mark.column : Int) < indent then return (f, e)
      loop n f e
  let (f, e) ← loop (← remaining) {} start
  if f.leadingBlanks then modify fun s => { s with keyAllowed := true }
  return ⟨.scalar f.text .plain, start, e⟩

def escapeOf (c : Char) : Option String :=
  match c with
  | '0' => some "\x00"
  | 'a' => some "\x07"
  | 'b' => some "\x08"
  | 't' => some "\t"
  | '\t' => some "\t"
  | 'n' => some "\n"
  | 'v' => some "\x0B"
  | 'f' => some "\x0C"
  | 'r' => some "\r"
  | 'e' => some "\x1B"
  | ' ' => some " "
  | '"' => some "\""
  | '\'' => some "'"
  | '\\' => some "\\"
  | 'N' => some "\x85"
  | '_' => some "\xA0"
  | 'L' => some "\u2028"
  | 'P' => some "\u2029"
  | _ => none

def hexCode (start : Mark) (len : Nat) : ScanM Nat := do
  let s ← get
  let ds := (List.range len).map s.peek
  if !ds.all isHex then
    scanFail "while parsing a quoted scalar" start "did not find expected hexdecimal number"
  let v := ds.foldl (fun acc d => acc * 16 + hexValue d) 0
  if (0xD800 ≤ v && v ≤ 0xDFFF) || v > 0x10FFFF then
    scanFail "while parsing a quoted scalar" start "found invalid Unicode character escape code"
  for _ in List.range len do skip
  return v

def quotedRun (single : Bool) (start : Mark) : Nat → String → ScanM (String × Bool)
  | 0, t => pure (t, false)
  | n + 1, t => do
    let s ← get
    let c := s.peek 0
    if isBlankEnd c then return (t, false)
    if single && c == '\'' && s.peek 1 == '\'' then
      skip; skip
      quotedRun single start n (t ++ "'")
    else if single && c == '\'' then return (t, false)
    else if !single && c == '"' then return (t, false)
    else if !single && c == '\\' && isBreak (s.peek 1) then
      skip
      skipLine
      return (t, true)
    else if !single && c == '\\' then
      let e := s.peek 1
      let len := if e == 'x' then 2 else if e == 'u' then 4 else if e == 'U' then 8 else 0
      if len > 0 then
        skip; skip
        let v ← hexCode start len
        quotedRun single start n (t.push (Char.ofNat v))
      else match escapeOf e with
        | some r =>
          skip; skip
          quotedRun single start n (t ++ r)
        | none => scanFail "while parsing a quoted scalar" start "found unknown escape character"
    else
      let ch ← readChar
      quotedRun single start n (t ++ ch)

def scanQuoted (single : Bool) : ScanM Token := do
  let start := (← get).mark
  skip
  let rec loop : Nat → Folding → ScanM Folding
    | 0, f => pure f
    | n + 1, f => do
      if ← atDocumentMarker then
        scanFail "while scanning a quoted scalar" start "found unexpected document indicator"
      if isEnd (← ahead 0) then
        scanFail "while scanning a quoted scalar" start "found unexpected end of stream"
      let (t, escapedBreak) ← quotedRun single start (← remaining) f.text
      let f := { f with text := t, leadingBlanks := escapedBreak }
      let c ← ahead 0
      if (single && c == '\'') || (!single && c == '"') then return f
      let f ← foldBlanks start 0 false (← remaining) f
      loop n f.join
  let f ← loop (← remaining) {}
  skip
  return ⟨.scalar f.text (if single then .singleQuoted else .doubleQuoted), start, (← get).mark⟩

def blockBreaks (start : Mark) (indent : Nat) (breaks : String) :
    ScanM (Nat × String × Mark) := do
  let rec loop : Nat → Nat → String → Mark → ScanM (Nat × String × Mark)
    | 0, maxIndent, b, e => pure (maxIndent, b, e)
    | n + 1, maxIndent, b, e => do
      let rec spaces : Nat → ScanM Unit
        | 0 => pure ()
        | k + 1 => do
          let s ← get
          if (indent == 0 || s.mark.column < indent) && s.peek 0 == ' ' then
            skip
            spaces k
      spaces (← remaining)
      let s ← get
      let maxIndent := max maxIndent s.mark.column
      if (indent == 0 || s.mark.column < indent) && s.peek 0 == '\t' then
        scanFail "while scanning a block scalar" start
          "found a tab character where an indentation space is expected"
      if !isBreak (s.peek 0) then return (maxIndent, b, e)
      let br ← readBreak
      loop n maxIndent (b ++ br) (← get).mark
  let (maxIndent, b, e) ← loop (← remaining) 0 breaks (← get).mark
  let s ← get
  let indent :=
    if indent == 0 then max (max maxIndent (s.indent + 1).toNat) 1 else indent
  return (indent, b, e)

def scanBlock (literal : Bool) : ScanM Token := do
  let start := (← get).mark
  skip
  let readChomp : ScanM Int := do
    let c ← ahead 0
    if c == '+' then
      skip
      return 1
    else if c == '-' then
      skip
      return -1
    else return 0
  let readIncrement : ScanM Nat := do
    let c ← ahead 0
    if '0' ≤ c && c ≤ '9' then
      if c == '0' then
        scanFail "while scanning a block scalar" start "found an indentation indicator equal to 0"
      skip
      return c.toNat - 48
    else return 0
  let first ← ahead 0
  let (chomp, increment) ← if first == '+' || first == '-' then do
      let ch ← readChomp
      let inc ← readIncrement
      pure (ch, inc)
    else do
      let inc ← readIncrement
      let ch ← if inc > 0 then readChomp else pure 0
      pure (ch, inc)
  skipBlanks (← remaining)
  if (← ahead 0) == '#' then skipToBreak (← remaining)
  if !isBreakEnd (← ahead 0) then
    scanFail "while scanning a block scalar" start "did not find expected comment or line break"
  if isBreak (← ahead 0) then skipLine
  let s ← get
  let indent : Nat :=
    if increment > 0 then
      if s.indent ≥ 0 then s.indent.toNat + increment else increment
    else 0
  let (indent, trailing, endMark) ← blockBreaks start indent ""
  let rec lines : Nat → String → String → String → Bool → Mark → ScanM (String × String × String × Mark)
    | 0, t, lb, tb, _, e => pure (t, lb, tb, e)
    | n + 1, t, lb, tb, leadingBlank, e => do
      let s ← get
      if s.mark.column != indent || isEnd (s.peek 0) then return (t, lb, tb, e)
      let trailingBlank := isBlank (s.peek 0)
      let t :=
        if !literal && !leadingBlank && !trailingBlank && lb.front == '\n' then
          (if tb.isEmpty then t ++ " " else t)
        else t ++ lb
      let t := t ++ tb
      let leadingBlank := isBlank (s.peek 0)
      let rec body : Nat → String → ScanM String
        | 0, t => pure t
        | k + 1, t => do
          if isBreakEnd (← ahead 0) then return t
          let ch ← readChar
          body k (t ++ ch)
      let t ← body (← remaining) t
      let lb ← readBreak
      let (_, tb, e) ← blockBreaks start indent ""
      lines n t lb tb leadingBlank e
  let (t, lb, tb, endMark) ← lines (← remaining) "" "" trailing false endMark
  let t := if chomp != -1 then t ++ lb else t
  let t := if chomp == 1 then t ++ tb else t
  return ⟨.scalar t (if literal then .literal else .folded), start, endMark⟩

/-! ### Anchors, aliases and tags -/

def scanAnchor (isAlias : Bool) : ScanM Token := do
  let start := (← get).mark
  skip
  let rec name : Nat → String → ScanM String
    | 0, t => pure t
    | n + 1, t => do
      if isAlpha (← ahead 0) then
        let ch ← readChar
        name n (t ++ ch)
      else return t
  let v ← name (← remaining) ""
  let c ← ahead 0
  if v.isEmpty || !(isBlankEnd c || c == '?' || c == ':' || c == ',' || c == ']' || c == '}' ||
      c == '%' || c == '@' || c == '`') then
    scanFail (if isAlias then "while scanning an alias" else "while scanning an anchor") start
      "did not find expected alphabetic or numeric character"
  return ⟨if isAlias then .aliasOf v else .anchor v, start, (← get).mark⟩

def tagContext (directive : Bool) : String :=
  if directive then "while parsing a %TAG directive" else "while parsing a tag"

def scanTagHandle (directive : Bool) (start : Mark) : ScanM String := do
  if (← ahead 0) != '!' then scanFail (tagContext directive) start "did not find expected '!'"
  let first ← readChar
  let rec word : Nat → String → ScanM String
    | 0, t => pure t
    | n + 1, t => do
      if isAlpha (← ahead 0) then
        let ch ← readChar
        word n (t ++ ch)
      else return t
  let t ← word (← remaining) first
  if (← ahead 0) == '!' then
    let ch ← readChar
    return t ++ ch
  else
    if directive && t != "!" then scanFail (tagContext directive) start "did not find expected '!'"
    return t

def isUriChar (verbatim : Bool) (c : Char) : Bool :=
  isAlpha c || ";/?:@&=+$.!~*'()%".toList.contains c || (verbatim && (c == ',' || c == '[' || c == ']'))

def scanUriEscapes (directive : Bool) (start : Mark) : ScanM (List UInt8) := do
  let rec go : Nat → Nat → List UInt8 → ScanM (List UInt8)
    | 0, _, acc => pure acc
    | n + 1, w, acc => do
      let s ← get
      if !(s.peek 0 == '%' && isHex (s.peek 1) && isHex (s.peek 2)) then
        scanFail (tagContext directive) start "did not find URI escaped octet"
      let octet := hexValue (s.peek 1) * 16 + hexValue (s.peek 2)
      let w ← if w == 0 then do
          let width :=
            if octet &&& 0x80 == 0 then 1 else if octet &&& 0xE0 == 0xC0 then 2
            else if octet &&& 0xF0 == 0xE0 then 3 else if octet &&& 0xF8 == 0xF0 then 4 else 0
          if width == 0 then
            scanFail (tagContext directive) start "found an incorrect leading UTF-8 octet"
          pure width
        else do
          if octet &&& 0xC0 != 0x80 then
            scanFail (tagContext directive) start "found an incorrect trailing UTF-8 octet"
          pure w
      skip; skip; skip
      let acc := acc ++ [octet.toUInt8]
      if w == 1 then return acc else go n (w - 1) acc
  go 4 0 []

def scanTagUri (verbatim directive : Bool) (head : String) (start : Mark) : ScanM String := do
  let rec go : Nat → ByteArray → Bool → ScanM (ByteArray × Bool)
    | 0, b, has => pure (b, has)
    | n + 1, b, has => do
      let c ← ahead 0
      if !isUriChar verbatim c then return (b, has)
      if c == '%' then
        let octets ← scanUriEscapes directive start
        go n (octets.foldl ByteArray.push b) true
      else
        let ch ← readChar
        go n (b ++ ch.toUTF8) true
  let init := (String.ofList (head.toList.drop 1)).toUTF8
  let (b, has) ← go (← remaining) init (!head.isEmpty)
  if !has then scanFail (tagContext directive) start "did not find expected tag URI"
  return (String.fromUTF8? b).getD ""

def scanTag : ScanM Token := do
  let start := (← get).mark
  let (handle, suffix) ← if (← ahead 1) == '<' then do
      skip; skip
      let suffix ← scanTagUri true false "" start
      if (← ahead 0) != '>' then
        scanFail "while scanning a tag" start "did not find the expected '>'"
      skip
      pure ("", suffix)
    else do
      let handle ← scanTagHandle false start
      if handle.length > 1 && handle.front == '!' && handle.back == '!' then
        let suffix ← scanTagUri false false "" start
        pure (handle, suffix)
      else
        let suffix ← scanTagUri false false handle start
        if suffix.isEmpty then pure ("", "!") else pure ("!", suffix)
  let s ← get
  let c := s.peek 0
  if !isBlankEnd c && !(s.flowLevel > 0 && c == ',') then
    scanFail "while scanning a tag" start "did not find expected whitespace or line break"
  return ⟨.tag handle suffix, start, s.mark⟩

/-! ### Directives -/

def scanDirective : ScanM Token := do
  let start := (← get).mark
  skip
  let rec word : Nat → String → ScanM String
    | 0, t => pure t
    | n + 1, t => do
      if isAlpha (← ahead 0) then
        let ch ← readChar
        word n (t ++ ch)
      else return t
  let name ← word (← remaining) ""
  if name.isEmpty then
    scanFail "while scanning a directive" start "could not find expected directive name"
  if !isBlankEnd (← ahead 0) then
    scanFail "while scanning a directive" start "found unexpected non-alphabetical character"
  let kind ← if name == "YAML" then do
      skipBlanks (← remaining)
      let number : ScanM Nat := do
        let rec digits : Nat → Nat → Nat → ScanM Nat
          | 0, v, _ => pure v
          | n + 1, v, len => do
            let c ← ahead 0
            if '0' ≤ c && c ≤ '9' then
              if len + 1 > 2 then
                scanFail "while scanning a %YAML directive" start "found extremely long version number"
              skip
              digits n (v * 10 + (c.toNat - 48)) (len + 1)
            else if len == 0 then
              scanFail "while scanning a %YAML directive" start "did not find expected version number"
            else return v
        digits 4 0 0
      let major ← number
      if (← ahead 0) != '.' then
        scanFail "while scanning a %YAML directive" start "did not find expected digit or '.' character"
      skip
      let minor ← number
      pure (TokenKind.versionDirective major minor)
    else if name == "TAG" then do
      skipBlanks (← remaining)
      let handle ← scanTagHandle true start
      if !isBlank (← ahead 0) then
        scanFail "while scanning a %TAG directive" start "did not find expected whitespace"
      skipBlanks (← remaining)
      let pfx ← scanTagUri true true "" start
      if !isBlankEnd (← ahead 0) then
        scanFail "while scanning a %TAG directive" start "did not find expected whitespace or line break"
      pure (TokenKind.tagDirective handle pfx)
    else scanFail "while scanning a directive" start "found unknown directive name"
  let stop := (← get).mark
  skipBlanks (← remaining)
  if (← ahead 0) == '#' then skipToBreak (← remaining)
  if !isBreakEnd (← ahead 0) then
    scanFail "while scanning a directive" start "did not find expected comment or line break"
  if isBreak (← ahead 0) then skipLine
  return ⟨kind, start, stop⟩

/-! ### Fetching tokens -/

def simpleToken (kind : TokenKind) (n : Nat) : ScanM Unit := do
  let start := (← get).mark
  for _ in List.range n do skip
  insertToken none ⟨kind, start, (← get).mark⟩

def fetchStreamEnd : ScanM Unit := do
  modify fun s =>
    if s.mark.column != 0 then { s with mark := { s.mark with column := 0, line := s.mark.line + 1 } }
    else s
  unrollIndent (-1) (← get).mark
  removeKey
  modify fun s => { s with keyAllowed := false, keysByToken := [] }
  pointToken .streamEnd (← get).mark

def fetchValue : ScanM Unit := do
  let s ← get
  let i := s.keys.size - 1
  if ← keyStillValid i then
    let k := (← get).keys.getD i {}
    insertToken (some (k.tokenNumber - (← get).taken)) ⟨.key, k.mark, k.mark⟩
    rollIndent k.mark.column (some k.tokenNumber) .blockMappingStart k.mark
    modify fun s => { s with
      keys := s.keys.set! i { k with possible := false }
      keysByToken := s.keysByToken.filter (·.1 != k.tokenNumber)
      keyAllowed := false }
  else
    let s ← get
    if s.flowLevel == 0 then
      if !s.keyAllowed then
        scanFail "" s.mark "mapping values are not allowed in this context"
      rollIndent s.mark.column none .blockMappingStart s.mark
    modify fun s => { s with keyAllowed := s.flowLevel == 0 }
  simpleToken .value 1

def fetchNextToken : ScanM Unit := do
  let s ← get
  if !s.started then
    set { s with indent := -1, keys := #[{}], keysByToken := [], keyAllowed := true, started := true }
    pointToken .streamStart s.mark
    return
  let scanMark := s.mark
  scanToNextToken (← remaining)
  unrollIndent (← get).mark.column scanMark
  let s ← get
  let c := s.peek 0
  let col0 := s.mark.column == 0
  if isEnd c then fetchStreamEnd
  else if col0 && c == '%' then
    unrollIndent (-1) s.mark
    removeKey
    modify fun s => { s with keyAllowed := false }
    let t ← scanDirective
    insertToken none t
  else if col0 && ((c == '-' && s.peek 1 == '-' && s.peek 2 == '-') ||
      (c == '.' && s.peek 1 == '.' && s.peek 2 == '.')) && isBlankEnd (s.peek 3) then
    unrollIndent (-1) s.mark
    removeKey
    modify fun s => { s with keyAllowed := false }
    simpleToken (if c == '-' then .documentStart else .documentEnd) 3
  else if c == '[' || c == '{' then
    saveKey
    enterFlow
    modify fun s => { s with keyAllowed := true }
    simpleToken (if c == '[' then .flowSequenceStart else .flowMappingStart) 1
  else if c == ']' || c == '}' then
    removeKey
    leaveFlow
    modify fun s => { s with keyAllowed := false }
    simpleToken (if c == ']' then .flowSequenceEnd else .flowMappingEnd) 1
  else if c == ',' then
    removeKey
    modify fun s => { s with keyAllowed := true }
    simpleToken .flowEntry 1
  else if c == '-' && isBlankEnd (s.peek 1) then
    if s.flowLevel == 0 then
      if !s.keyAllowed then
        scanFail "" s.mark "block sequence entries are not allowed in this context"
      rollIndent s.mark.column none .blockSequenceStart s.mark
    removeKey
    modify fun s => { s with keyAllowed := true }
    simpleToken .blockEntry 1
  else if c == '?' && (s.flowLevel > 0 || isBlankEnd (s.peek 1)) then
    if s.flowLevel == 0 then
      if !s.keyAllowed then
        scanFail "" s.mark "mapping keys are not allowed in this context"
      rollIndent s.mark.column none .blockMappingStart s.mark
    removeKey
    modify fun s => { s with keyAllowed := s.flowLevel == 0 }
    simpleToken .key 1
  else if c == ':' && (s.flowLevel > 0 || isBlankEnd (s.peek 1)) then fetchValue
  else if c == '*' || c == '&' then
    saveKey
    modify fun s => { s with keyAllowed := false }
    let t ← scanAnchor (c == '*')
    insertToken none t
  else if c == '!' then
    saveKey
    modify fun s => { s with keyAllowed := false }
    let t ← scanTag
    insertToken none t
  else if (c == '|' || c == '>') && s.flowLevel == 0 then
    removeKey
    modify fun s => { s with keyAllowed := true }
    let t ← scanBlock (c == '|')
    insertToken none t
  else if c == '\'' || c == '"' then
    saveKey
    modify fun s => { s with keyAllowed := false }
    let t ← scanQuoted (c == '\'')
    insertToken none t
  else if !(isBlankEnd c || "-?:,[]\x7b\x7d#&*!|>'\"%@`".toList.contains c) ||
      (c == '-' && !isBlank (s.peek 1)) ||
      (s.flowLevel == 0 && (c == '?' || c == ':') && !isBlankEnd (s.peek 1)) then
    saveKey
    modify fun s => { s with keyAllowed := false }
    let t ← scanPlain
    insertToken none t
  else
    scanFail "while scanning for the next token" s.mark "found character that cannot start any token"

def fetchMore : Nat → ScanM Unit
  | 0 => modify fun s => { s with ready := true }
  | n + 1 => do
    let s ← get
    let enough ← if s.queue.length ≥ 3 then
        match s.keysByToken.lookup s.taken with
        | none => pure true
        | some i => do
          let v ← keyStillValid i
          pure (!v)
      else pure false
    if enough then modify fun s => { s with ready := true }
    else
      fetchNextToken
      fetchMore n

def peekToken : ScanM Token := do
  if !(← get).ready then fetchMore ((← get).input.size + 16)
  match (← get).queue with
  | t :: _ => return t
  | [] => return ⟨.streamEnd, (← get).mark, (← get).mark⟩

def skipToken : ScanM Unit :=
  modify fun s => { s with ready := false, taken := s.taken + 1, queue := s.queue.drop 1 }

/-- The first problem the reader finds in a stream's bytes, read as UTF-8 one character after
another: a malformed sequence, or a character that a stream may not hold. -/
def readerProblem : List UInt8 → Option String
  | [] => none
  | b :: rest =>
    let (width, lead) :=
      if b &&& 0x80 == 0 then (1, b.toNat) else if b &&& 0xE0 == 0xC0 then (2, b.toNat % 32)
      else if b &&& 0xF0 == 0xE0 then (3, b.toNat % 16)
      else if b &&& 0xF8 == 0xF0 then (4, b.toNat % 8) else (0, 0)
    let tail := rest.take (width - 1)
    let v := tail.foldl (fun v t => v * 64 + t.toNat % 64) lead
    if width == 0 then some "invalid leading UTF-8 octet"
    else if rest.length < width - 1 then some "incomplete UTF-8 octet sequence"
    else if tail.any (· &&& 0xC0 != 0x80) then some "invalid trailing UTF-8 octet"
    else if (width == 2 && v < 0x80) || (width == 3 && v < 0x800) || (width == 4 && v < 0x10000)
    then some "invalid length of a UTF-8 sequence"
    else if (0xD800 ≤ v && v ≤ 0xDFFF) || 0x10FFFF < v then some "invalid Unicode character"
    else if !isReadable (Char.ofNat v) then some "control characters are not allowed"
    else readerProblem (rest.drop (width - 1))
termination_by bs => bs.length
decreasing_by simp only [List.length_drop, List.length_cons]; omega

/-- The text of a stream given as bytes, or the message of the reader's first problem. Valid
UTF-8 is read as it stands: its characters are checked when scanning starts. A stream that is
not UTF-8 has a first malformed sequence; a byte-order mark of UTF-16 is not looked for. -/
def textOf (data : ByteArray) : Except String String :=
  match String.fromUTF8? data with
  | some s => .ok s
  | none =>
    let problem := (readerProblem data.toList).getD "invalid leading UTF-8 octet"
    .error (Problem.message { stage := .reader, problem })

def Scanner.start (text : String) : Except Problem Scanner :=
  let cs := match text.toList with
    | '\uFEFF' :: r => r
    | r => r
  if cs.all isReadable then .ok { input := cs.toArray }
  else .error { stage := .reader, problem := "control characters are not allowed" }

end TestRig.Yaml
