import TestRig.Yaml.Resolve
import TestRig.Yaml.Token

/-!
Writing YAML in block style with an indentation of four. Mappings and sequences nested in a
mapping are indented by four more columns (to the next multiple of four), a mapping or sequence
inside a sequence item starts right after its `- `; empty collections are written `[]` and
`{}`.
-/

namespace TestRig.Yaml

open TestRig.Text

inductive Doc where
  | text (s : String)
  | atom (s : String)
  | seq (items : List Doc)
  | map (entries : List (Doc × Doc))
  deriving Repr, Inhabited

def bestIndent : Int := 4

inductive WriteStyle where
  | plain
  | single
  | double
  | literal
  deriving DecidableEq, Repr, Inhabited

structure Analysis where
  multiline : Bool := false
  flowPlain : Bool := true
  blockPlain : Bool := true
  single : Bool := true
  block : Bool := true
  deriving Repr, Inhabited

def isPrintable (c : Char) : Bool :=
  let v := c.toNat
  v == 0x0A || (0x20 ≤ v && v ≤ 0x7E) || (0xA0 ≤ v && v ≤ 0xD7FF) ||
    (0xE000 ≤ v && v ≤ 0xFFFD && v != 0xFEFF)

/-- What has been seen while analysing a scalar. -/
structure Seen where
  flowIndicator : Bool := false
  blockIndicator : Bool := false
  lineBreak : Bool := false
  special : Bool := false
  tab : Bool := false
  leadingSpace : Bool := false
  leadingBreak : Bool := false
  trailingSpace : Bool := false
  trailingBreak : Bool := false
  breakSpace : Bool := false
  spaceBreak : Bool := false
  previousSpace : Bool := false
  previousBreak : Bool := false
  deriving Inhabited

def analyzeChars : List Char → Nat → Bool → Seen → Seen
  | [], _, _, acc => acc
  | c :: rest, i, preceded, acc =>
    let followed := match rest with
      | [] => true
      | d :: _ => isBlank d
    let acc :=
      if i == 0 then
        if "#,[]\x7b\x7d&*!|>'\"%@`".toList.contains c then { acc with flowIndicator := true, blockIndicator := true }
        else if c == '?' || c == ':' then
          { acc with flowIndicator := true, blockIndicator := acc.blockIndicator || followed }
        else if c == '-' && followed then { acc with flowIndicator := true, blockIndicator := true }
        else acc
      else
        if ",?[]\x7b\x7d".toList.contains c then { acc with flowIndicator := true }
        else if c == ':' then
          { acc with flowIndicator := true, blockIndicator := acc.blockIndicator || followed }
        else if c == '#' && preceded then { acc with flowIndicator := true, blockIndicator := true }
        else acc
    let acc := if c == '\t' then { acc with tab := true }
      else if !isPrintable c then { acc with special := true } else acc
    let last := rest.isEmpty
    let acc :=
      if c == ' ' then
        { acc with
          leadingSpace := acc.leadingSpace || i == 0
          trailingSpace := acc.trailingSpace || last
          breakSpace := acc.breakSpace || acc.previousBreak
          previousSpace := true
          previousBreak := false }
      else if isBreak c then
        { acc with
          lineBreak := true
          leadingBreak := acc.leadingBreak || i == 0
          trailingBreak := acc.trailingBreak || last
          spaceBreak := acc.spaceBreak || acc.previousSpace
          previousSpace := false
          previousBreak := true }
      else { acc with previousSpace := false, previousBreak := false }
    analyzeChars rest (i + 1) (isBlankEnd c) acc

def analyze (value : String) : Analysis :=
  let cs := value.toList
  match cs with
  | [] => { multiline := false, flowPlain := false, blockPlain := true, single := true, block := false }
  | _ =>
    let dashes := startsWith cs ['-', '-', '-'] || startsWith cs ['.', '.', '.']
    let a := analyzeChars cs 0 true { flowIndicator := dashes, blockIndicator := dashes }
    let edge := a.leadingSpace || a.leadingBreak || a.trailingSpace || a.trailingBreak
    let noPlain := edge || a.breakSpace || a.spaceBreak || a.tab || a.special || a.lineBreak
    { multiline := a.lineBreak
      flowPlain := !(noPlain || a.flowIndicator)
      blockPlain := !(noPlain || a.blockIndicator)
      single := !(a.breakSpace || a.spaceBreak || a.tab || a.special)
      block := !(a.trailingSpace || a.spaceBreak || a.special) }

def requestedStyle (s : String) : WriteStyle :=
  if s.toList.contains '\n' then .literal
  else if plainTag s == "!!str" && !isSexagesimal s && !isOldBool s then .plain
  else .double

def chooseStyle (a : Analysis) (value : String) (requested : WriteStyle) (simpleKey : Bool) :
    WriteStyle :=
  let style := if simpleKey && a.multiline then .double else requested
  let style :=
    if style == .plain && (!a.blockPlain || (value.isEmpty && simpleKey)) then .single else style
  let style := if style == .single && !a.single then .double else style
  if style == .literal && (!a.block || simpleKey) then .double else style

structure Writer where
  out : String := ""
  column : Nat := 0
  whitespace : Bool := true
  indention : Bool := true
  deriving Inhabited

namespace Writer

def put (w : Writer) (s : String) : Writer :=
  { w with out := w.out ++ s, column := w.column + s.length }

def newline (w : Writer) : Writer :=
  { w with out := w.out.push '\n', column := 0, indention := true }

def indentTo (w : Writer) (indent : Int) : Writer :=
  let ind := indent.toNat
  let w := if !w.indention || w.column > ind || (w.column == ind && !w.whitespace) then w.newline else w
  let w := w.put (String.ofList (List.replicate (ind - w.column) ' '))
  { w with whitespace := true }

def indicator (w : Writer) (s : String) (needSpace isSpace isIndention : Bool) : Writer :=
  let w := if needSpace && !w.whitespace then w.put " " else w
  let w := w.put s
  { w with whitespace := isSpace, indention := w.indention && isIndention }

def scalarBreak (w : Writer) (c : Char) : Writer :=
  if c == '\n' then w.newline
  else { w.put c.toString with column := 0, indention := true }

def plain (w : Writer) (value : String) : Writer :=
  let w := if !value.isEmpty && !w.whitespace then w.put " " else w
  let w := value.toList.foldl (fun w c => w.put c.toString) w
  { w with whitespace := false, indention := false }

def singleQuoted (w : Writer) (value : String) (indent : Int) : Writer :=
  let w := w.indicator "'" true false false
  let (w, _) := value.toList.foldl (fun (w, breaks) c =>
    if isBreak c then
      let w := if !breaks && c == '\n' then w.newline else w
      ({ w.scalarBreak c with indention := true }, true)
    else
      let w := if breaks then w.indentTo indent else w
      let w := if c == '\'' then w.put "'" else w
      ({ w.put c.toString with indention := false }, false)) (w, false)
  let w := w.indicator "'" false false false
  { w with whitespace := false, indention := false }

def escape (c : Char) : String :=
  match c with
  | '\x00' => "\\0"
  | '\x07' => "\\a"
  | '\x08' => "\\b"
  | '\t' => "\\t"
  | '\n' => "\\n"
  | '\x0B' => "\\v"
  | '\x0C' => "\\f"
  | '\r' => "\\r"
  | '\x1B' => "\\e"
  | '"' => "\\\""
  | '\\' => "\\\\"
  | '\x85' => "\\N"
  | '\xA0' => "\\_"
  | _ =>
    let v := c.toNat
    if v == 0x2028 then "\\L"
    else if v == 0x2029 then "\\P"
    else
      let (letter, width) := if v ≤ 0xFF then ("x", 2) else if v ≤ 0xFFFF then ("u", 4) else ("U", 8)
      let hex := (List.range width).reverse.map fun k =>
        let d := (v / Nat.pow 16 k) % 16
        Char.ofNat (if d < 10 then 48 + d else 55 + d)
      "\\" ++ letter ++ String.ofList hex

def doubleQuoted (w : Writer) (value : String) : Writer :=
  let w := w.indicator "\"" true false false
  let markFirst := value.startsWith "\uFEFF"
  let w := value.toList.foldl (fun w c =>
    if !isPrintable c || markFirst || isBreak c || c == '"' || c == '\\' then w.put (escape c)
    else w.put c.toString) w
  let w := w.indicator "\"" false false false
  { w with whitespace := false, indention := false }

def blockHints (value : String) : String :=
  let cs := value.toList
  let indentHint := match cs with
    | c :: _ => if c == ' ' || isBreak c then toString bestIndent else ""
    | [] => ""
  let rev := cs.reverse
  let chomp := match rev with
    | [] => "-"
    | c :: rest =>
      if !isBreak c then "-"
      else match rest with
        | [] => "+"
        | d :: _ => if isBreak d then "+" else ""
  indentHint ++ chomp

def literal (w : Writer) (value : String) (indent : Int) : Writer :=
  let w := w.indicator "|" true false false
  let w := w.indicator (blockHints value) false false false
  let w := { w with whitespace := true }
  let (w, _) := value.toList.foldl (fun (w, breaks) c =>
    if isBreak c then (w.scalarBreak c, true)
    else
      let w := if breaks then w.indentTo indent else w
      ({ w.put c.toString with indention := false }, false)) (w, true)
  w

def scalar (w : Writer) (value : String) (style : WriteStyle) (indent : Int) : Writer :=
  match style with
  | .plain => w.plain value
  | .single => w.singleQuoted value indent
  | .double => w.doubleQuoted value
  | .literal => w.literal value indent

end Writer

def deeper (cur : Int) (flow seqItem : Bool) : Int :=
  if cur < 0 then (if flow then bestIndent else 0)
  else if seqItem then cur + 2
  else bestIndent * ((cur + bestIndent) / bestIndent)

def Doc.scalarForm : Doc → Option (String × WriteStyle)
  | .text s => some (s, requestedStyle s)
  | .atom s => some (s, .plain)
  | _ => none

def Doc.emptyCollection : Doc → Option String
  | .seq [] => some "[]"
  | .map [] => some "\x7b\x7d"
  | _ => none

def writeDoc : Doc → Writer → Int → Bool → Bool → Writer
  | .text s, w, cur, seqItem, simpleKey =>
    let style := chooseStyle (analyze s) s (requestedStyle s) simpleKey
    w.scalar s style (deeper cur true seqItem)
  | .atom s, w, cur, seqItem, simpleKey =>
    let style := chooseStyle (analyze s) s .plain simpleKey
    w.scalar s style (deeper cur true seqItem)
  | .seq [], w, _, _, _ =>
    let w := w.indicator "[" true true false
    w.indicator "]" false false false
  | .map [], w, _, _, _ =>
    let w := w.indicator "\x7b" true true false
    w.indicator "\x7d" false false false
  | .seq (item :: items), w, cur, seqItem, _ =>
    let ind := deeper cur false seqItem
    writeItems (item :: items) w ind
  | .map (e :: es), w, cur, seqItem, _ =>
    let ind := deeper cur false seqItem
    writeEntries (e :: es) w ind
where
  writeItems : List Doc → Writer → Int → Writer
    | [], w, _ => w
    | d :: ds, w, ind =>
      let w := (w.indentTo ind).indicator "-" true false true
      writeItems ds (writeDoc d w ind true false) ind
  writeEntries : List (Doc × Doc) → Writer → Int → Writer
    | [], w, _ => w
    | (k, v) :: es, w, ind =>
      let w := w.indentTo ind
      let simple := match k.scalarForm with
        | some (s, _) => !(analyze s).multiline && s.utf8ByteSize ≤ 128
        | none => k.emptyCollection.isSome
      let w :=
        if simple then
          let w := writeDoc k w ind false true
          let w := w.indicator ":" false false false
          writeDoc v w ind false false
        else
          let w := w.indicator "?" true false true
          let w := writeDoc k w ind false false
          let w := (w.indentTo ind).indicator ":" true false true
          writeDoc v w ind false false
      writeEntries es w ind

def Doc.render (d : Doc) : String :=
  let w := writeDoc d {} (-1) false false
  let w := w.indentTo 0
  w.out

end TestRig.Yaml
