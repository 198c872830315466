import TestRig.Shell.Programs
import TestRig.Number.FloatText

/-!
`od`: the bytes of the input shown in blocks, one line per block and per format, each line after
the offset of its block.
-/

namespace TestRig.Shell

open TestRig.Files

inductive DumpKind where
  | named
  | char
  | octal
  | hex
  | signed
  | unsigned
  | float
  deriving BEq, Inhabited

/-- A format: how units are shown, their size in bytes, and whether the printable bytes of each
block follow between `>` and `<`. -/
structure DumpFormat where
  kind : DumpKind
  size : Nat := 1
  trailer : Bool := false
  deriving Inhabited

def DumpFormat.fieldWidth (f : DumpFormat) : Nat :=
  match f.kind with
  | .named | .char => 3
  | .hex => 2 * f.size
  | .octal => match f.size with
    | 1 => 3
    | 2 => 6
    | 4 => 11
    | _ => 22
  | .signed => match f.size with
    | 1 => 4
    | 2 => 6
    | 4 => 11
    | _ => 20
  | .unsigned => match f.size with
    | 1 => 3
    | 2 => 5
    | 4 => 10
    | _ => 20
  | .float => match f.size with
    | 4 => 15
    | 8 => 24
    | _ => 29

def byteNames : List String :=
  ["nul", "soh", "stx", "etx", "eot", "enq", "ack", "bel", "bs", "ht", "nl", "vt", "ff", "cr",
   "so", "si", "dle", "dc1", "dc2", "dc3", "dc4", "nak", "syn", "etb", "can", "em", "sub",
   "esc", "fs", "gs", "rs", "us", "sp"]

def paddedDigits (base width n : Nat) : String :=
  let ds := Nat.toDigits base n
  String.ofList (List.replicate (width - ds.length) '0' ++ ds)

def alignRight (width : Nat) (s : String) : String :=
  String.ofList (List.replicate (width - s.length) ' ') ++ s

def unitValue (bytes : List Nat) : Nat :=
  bytes.foldr (fun b acc => acc * 256 + b) 0

/-- How a floating-point unit holds its number. -/
structure FloatLayout where
  expBits : Nat
  fracBits : Nat
  explicitLead : Bool
  digits : Nat
  maxDigits : Nat

def floatLayout (size : Nat) : FloatLayout :=
  match size with
  | 4 => ⟨8, 23, false, 6, 9⟩
  | 8 => ⟨11, 52, false, 15, 17⟩
  | _ => ⟨15, 64, true, 18, 21⟩

def FloatLayout.decode (l : FloatLayout) (bits : Nat) : Number.FloatValue × Bool × Bool :=
  let neg := (bits / Nat.pow 2 (l.expBits + l.fracBits)) % 2 == 1
  let e := (bits / Nat.pow 2 l.fracBits) % Nat.pow 2 l.expBits
  let f := bits % Nat.pow 2 l.fracBits
  let bias : Int := Int.pow 2 (l.expBits - 1) - 1
  let point : Nat := if l.explicitLead then l.fracBits - 1 else l.fracBits
  if e == Nat.pow 2 l.expBits - 1 then
    let frac := if l.explicitLead then f % Nat.pow 2 point else f
    (if frac == 0 then .infinity neg else .nan neg, false, false)
  else if e == 0 then (.finite neg f (1 - bias - point), false, false)
  else
    let mant := if l.explicitLead then f else Nat.pow 2 l.fracBits + f
    (.finite neg mant ((e : Int) - bias - point), true, e > 1 && mant == Nat.pow 2 point)

def decimalRatio (s : String) : Nat × Nat :=
  let (body, expo) := match s.splitOn "e" with
    | [b, x] => (b, (x.replace "+" "").toInt?.getD 0)
    | _ => (s, 0)
  let (whole, frac) := match body.splitOn "." with
    | [w, f] => (w, f)
    | _ => (body, "")
  let digits := (whole ++ frac).toNat?.getD 0
  let scale : Int := expo - frac.length
  if scale ≥ 0 then (digits * Nat.pow 10 scale.toNat, 1) else (digits, Nat.pow 10 (-scale).toNat)

def readsBack (n d mant : Nat) (exp : Int) (halved : Bool) : Bool :=
  -- everything scaled by 2^s is a whole number
  let s : Nat := (2 - exp).toNat
  let x : Int := mant * Int.pow 2 (exp + s).toNat
  let up : Int := Int.pow 2 (exp - 1 + s).toNat
  let down : Int := if halved then Int.pow 2 (exp - 2 + s).toNat else up
  let v : Int := n * Int.pow 2 s
  let dd : Int := d
  let even := mant % 2 == 0
  let above := (x - down) * dd < v || (even && (x - down) * dd == v)
  let below := v < (x + up) * dd || (even && v == (x + up) * dd)
  above && below

def shortestText (n d mant : Nat) (exp : Int) (halved : Bool) (limit : Nat) : Nat → Nat → String
  | 0, prec => Number.generalText n d prec false "e"
  | fuel + 1, prec =>
    let text := Number.generalText n d prec false "e"
    let (a, b) := decimalRatio text
    if prec ≥ limit || readsBack a b mant exp halved then text
    else shortestText n d mant exp halved limit fuel (prec + 1)

def floatUnitText (size : Nat) (bytes : List Nat) : String :=
  let l := floatLayout size
  match l.decode (unitValue bytes) with
  | (.nan neg, _, _) => if neg then "-nan" else "nan"
  | (.infinity neg, _, _) => if neg then "-inf" else "inf"
  | (.finite neg mant exp, normal, halved) =>
    let sign := if neg then "-" else ""
    if mant == 0 then sign ++ "0"
    else
      let (n, d) := Number.scaleByTwo mant 1 exp
      sign ++ shortestText n d mant exp halved l.maxDigits (l.maxDigits + 1) (if normal then l.digits else 1)

def DumpFormat.unitText (f : DumpFormat) (bytes : List Nat) : String :=
  let v := unitValue bytes
  match f.kind with
  | .named =>
    let c := v % 128
    if c == 127 then "del"
    else if c ≤ 32 then byteNames.getD c ""
    else String.singleton (Char.ofNat c)
  | .char =>
    match v with
    | 0 => "\\0"
    | 7 => "\\a"
    | 8 => "\\b"
    | 12 => "\\f"
    | 10 => "\\n"
    | 13 => "\\r"
    | 9 => "\\t"
    | 11 => "\\v"
    | _ => if 32 ≤ v && v < 127 then String.singleton (Char.ofNat v) else paddedDigits 8 3 v
  | .octal => paddedDigits 8 f.fieldWidth v
  | .hex => paddedDigits 16 f.fieldWidth v
  | .unsigned => toString v
  | .signed =>
    let half := Nat.pow 2 (8 * f.size - 1)
    if v ≥ half then "-" ++ toString (2 * half - v) else toString v
  | .float => floatUnitText f.size bytes

def DumpFormat.fieldsText (f : DumpFormat) (units shown pad : Nat) (block : List Nat) : String :=
  let width := f.fieldWidth
  let (out, _) := (List.range shown).foldl (fun (out, remaining) k =>
    let i := units - k
    let next := pad * (i - 1) / units
    let bytes := (block.drop (k * f.size)).take f.size
    let bytes := bytes ++ List.replicate (f.size - bytes.length) 0
    (out ++ alignRight (remaining - next + width) (f.unitText bytes), next)) ("", pad)
  out

structure DumpOptions where
  radix : Char := 'o'
  skip : Nat := 0
  limit : Option Nat := none
  formats : List DumpFormat := []
  width : Nat := 16
  all : Bool := false

def DumpOptions.offsetText (o : DumpOptions) (n : Nat) : String :=
  match o.radix with
  | 'd' => paddedDigits 10 7 n
  | 'x' => paddedDigits 16 6 n
  | 'n' => ""
  | _ => paddedDigits 8 7 n

def DumpOptions.offsetWidth (o : DumpOptions) : Nat :=
  match o.radix with
  | 'x' => 6
  | 'n' => 0
  | _ => 7

def DumpOptions.blockText (o : DumpOptions) (offset : Nat) (block : List Nat) : String :=
  let lineWidth := o.formats.foldl (fun w f => max w ((f.fieldWidth + 1) * (o.width / f.size))) 0
  String.join (o.formats.zipIdx.map fun (f, i) =>
    let units := o.width / f.size
    let blank := (o.width - block.length) / f.size
    let pad := lineWidth - f.fieldWidth * units
    let head := if i == 0 then o.offsetText offset else String.ofList (List.replicate o.offsetWidth ' ')
    let trailer := if f.trailer then
        let spare := pad * blank / units
        String.ofList (List.replicate (blank * f.fieldWidth + spare) ' ') ++ "  >" ++
          String.ofList (block.map fun b => if 32 ≤ b && b < 127 then Char.ofNat b else '.') ++ "<"
      else ""
    head ++ f.fieldsText units (units - blank) pad block ++ trailer ++ "\n")

def DumpOptions.blocksText (o : DumpOptions) : Nat → List Nat → Nat → Option (List Nat) → Bool → String → String
  | 0, _, _, _, _, acc => acc
  | _, [], _, _, _, acc => acc
  | n + 1, bytes, offset, prev, starred, acc =>
    let block := bytes.take o.width
    let rest := bytes.drop o.width
    if !o.all && block.length == o.width && prev == some block then
      o.blocksText n rest (offset + block.length) prev true (if starred then acc else acc ++ "*\n")
    else o.blocksText n rest (offset + block.length) (some block) false (acc ++ o.blockText offset block)

def DumpOptions.stringsText (o : DumpOptions) (least : Nat) : Nat → List Nat → Nat → String → String
  | 0, _, _, acc => acc
  | fuel + 1, bytes, offset, acc =>
    let run := bytes.takeWhile fun b => 32 ≤ b && b < 127
    match bytes.drop run.length with
    | [] => acc
    | b :: rest =>
      let shown := if b == 0 && run.length ≥ least then
          (if o.radix == 'n' then "" else o.offsetText offset ++ " ") ++
            String.ofList (run.map Char.ofNat) ++ "\n"
        else ""
      o.stringsText least fuel rest (offset + run.length + 1) (acc ++ shown)

def dumpFormats (whole : String) : Nat → List Char → List DumpFormat → Except String (List DumpFormat)
  | 0, _, acc => .ok acc
  | _, [], acc => .ok acc
  | n + 1, c :: rest, acc =>
    let sized (kind : DumpKind) (default : Nat) : Except String (List DumpFormat) :=
      let floating := kind == .float
      let named : Option Nat := match floating, rest with
        | true, 'F' :: _ => some 4
        | true, 'D' :: _ => some 8
        | true, 'L' :: _ => some 16
        | false, 'C' :: _ => some 1
        | false, 'S' :: _ => some 2
        | false, 'I' :: _ => some 4
        | false, 'L' :: _ => some 8
        | _, _ => none
      let ds := rest.takeWhile Char.isDigit
      let (size, rest) : Nat × List Char := match named with
        | some s => (s, rest.drop 1)
        | none => (if ds.isEmpty then default else (String.ofList ds).toNat!, rest.drop ds.length)
      let (trailer, rest) := match rest with
        | 'z' :: r => (true, r)
        | r => (false, r)
      let sizes := if floating then [4, 8, 16] else [1, 2, 4, 8]
      if size ≥ Nat.pow 2 64 then .error ("invalid type string '" ++ whole ++ "'")
      else if sizes.contains size then
        dumpFormats whole n rest (acc ++ [{ kind := kind, size := size, trailer := trailer }])
      else .error ("invalid type string '" ++ whole ++ "';\nthis system doesn't provide a " ++
        toString size ++ "-byte " ++ (if floating then "floating point" else "integral") ++ " type")
    let single (kind : DumpKind) : Except String (List DumpFormat) :=
      let (trailer, rest) := match rest with
        | 'z' :: r => (true, r)
        | r => (false, r)
      dumpFormats whole n rest (acc ++ [{ kind := kind, trailer := trailer }])
    match c with
    | 'a' => single .named
    | 'c' => single .char
    | 'o' => sized .octal 4
    | 'x' => sized .hex 4
    | 'd' => sized .signed 4
    | 'u' => sized .unsigned 4
    | 'f' => sized .float 8
    | _ => .error ("invalid character '" ++ String.singleton c ++ "' in type string '" ++ whole ++ "'")

def dumpCount (s : String) : Option Nat :=
  let cs := s.toList
  let (base, body) := match cs with
    | '0' :: 'x' :: r | '0' :: 'X' :: r => (16, r)
    | '0' :: r@(_ :: _) => (8, r)
    | r => (10, r)
  let digit (c : Char) : Option Nat :=
    if c.isDigit && c.toNat - '0'.toNat < base then some (c.toNat - '0'.toNat)
    else if base == 16 && 'a' ≤ c.toLower && c.toLower ≤ 'f' then some (c.toLower.toNat - 'a'.toNat + 10)
    else none
  let ds := body.takeWhile fun c => (digit c).isSome
  let value := ds.foldl (fun acc c => acc * base + (digit c).getD 0) 0
  let mult : Option Nat := match body.drop ds.length with
    | [] => some 1
    | ['b'] => some 512
    | ['k'] | ['K'] => some 1024
    | ['m'] | ['M'] => some (1024 * 1024)
    | ['G'] => some (1024 * 1024 * 1024)
    | _ => none
  if ds.isEmpty && base == 10 then none else mult.map (value * ·)

def dumpSpecs : List OptionSpec :=
  [{ name := "A", short := some 'A', long := some "address-radix", value := .required },
   { name := "j", short := some 'j', long := some "skip-bytes", value := .required },
   { name := "N", short := some 'N', long := some "read-bytes", value := .required },
   { name := "t", short := some 't', long := some "format", value := .required },
   { name := "v", short := some 'v', long := some "output-duplicates" },
   { name := "w", short := some 'w', long := some "width", value := .optional },
   { name := "a", short := some 'a' }, { name := "b", short := some 'b' },
   { name := "c", short := some 'c' }, { name := "d", short := some 'd' },
   { name := "i", short := some 'i' }, { name := "l", short := some 'l' },
   { name := "o", short := some 'o' }, { name := "s", short := some 's' },
   { name := "x", short := some 'x' }, { name := "h", short := some 'h' },
   { name := "B", short := some 'B' }, { name := "D", short := some 'D' },
   { name := "H", short := some 'H' }, { name := "I", short := some 'I' },
   { name := "L", short := some 'L' }, { name := "O", short := some 'O' },
   { name := "X", short := some 'X' }, { name := "e", short := some 'e' },
   { name := "f", short := some 'f' }, { name := "F", short := some 'F' },
   { name := "S", short := some 'S', long := some "strings", value := .required }]

def traditionalFormat (name : String) : Option DumpFormat :=
  match name with
  | "a" => some { kind := .named }
  | "b" => some { kind := .octal }
  | "c" => some { kind := .char }
  | "d" => some { kind := .unsigned, size := 2 }
  | "D" => some { kind := .unsigned, size := 4 }
  | "i" => some { kind := .signed, size := 4 }
  | "l" | "I" | "L" => some { kind := .signed, size := 8 }
  | "o" | "B" => some { kind := .octal, size := 2 }
  | "O" => some { kind := .octal, size := 4 }
  | "s" => some { kind := .signed, size := 2 }
  | "x" | "h" => some { kind := .hex, size := 2 }
  | "H" | "X" => some { kind := .hex, size := 4 }
  | "f" => some { kind := .float, size := 4 }
  | "e" | "F" => some { kind := .float, size := 8 }
  | _ => none

def od (fs : Tree) (args : List String) (input : String) : Effect :=
  let plain : Effect := { files := fs }
  match readCommandWords dumpSpecs args with
  | .error f => (plain.err (usageFault "od" f)).fail 1
  | .ok w =>
    let formats : Except String (List DumpFormat) := w.options.foldl (fun acc opt =>
      match acc with
      | .error m => .error m
      | .ok fsAcc =>
        if opt.name == "t" then
          let t := opt.value.getD ""
          match dumpFormats t (t.length + 1) t.toList [] with
          | .ok more => .ok (fsAcc ++ more)
          | .error m => .error m
        else match traditionalFormat opt.name with
          | some f => .ok (fsAcc ++ [f])
          | none => .ok fsAcc) (.ok [])
    match formats with
    | .error m => (plain.err ("od: " ++ m ++ "\n")).fail 1
    | .ok formats =>
    let radix := ((w.last? "A").map fun r => r.toList).getD ['o']
    match radix with
    | [r] =>
      if !(['d', 'o', 'x', 'n'].contains r) then
        (plain.err ("od: invalid output address radix '" ++ String.singleton r ++
          "'; it must be one character from [doxn]\n")).fail 1
      else
        let skip := (w.last? "j").map dumpCount
        let limit := (w.last? "N").map dumpCount
        match skip, limit with
        | some none, _ =>
          (plain.err ("od: invalid number '" ++ (w.last? "j").getD "" ++ "'\n")).fail 1
        | _, some none =>
          (plain.err ("od: invalid number '" ++ (w.last? "N").getD "" ++ "'\n")).fail 1
        | _, _ =>
          let width := match w.options.reverse.find? (·.name == "w") with
            | some { value := some v, .. } => v.toNat!
            | some _ => 32
            | none => 16
          let o : DumpOptions :=
            { radix := r, skip := (skip.bind id).getD 0, limit := limit.bind id,
              formats := if formats.isEmpty then [{ kind := .octal, size := 2 }] else formats,
              width := if width == 0 then 16 else width, all := w.has "v" }
          let names := if w.operands.isEmpty then ["-"] else w.operands
          let (text, e, opened) := names.foldl (fun (text, e, opened) f =>
            if f == "-" then (text ++ input, e, true)
            else match readBytes fs f with
              | .ok t => (text ++ t, e, true)
              | .error err => (text, (e.err ("od: " ++ f ++ ": " ++ errnoText err.errno ++ "\n")).fail 1, opened))
            ("", plain, false)
          if !opened then e
          else
            let bytes := (text.toList.map Char.toNat).drop o.skip
            let bytes := match o.limit with
              | some k => bytes.take k
              | none => bytes
            match w.last? "S" with
            | some v =>
              match dumpCount v with
              | none => (plain.err ("od: invalid -S argument '" ++ v ++ "'\n")).fail 1
              | some least =>
                if !formats.isEmpty then (plain.err "od: no type may be specified when dumping strings\n").fail 1
                else e.out (o.stringsText least (bytes.length + 1) bytes o.skip "")
            | none =>
            let body := o.blocksText (bytes.length + 1) bytes o.skip none false ""
            let last := if o.radix == 'n' then "" else o.offsetText (o.skip + bytes.length) ++ "\n"
            e.out (body ++ last)
    | _ =>
      (plain.err ("od: invalid output address radix '" ++ (w.last? "A").getD "" ++
        "'; it must be one character from [doxn]\n")).fail 1

end TestRig.Shell
