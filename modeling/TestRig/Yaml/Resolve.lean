import TestRig.Number.Float
import TestRig.Text.Chars

/-!
What an unquoted scalar means. YAML 1.2 core rules as this reader applies them: `null`, `~`
and the empty text are null; `true` and `false` in three spellings are booleans; `.inf`,
`.nan` and their variants are floats; text starting with a digit or a sign is tried as a date,
then as an integer (with `0x`, `0o`, `0b` and leading-zero octal prefixes and `_` separators),
then as a decimal float; `<<` is a merge key.
-/

namespace TestRig.Yaml

open TestRig.Number TestRig.Text

inductive Resolved where
  | null
  | bool (b : Bool)
  | int (i : Int)
  | float (f : Real64)
  | str (s : String)
  | time (text : String)
  deriving DecidableEq, Repr, Inhabited

def longTagPrefix : String := "tag:yaml.org,2002:"

def shortTag (tag : String) : String :=
  match dropPrefix? tag.toList longTagPrefix.toList with
  | some rest => "!!" ++ String.ofList rest
  | none => tag

def resolvableTag (tag : String) : Bool :=
  ["", "!!str", "!!bool", "!!int", "!!float", "!!null", "!!timestamp"].contains tag

/-! ### Integers -/

def digitIn (base : Nat) (c : Char) : Option Nat :=
  let v :=
    if '0' ≤ c && c ≤ '9' then c.toNat - 48
    else if 'a' ≤ c && c ≤ 'z' then c.toNat - 87
    else if 'A' ≤ c && c ≤ 'Z' then c.toNat - 55
    else 99
  if v < base then some v else none

def readDigits (base : Nat) (cs : List Char) : Option Nat :=
  cs.foldl (fun acc c => acc.bind fun a => (digitIn base c).map fun d => a * base + d) (some 0)

def readUnsigned (cs : List Char) : Option Nat :=
  match cs with
  | [] => none
  | '0' :: c :: d :: rest =>
    if c == 'b' || c == 'B' then readDigits 2 (d :: rest)
    else if c == 'o' || c == 'O' then readDigits 8 (d :: rest)
    else if c == 'x' || c == 'X' then readDigits 16 (d :: rest)
    else readDigits 8 (c :: d :: rest)
  | '0' :: rest => readDigits 8 rest
  | _ => readDigits 10 cs
  |>.bind fun v => if v < Nat.pow 2 64 then some v else none

def readSigned (cs : List Char) : Option Int :=
  let (neg, ds) : Bool × List Char := match cs with
    | '-' :: r => (true, r)
    | '+' :: r => (false, r)
    | r => (false, r)
  (readUnsigned ds).bind fun v =>
    let i : Int := if neg then -(v : Int) else v
    if i < -Int.pow 2 63 || i ≥ Int.pow 2 63 then none else some i

/-! ### Floats -/

def isFloatSyntax (cs : List Char) : Bool :=
  let cs := match cs with
    | '-' :: r => r
    | '+' :: r => r
    | r => r
  let intDs := cs.takeWhile isDigit
  let r := cs.drop intDs.length
  let (ok, r) : Bool × List Char :=
    if intDs.isEmpty then
      match r with
      | '.' :: t =>
        let f := t.takeWhile isDigit
        (!f.isEmpty, t.drop f.length)
      | _ => (false, r)
    else
      match r with
      | '.' :: t => (true, t.drop (t.takeWhile isDigit).length)
      | _ => (true, r)
  ok && match r with
    | [] => true
    | e :: t =>
      (e == 'e' || e == 'E') &&
        let t := match t with
          | '-' :: u => u
          | '+' :: u => u
          | u => u
        !t.isEmpty && t.all isDigit

/-! ### Dates -/

def readShortNumber (cs : List Char) : Option (Nat × List Char) :=
  match cs with
  | a :: b :: rest =>
    if isDigit a && isDigit b then some ((a.toNat - 48) * 10 + (b.toNat - 48), rest)
    else if isDigit a then some (a.toNat - 48, b :: rest)
    else none
  | [a] => if isDigit a then some (a.toNat - 48, []) else none
  | [] => none

def daysIn (month year : Nat) : Nat :=
  if month == 2 then
    if year % 4 == 0 && (year % 100 != 0 || year % 400 == 0) then 29 else 28
  else if [4, 6, 9, 11].contains month then 30 else 31

def readDate (cs : List Char) : Option (List Char) :=
  match cs with
  | y1 :: y2 :: y3 :: y4 :: '-' :: rest =>
    if !([y1, y2, y3, y4].all isDigit) then none
    else
      let year := digitsValue [y1, y2, y3, y4]
      (readShortNumber rest).bind fun (month, rest) =>
        match rest with
        | '-' :: rest =>
          (readShortNumber rest).bind fun (day, rest) =>
            if month < 1 || month > 12 || day < 1 || day > daysIn month year then none
            else some rest
        | _ => none
  | _ => none

def readClock (cs : List Char) : Option (List Char) :=
  (readShortNumber cs).bind fun (h, rest) =>
    match rest with
    | ':' :: rest =>
      (readShortNumber rest).bind fun (m, rest) =>
        match rest with
        | ':' :: rest =>
          (readShortNumber rest).bind fun (sec, rest) =>
            if h ≥ 24 || m ≥ 60 || sec ≥ 60 then none
            else match rest with
              | c :: d :: more =>
                if (c == '.' || c == ',') && isDigit d then some (more.dropWhile isDigit)
                else some rest
              | _ => some rest
        | _ => none
    | _ => none

def readZone (cs : List Char) : Option (List Char) :=
  match cs with
  | 'Z' :: rest => some rest
  | s :: h1 :: h2 :: ':' :: m1 :: m2 :: rest =>
    if (s == '+' || s == '-') && [h1, h2, m1, m2].all isDigit &&
        digitsValue [h1, h2] ≤ 24 && digitsValue [m1, m2] ≤ 60 then some rest
    else none
  | _ => none

def isTimestamp (s : String) : Bool :=
  let cs := s.toList
  let lead := cs.takeWhile isDigit
  if lead.length != 4 || (cs.drop 4).head? != some '-' then false
  else
    match readDate cs with
    | some [] => true
    | some (c :: rest) =>
      if c == 'T' || c == 't' then
        match (readClock rest).bind readZone with
        | some [] => true
        | _ => false
      else if c == ' ' then readClock (rest.dropWhile (· == ' ')) == some []
      else false
    | none => false

/-! ### Resolution -/

def resolvePlain (tag text : String) : String × Resolved :=
  let cs := text.toList
  let known : Option (String × Resolved) :=
    if ["", "~", "null", "Null", "NULL"].contains text then some ("!!null", .null)
    else if ["true", "True", "TRUE"].contains text then some ("!!bool", .bool true)
    else if ["false", "False", "FALSE"].contains text then some ("!!bool", .bool false)
    else if [".nan", ".NaN", ".NAN"].contains text then some ("!!float", .float .nan)
    else if [".inf", ".Inf", ".INF", "+.inf", "+.Inf", "+.INF"].contains text then
      some ("!!float", .float (.num (.infinite false)))
    else if ["-.inf", "-.Inf", "-.INF"].contains text then
      some ("!!float", .float (.num (.infinite true)))
    else none
  let hint :=
    match cs with
    | [] => 'N'
    | c :: _ =>
      if c == '+' || c == '-' then 'S'
      else if isDigit c then 'D'
      else if "yYnNtTfFoO~".toList.contains c then 'M'
      else if c == '.' then '.'
      else ' '
  if hint == ' ' || tag == "!!str" then ("!!str", .str text)
  else match known with
    | some r => r
    | none =>
      if hint == 'M' || hint == 'N' then ("!!str", .str text)
      else if hint == '.' then
        match readFloat64 cs with
        | some n => ("!!float", .float (.num n))
        | none => ("!!str", .str text)
      else if (tag == "" || tag == "!!timestamp") && isTimestamp text then
        ("!!timestamp", .time text)
      else
        let digits := cs.filter (· != '_')
        match readSigned digits with
        | some i => ("!!int", .int i)
        | none =>
          match readUnsigned digits with
          | some v => ("!!int", .int v)
          | none =>
            if isFloatSyntax digits then
              match readFloat64 digits with
              | some n => ("!!float", .float (.num n))
              | none => ("!!str", .str text)
            else ("!!str", .str text)

def resolve (tag : String) (text : String) : Except String (String × Resolved) :=
  let tag := shortTag tag
  if !resolvableTag tag then .ok (tag, .str text)
  else
    let (rtag, v) := resolvePlain tag text
    if tag == "" || tag == rtag || tag == "!!str" then .ok (rtag, v)
    else if tag == "!!float" && rtag == "!!int" then
      match v with
      | .int i => .ok ("!!float", .float (.num (Numeric.float64OfRatio (i < 0) i.natAbs 1)))
      | _ => .ok (rtag, v)
    else .error ("cannot decode " ++ rtag ++ " `" ++ text ++ "` as a " ++ tag)

def plainTag (text : String) : String := (resolvePlain "" text).1

def isSexagesimal (s : String) : Bool :=
  match s.toList with
  | [] => false
  | c :: _ =>
    if !(c == '+' || c == '-' || isDigit c) || !s.toList.contains ':' then false
    else
      let cs := match s.toList with
        | '+' :: r => r
        | '-' :: r => r
        | r => r
      match cs with
      | d :: rest =>
        if !isDigit d then false
        else
          let rest := rest.dropWhile fun x => isDigit x || x == '_'
          let rec groups : Nat → List Char → Bool → Bool
            | 0, _, _ => false
            | n + 1, ':' :: r, _ =>
              let ds := r.takeWhile isDigit
              if ds.isEmpty || ds.length > 2 then false
              else if ds.length == 2 && ds.headD '0' > '5' then false
              else groups n (r.drop ds.length) true
            | _, '.' :: r, seen => seen && r.all fun x => isDigit x || x == '_'
            | _, [], seen => seen
            | _, _, _ => false
          groups (rest.length + 1) rest false
      | [] => false

def isOldBool (s : String) : Bool :=
  ["y", "Y", "yes", "Yes", "YES", "on", "On", "ON", "n", "N", "no", "No", "NO", "off", "Off", "OFF"].contains s

end TestRig.Yaml
