import TestRig.Shell.Programs

/-!
`tr`: translating, deleting and squeezing bytes, as GNU `tr` does in the C locale.

A set is read in two steps.
-/

namespace TestRig.Shell

open TestRig.Files

/-! ### Reading sets -/

abbrev SetByte := Char × Bool

def octalDigit (c : Char) : Bool := '0' ≤ c && c ≤ '7'

def octalValue (c : Char) : Nat := c.toNat - '0'.toNat

def unescapeSet : Nat → List Char → List SetByte → List String → List SetByte × List String
  | 0, _, acc, ws => (acc, ws)
  | _, [], acc, ws => (acc, ws)
  | n + 1, '\\' :: rest, acc, ws =>
    match rest with
    | [] => (('\\', false) :: acc,
      ws ++ ["tr: warning: an unescaped backslash at end of string is not portable\n"])
    | c :: more =>
      if octalDigit c then
        match more with
        | d :: more2 =>
          if octalDigit d then
            let v := octalValue c * 8 + octalValue d
            match more2 with
            | e :: more3 =>
              if octalDigit e then
                if v * 8 + octalValue e < 256 then
                  unescapeSet n more3 ((Char.ofNat (v * 8 + octalValue e), true) :: acc) ws
                else
                  let w := "tr: warning: the ambiguous octal escape \\" ++ String.ofList [c, d, e] ++
                    " is being\n\tinterpreted as the 2-byte sequence \\0" ++ String.ofList [c, d] ++ ", " ++
                    String.singleton e ++ "\n"
                  unescapeSet n more2 ((Char.ofNat v, true) :: acc) (ws ++ [w])
              else unescapeSet n more2 ((Char.ofNat v, true) :: acc) ws
            | [] => unescapeSet n [] ((Char.ofNat v, true) :: acc) ws
          else unescapeSet n more ((Char.ofNat (octalValue c), true) :: acc) ws
        | [] => unescapeSet n [] ((Char.ofNat (octalValue c), true) :: acc) ws
      else
        let b := match c with
          | 'a' => '\x07'
          | 'b' => '\x08'
          | 'f' => '\x0C'
          | 'n' => '\n'
          | 'r' => '\r'
          | 't' => '\t'
          | 'v' => '\x0B'
          | _ => c
        unescapeSet n more ((b, true) :: acc) ws
  | n + 1, c :: rest, acc, ws => unescapeSet n rest ((c, false) :: acc) ws

def byteRange (lo hi : Nat) : List Char :=
  (List.range (hi + 1 - lo)).map fun k => Char.ofNat (lo + k)

def classBytes (name : String) : Option (List Char) :=
  let all := byteRange 0 255
  let pick (p : Nat → Bool) : Option (List Char) := some (all.filter fun c => p c.toNat)
  let digit (k : Nat) := 48 ≤ k && k ≤ 57
  let upper (k : Nat) := 65 ≤ k && k ≤ 90
  let lower (k : Nat) := 97 ≤ k && k ≤ 122
  match name with
  | "alnum" => pick fun k => digit k || upper k || lower k
  | "alpha" => pick fun k => upper k || lower k
  | "blank" => pick fun k => k == 32 || k == 9
  | "cntrl" => pick fun k => k < 32 || k == 127
  | "digit" => pick digit
  | "graph" => pick fun k => 33 ≤ k && k ≤ 126
  | "lower" => pick lower
  | "print" => pick fun k => 32 ≤ k && k ≤ 126
  | "punct" => pick fun k => 33 ≤ k && k ≤ 126 && !(digit k || upper k || lower k)
  | "space" => pick fun k => (9 ≤ k && k ≤ 13) || k == 32
  | "upper" => pick upper
  | "xdigit" => pick fun k => digit k || (65 ≤ k && k ≤ 70) || (97 ≤ k && k ≤ 102)
  | _ => none

inductive SetPiece where
  | bytes (cs : List Char)
  | caseClass (upper : Bool)
  | fill (c : Char)
  deriving Inhabited

def caseBytes (upper : Bool) : List Char :=
  if upper then byteRange 65 90 else byteRange 97 122

/-- A set as read: its pieces, and which constructs it has. -/
structure CharSet where
  pieces : List SetPiece := []
  classes : Bool := false
  otherClasses : Bool := false
  equivalence : Bool := false
  deriving Inhabited

def CharSet.fills (s : CharSet) : Nat :=
  (s.pieces.filter fun | .fill _ => true | _ => false).length

def CharSet.bytes (s : CharSet) : List Char :=
  s.pieces.flatMap fun
    | .bytes cs => cs
    | .caseClass u => caseBytes u
    | .fill _ => []

def CharSet.add (s : CharSet) (p : SetPiece) : CharSet := { s with pieces := s.pieces ++ [p] }

def closingPlace (bs : Array SetByte) (start : Nat) (delim : Char) : Option Nat :=
  ((List.range (bs.size - start)).map (· + start)).find? fun j =>
    j + 1 < bs.size && bs.getD j (' ', true) == (delim, false) && bs.getD (j + 1) (' ', true) == (']', false)

def starDigitsBracket (bs : Array SetByte) (start : Nat) : Bool :=
  if bs.getD start (' ', true) != ('*', false) then false
  else
    let rest := (bs.toList.drop (start + 1))
    let digits := rest.takeWhile fun (c, marked) => c.isDigit && !marked
    rest.drop digits.length |>.head? == some (']', false)

inductive RepeatRead where
  | none
  | found (c : Char) (count : Nat) (close : Nat)
  | bad (message : String)

def readRepeat (bs : Array SetByte) (start : Nat) : RepeatRead :=
  if !(start + 1 < bs.size && bs.getD (start + 1) (' ', true) == ('*', false)) then .none
  else
    let rest := (bs.toList.drop (start + 2)).takeWhile fun (_, marked) => !marked
    match rest.findIdx? fun (c, _) => c == ']' with
    | none => .none
    | some k =>
      let digits := (rest.take k).map (·.1)
      let close := start + 2 + k
      let c := (bs.getD start (' ', true)).1
      if digits.isEmpty then .found c 0 close
      else
        let octal := digits.head? == some '0'
        let valid := if octal then digits.all octalDigit else digits.all Char.isDigit
        if valid then
          .found c (digits.foldl (fun n d => n * (if octal then 8 else 10) + (d.toNat - '0'.toNat)) 0) close
        else .bad ("tr: invalid repeat count '" ++ String.ofList digits ++ "' in [c*n] construct\n")

def readPieces (bs : Array SetByte) : Nat → Nat → CharSet → Except String CharSet
  | 0, _, s => .ok s
  | fuel + 1, i, s =>
    if i ≥ bs.size then .ok s
    else if i + 2 ≥ bs.size then
      readPieces bs fuel (i + 1) (s.add (.bytes [(bs.getD i (' ', true)).1]))
    else
      let byteAt (j : Nat) : SetByte := bs.getD j (' ', true)
      let range : Except String CharSet :=
        if byteAt (i + 1) == ('-', false) then
          let lo := (byteAt i).1
          let hi := (byteAt (i + 2)).1
          if hi < lo then
            .error ("tr: range-endpoints of '" ++ String.singleton lo ++ "-" ++ String.singleton hi ++
              "' are in reverse collating sequence order\n")
          else readPieces bs fuel (i + 3) (s.add (.bytes (byteRange lo.toNat hi.toNat)))
        else readPieces bs fuel (i + 1) (s.add (.bytes [(byteAt i).1]))
      let repeatOr : Except String CharSet :=
        match readRepeat bs (i + 1) with
        | .found c n close =>
          readPieces bs fuel (close + 1) (s.add (if n == 0 then .fill c else .bytes (List.replicate n c)))
        | .bad m => .error m
        | .none => range
      if byteAt i != ('[', false) then range
      else
        let delim := (byteAt (i + 1)).1
        if delim == ':' || delim == '=' then
          match closingPlace bs (i + 2) delim with
          | none => repeatOr
          | some j =>
            let operand := String.ofList (((bs.toList.drop (i + 2)).take (j - (i + 2))).map (·.1))
            if operand.isEmpty then
              .error (if delim == ':' then "tr: missing character class name '[::]'\n"
                else "tr: missing equivalence class character '[==]'\n")
            else if delim == ':' then
              match classBytes operand with
              | some cs =>
                let piece : SetPiece := if operand == "upper" then .caseClass true
                  else if operand == "lower" then .caseClass false else .bytes cs
                let other := s.otherClasses || !(operand == "upper" || operand == "lower")
                let s := { (s.add piece) with classes := true, otherClasses := other }
                readPieces bs fuel (j + 2) s
              | none =>
                if starDigitsBracket bs (i + 2) then repeatOr
                else .error ("tr: invalid character class '" ++ operand ++ "'\n")
            else if operand.length == 1 then
              readPieces bs fuel (j + 2) { (s.add (.bytes operand.toList)) with equivalence := true }
            else if starDigitsBracket bs (i + 2) then repeatOr
            else .error ("tr: " ++ operand ++ ": equivalence class operand must be a single character\n")
        else repeatOr

def readSet (text : String) : Except String (CharSet × List String) :=
  let (bytes, warnings) := unescapeSet (text.length + 1) text.toList [] []
  let bs := bytes.reverse.toArray
  (readPieces bs (bs.size + 1) 0 {}).map (·, warnings)

/-! ### Acting on sets -/

/-- One unit of a set when translating: a byte, or a case class whole. -/
inductive SetUnit where
  | byte (c : Char)
  | caseClass (upper : Bool)
  deriving Inhabited

def SetUnit.size : SetUnit → Nat
  | .byte _ => 1
  | .caseClass _ => 26

def CharSet.units (s : CharSet) (room : Nat) : List SetUnit :=
  s.pieces.flatMap fun
    | .bytes cs => cs.map .byte
    | .caseClass u => [.caseClass u]
    | .fill c => List.replicate room (.byte c)

abbrev ByteMap := Array Char

def ByteMap.set (m : ByteMap) (a b : Char) : ByteMap := m.set! a.toNat b

def pairUnits : Nat → List SetUnit → List SetUnit → ByteMap → Except String ByteMap
  | 0, _, _, m => .ok m
  | n + 1, s1, s2, m =>
    let misaligned : Except String ByteMap := .error "tr: misaligned [:upper:] and/or [:lower:] construct\n"
    match s1, s2 with
    | .caseClass u1 :: r1, .caseClass u2 :: r2 =>
      let m := if u1 == u2 then m.set (caseBytes u1).head! (caseBytes u2).head!
        else (caseBytes u1).zip (caseBytes u2) |>.foldl (fun m (a, b) => m.set a b) m
      pairUnits n r1 r2 m
    | _, .caseClass _ :: _ => misaligned
    | .caseClass u1 :: r1, _ => pairUnits n ((caseBytes u1).map .byte ++ r1) s2 m
    | .byte a :: r1, .byte b :: r2 => pairUnits n r1 r2 (m.set a b)
    | _, _ => .ok m

def squeezeRuns (inSet : Char → Bool) : List Char → Option Char → List Char → List Char
  | [], _, acc => acc.reverse
  | c :: rest, prev, acc =>
    if inSet c && prev == some c then squeezeRuns inSet rest prev acc
    else squeezeRuns inSet rest (some c) (c :: acc)

def translateSpecs : List OptionSpec :=
  [{ name := "c", short := some 'c', long := some "complement" },
   { name := "c", short := some 'C' },
   { name := "d", short := some 'd', long := some "delete" },
   { name := "s", short := some 's', long := some "squeeze-repeats" },
   { name := "t", short := some 't', long := some "truncate-set1" }]

def translateUsage (message : String) : String :=
  "tr: " ++ message ++ "Try 'tr --help' for more information.\n"

def translateText (complement delete squeeze truncate : Bool) (sets : List String) (t : String) :
    List String × Except String String := Id.run do
  let mut warnings : List String := []
  let mut read : List CharSet := []
  for text in sets do
    match readSet text with
    | .error m => return (warnings, .error m)
    | .ok (s, ws) =>
      warnings := warnings ++ ws
      read := read ++ [s]
  let s1 := read.headD {}
  let s2? := read[1]?
  let translating := s2?.isSome && !delete
  let inFirst (c : Char) : Bool := s1.bytes.contains c != complement
  if s1.fills > 0 then return (warnings, .error "tr: the [c*] repeat construct may not appear in string1\n")
  let cs := t.toList
  match s2? with
  | none =>
    if squeeze then return (warnings, .ok (String.ofList (squeezeRuns inFirst cs none [])))
    else return (warnings, .ok (String.ofList (cs.filter fun c => !inFirst c)))
  | some s2 =>
    if s2.fills > 1 then return (warnings, .error "tr: only one [c*] repeat construct may appear in string2\n")
    if !translating then
      if s2.fills > 0 then
        return (warnings, .error "tr: the [c*] construct may appear in string2 only when translating\n")
      let kept := cs.filter fun c => !inFirst c
      let inSecond (c : Char) : Bool := s2.bytes.contains c
      return (warnings, .ok (String.ofList (squeezeRuns inSecond kept none [])))
    if s2.equivalence then
      return (warnings, .error "tr: [=c=] expressions may not appear in string2 when translating\n")
    if s2.otherClasses then
      return (warnings, .error ("tr: when translating, the only character classes that may appear in\n" ++
        "string2 are 'upper' and 'lower'\n"))
    let distinct := (byteRange 0 255).filter fun c => s1.bytes.contains c
    let firstUnits : List SetUnit :=
      if complement then ((byteRange 0 255).filter fun c => !s1.bytes.contains c).map .byte
      else s1.units 0
    let firstLength := (firstUnits.map SetUnit.size).foldl (· + ·) 0
    let secondBare := s2.units 0
    let bareLength := (secondBare.map SetUnit.size).foldl (· + ·) 0
    let secondUnits := s2.units (firstLength - bareLength)
    let secondLength := (secondUnits.map SetUnit.size).foldl (· + ·) 0
    let identity : ByteMap := (byteRange 0 255).toArray
    if !complement && s2.classes then
      match pairUnits (firstLength + secondLength + 1) (s1.units 0) secondBare identity with
      | .error m => return (warnings, .error m)
      | .ok _ => pure ()
    let secondUnits ←
      if firstLength > secondLength && !truncate then
        match secondUnits.getLast? with
        | none => return (warnings, .error "tr: when not truncating set1, string2 must be non-empty\n")
        | some (.caseClass _) =>
          return (warnings, .error ("tr: when translating with string1 longer than string2,\n" ++
            "the latter string must not end with a character class\n"))
        | some (.byte c) => pure (secondUnits ++ List.replicate (firstLength - secondLength) (.byte c))
      else pure secondUnits
    let secondUnits := if complement then
        secondUnits.flatMap fun | .byte c => [SetUnit.byte c] | .caseClass u => (caseBytes u).map .byte
      else secondUnits
    if complement && s1.classes then
      let images := secondUnits.flatMap fun | .byte c => [c] | .caseClass u => caseBytes u
      let sameLength := images.length == 256 - distinct.length
      if !(sameLength && images.all (· == images.headD ' ')) then
        return (warnings, .error ("tr: when translating with complemented character classes,\n" ++
          "string2 must map all characters in the domain to one\n"))
    match pairUnits (firstLength + secondLength + 2) firstUnits secondUnits identity with
    | .error m => return (warnings, .error m)
    | .ok table =>
      let mapped := cs.map fun c => table.getD c.toNat c
      if squeeze then
        let inSecond (c : Char) : Bool := s2.bytes.contains c
        return (warnings, .ok (String.ofList (squeezeRuns inSecond mapped none [])))
      else return (warnings, .ok (String.ofList mapped))

def tr (fs : Tree) (args : List String) (input : String) : Effect :=
  let plain : Effect := { files := fs }
  match readCommandWords translateSpecs args with
  | .error f => (plain.err (usageFault "tr" f)).fail 1
  | .ok w =>
    let complement := w.has "c"
    let delete := w.has "d"
    let squeeze := w.has "s"
    let ops := w.operands
    let least := if delete == squeeze then 2 else 1
    let most := if delete && !squeeze then 1 else 2
    if ops.length < least then
      if ops.isEmpty then (plain.err (translateUsage "missing operand\n")).fail 1
      else
        let why := if squeeze then "Two strings must be given when both deleting and squeezing repeats.\n"
          else "Two strings must be given when translating.\n"
        (plain.err (translateUsage ("missing operand after '" ++ ops.getLast! ++ "'\n" ++ why))).fail 1
    else if ops.length > most then
      let why := if ops.length == 2 then "Only one string may be given when deleting without squeezing repeats.\n"
        else ""
      (plain.err (translateUsage ("extra operand '" ++ ops.getD most "" ++ "'\n" ++ why))).fail 1
    else
      let (warnings, result) := translateText complement delete squeeze (w.has "t") ops input
      let e := warnings.foldl Effect.err plain
      match result with
      | .error m => (e.err m).fail 1
      | .ok out => if out.isEmpty then e else e.out out

end TestRig.Shell
