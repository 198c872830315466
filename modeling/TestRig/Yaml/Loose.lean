import TestRig.Yaml.Resolve
import TestRig.Yaml.Emit

/-!
Values read without a schema: null, booleans, integers, floats, strings, dates, lists, and
mappings, whose keys are strings when every key of the mapping was a string and any values
otherwise. Mapping keys are ordered for writing the way a reader of mixed keys expects:
numbers and booleans by value before anything else of a lower kind, strings in natural order
(runs of digits compared as numbers, letters before other characters).
-/

namespace TestRig.Yaml

open TestRig.Number TestRig.Text

inductive Loose where
  | null
  | bool (b : Bool)
  | int (i : Int)
  | float (f : Real64)
  | str (s : String)
  | time (text : String)
  | list (items : List Loose)
  | dict (entries : List (String × Loose))
  | table (entries : List (Loose × Loose))
  deriving Repr, Inhabited

def Loose.ofResolved : Resolved → Loose
  | .null => .null
  | .bool b => .bool b
  | .int i => .int i
  | .float f => .float f
  | .str s => .str s
  | .time t => .time t

/-! ### Equality -/

def sameReal : Real64 → Real64 → Bool
  | .num (.finite a), .num (.finite b) =>
    (a.mant == 0 && b.mant == 0) || (a.neg == b.neg && a.ratio == b.ratio)
  | .num (.infinite a), .num (.infinite b) => a == b
  | _, _ => false

mutual
def Loose.same : Loose → Loose → Bool
  | .null, .null => true
  | .bool a, .bool b => a == b
  | .int a, .int b => a == b
  | .float a, .float b => sameReal a b
  | .str a, .str b => a == b
  | .time a, .time b => a == b
  | .list a, .list b => sameList a b
  | .dict a, .dict b => a.length == b.length && sameDict a b b
  | .table a, .table b => a.length == b.length && sameTable a b b
  | _, _ => false

def sameList : List Loose → List Loose → Bool
  | [], [] => true
  | a :: as, b :: bs => a.same b && sameList as bs
  | _, _ => false

def sameDict : List (String × Loose) → List (String × Loose) → List (String × Loose) → Bool
  | [], _, _ => true
  | (k, v) :: rest, other, all =>
    match other.lookup k with
    | some w => v.same w && sameDict rest other all
    | none => false

def sameTable : List (Loose × Loose) → List (Loose × Loose) → List (Loose × Loose) → Bool
  | [], _, _ => true
  | (k, v) :: rest, other, all =>
    match findKey k other with
    | some w => v.same w && sameTable rest other all
    | none => false

def findKey (k : Loose) : List (Loose × Loose) → Option Loose
  | [] => none
  | (k2, v) :: rest => if k.same k2 then some v else findKey k rest
end

/-! ### Key order -/

def isLetterChar (c : Char) : Bool :=
  let v := c.toNat
  isAsciiLetter c || v == 0xAA || v == 0xB5 || v == 0xBA ||
    (0xC0 ≤ v && v ≤ 0x24F && v != 0xD7 && v != 0xF7) || (0x370 ≤ v && v ≤ 0x52F && v != 0x37E) ||
    (0x3040 ≤ v && v ≤ 0x30FF) || (0x4E00 ≤ v && v ≤ 0x9FFF) || (0xAC00 ≤ v && v ≤ 0xD7A3)

def leadingNumber (cs : List Char) : Int × Nat :=
  let ds := cs.takeWhile isDigit
  (ds.foldl (fun a c => a * 10 + (c.toNat - 48 : Nat)) 0, ds.length)

def naturalLess (a b : String) : Bool :=
  go a.toList b.toList [] false
where
  go : List Char → List Char → List Char → Bool → Bool
    | [], [], _, _ => false
    | [], _ :: _, _, _ => true
    | _ :: _, [], _, _ => false
    | x :: xs, y :: ys, seen, digits =>
      if x == y then go xs ys (x :: seen) (isDigit x)
      else
        let al := isLetterChar x
        let bl := isLetterChar y
        if al && bl then x < y
        else if al || bl then (if digits then al else bl)
        else
          -- a zero continuing a number that is not all zeros counts from one
          let base : Int :=
            if (x == '0' || y == '0') && (seen.takeWhile isDigit).any (· != '0') then 1 else 0
          let (an, ai) := leadingNumber (x :: xs)
          let (bn, bi) := leadingNumber (y :: ys)
          let an := if base == 1 then (an + Int.pow 10 ai) else an
          let bn := if base == 1 then (bn + Int.pow 10 bi) else bn
          if an != bn then an < bn
          else if ai != bi then ai < bi
          else x < y

def Loose.kindRank : Loose → Nat
  | .bool _ => 1
  | .int i => if i ≥ Int.pow 2 63 then 11 else 2
  | .float _ => 14
  | .null => 20
  | .table _ => 21
  | .dict _ => 21
  | .list _ => 23
  | .str _ => 24
  | .time _ => 25

def Loose.keyNumber : Loose → Option (Option (Bool × Nat × Nat))
  | .bool b => some (some (false, if b then 1 else 0, 1))
  | .int i => some (some (i < 0, i.natAbs, 1))
  | .float (.num (.finite b)) => some (some (b.neg && b.mant != 0, b.ratio.1, b.ratio.2))
  | .float _ => some none
  | _ => none

def ratioLess : Bool × Nat × Nat → Bool × Nat × Nat → Bool
  | (an, a1, a2), (bn, b1, b2) =>
    let x : Int := if an then -((a1 * b2 : Nat) : Int) else ((a1 * b2 : Nat) : Int)
    let y : Int := if bn then -((b1 * a2 : Nat) : Int) else ((b1 * a2 : Nat) : Int)
    x < y

def Loose.keyLess (a b : Loose) : Bool :=
  match a.keyNumber, b.keyNumber with
  | some (some x), some (some y) =>
    if ratioLess x y then true else if ratioLess y x then false else a.kindRank < b.kindRank
  | some _, some _ => a.kindRank < b.kindRank
  | _, _ =>
    match a, b with
    | .str x, .str y => naturalLess x y
    | _, _ => a.kindRank < b.kindRank

def insertionSort (lt : α → α → Bool) (xs : List α) : List α :=
  xs.foldl (fun acc x => insertBy acc x) []
where
  insertBy : List α → α → List α
    | [], x => [x]
    | y :: ys, x => if lt x y then x :: y :: ys else y :: insertBy ys x

/-! ### Writing -/

def floatText (f : Real64) : String :=
  match f.generalText with
  | "+Inf" => ".inf"
  | "-Inf" => "-.inf"
  | "NaN" => ".nan"
  | s => s

mutual
def Loose.toDoc : Loose → Doc
  | .null => .atom "null"
  | .bool b => .atom (if b then "true" else "false")
  | .int i => .atom (intText i)
  | .float f => .atom (floatText f)
  | .str s => .text s
  | .time t => .atom t
  | .list items => .seq (docAll items)
  | .dict entries =>
    .map ((insertionSort (fun a b => Loose.keyLess (.str a.1) (.str b.1)) (docEntries entries)).map
      fun (k, d) => (.text k, d))
  | .table entries =>
    .map ((insertionSort (fun a b => Loose.keyLess a.1 b.1) (docPairs entries)).map (·.2))

def docAll : List Loose → List Doc
  | [] => []
  | v :: vs => v.toDoc :: docAll vs

def docEntries : List (String × Loose) → List (String × Doc)
  | [] => []
  | (k, v) :: r => (k, v.toDoc) :: docEntries r

def docPairs : List (Loose × Loose) → List (Loose × Doc × Doc)
  | [] => []
  | (k, v) :: r => (k, k.toDoc, v.toDoc) :: docPairs r
end

end TestRig.Yaml
