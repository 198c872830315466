/-!
The binary object representation of data items, as far as build state needs it: integers,
byte and text strings, arrays, maps, tags and simple values, each with a definite length.
Encoding is deterministic: every head takes its shortest form, and map entries are ordered by
the bytes of their encoded keys. Decoding reads one item and refuses anything malformed or
cut short; items of indefinite length and floats are refused too.
-/

namespace TestRig.Cbor

inductive Item where
  | unsigned (n : Nat)
  | negative (n : Nat)
  | bytes (b : List UInt8)
  | text (s : String)
  | array (items : List Item)
  | map (entries : List (Item × Item))
  | tag (t : Nat) (item : Item)
  | simple (n : Nat)
  deriving Repr, Inhabited

/-! ### Encoding -/

def bigEndian (n : Nat) : Nat → List UInt8
  | 0 => []
  | k + 1 => bigEndian (n / 256) k ++ [(n % 256).toUInt8]

/-- The head of an item: its major type and argument, in the shortest form. -/
def head (major : Nat) (n : Nat) : List UInt8 :=
  let m := major * 32
  if n < 24 then [(m + n).toUInt8]
  else if n < Nat.pow 2 8 then [(m + 24).toUInt8] ++ bigEndian n 1
  else if n < Nat.pow 2 16 then [(m + 25).toUInt8] ++ bigEndian n 2
  else if n < Nat.pow 2 32 then [(m + 26).toUInt8] ++ bigEndian n 4
  else [(m + 27).toUInt8] ++ bigEndian n 8

def bytesLess : List UInt8 → List UInt8 → Bool
  | [], [] => false
  | [], _ :: _ => true
  | _ :: _, [] => false
  | a :: as, b :: bs => if a < b then true else if b < a then false else bytesLess as bs

def insertEntry (e : List UInt8 × List UInt8) : List (List UInt8 × List UInt8) → List (List UInt8 × List UInt8)
  | [] => [e]
  | f :: r => if bytesLess e.1 f.1 then e :: f :: r else f :: insertEntry e r

mutual
def Item.encode : Item → List UInt8
  | .unsigned n => head 0 n
  | .negative n => head 1 n
  | .bytes b => head 2 b.length ++ b
  | .text s => head 3 s.utf8ByteSize ++ s.toUTF8.toList
  | .array items => head 4 items.length ++ encodeAll items
  | .map entries =>
    head 5 entries.length ++
      ((encodeEntries entries).foldl (fun acc e => insertEntry e acc) []).flatMap fun (k, v) => k ++ v
  | .tag t item => head 6 t ++ item.encode
  | .simple n => if n < 24 then head 7 n else [0xf8, n.toUInt8]

def encodeAll : List Item → List UInt8
  | [] => []
  | i :: r => i.encode ++ encodeAll r

def encodeEntries : List (Item × Item) → List (List UInt8 × List UInt8)
  | [] => []
  | (k, v) :: r => (k.encode, v.encode) :: encodeEntries r
end

/-! ### Decoding -/

def readBig (bs : List UInt8) : Nat := bs.foldl (fun n b => n * 256 + b.toNat) 0

def readHead : List UInt8 → Option (Nat × Nat × List UInt8)
  | [] => none
  | b :: r =>
    let major := b.toNat / 32
    let info := b.toNat % 32
    if info < 24 then some (major, info, r)
    else
      let size := if info == 24 then 1 else if info == 25 then 2 else if info == 26 then 4
        else if info == 27 then 8 else 0
      if size == 0 || r.length < size then none
      else some (major, readBig (r.take size), r.drop size)

mutual
def readItem : Nat → List UInt8 → Option (Item × List UInt8)
  | 0, _ => none
  | fuel + 1, bs => do
    let (major, n, r) ← readHead bs
    match major with
    | 0 => some (.unsigned n, r)
    | 1 => some (.negative n, r)
    | 2 => if r.length < n then none else some (.bytes (r.take n), r.drop n)
    | 3 =>
      if r.length < n then none
      else
        let s ← String.fromUTF8? (ByteArray.mk (r.take n).toArray)
        some (.text s, r.drop n)
    | 4 => do
      let (items, r) ← readItems fuel n r
      some (.array items, r)
    | 5 => do
      let (entries, r) ← readEntries fuel n r
      some (.map entries, r)
    | 6 => do
      let (item, r) ← readItem fuel r
      some (.tag n item, r)
    | _ => if n < 24 || (n < 256 && bs.headD 0 == 0xf8) then some (.simple n, r) else none

def readItems : Nat → Nat → List UInt8 → Option (List Item × List UInt8)
  | 0, _, _ => none
  | _, 0, bs => some ([], bs)
  | fuel + 1, k + 1, bs => do
    let (i, r) ← readItem fuel bs
    let (is, r) ← readItems fuel k r
    some (i :: is, r)

def readEntries : Nat → Nat → List UInt8 → Option (List (Item × Item) × List UInt8)
  | 0, _, _ => none
  | _, 0, bs => some ([], bs)
  | fuel + 1, k + 1, bs => do
    let (key, r) ← readItem fuel bs
    let (v, r) ← readItem fuel r
    let (es, r) ← readEntries fuel k r
    some ((key, v) :: es, r)
end

def Item.decode (bs : List UInt8) : Option Item :=
  match readItem (2 * bs.length + 2) bs with
  | some (i, []) => some i
  | _ => none

end TestRig.Cbor
