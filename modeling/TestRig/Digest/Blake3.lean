/-!
The BLAKE3 hash with its default 256-bit output, unkeyed. The input is cut into chunks of 1024
bytes and each chunk into blocks of 64 bytes. A chunk's blocks are compressed in turn, each
into the chaining value of the next; the chunks' chaining values are then merged pairwise into
a binary tree whose left subtrees are complete, the last chunk and the merges along the right
edge being done when the input ends.
-/

namespace TestRig.Digest

/-! ### Constants -/

def initialValue : Array UInt32 :=
  #[0x6A09E667, 0xBB67AE85, 0x3C6EF372, 0xA54FF53A, 0x510E527F, 0x9B05688C, 0x1F83D9AB, 0x5BE0CD19]

def messageOrder : List Nat := [2, 6, 3, 10, 7, 0, 4, 13, 1, 11, 12, 5, 9, 14, 15, 8]

def chunkStart : UInt32 := 1
def chunkEnd : UInt32 := 2
def parentNode : UInt32 := 4
def rootNode : UInt32 := 8

def blockSize : Nat := 64
def chunkSize : Nat := 1024

/-! ### Compression -/

def rotr (x : UInt32) (n : UInt32) : UInt32 := (x >>> n) ||| (x <<< (32 - n))

def word (s : Array UInt32) (i : Nat) : UInt32 := s.getD i 0

/-- The quarter-round on four words of the state with two message words. -/
def mix (s : Array UInt32) (a b c d : Nat) (mx my : UInt32) : Array UInt32 :=
  let va := word s a + word s b + mx
  let vd := rotr (word s d ^^^ va) 16
  let vc := word s c + vd
  let vb := rotr (word s b ^^^ vc) 12
  let va := va + vb + my
  let vd := rotr (vd ^^^ va) 8
  let vc := vc + vd
  let vb := rotr (vb ^^^ vc) 7
  (((s.setIfInBounds a va).setIfInBounds b vb).setIfInBounds c vc).setIfInBounds d vd

/-- One round: the columns, then the diagonals. -/
def round (s m : Array UInt32) : Array UInt32 :=
  let s := mix s 0 4 8 12 (word m 0) (word m 1)
  let s := mix s 1 5 9 13 (word m 2) (word m 3)
  let s := mix s 2 6 10 14 (word m 4) (word m 5)
  let s := mix s 3 7 11 15 (word m 6) (word m 7)
  let s := mix s 0 5 10 15 (word m 8) (word m 9)
  let s := mix s 1 6 11 12 (word m 10) (word m 11)
  let s := mix s 2 7 8 13 (word m 12) (word m 13)
  mix s 3 4 9 14 (word m 14) (word m 15)

def permute (m : Array UInt32) : Array UInt32 := (messageOrder.map (word m)).toArray

/-- Compresses a block into a chaining value: the sixteen words of the final state, of which
the first eight chain on. -/
def compress (cv block : Array UInt32) (counter : Nat) (len : Nat) (flags : UInt32) :
    Array UInt32 :=
  let start := cv ++ initialValue.extract 0 4 ++
    #[(counter % Nat.pow 2 32).toUInt32, (counter / Nat.pow 2 32 % Nat.pow 2 32).toUInt32, len.toUInt32, flags]
  let (s, _) := (List.range 7).foldl (fun (s, m) _ => (round s m, permute m)) (start, block)
  ((List.range 16).map fun i =>
    if i < 8 then word s i ^^^ word s (i + 8) else word s i ^^^ word cv (i - 8)).toArray

/-! ### Bytes and words -/

def wordOfBytes (b0 b1 b2 b3 : UInt8) : UInt32 :=
  b0.toUInt32 ||| (b1.toUInt32 <<< 8) ||| (b2.toUInt32 <<< 16) ||| (b3.toUInt32 <<< 24)

def blockWords (bytes : List UInt8) : Array UInt32 :=
  let padded := bytes ++ List.replicate (blockSize - bytes.length) 0
  ((List.range 16).map fun i =>
    wordOfBytes (padded.getD (4 * i) 0) (padded.getD (4 * i + 1) 0)
      (padded.getD (4 * i + 2) 0) (padded.getD (4 * i + 3) 0)).toArray

def wordBytes (w : UInt32) : List UInt8 :=
  [w.toUInt8, (w >>> 8).toUInt8, (w >>> 16).toUInt8, (w >>> 24).toUInt8]

/-- A list cut into pieces of a size; the last may be shorter, and an empty list is one empty
piece. -/
def pieces (n : Nat) (xs : List UInt8) : List (List UInt8) :=
  go (xs.length + 1) xs
where
  /-- The pieces, with fuel for the number of them. -/
  go : Nat → List UInt8 → List (List UInt8)
    | 0, xs => [xs]
    | fuel + 1, xs => if xs.length ≤ n then [xs] else xs.take n :: go fuel (xs.drop n)

/-! ### Nodes of the tree -/

/-- A node whose compression is still to be done: as a chaining value, or as the root. -/
structure Node where
  cv : Array UInt32
  block : Array UInt32
  counter : Nat
  len : Nat
  flags : UInt32

def Node.chainingValue (o : Node) : Array UInt32 :=
  (compress o.cv o.block o.counter o.len o.flags).extract 0 8

def Node.rootBytes (o : Node) : List UInt8 :=
  ((compress o.cv o.block 0 o.len (o.flags ||| rootNode)).extract 0 8).toList.flatMap wordBytes

def parentOf (left right : Array UInt32) : Node :=
  { cv := initialValue, block := left ++ right, counter := 0, len := blockSize, flags := parentNode }

/-- The node of a chunk: every block but the last compressed in turn, the first with the
chunk-start flag. -/
def chunkNode (chunk : List UInt8) (counter : Nat) : Node :=
  let blocks := pieces blockSize chunk
  let startFlag (i : Nat) : UInt32 := if i == 0 then chunkStart else 0
  let cv := (blocks.dropLast.zipIdx).foldl (fun cv (b, i) =>
    (compress cv (blockWords b) counter blockSize (startFlag i)).extract 0 8) initialValue
  let last := blocks.getLastD []
  { cv, block := blockWords last, counter, len := last.length,
    flags := startFlag (blocks.length - 1) ||| chunkEnd }

/-- Pushes the chaining value of a completed chunk, merging it with the subtrees on the stack
that it completes. -/
def pushChunk : Nat → List (Array UInt32) → Array UInt32 → Nat → List (Array UInt32)
  | 0, stack, cv, _ => cv :: stack
  | fuel + 1, stack, cv, total =>
    match stack with
    | top :: rest =>
      if total % 2 == 0 then pushChunk fuel rest (parentOf top cv).chainingValue (total / 2)
      else cv :: stack
    | [] => [cv]

/-- The 32-byte BLAKE3 digest of a byte string. -/
def blake3 (input : List UInt8) : List UInt8 :=
  let chunks := pieces chunkSize input
  let stack := (chunks.dropLast.zipIdx).foldl (fun stack (c, i) =>
    pushChunk 64 stack (chunkNode c i).chainingValue (i + 1)) []
  let last := chunkNode (chunks.getLastD []) (chunks.length - 1)
  let root := stack.foldl (fun node cv => parentOf cv node.chainingValue) last
  root.rootBytes

def hexText (bytes : List UInt8) : String :=
  String.ofList (bytes.flatMap fun b => [digit (b.toNat / 16), digit (b.toNat % 16)])
where
  digit (n : Nat) : Char := if n < 10 then Char.ofNat (48 + n) else Char.ofNat (87 + n)

end TestRig.Digest
