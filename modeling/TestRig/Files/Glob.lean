import TestRig.Files.Tree

/-!
Shell patterns over file names and their expansion in a file tree. In a pattern, `*` matches
any run of characters other than `/`, `?` any one such character, `[...]` one character of a
class of characters and ranges (`[^...]` one outside it), and `\` makes the next character
stand for itself.
-/

namespace TestRig.Files

/-! ### Matching one name -/

/-- The next chunk of a pattern: whether stars precede it, the chunk up to the next star
outside a class, and the rest. -/
def scanChunk (p : List Char) : Bool × List Char × List Char :=
  let star := p.head? == some '*'
  let p := p.dropWhile (· == '*')
  let rec go : List Char → Bool → List Char → List Char × List Char
    | [], _, acc => (acc.reverse, [])
    | '\\' :: c :: r, inRange, acc => go r inRange (c :: '\\' :: acc)
    | '[' :: r, _, acc => go r true ('[' :: acc)
    | ']' :: r, _, acc => go r false (']' :: acc)
    | '*' :: r, inRange, acc =>
      if inRange then go r inRange ('*' :: acc) else (acc.reverse, '*' :: r)
    | c :: r, inRange, acc => go r inRange (c :: acc)
  let (chunk, rest) := go p false []
  (star, chunk, rest)

/-- One character of a class, a backslash escaping it; none when the class is malformed here. -/
def classChar : List Char → Option (Char × List Char)
  | [] => none
  | '-' :: _ => none
  | ']' :: _ => none
  | '\\' :: c :: r => if r.isEmpty then none else some (c, r)
  | '\\' :: [] => none
  | c :: r => if r.isEmpty then none else some (c, r)

/-- The ranges of a class after its opening bracket, up to its closing one: whether the
character falls in one, and the pattern after the class; none when malformed. -/
def classRanges (c : Char) : Nat → List Char → Bool → Nat → Option (Bool × List Char)
  | 0, _, _, _ => none
  | fuel + 1, p, found, n =>
    match p with
    | ']' :: r => if n > 0 then some (found, r) else none
    | _ => do
      let (lo, p) ← classChar p
      let (hi, p) ← match p with
        | '-' :: r => classChar r
        | _ => some (lo, p)
      classRanges c fuel p (found || (lo ≤ c && c ≤ hi)) (n + 1)

/-- A character that stands for itself, matched at the start of a name: the rest of the name
and whether matching has failed. -/
def literalStep (c : Char) (s : List Char) (failed : Bool) : List Char × Bool :=
  match s, failed with
  | d :: rest, false => (rest, c != d)
  | _, _ => (s, true)

/-- Matches a chunk at the start of a name: the rest of the name when it matches; an error
when the chunk is malformed, checked to its end even after a mismatch. -/
def matchChunk : Nat → List Char → List Char → Bool → Except Unit (Option (List Char))
  | 0, _, _, _ => .ok none
  | _, [], s, failed => .ok (if failed then none else some s)
  | fuel + 1, '[' :: r, s, failed =>
    let (ch, s', failed) := match s, failed with
      | c :: rest, false => (c, rest, false)
      | _, _ => ('\x00', s, true)
    let (negated, r) := match r with
      | '^' :: r => (true, r)
      | _ => (false, r)
    match classRanges ch (r.length + 1) r false 0 with
    | none => .error ()
    | some (found, r) => matchChunk fuel r s' (failed || found == negated)
  | fuel + 1, '?' :: r, s, failed =>
    match s, failed with
    | c :: rest, false => matchChunk fuel r rest (c == '/')
    | _, _ => matchChunk fuel r s true
  | _, '\\' :: [], _, _ => .error ()
  | fuel + 1, '\\' :: c :: r, s, failed =>
    let (s, failed) := literalStep c s failed
    matchChunk fuel r s failed
  | fuel + 1, c :: r, s, failed =>
    let (s, failed) := literalStep c s failed
    matchChunk fuel r s failed

/-- Matches a chunk at the start of a name, with fuel for its length. -/
def matchChunkAt (chunk s : List Char) : Except Unit (Option (List Char)) :=
  matchChunk (chunk.length + 1) chunk s false

/-- Matches a whole name against a pattern; an error when the pattern is malformed. -/
def globMatch (pattern name : String) : Except Unit Bool :=
  go (pattern.length + 1) pattern.toList name.toList
where
  go : Nat → List Char → List Char → Except Unit Bool
    | 0, _, _ => .ok false
    | _, [], name => .ok name.isEmpty
    | fuel + 1, p, name => do
      let (star, chunk, rest) := scanChunk p
      if star && chunk.isEmpty then return !name.contains '/'
      let here ← (matchChunkAt chunk name).map fun r =>
        r.filter fun t => t.isEmpty || !rest.isEmpty
      match here with
      | some t => go fuel rest t
      | none =>
        if star then
          -- the chunk may start after any run of characters other than a slash
          match ← skipping chunk rest name with
          | some t => return (← go fuel rest t)
          | none => return false
        else return false
  /-- A match of the chunk after skipping one or more leading characters other than `/`. -/
  skipping (chunk rest : List Char) : List Char → Except Unit (Option (List Char))
    | [] => .ok none
    | c :: r =>
      if c == '/' then .ok none
      else do
        match ← matchChunkAt chunk r with
        | some t => if rest.isEmpty && !t.isEmpty then skipping chunk rest r else return some t
        | none => skipping chunk rest r

/-! ### Expanding patterns in a tree -/

def badPattern : String := "syntax error in pattern"

/-- The pattern holds a character with a meaning in patterns. -/
def hasMeta (p : String) : Bool := p.any fun c => c == '*' || c == '?' || c == '[' || c == '\\'

/-- The entries of a directory whose names match a pattern, joined to the directory, after
those found so far; a missing directory or a file has none. -/
def Tree.globIn (t : Tree) (dir pattern : String) (acc : List String) : Except String (List String) :=
  if !t.isDir dir then .ok acc
  else (t.children (t.resolve dir)).foldlM (fun acc name =>
    match globMatch pattern name with
    | .error _ => .error badPattern
    | .ok true => .ok (acc ++ [Path.join [dir, name]])
    | .ok false => .ok acc) acc

/-- The paths a pattern names, in sorted order per directory. -/
def Tree.glob (t : Tree) (pattern : String) : Except String (List String) :=
  go (pattern.length + 1) pattern
where
  /-- Expanding with fuel for the depth of the pattern. -/
  go : Nat → String → Except String (List String)
    | 0, _ => .error badPattern
    | fuel + 1, pattern => do
      if (globMatch pattern "").isOk == false then throw badPattern
      if !hasMeta pattern then
        return if t.exists_ pattern then [pattern] else []
      let cs := pattern.toList
      let file := String.ofList (cs.reverse.takeWhile (· != '/')).reverse
      let dirPart := String.ofList (cs.take (cs.length - file.length))
      let dir := if dirPart == "" then "." else if dirPart == "/" then "/"
        else String.ofList (dirPart.toList.dropLast)
      if !hasMeta dir then t.globIn dir file []
      else if dir == pattern then throw badPattern
      else
        let dirs ← go fuel dir
        dirs.foldlM (fun acc d => t.globIn d file acc) []

end TestRig.Files
