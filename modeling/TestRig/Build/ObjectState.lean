import TestRig.Cbor.Item
import TestRig.Digest.Blake3
import TestRig.Files.Tree
import TestRig.Text.Blank

/-!
Object state: which objects are up to date. An object's digest covers the command line that
compiles it, its source, and every dependency its dependency file names (path and contents,
a dependency that cannot be read contributing its path only). The state records the digest
each object was last built with, in a file of the binary data format; an object is up to date
when the digest recorded for it is its current one and the object exists.
-/

namespace TestRig.Build

open TestRig.Files TestRig.Digest TestRig.Cbor TestRig.Text

/-! ### Dependency files -/

/-- The dependencies a dependency file lists: the words after `: ` on each line, continued
lines joined, without repeats, sorted. -/
def parseDepFile (text : String) : List String :=
  let joined := replaceAll (replaceAll text.toList ['\\', '\r', '\n'] [' ']) ['\\', '\n'] [' ']
  let deps := (splitOn joined ['\n']).foldl (fun acc line =>
    match cut? line [':', ' '] with
    | some (_, rest) => (fieldsOf rest).foldl (fun acc d =>
        let d := String.ofList d
        if acc.contains d then acc else acc ++ [d]) acc
    | none => acc) []
  deps.mergeSort (· ≤ ·)

/-- The dependencies of a dependency file in a tree; none when there is no such file. -/
def depsOf (fs : Tree) (path : String) : List String :=
  if path == "" then []
  else match fs.readText path with
    | .ok text => parseDepFile text
    | .error _ => []

/-- The digest of an object: BLAKE3 over its command line, its source, and each dependency
other than the source with its contents. -/
def objectDigest (fs : Tree) (line source depFile : String) : Except String String := do
  let src ← (fs.readFile source).mapError fun e =>
    "failed to read source '" ++ source ++ "': " ++ e.message
  let deps := (depsOf fs depFile).filter fun d => Path.clean d != Path.clean source
  let bytes := line.toUTF8.toList ++ [0] ++ src.toList ++ deps.flatMap fun d =>
    [0] ++ d.toUTF8.toList ++ [0] ++ ((fs.readFile d).toOption.map (·.toList)).getD []
  return hexText (blake3 bytes)

/-! ### The state file -/

/-- The version of state this library writes and reads. -/
def stateVersion : Nat := 1

/-- The recorded digests by object, and where they are kept. -/
structure ObjectState where
  path : String
  entries : List (String × String) := []
  deriving Inhabited

/-- The entries of a decoded state file, if it is a state of the current version. -/
def stateEntries (item : Item) : Option (List (String × String)) :=
  match item with
  | .map es =>
    let version : Option Item := es.foldl (fun acc (k, v) => match k with
      | .unsigned 1 => some v
      | _ => acc) none
    let entries : Option Item := es.foldl (fun acc (k, v) => match k with
      | .unsigned 2 => some v
      | _ => acc) none
    match version with
    | some (.unsigned n) =>
      if n != stateVersion then none
      else match entries with
        | none | some (.simple 22) => some []
        | some (.map kvs) => kvs.foldlM (fun acc (k, v) => match k, v with
            | .text k, .text v => some (if acc.any (·.1 == k) then
                acc.map fun (a, b) => if a == k then (a, v) else (a, b) else acc ++ [(k, v)])
            | _, _ => none) []
        | some _ => none
    | _ => none
  | _ => none

namespace ObjectState

/-- Reads the state at a path: empty when there is none, and with a warning when it cannot be
read or is not a state. -/
def load (fs : Tree) (path : String) : ObjectState × Option String :=
  match fs.readFile path with
  | .error e =>
    ({ path }, if e.errno == .notExist then none
      else some "Object cache is unreadable, rebuilding everything.")
  | .ok data =>
    match (Item.decode data.toList).bind stateEntries with
    | some entries => ({ path := path, entries := entries }, none)
    | none => ({ path }, some "Object cache is corrupt, rebuilding everything.")

/-- The object was built with this digest and exists. -/
def upToDate (s : ObjectState) (fs : Tree) (object digest : String) : Bool :=
  s.entries.lookup object == some digest && fs.exists_ object

/-- Records the digest an object was built with. -/
def record (s : ObjectState) (object digest : String) : ObjectState :=
  { s with entries := if s.entries.any (·.1 == object)
      then s.entries.map fun (o, d) => if o == object then (o, digest) else (o, d)
      else s.entries ++ [(object, digest)] }

/-- Records the digests of the objects built, in order; an object whose digest could not be
taken, given as the empty digest, keeps the digest recorded before. -/
def recordBuilt (s : ObjectState) (done : List (String × String)) : ObjectState :=
  done.foldl (fun st (obj, d) => if d == "" then st else st.record obj d) s

def bytes (s : ObjectState) : List UInt8 :=
  Item.encode (.map [(.unsigned 1, .unsigned stateVersion),
    (.unsigned 2, .map (s.entries.map fun (o, d) => (.text o, .text d)))])

/-- Writes the state file, making its directory. -/
def save (s : ObjectState) (fs : Tree) : Except String Tree := do
  let fs ← (fs.mkdirAll (Path.dir s.path)).mapError fun e =>
    "failed to create object cache directory: " ++ e.message
  (fs.writeFile s.path (ByteArray.mk s.bytes.toArray)).mapError fun e =>
    "failed to write object cache: " ++ e.message

end ObjectState

end TestRig.Build
