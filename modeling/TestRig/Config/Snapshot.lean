import TestRig.Config.Model
import TestRig.Yaml.Loose

/-!
Snapshots: the configuration of one build context as a single value, the tree that
expressions in tool arguments read from.
-/

namespace TestRig.Config

open TestRig.Rules TestRig.Number TestRig.Text TestRig.Yaml

/-! ### The tree of a model -/

/-- A list of strings; an empty one is the empty list of strings. -/
def stringsValue (xs : List String) : Value := Value.ofStrings xs

/-- The object of named values, in order of their names. -/
def objectValue (attrs : List (String × Value)) : Value := Value.objectOf attrs

/-- The plain directories of path specs: a trailing `/**` and then `/` dropped, globs and
repeats left out. -/
def dirsOf (specs : List String) : List String :=
  (specs.foldl (fun acc s =>
    let d := dropSuffix (dropSuffix s "/**") "/"
    if d == "" || d.any (fun c => c == '*' || c == '?' || c == '[') || acc.contains d then acc
    else acc ++ [d]) [])
where
  /-- The string without the suffix, when it has it. -/
  dropSuffix (s suffix : String) : String :=
    if s.endsWith suffix then String.ofList (s.toList.take (s.length - suffix.length)) else s

/-- The value of a rule table: its mode and its rules with their keys and values. -/
def tableValue (t : Table) : Value :=
  objectValue [("mode", .str t.mode.name),
    ("rules", .tuple (t.rules.map fun r =>
      objectValue [("key", .str r.key), ("values", stringsValue r.valueList)]))]

def tablesValue (ts : List (String × Table)) : Value :=
  objectValue (ts.map fun (n, t) => (n, tableValue t))

/-- The value of a tool argument: its text, or the pattern and the collection it ranges
over. -/
def argumentValue (a : Argument) : Value :=
  if a.isCollection then objectValue [("pattern", .str a.pattern), ("collection", .str a.collection)]
  else .str a.literal

/-- The value of a tool; an unset redirect policy reads `none`. -/
def toolValue (t : Tool) : Value :=
  objectValue [("executable", .str t.executable),
    ("stderr_redirect", .str (if t.redirect == "" then "none" else t.redirect)),
    ("optional", .bool t.optional),
    ("arguments", .tuple (t.arguments.map argumentValue))]

namespace Model

def projectValue (m : Model) : Value :=
  let p := m.project
  objectValue [("name", .str p.name), ("build_root", .str p.buildRoot),
    ("test_file_prefix", .str p.testFilePrefix), ("mock_prefix", .str p.mockPrefix),
    ("use_mocks", .bool p.useMocks), ("use_test_preprocessor", .bool p.useTestPreprocessor),
    ("use_exceptions", .bool p.useExceptions), ("use_assembly", .bool p.useAssembly),
    ("clean_on_config_change", .bool p.cleanOnConfigChange),
    ("compile_threads", .str p.compileThreads.text), ("test_threads", .str p.testThreads.text)]

def pathsValue (m : Model) : Value :=
  objectValue [("test", stringsValue m.paths.test), ("source", stringsValue m.paths.source),
    ("include", stringsValue m.paths.includes), ("support", stringsValue m.paths.support),
    ("libraries", stringsValue m.paths.libraries)]

def extensionsValue (m : Model) : Value :=
  let e := m.extensions
  objectValue [("source", .str e.source), ("header", .str e.header), ("assembly", .str e.assembly),
    ("object", .str e.object), ("executable", .str e.executable),
    ("dependencies", .str e.dependencies), ("testpass", .str e.testPass),
    ("testfail", .str e.testFail)]

def vendorValue (m : Model) : Value :=
  objectValue [("unity", .str m.vendor.unity), ("cmock", .str m.vendor.cmock),
    ("cexception", .str m.vendor.cexception)]

/-- The named collections that tool arguments range over. -/
def collectionsValue (m : Model) : Value :=
  objectValue [("paths_test", stringsValue (dirsOf m.paths.test)),
    ("paths_source", stringsValue (dirsOf m.paths.source)),
    ("paths_include", stringsValue (dirsOf m.paths.includes)),
    ("paths_support", stringsValue (dirsOf m.paths.support)),
    ("paths_libraries", stringsValue (dirsOf m.paths.libraries)),
    ("paths_vendor", stringsValue m.vendorPaths),
    ("libraries", stringsValue m.libraries)]

/-- The environment entries, each with its values joined by spaces; a later entry of a name
wins. -/
def environmentValue (m : Model) : Value :=
  objectValue (m.environment.map fun e => (e.name, .str (" ".intercalate e.values)))

end Model

/-! ### Snapshots -/

/-- The configuration of one build context, and the process environment expressions see. -/
structure Snapshot where
  context : String
  root : Value
  /-- The process environment by name, sorted, one entry a name. -/
  environ : List (String × String)
  deriving Inhabited

/-- The process environment of `NAME=value` entries: an entry without `=` or with an empty name
is ignored, and a later entry of a name wins. -/
def environOf (entries : List String) : List (String × String) :=
  sortedEntries (entries.foldl (fun acc kv =>
    match kv.splitOn "=" with
    | name :: rest => if name == "" || rest.isEmpty then acc else setEntry acc name ("=".intercalate rest)
    | [] => acc) [])

/-- The snapshot of a model for a build context. -/
def Model.snapshot (m : Model) (context : String) (environ : List String) : Snapshot where
  context := context
  environ := environOf environ
  root := Value.normalized <| objectValue [("context", .str context), ("project", m.projectValue),
    ("paths", m.pathsValue), ("extension", m.extensionsValue), ("vendor", m.vendorValue),
    ("collections", m.collectionsValue),
    ("tools", objectValue (m.tools.map fun (n, t) => (n, toolValue t))),
    ("flags", objectValue (m.flags.map fun (n, ops) => (n, tablesValue ops))),
    ("defines", tablesValue m.defines), ("matchers", tablesValue m.matchers),
    ("environment", m.environmentValue), ("vars", objectValue m.vars),
    ("plugins", stringsValue m.plugins)]

namespace Snapshot

/-- The snapshot with more process environment; the new entries win. -/
def withEnv (s : Snapshot) (vars : List (String × String)) : Snapshot :=
  { s with environ := sortedEntries (vars.foldl (fun acc (k, v) => setEntry acc k v) s.environ) }

/-- Reads a decimal integer with an optional sign, as a position: none for text that is no
integer of 64 bits, or is negative. -/
def positionOf (seg : String) : Option Nat :=
  let (neg, digits) : Bool × List Char := match seg.toList with
    | '-' :: r => (true, r)
    | '+' :: r => (false, r)
    | r => (false, r)
  if digits.isEmpty || !digits.all isDigit then none
  else
    let n := digits.foldl (fun acc c => acc * 10 + (c.toNat - 48)) 0
    if neg then (if n == 0 then some 0 else none)
    else if n < Nat.pow 2 63 then some n else none

/-- One step of a path: an attribute of an object, a key of a map, a position of a list or
tuple. Null and unknown values have no steps. -/
def step (v : Value) (seg : String) : Option Value :=
  match v with
  | .object attrs => attrs.lookup (Text.nfc seg)
  | .map _ entries => entries.lookup (Text.nfc seg)
  | .list _ items | .tuple items => (positionOf seg).bind fun i => items[i]?
  | _ => none

/-- The value at a dotted path; the empty path is the root. -/
def lookup (s : Snapshot) (path : String) : Option Value :=
  if path == "" then some s.root
  else ((splitOn path.toList ['.']).map String.ofList).foldl (fun v seg => v.bind (step · seg))
    (some s.root)

/-- The strings at a dotted path: none when the path is absent, and an error, prefixed with
the path, when the value there is no list of strings. -/
def strings (s : Snapshot) (path : String) : Option (Except String (List String)) :=
  (s.lookup path).map fun v =>
    match v.asStrings with
    | .ok xs => .ok xs
    | .error e => .error (path ++ ": " ++ e)

/-- The variables expressions see: the root's attributes, and the process environment as the
object `env`. -/
def bindings (s : Snapshot) : List (String × Value) :=
  let attrs := match s.root with
    | .object attrs => attrs
    | _ => []
  Value.insertAttr "env" (objectValue (s.environ.map fun (k, v) => (k, .str v))).normalized attrs

end Snapshot

end TestRig.Config

namespace TestRig

open TestRig.Number TestRig.Yaml

/-! ### Plain trees -/

/-- A number as a plain value: an integer when it is whole and fits 64 bits, otherwise the
nearest 64-bit float. -/
def plainNumber : Numeric → Loose
  | .infinite neg => .float (.num (.infinite neg))
  | .finite b =>
    let i := b.wholeValue
    if b.isWhole && -Int.pow 2 63 ≤ i && i < Int.pow 2 63 then .int i else .float (.num b.toFloat64)

mutual
/-- A value as a plain tree: objects and maps become dictionaries, sequences lists, null and
unknown values null. -/
def Value.toPlain : Value → Loose
  | .str s => .str s
  | .bool b => .bool b
  | .num n => plainNumber n
  | .null _ | .unknown _ => .null
  | .list _ items | .set _ items | .tuple items => .list (plainAll items)
  | .map _ entries | .object entries => .dict (plainEntries entries)

def plainAll : List Value → List Loose
  | [] => []
  | v :: vs => v.toPlain :: plainAll vs

def plainEntries : List (String × Value) → List (String × Loose)
  | [] => []
  | (k, v) :: r => (k, v.toPlain) :: plainEntries r
end

end TestRig

namespace TestRig.Config

def Snapshot.plain (s : Snapshot) : Yaml.Loose := s.root.toPlain

end TestRig.Config
