import TestRig.Config.Model
import TestRig.Yaml.Compose
import TestRig.Yaml.Decode
import TestRig.Text.Case

/-!
Project files in YAML. A file is read over a model, section by section: the settings sections
(`project`, `paths`, `extension`, `vendor`) update only the settings they name, `libraries` and
`plugins` replace the lists, tools and rule tables are set by name, environment entries are
added, and variables become configuration values.

Keys written as symbols (`:name`) count as plain names.
-/

namespace TestRig.ProjectFile

open TestRig.Yaml TestRig.Config TestRig.Rules TestRig.Text TestRig.Number

/-! ### Values written as strings -/

def atLine (n : Node) (msg : String) : String := "line " ++ toString n.line ++ ": " ++ msg

/-- A scalar, or a list of scalars and nested lists, as the strings written. -/
def stringValues : Nat → Node → Except String (List String)
  | 0, _ => .ok []
  | fuel + 1, n => match n.deref with
    | .scalar _ t _ => .ok [t]
    | .seq _ items _ => do
      let parts ← items.mapM fun item => match item.deref with
        | i@(.seq ..) => stringValues fuel i
        | .scalar _ t _ => .ok [t]
        | i => .error (atLine i "expected a string")
      return parts.flatten
    | v => .error (atLine v "expected a string or a list of strings")

/-- The pairs of a mapping in order, the pairs of the mappings its merge keys name first. -/
def mappingPairs : Nat → Node → List (Node × Node)
  | 0, _ => []
  | fuel + 1, n => match n with
    | .map _ entries _ =>
      let merged := entries.flatMap fun (k, v) =>
        if k.shortTag != "!!merge" then []
        else
          let v := v.deref
          let sources := match v with
            | .seq _ items _ => items
            | _ => [v]
          sources.flatMap fun src => match src.deref with
            | m@(.map ..) => mappingPairs fuel m
            | _ => []
      merged ++ entries.filter fun (k, _) => k.shortTag != "!!merge"
    | _ => []

def isNullScalar : Node → Bool
  | n@(.scalar ..) => n.shortTag == "!!null"
  | _ => false

/-! ### Custom readers -/

/-- Worker budgets: `auto`, `:auto` or an integer. -/
def budgetTarget : Target Budget :=
  .custom "yamlconfig.budget" Budget.automatic fun n => match n with
    | .scalar _ t _ => (parseBudget t).mapError (atLine n)
    | _ => .error (atLine n "worker budget must be a scalar")

/-- The collection a pattern argument names, from its written name. -/
def collectionName (s : String) : String :=
  let s := toLower (if s.startsWith ":" then String.ofList (s.toList.drop 1) else s)
  if s.startsWith "collection_" then String.ofList (s.toList.drop "collection_".length) else s

/-- Tool arguments: a literal, or a pattern mapped to its collection. -/
def argumentTarget : Target Argument :=
  .custom "yamlconfig.argument" {} fun n => match n with
    | .scalar _ t _ => .ok (.lit t)
    | .map _ [(k, v)] _ => .ok (.over k.text (collectionName v.text))
    | .map .. => .error (atLine n "a collection argument maps exactly one pattern to a collection")
    | _ => .error (atLine n "tool argument must be a string or a pattern mapping")

/-- Rule tables: a list is one catch-all rule; a mapping gives a rule per key, a null value
leaving the rule without values. -/
def ruleTableTarget : Target (List Rule) :=
  .custom "yamlconfig.ruleTable" [] fun n => match n with
    | .seq .. => do return [⟨"*", some (← stringValues 10000 n)⟩]
    | .map .. => (mappingPairs 10000 n).mapM fun (k, v) =>
      if isNullScalar v then .ok ⟨k.text, none⟩
      else do return ⟨k.text, some (← stringValues 10000 v)⟩
    | _ => .error (atLine n "rule table must be a list or a mapping")

/-- Environment entries: one name mapped to a value or a list of values. -/
def envEntryTarget : Target EnvVar :=
  .custom "yamlconfig.envEntry" ⟨"", []⟩ fun n => match n with
    | .map _ [(k, v)] _ => do return ⟨k.text, ← stringValues 10000 v⟩
    | _ => .error (atLine n "environment entry must map one name to its value")

/-! ### The document -/

structure ToolDoc where
  executable : String := ""
  redirect : String := ""
  optional : Bool := false
  arguments : List Argument := []
  deriving Inhabited

/-- The top level of a project file: the settings sections as nodes, read later over the
model's current settings, and the other sections as read. -/
structure Document where
  project : Option Node := none
  paths : Option Node := none
  extension : Option Node := none
  vendor : Option Node := none
  libraries : Option (List String) := none
  tools : List (String × Option ToolDoc) := []
  flags : List (String × List (String × List Rule)) := []
  defines : List (String × List Rule) := []
  matchers : List (String × List Rule) := []
  environment : List EnvVar := []
  vars : List (String × Loose) := []
  plugins : Option (List String) := none
  deriving Inhabited

def toolTarget : Target ToolDoc :=
  .record "yamlconfig.toolDoc" {}
    [.of "executable" (.string) (·.executable) fun d v => { d with executable := v },
     .of "stderr_redirect" (.string) (·.redirect) fun d v => { d with redirect := v },
     .of "optional" .bool (·.optional) fun d v => { d with optional := v },
     .of "arguments" (.list argumentTarget) (·.arguments) fun d v => { d with arguments := v }]

def pluginsTarget : Target (List String) :=
  .record "yamlconfig.pluginsDoc" [] [.of "enabled" (.list (.string)) id fun _ v => v]

/-- How the top level of a project file is read. -/
def documentTarget : Target Document :=
  .record "yamlconfig.document" {}
    [.of "project" .node (·.project) fun d v => { d with project := v },
     .of "paths" .node (·.paths) fun d v => { d with paths := v },
     .of "extension" .node (·.extension) fun d v => { d with extension := v },
     .of "vendor" .node (·.vendor) fun d v => { d with vendor := v },
     .of "libraries" (.optional (.list (.string))) (·.libraries) fun d v => { d with libraries := v },
     .of "tools" (.dict (.optional toolTarget)) (·.tools) fun d v => { d with tools := v },
     .of "flags" (.dict (.dict ruleTableTarget)) (·.flags) fun d v => { d with flags := v },
     .of "defines" (.dict ruleTableTarget) (·.defines) fun d v => { d with defines := v },
     .of "matchers" (.dict ruleTableTarget) (·.matchers) fun d v => { d with matchers := v },
     .of "environment" (.list envEntryTarget) (·.environment) fun d v => { d with environment := v },
     .of "vars" (.dict .loose) (·.vars) fun d v => { d with vars := v },
     .of "plugins" (.optional pluginsTarget) (·.plugins) fun d v => { d with plugins := v }]

/-! ### Settings sections -/

/-- How the project settings are read over the current ones. -/
def projectTarget : Target Project :=
  .record "yamlconfig.projectDoc" {}
    [.of "name" (.string) (·.name) fun p v => { p with name := v },
     .of "build_root" (.string) (·.buildRoot) fun p v => { p with buildRoot := v },
     .of "test_file_prefix" (.string) (·.testFilePrefix) fun p v => { p with testFilePrefix := v },
     .of "mock_prefix" (.string) (·.mockPrefix) fun p v => { p with mockPrefix := v },
     .of "use_mocks" .bool (·.useMocks) fun p v => { p with useMocks := v },
     .of "use_test_preprocessor" .bool (·.useTestPreprocessor) fun p v => { p with useTestPreprocessor := v },
     .of "use_exceptions" .bool (·.useExceptions) fun p v => { p with useExceptions := v },
     .of "use_assembly" .bool (·.useAssembly) fun p v => { p with useAssembly := v },
     .of "clean_on_config_change" .bool (·.cleanOnConfigChange) fun p v => { p with cleanOnConfigChange := v },
     .of "compile_threads" budgetTarget (·.compileThreads) fun p v => { p with compileThreads := v },
     .of "test_threads" budgetTarget (·.testThreads) fun p v => { p with testThreads := v }]

/-- How the path specs are read over the current ones. -/
def pathsTarget : Target Paths :=
  .record "yamlconfig.pathsDoc" {}
    [.of "test" (.list (.string)) (·.test) fun p v => { p with test := v },
     .of "source" (.list (.string)) (·.source) fun p v => { p with source := v },
     .of "include" (.list (.string)) (·.includes) fun p v => { p with includes := v },
     .of "support" (.list (.string)) (·.support) fun p v => { p with support := v },
     .of "libraries" (.list (.string)) (·.libraries) fun p v => { p with libraries := v }]

/-- How the extensions are read over the current ones. -/
def extensionsTarget : Target Extensions :=
  .record "yamlconfig.extensionDoc" {}
    [.of "source" (.string) (·.source) fun e v => { e with source := v },
     .of "header" (.string) (·.header) fun e v => { e with header := v },
     .of "assembly" (.string) (·.assembly) fun e v => { e with assembly := v },
     .of "object" (.string) (·.object) fun e v => { e with object := v },
     .of "executable" (.string) (·.executable) fun e v => { e with executable := v },
     .of "dependencies" (.string) (·.dependencies) fun e v => { e with dependencies := v },
     .of "testpass" (.string) (·.testPass) fun e v => { e with testPass := v },
     .of "testfail" (.string) (·.testFail) fun e v => { e with testFail := v }]

/-- How the framework directories are read over the current ones. -/
def vendorTarget : Target Vendor :=
  .record "yamlconfig.vendorDoc" {}
    [.of "unity" (.string) (·.unity) fun x v => { x with unity := v },
     .of "cmock" (.string) (·.cmock) fun x v => { x with cmock := v },
     .of "c_exception" (.string) (·.cexception) fun x v => { x with cexception := v }]

/-! ### Variables -/

/-- The text of a 64-bit float as a configuration number refuses it. -/
def nanRefusal : String := "Float.SetFloat64(NaN)"

/-- A failure with the place it happened put before it; an abort stays as it is. -/
def prefixFault (place : String) (f : Fault) : Fault :=
  if f.isAbort then f else .wrap place f

/-- The values of a list of results, or the first failure. -/
def firstFailure : List (Except Fault α) → Except Fault (List α)
  | [] => .ok []
  | r :: rs => do return (← r) :: (← firstFailure rs)

mutual
/-- An untyped value as a configuration value: lists become tuples and mappings objects, so
their elements may differ in type. -/
def looseValue : Loose → Except Fault Value
  | .null => .ok (.null .dynamic)
  | .bool b => .ok (.bool b)
  | .int i => .ok (Value.ofInt i)
  | .float .nan => .error (.abort nanRefusal)
  | .float (.num n) => .ok (.num n)
  | .str s => .ok (.str (Text.nfc s))
  | .time _ => .error (.plain "unsupported value of type time.Time")
  | .table _ => .error (.plain "unsupported value of type map[interface \x7b\x7d]interface \x7b\x7d")
  | .list items => do return .tuple (← firstFailure (looseItems 0 items))
  | .dict entries => do
    let vs ← firstFailure ((sortedEntries (looseEntries entries)).map fun (k, r) => r.map (k, ·))
    return Value.objectOf (vs.map fun (k, v) => (Text.nfc k, v))

/-- Each item of a list as a configuration value, a failure naming the item. -/
def looseItems : Nat → List Loose → List (Except Fault Value)
  | _, [] => []
  | i, x :: xs => (looseValue x).mapError (prefixFault ("[" ++ toString i ++ "]")) :: looseItems (i + 1) xs

/-- Each entry of a mapping as a configuration value, a failure naming the entry. -/
def looseEntries : List (String × Loose) → List (String × Except Fault Value)
  | [] => []
  | (k, x) :: xs => (k, (looseValue x).mapError (prefixFault k)) :: looseEntries xs
end

/-! ### Reading a file over a model -/

/-- A settings section read over the current settings. -/
def decodeSection (place : String) (path : String) (t : Target α) (node : Option Node) (cur : α) :
    Except Fault α :=
  match node with
  | some n =>
    if isNullScalar n then .ok cur
    else (decodeNode t n cur).mapError fun e => .config place (path ++ ": " ++ e)
  | none => .ok cur

def ToolDoc.tool (d : ToolDoc) (name : String) : Tool :=
  { name, executable := d.executable, optional := d.optional, arguments := d.arguments,
    redirect := if d.redirect.startsWith ":" then String.ofList (d.redirect.toList.drop 1) else d.redirect }

def Document.apply (d : Document) (m : Model) (path : String) : Except Fault Model := do
  let project ← decodeSection "project" path projectTarget d.project m.project
  let paths ← decodeSection "paths" path pathsTarget d.paths m.paths
  let extensions ← decodeSection "extension" path extensionsTarget d.extension m.extensions
  let vendor ← decodeSection "vendor" path vendorTarget d.vendor m.vendor
  let m := { m with project, paths, extensions, vendor, libraries := d.libraries.getD m.libraries }
  let tools ← (sortedEntries d.tools).foldlM (fun tools (name, t) => match t with
    | none => .error (.config ("tools." ++ name) "tool has no settings")
    | some t => .ok (setEntry tools name (t.tool name))) m.tools
  let flags := d.flags.foldl (fun flags (ctx, ops) =>
    let cur := (flags.lookup ctx).getD []
    setEntry flags ctx (ops.foldl (fun acc (op, rules) =>
      setEntry acc op { name := "flags." ++ ctx ++ "." ++ op, mode := .firstMatch, rules }) cur)) m.flags
  let defines := d.defines.foldl (fun acc (ctx, rules) =>
    setEntry acc ctx { name := "defines." ++ ctx, mode := .firstMatch, rules }) m.defines
  let matchers := d.matchers.foldl (fun acc (name, rules) =>
    setEntry acc name { name := "matchers." ++ name, mode := .union, rules }) m.matchers
  let vars ← (sortedEntries d.vars).foldlM (fun acc (name, raw) => do
    let v ← (looseValue raw).mapError fun f =>
      if f.isAbort then f else .config ("vars." ++ name) f.message
    return setEntry acc name v) m.vars
  return { m with tools, flags, defines, matchers, vars,
                  environment := m.environment ++ d.environment,
                  plugins := d.plugins.getD m.plugins }

def invalidYaml (path e : String) : Fault := .config (Path.base path) ("invalid YAML: " ++ e)

/-- Reads the text of a project file over a model; `path` names the file in messages. -/
def applyYaml (m : Model) (path text : String) : Except Fault Model := do
  let root ← (composeWith true text).mapError (invalidYaml path)
  match root with
  | none => return m
  | some root =>
    let d ← (decodeWith documentTarget root {}).mapError fun e => .config (Path.base path) e
    d.apply m path

/-- The defaults with one project file read over them. -/
def loadYaml (name text : String) : Except Fault Model := do
  let m ← applyYaml {} name text
  return { m with files := m.files ++ [name] }

end TestRig.ProjectFile
