import TestRig.Config.Model
import TestRig.Hcl.Decode

/-!
Project files in the configuration language. A file is a body of blocks: `project`, `paths`,
`extension` and `vendor` (at most one each) update the settings they name; `tool "name"`
blocks define tools; `flags "context" "operation"`, `defines "name"` and `matcher "name"`
blocks define rule tables of `rule "key"` blocks; `environment "name"` blocks add environment
entries; `vars` blocks set free variables.
-/

namespace TestRig.ProjectFile

open TestRig.Hcl TestRig.Config TestRig.Rules TestRig.Text

/-! ### Blocks as read -/

structure ToolBlock where
  name : String
  executable : String
  redirect : String
  optional : Bool
  arguments : Expr

/-- A rule block: its key and its values expression. -/
structure RuleBlock where
  key : String
  values : Expr

/-- A rule table block: its name (for flags, context and operation), mode and rules. -/
structure TableBlock where
  labels : List String
  mode : String
  rules : List RuleBlock

structure EnvBlock where
  name : String
  value : Expr

structure FileRoot where
  project : Option Body := none
  paths : Option Body := none
  extension : Option Body := none
  vendor : Option Body := none
  tools : List ToolBlock := []
  flags : List TableBlock := []
  defines : List TableBlock := []
  matchers : List TableBlock := []
  environment : List EnvBlock := []
  vars : List Body := []
  libraries : Option (List String) := none
  plugins : Option (List String) := none

/-! ### Schemas -/

def rootSchema : Schema where
  attributes := [("libraries", false), ("plugins", false)]
  blocks := [("defines", ["name"]), ("environment", ["name"]), ("extension", []),
    ("flags", ["context", "operation"]), ("matcher", ["name"]), ("paths", []), ("project", []),
    ("tool", ["name"]), ("vars", []), ("vendor", [])]

def toolSchema : Schema where
  attributes := [("arguments", false), ("executable", true), ("optional", false),
    ("stderr_redirect", false)]

def tableSchema : Schema where
  attributes := [("mode", false)]
  blocks := [("rule", ["key"])]

def ruleSchema : Schema where
  attributes := [("values", false)]

def envSchema : Schema where
  attributes := [("value", false)]

def projectSchema : Schema where
  attributes := ["build_root", "clean_on_config_change", "compile_threads", "mock_prefix", "name",
    "test_file_prefix", "test_threads", "use_assembly", "use_exceptions", "use_mocks",
    "use_test_preprocessor"].map (·, false)

def pathsSchema : Schema where
  attributes := ["include", "libraries", "source", "support", "test"].map (·, false)

def extensionSchema : Schema where
  attributes := ["assembly", "dependencies", "executable", "header", "object", "source",
    "testfail", "testpass"].map (·, false)

def vendorSchema : Schema where
  attributes := ["c_exception", "cmock", "unity"].map (·, false)

/-! ### Checking blocks -/

def readTool (h : BlockHead) (b : Body) : ToolBlock × Diags :=
  let (c, ds) := b.content toolSchema
  let (executable, d1) := decodeField c "executable" Expr.decodeString ""
  let (optional, d2) := decodeField c "optional" Expr.decodeBool false
  let (redirect, d3) := decodeField c "stderr_redirect" Expr.decodeString ""
  ({ name := h.labels.headD "", executable, redirect, optional,
     arguments := c.expression b "arguments" }, ds ++ d1 ++ d2 ++ d3)

def readRule (h : BlockHead) (b : Body) : RuleBlock × Diags :=
  let (c, ds) := b.content ruleSchema
  ({ key := h.labels.headD "", values := c.expression b "values" }, ds)

def readTable (h : BlockHead) (b : Body) : TableBlock × Diags :=
  let (c, ds) := b.content tableSchema
  let (mode, d1) := decodeField c "mode" Expr.decodeString ""
  let rules := (c.blocksOf "rule").map fun (rh, rb) => readRule rh rb
  ({ labels := h.labels, mode, rules := rules.map (·.1) }, ds ++ d1 ++ rules.flatMap (·.2))

def readEnv (h : BlockHead) (b : Body) : EnvBlock × Diags :=
  let (c, ds) := b.content envSchema
  ({ name := h.labels.headD "", value := c.expression b "value" }, ds)

def readAll (c : Content) (type : String) (read : BlockHead → Body → α × Diags) : List α × Diags :=
  let rs := (c.blocksOf type).map fun (h, b) => read h b
  (rs.map (·.1), rs.flatMap (·.2))

/-- Reads the top level of a file; the problems of every block are reported together. -/
def readRoot (b : Body) : FileRoot × Diags :=
  let (c, ds) := b.content rootSchema
  let (libraries, d1) := decodeField c "libraries" Expr.decodeStrings none
  let (plugins, d2) := decodeField c "plugins" Expr.decodeStrings none
  let (defines, d3) := readAll c "defines" readTable
  let (environment, d4) := readAll c "environment" readEnv
  let (extension, d5) := singleBlock (c.blocksOf "extension") "extension"
  let (flags, d6) := readAll c "flags" readTable
  let (matchers, d7) := readAll c "matcher" readTable
  let (paths, d8) := singleBlock (c.blocksOf "paths") "paths"
  let (project, d9) := singleBlock (c.blocksOf "project") "project"
  let (tools, d10) := readAll c "tool" readTool
  let vars := (c.blocksOf "vars").map (·.2)
  let (vendor, d11) := singleBlock (c.blocksOf "vendor") "vendor"
  ({ project, paths, extension, vendor, tools, flags, defines, matchers, environment, vars,
     libraries, plugins },
   ds ++ d1 ++ d2 ++ d3 ++ d4 ++ d5 ++ d6 ++ d7 ++ d8 ++ d9 ++ d10 ++ d11)

/-! ### Applying sections -/

/-- Fails with the problems of a section, if any. -/
def checkSection (path : String) (ds : Diags) : Except Fault Unit :=
  if ds.isEmpty then .ok () else .error (.config path (diagnosticsText ds))

/-- The largest and smallest 64-bit integers bound a number taken as a worker count. -/
def saturatedCount : Number.Numeric → Int
  | .infinite neg => if neg then -Int.pow 2 63 else Int.pow 2 63 - 1
  | n => max (-Int.pow 2 63) (min (Int.pow 2 63 - 1) n.truncated)

/-- A worker budget written as an expression: a number, or text that reads as a budget. -/
def workerBudget (e : Expr) : Except String Budget :=
  let (v, ds) := e.value
  if !ds.isEmpty then .error (diagnosticsText ds)
  else match v with
    | .null _ => .error "worker budget must not be null"
    | .num n => .ok (Budget.fixed (saturatedCount n))
    | .str s => parseBudget s
    | v => .error ("worker budget must be 'auto' or a number, got " ++ v.ty.friendlyName)

/-- Applies a worker budget setting when it is written. -/
def applyBudget (path : String) (e : Expr) (cur : Budget) : Except Fault Budget :=
  if !e.isWritten then .ok cur
  else (workerBudget e).mapError (.config path)

/-- Applies a project block over the project's settings. -/
def applyProject (b : Body) (p : Project) : Except Fault Project := do
  let (c, ds) := b.content projectSchema
  let (buildRoot, d1) := decodeField c "build_root" Expr.decodeString p.buildRoot
  let (cleanOnConfigChange, d2) := decodeField c "clean_on_config_change" Expr.decodeBool p.cleanOnConfigChange
  let (mockPrefix, d3) := decodeField c "mock_prefix" Expr.decodeString p.mockPrefix
  let (name, d4) := decodeField c "name" Expr.decodeString p.name
  let (testFilePrefix, d5) := decodeField c "test_file_prefix" Expr.decodeString p.testFilePrefix
  let (useAssembly, d6) := decodeField c "use_assembly" Expr.decodeBool p.useAssembly
  let (useExceptions, d7) := decodeField c "use_exceptions" Expr.decodeBool p.useExceptions
  let (useMocks, d8) := decodeField c "use_mocks" Expr.decodeBool p.useMocks
  let (useTestPreprocessor, d9) := decodeField c "use_test_preprocessor" Expr.decodeBool p.useTestPreprocessor
  checkSection "project" (ds ++ d1 ++ d2 ++ d3 ++ d4 ++ d5 ++ d6 ++ d7 ++ d8 ++ d9)
  let compileThreads ← applyBudget "project.compile_threads" (c.expression b "compile_threads") p.compileThreads
  let testThreads ← applyBudget "project.test_threads" (c.expression b "test_threads") p.testThreads
  return { name, buildRoot, testFilePrefix, mockPrefix, useMocks, useTestPreprocessor, useExceptions,
           useAssembly, cleanOnConfigChange, compileThreads, testThreads }

/-- Applies a paths block; a null list empties its setting. -/
def applyPaths (b : Body) (p : Paths) : Except Fault Paths := do
  let (c, ds) := b.content pathsSchema
  let list (name : String) (cur : List String) : List String × Diags :=
    let (v, d) := decodeField c name Expr.decodeStrings (some cur)
    (v.getD [], d)
  let (includes, d1) := list "include" p.includes
  let (libraries, d2) := list "libraries" p.libraries
  let (source, d3) := list "source" p.source
  let (support, d4) := list "support" p.support
  let (test, d5) := list "test" p.test
  checkSection "paths" (ds ++ d1 ++ d2 ++ d3 ++ d4 ++ d5)
  return { test, source, includes, support, libraries }

def applyExtensions (b : Body) (e : Extensions) : Except Fault Extensions := do
  let (c, ds) := b.content extensionSchema
  let (assembly, d1) := decodeField c "assembly" Expr.decodeString e.assembly
  let (dependencies, d2) := decodeField c "dependencies" Expr.decodeString e.dependencies
  let (executable, d3) := decodeField c "executable" Expr.decodeString e.executable
  let (header, d4) := decodeField c "header" Expr.decodeString e.header
  let (object, d5) := decodeField c "object" Expr.decodeString e.object
  let (source, d6) := decodeField c "source" Expr.decodeString e.source
  let (testFail, d7) := decodeField c "testfail" Expr.decodeString e.testFail
  let (testPass, d8) := decodeField c "testpass" Expr.decodeString e.testPass
  checkSection "extension" (ds ++ d1 ++ d2 ++ d3 ++ d4 ++ d5 ++ d6 ++ d7 ++ d8)
  return { source, header, assembly, object, executable, dependencies, testPass, testFail }

def applyVendor (b : Body) (v : Vendor) : Except Fault Vendor := do
  let (c, ds) := b.content vendorSchema
  let (cexception, d1) := decodeField c "c_exception" Expr.decodeString v.cexception
  let (cmock, d2) := decodeField c "cmock" Expr.decodeString v.cmock
  let (unity, d3) := decodeField c "unity" Expr.decodeString v.unity
  checkSection "vendor" (ds ++ d1 ++ d2 ++ d3)
  return { unity, cmock, cexception }

/-- An argument written as an object: its pattern and the collection it ranges over. -/
def patternArgument (attrs : List (String × Value)) : Except String Argument :=
  match attrs.lookup "pattern", attrs.lookup "collection" with
  | some (.str p), some (.str c) => .ok (.over p c)
  | some (.str _), _ => .error "pattern argument needs a string 'collection'"
  | _, _ => .error "pattern argument needs a string 'pattern'"

/-- The tool of a tool block; its arguments are a list of strings and pattern objects. -/
def ToolBlock.toTool (t : ToolBlock) : Except Fault Tool := do
  let path := "tools." ++ t.name
  let tool : Tool := { name := t.name, executable := t.executable, redirect := t.redirect,
                       optional := t.optional }
  if !t.arguments.isWritten then return tool
  let (v, ds) := t.arguments.value
  checkSection (path ++ ".arguments") ds
  let items ← match v with
    | .null _ => return tool
    | .tuple items | .list _ items => pure items
    | _ => failConfig (path ++ ".arguments") "must be a list"
  let args ← items.zipIdx.mapM fun (item, i) =>
    let argPath := path ++ ".arguments[" ++ toString i ++ "]"
    match item with
    | .str s => .ok (Argument.lit s)
    | .object attrs | .map _ attrs => (patternArgument attrs).mapError (.config argPath)
    | _ => failConfig argPath "must be a string or an object with pattern and collection"
  return { tool with arguments := args }

def TableBlock.toTable (t : TableBlock) (name : String) (fallback : Rules.Mode) : Except Fault Table := do
  let mode ← (parseMode t.mode fallback).mapError (.config (name ++ ".mode"))
  let rules ← t.rules.mapM fun r => do
    if !r.values.isWritten then return { key := r.key, values := none }
    let (v, ds) := r.values.value
    let fail (why : String) : Fault := .config name ("rule '" ++ r.key ++ "': " ++ why)
    if !ds.isEmpty then throw (fail (diagnosticsText ds))
    let values ← v.asStrings.mapError fail
    return { key := r.key, values := some values }
  return { name, mode, rules }

/-- The environment entry of an environment block. -/
def EnvBlock.toEntry (e : EnvBlock) : Except Fault EnvVar := do
  let path := "environment." ++ e.name
  let (v, ds) := e.value.value
  checkSection path ds
  let values ← v.asStrings.mapError (.config path)
  return { name := e.name, values }

/-- Sets the variables of a vars block, in order of their names. -/
def applyVars (b : Body) (vars : List (String × Value)) : Except Fault (List (String × Value)) := do
  let (attrs, ds) := b.justAttributes
  checkSection "vars" ds
  let named := sortNames (attrs.map (·.name))
  named.foldlM (fun acc name => do
    match attrs.find? (·.name == name) with
    | none => return acc
    | some a =>
      let (v, ds) := a.expr.value
      checkSection ("vars." ++ name) ds
      return setEntry acc name v) vars

/-- Applies a settings block, when the file has one, over the settings of its section. -/
def applyBlock (apply : Body → α → Except Fault α) : Option Body → α → Except Fault α
  | some body, cur => apply body cur
  | none, cur => pure cur

/-- The model with a file's body applied: every block is checked first, then the sections are
applied in order. -/
def applyHclBody (m : Model) (b : Body) : Except Fault Model := do
  let (root, ds) := readRoot b
  if !ds.isEmpty then throw (.config "" ("failed to decode HCL: " ++ diagnosticsText ds))
  let project ← applyBlock applyProject root.project m.project
  let paths ← applyBlock applyPaths root.paths m.paths
  let extensions ← applyBlock applyExtensions root.extension m.extensions
  let vendor ← applyBlock applyVendor root.vendor m.vendor
  let tools ← root.tools.foldlM (fun acc t => do
    let tool ← t.toTool
    return setEntry acc tool.name tool) m.tools
  let flags ← root.flags.foldlM (fun acc f => do
    let ctx := f.labels.headD ""
    let op := f.labels.getD 1 ""
    let table ← f.toTable ("flags." ++ ctx ++ "." ++ op) .firstMatch
    return setEntry acc ctx (setEntry ((acc.lookup ctx).getD []) op table)) m.flags
  let defines ← root.defines.foldlM (fun acc d => do
    let name := d.labels.headD ""
    let table ← d.toTable ("defines." ++ name) .firstMatch
    return setEntry acc name table) m.defines
  let matchers ← root.matchers.foldlM (fun acc d => do
    let name := d.labels.headD ""
    let table ← d.toTable ("matchers." ++ name) .union
    return setEntry acc name table) m.matchers
  let environment ← root.environment.foldlM (fun acc e => do
    return acc ++ [← e.toEntry]) m.environment
  let vars ← root.vars.foldlM (fun acc body => applyVars body acc) m.vars
  return { m with project, paths, extensions, vendor, tools, flags, defines, matchers, environment, vars,
                  libraries := root.libraries.getD m.libraries, plugins := root.plugins.getD m.plugins }

/-- Reads the text of a project file over a model; `name` names the file in messages. -/
def applyHcl (m : Model) (name text : String) : Except Fault Model := do
  let (body, ds) := parseConfig name text
  if !ds.isEmpty then throw (.config name ("failed to parse HCL: " ++ diagnosticsText ds))
  applyHclBody m body

/-- The defaults with one project file read over them. -/
def loadHcl (name text : String) : Except Fault Model := do
  let m ← applyHcl {} name text
  return { m with files := m.files ++ [name] }

end TestRig.ProjectFile
