import TestRig.App.Options
import TestRig.ProjectFile.Load
import TestRig.Build.Run
import TestRig.Build.Plugins
import TestRig.Expression.Eval
import TestRig.Build.Tools

/-!
A run of the application. Loading reads the project file (a directory or a `.hcl` file in the
configuration language, any other file in YAML) and checks the model; the project root is the
directory the project file is in, or the project directory itself.
-/

namespace TestRig.App

open TestRig.Config TestRig.Files TestRig.Build TestRig.Results TestRig.Expression

/-- An application with its project loaded: the options, the project root and the model. -/
structure Loaded where
  options : Options
  root : String
  model : Model

/-- The project file is read in the configuration language: it is a directory or has the
`.hcl` extension in any case. -/
def readsHcl (fs : Tree) (projectFile : String) : Bool :=
  fs.isDir projectFile || Text.toLower (Path.ext projectFile) == ".hcl"

/-- Loads and checks the project the options name. -/
def load (fs : Tree) (o : Options) : Except Fault Loaded := do
  let abs := fs.resolve o.projectFile
  let root := if fs.isDir abs then abs else Path.dir abs
  let loaded := if readsHcl fs o.projectFile then ProjectFile.loadHclFiles fs [o.projectFile]
    else ProjectFile.loadYamlFiles fs [o.projectFile]
  let m ← loaded.mapError (.wrap "failed to load configuration")
  if let some f := m.validate then throw f
  return ⟨o, root, m⟩

/-! ### The environment -/

/-- The value of one environment entry: its values expanded and joined by spaces. -/
def entryValue (snap : Snapshot) (applied : List (String × String)) (e : EnvVar) :
    Except Fault String := do
  let ev := Evaluator.ofSnapshot (snap.withEnv applied)
  let parts ← e.values.mapM fun v =>
    (ev.expand v).mapError fun f => .plain ("environment '" ++ e.name ++ "': " ++ f.message)
  return " ".intercalate (parts.flatten.map unescapeMarkers)

/-- Sets entries in order, from the variables `applied` already set: the variables set, in the
order first set, a later entry of a name replacing the earlier value; or the failure of the first
entry that cannot be set. Also gives the calls made to set a variable of the process. -/
def setEntries (snap : Snapshot) (setenv : String → String → Except String Unit) :
    List (String × String) → List EnvVar →
      Except Fault (List (String × String)) × List (String × String)
  | applied, [] => (.ok applied, [])
  | applied, e :: es =>
    match entryValue snap applied e with
    | .error f => (.error f, [])
    | .ok v =>
      match setenv e.name v with
      | .error why =>
        (.error (.plain ("failed to set environment '" ++ e.name ++ "': " ++ why)), [(e.name, v)])
      | .ok () =>
        let (r, calls) := setEntries snap setenv (setEntry applied e.name v) es
        (r, (e.name, v) :: calls)

/-- The environment module: its entries, the snapshot their markers read, how it sets a variable
of the process, the calls it made to set one, and the result of its first application. -/
structure EnvironmentModule where
  entries : List EnvVar
  snapshot : Snapshot
  setenv : String → String → Except String Unit
  calls : List (String × String) := []
  result : Option (Except Fault (List (String × String))) := none

namespace EnvironmentModule

/-- Sets the entries, in the first application only; every later one gives its result again. -/
def apply (m : EnvironmentModule) : Except Fault (List (String × String)) × EnvironmentModule :=
  match m.result with
  | some r => (r, m)
  | none =>
    let (r, calls) := setEntries m.snapshot m.setenv [] m.entries
    (r, { m with calls := m.calls ++ calls, result := some r })

/-- The hook before the build: applies the environment and gives its failure. -/
def preBuild (m : EnvironmentModule) : Except Fault Unit × EnvironmentModule :=
  let (r, m) := m.apply
  (r.map fun _ => (), m)

/-- The plugin of the module, whose hook runs before the build. -/
def plugin (m : EnvironmentModule) : Plugin :=
  { name := "environment",
    hooks := [{ name := "environment", preBuild := some fun _ => BuildM.lift m.preBuild.1 }] }

end EnvironmentModule

/-! ### Choosing the tests -/

/-- A path from the project root; absolute paths are cleaned. -/
def absolute (root path : String) : String :=
  if Path.isAbs path then Path.clean path else Path.join [root, path]

/-- The tests asked for, each once in the order asked: a name is a test's path, else a test's
key; a name that is neither fails, listing the keys there are. -/
def selectTests (root : String) (requested tests : List String) : Except Fault (List String) :=
  if requested.isEmpty then .ok tests
  else
    let byKey := tests.foldl (fun acc t => setEntry acc (keyFor t) t) []
    let byPath := tests.foldl (fun acc t => setEntry acc (absolute root t) t) []
    requested.foldlM (fun selected name =>
      match (byPath.lookup (absolute root name)).orElse fun _ => byKey.lookup (keyFor name) with
      | some t => .ok (if selected.contains t then selected else selected ++ [t])
      | none => .error (.config "tests" ("no test file matches '" ++ name ++ "', available: [" ++
          " ".intercalate (sortedNames byKey) ++ "]"))) []

/-! ### Running -/

/-- Cleans the build context before a build when asked to, or when the configuration changed
and the project cleans on a change. -/
def prepareContext (a : Loaded) (layout : Layout) (snap : Snapshot) : BuildM Unit := do
  let cmp ← BuildM.lift (Cache.compare (← BuildM.files) layout.cacheDir snap)
  match cmp with
  | .unreadable => BuildM.logAt .warn "Configuration fingerprint is unreadable, treating as changed."
  | .corrupt => BuildM.logAt .warn "Configuration fingerprint is corrupt, treating as changed."
  | _ => pure ()
  let changed := cmp.isChange
  if a.options.clean then BuildM.logAt .info "Cleaning build context."
  else if changed && a.model.project.cleanOnConfigChange then
    BuildM.logAt .info "Configuration changed, cleaning build context."
  else
    if changed then BuildM.logAt .info "Configuration changed since last run, keeping artifacts."
    return
  modify fun s => { s with files := s.files.removeAll layout.contextDir }

/-- The steps of a run, failing before a summary. -/
def Loaded.steps (a : Loaded) (environ : List String)
    (toolchain : Snapshot → List (String × String) → BuildM Toolchain) :
    BuildM (Option Summary × Option Fault) := do
  let m := a.model
  let snap := m.snapshot "test" environ
  -- the environment is set apart from the process: setting a variable never fails
  let (r, env) := EnvironmentModule.apply
    { entries := m.environment, snapshot := snap, setenv := fun _ _ => .ok () }
  let applied ← BuildM.lift (r.mapError fun f => .config "environment" f.message)
  if !applied.isEmpty then BuildM.logAt .info "Applied build environment."
  let snap := snap.withEnv applied
  let hooks ← Registry.load [env.plugin, reportPlugin] ["environment"] m.plugins
  let files ← match (← BuildM.files).discover a.root m with
    | .ok c => pure c
    | .error e => throw (.wrap "failed to collect project files" (.plain e))
  BuildM.logAt .info "Collected project files."
  let selected ← BuildM.lift (selectTests a.root a.options.tests files.tests)
  if selected.isEmpty then
    BuildM.logAt .warn "No test files found, nothing to build."
    return (some { buildOnly := a.options.buildOnly }, none)
  let tc ← toolchain snap applied
  let layout := Layout.ofModel a.root m "test"
  prepareContext a layout snap
  let setup : Setup := { root := a.root, model := m, snap, collections := files, toolchain := tc,
                         hooks, fingerprints := some layout.cacheDir, buildOnly := a.options.buildOnly }
  match ← BuildM.attempt (setup.runOn .timed selected) with
  | .ok (summary, fault) =>
    BuildM.logAt .info "Test build finished."
    return (some summary, fault)
  | .error e => return (none, some e)

/-! ### Tools on the host -/

/-- The variables of an environment list of `NAME=value` entries; later entries of a name
win. -/
def environmentOf (entries : List String) : List (String × String) :=
  entries.foldl (fun acc e =>
    match e.splitOn "=" with
    | name :: rest => (acc.filter (·.1 != name)) ++ [(name, "=".intercalate rest)]
    | [] => acc) []

/-- The environment tool processes run with: the caller's entries, without the names the
project's environment sets, then the names it sets in name order. -/
def processEnvironment (environ : List String) (applied : List (String × String)) :
    List (String × String) :=
  let kept := environ.filter fun kv => !applied.any fun (k, _) => k == (kv.splitOn "=").headD ""
  let names := sortedNames applied
  environmentOf (kept ++ names.map fun k => k ++ "=" ++ (applied.lookup k).getD "")

/-- The toolchain that runs the project's tools on a machine from the project root, once the
tools the model needs are checked. -/
def Loaded.hostToolchain (a : Loaded) (mc : Machine) (environ : List String) (snap : Snapshot)
    (applied : List (String × String)) : BuildM Toolchain := do
  BuildM.lift (validateTools mc a.model a.model.requiredTools)
  return Toolchain.ofHost { machine := mc, dir := a.root, env := processEnvironment environ applied }
    a.model snap

/-- Runs the application with an environment and a toolchain made for the run's snapshot and
applied environment. -/
def Loaded.run (a : Loaded) (environ : List String)
    (toolchain : Snapshot → List (String × String) → BuildM Toolchain) :
    BuildM (Option Summary × Option Fault) := do
  match ← BuildM.attempt (a.steps environ toolchain) with
  | .ok r => return r
  | .error e => return (none, some e)

end TestRig.App
