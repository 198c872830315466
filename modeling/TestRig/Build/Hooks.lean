import TestRig.Build.Session
import TestRig.Results.Summary

/-!
Hooks: code that plugins register to run at four events of a build, before it, before each
test runs, after each test runs, and after it. A registry holds the hooks in the order they
were registered and runs them in that order. Before an event, the first hook that fails stops
the others and its failure, named by the hook, is the event's; after an event every hook runs
and their failures are reported together.
-/

namespace TestRig.Build

open TestRig.Results

/-- What a hook does at each event it takes part in. -/
structure Hook where
  name : String
  preBuild : Option (List String → BuildM Unit) := none
  preTest : Option (Testable → BuildM Unit) := none
  postTest : Option (Testable → Result → BuildM Unit) := none
  postBuild : Option (Summary → BuildM Unit) := none

/-- A plugin: its name and the hooks it registers. -/
structure Plugin where
  name : String
  hooks : List Hook := []

/-- The hooks of a build, in the order they were registered. -/
structure Registry where
  hooks : List Hook := []

namespace Registry

def names (r : Registry) : List String := r.hooks.map (·.name)

def hookFault (name : String) (e : Fault) : Fault := .wrap ("hook '" ++ name ++ "'") e

/-- Runs a hook's part in an event before something: its failure stops the event. -/
def runBefore (name : String) (act : BuildM Unit) : BuildM Unit := do
  match ← BuildM.attempt act with
  | .ok _ => pure ()
  | .error e => throw (hookFault name e)

/-- Runs every hook's part in an event after something and joins their failures. -/
def runAfter (parts : List (String × BuildM Unit)) : BuildM Unit := do
  let faults ← parts.foldlM (fun acc (name, act) => do
    match ← BuildM.attempt act with
    | .ok _ => pure acc
    | .error e => pure (acc ++ [hookFault name e])) []
  match Fault.join? faults with
  | none => pure ()
  | some f => throw f

/-- Runs the hooks before a build of the tests with these keys. -/
def preBuild (r : Registry) (keys : List String) : BuildM Unit :=
  r.hooks.forM fun h => match h.preBuild with
    | none => pure ()
    | some f => runBefore h.name (f keys)

def preTest (r : Registry) (t : Testable) : BuildM Unit :=
  r.hooks.forM fun h => match h.preTest with
    | none => pure ()
    | some f => runBefore h.name (f t)

def postTest (r : Registry) (t : Testable) (res : Result) : BuildM Unit :=
  runAfter (r.hooks.filterMap fun h => h.postTest.map fun f => (h.name, f t res))

def postBuild (r : Registry) (s : Summary) : BuildM Unit :=
  runAfter (r.hooks.filterMap fun h => h.postBuild.map fun f => (h.name, f s))

/-- The names of the plugins there are, sorted. -/
def pluginNames (available : List Plugin) : List String :=
  (available.map (·.name)).mergeSort (· ≤ ·)

/-- The registry of the plugins named, those always enabled first, each name once. -/
def load (available : List Plugin) (always enabled : List String) : BuildM Registry := do
  let names := (always ++ enabled).foldl (fun acc n => if acc.contains n then acc else acc ++ [n]) []
  let plugins ← names.mapM fun n =>
    match available.find? (·.name == n) with
    | some p => pure p
    | none => throw (.config "plugins" ("unknown plugin '" ++ n ++ "', available: [" ++
        " ".intercalate (pluginNames available) ++ "]"))
  BuildM.logAt .info "Registry loaded successfully."
  return { hooks := plugins.flatMap (·.hooks) }

end Registry

end TestRig.Build
