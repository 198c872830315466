import TestRig.Build.Planning
import TestRig.Build.ObjectState
import TestRig.Cache.Fingerprint
import TestRig.CSource.Runner
import TestRig.Results.File
import TestRig.Results.Summary

/-!
A whole build: the tests are loaded, the hooks before the build run, the stages plan,
generate, compile and link every test, each stage over a pool, the executables run unless the
build stops after building, the results are sorted by test, the configuration fingerprint is recorded
when it is kept, and the hooks after the build run.
-/

namespace TestRig.Results.Summary

/-- Notes what running a test gave: its result, or why it could not be run. -/
def note (summary : Summary) (key : String) : Except Fault Result → Summary
  | .ok r => summary.add r
  | .error e => summary.addError key e.message

end TestRig.Results.Summary

namespace TestRig.Build

open TestRig.Config TestRig.Files TestRig.Text TestRig.CSource TestRig.Results TestRig.Rules

namespace Setup

/-! ### Generating -/

/-- The mocks of every test, labelled `<test>/<mock>`. -/
def mockJobs (tests : List Testable) : List (Testable × MockModule) :=
  tests.flatMap fun t => t.mocks.map fun m => (t, m)

/-- Preprocesses the header a mock is generated from. -/
def preprocessHeader (s : Setup) (job : Testable × MockModule) : BuildM Unit :=
  let (t, m) := job
  s.toolchain.preprocess { test := t.key, source := m.header, output := m.input,
                           flags := t.compileFlags, searchPaths := t.searchPaths,
                           defines := t.preprocessDefines }

def generateMock (job : Testable × MockModule) : BuildM Unit := do
  BuildM.setFiles (← BuildM.lift (job.2.generate (← BuildM.files)))

/-- The label of a mock's item: `<test>/<mock>`. -/
def mockLabel (job : Testable × MockModule) : String := job.1.key ++ "/" ++ job.2.name

def preprocessHeaders (s : Setup) (plan : Plan) : BuildM Unit := do
  if !s.preprocessing || !s.model.project.useMocks then return
  let jobs := mockJobs (← get).tests
  eachItem s.compilePool plan stageHeaders (jobs.map fun job => (mockLabel job, s.preprocessHeader job))

def generateMocks (s : Setup) (plan : Plan) : BuildM Unit := do
  if !s.model.project.useMocks then return
  let jobs := mockJobs (← get).tests
  eachItem s.compilePool plan stageMocks (jobs.map fun job => (mockLabel job, generateMock job))

/-- Preprocesses a test file into the test's preprocess directory. -/
def preprocessTest (s : Setup) (t : Testable) : BuildM Testable := do
  let out := Path.join [t.preprocessDir, Path.base t.file]
  s.toolchain.preprocess { test := t.key, source := t.file, output := out, flags := t.compileFlags,
                           searchPaths := t.searchPaths, defines := t.preprocessDefines }
  return { t with preprocessedFile := out }

def generateRunner (s : Setup) (t : Testable) : BuildM Testable := do
  let spec : RunnerSpec := { testFile := t.file, testCases := t.testCases,
                             mocks := t.mocks.map (·.name),
                             useExceptions := s.model.project.useExceptions }
  BuildM.setFiles (← BuildM.lift (writeGenerated (← BuildM.files) t.runnerSource spec.text))
  return t

/-! ### Artifacts -/

/-- The framework's sources: the test framework's, the mock runtime's when mocks are in use,
and the exception runtime's when exceptions are. -/
def frameworkSources (s : Setup) : List String :=
  let v := s.model.vendor
  [s.abs (Path.join [v.unity, "unity.c"])] ++
    (if s.model.project.useMocks then [s.abs (Path.join [v.cmock, "cmock.c"])] else []) ++
    (if s.model.project.useExceptions then [s.abs (Path.join [v.cexception, "CException.c"])] else [])

/-- The sources of the headers a test includes, other than mocks and the test itself. -/
def includedSources (s : Setup) (t : Testable) : BuildM (List String) := do
  let ext := s.model.extensions
  let mocked := t.mocks.map fun m => Path.base m.header
  let found ← t.includes.mapM fun inc => do
    let base := Path.base inc
    if !inc.endsWith ext.header || base.startsWith s.model.project.mockPrefix || mocked.contains base then
      return []
    let stem := trimSuffix inc ext.header
    let names := [stem ++ ext.source] ++
      (if s.model.project.useAssembly && ext.assembly != "" then [stem ++ ext.assembly] else [])
    let paths ← names.mapM fun name => s.locate t name .ignore
    return paths.filter fun p => p != "" && p != t.file
  return found.flatten

/-- Adds a source unless it is empty or its clean path is there already. -/
def addSource (acc : List SourceFile) (src : SourceFile) : List SourceFile :=
  if src.path == "" || acc.any (fun x => Path.clean x.path == Path.clean src.path) then acc
  else acc ++ [src]

/-- Gives every linked source its object; two sources with one object fail. -/
def assignObjects (s : Setup) (t : Testable) (srcs : List SourceFile) :
    Outcome (List SourceFile × List String) :=
  srcs.foldlM (fun (done, objects) src =>
    if src.noLink then .ok (done ++ [src], objects)
    else
      let obj := Path.join [t.objectDir, keyFor src.path ++ s.model.extensions.object]
      match done.find? (fun d => !d.noLink && d.object == obj) with
      | some other => .error (.graph t.key src.path ("object name collides with '" ++ other.path ++ "'"))
      | none => .ok (done ++ [{ src with object := obj }], objects ++ [obj])) ([], [])

/-- Lists the sources and objects of a test's executable. -/
def resolveArtifacts (s : Setup) (t : Testable) : BuildM Testable := do
  let first : List SourceFile :=
    [{ path := t.compileInput, role := .test }, { path := t.runnerSource, role := .runner }] ++
    t.mocks.map (fun m => { path := m.source, role := .mock }) ++ t.resolved
  let implicit ← s.includedSources t
  let supportNamed ← (lookupIn (s.model.matcher "support") t.file).mapM fun name =>
    s.locate t name .error
  let all := first ++ implicit.map (fun p => { path := p, role := .source }) ++
    s.frameworkSources.map (fun p => { path := p, role := .framework }) ++
    s.collections.support.map (fun p => { path := p, role := .support }) ++
    supportNamed.map (fun p => { path := p, role := .support })
  let srcs := all.foldl addSource []
  let (sources, objects) ← BuildM.lift (s.assignObjects t srcs)
  return { t with sources, objects,
                  executable := Path.join [t.objectDir, t.key ++ s.model.extensions.executable] }

/-! ### Compiling and linking -/

/-- The compile steps of every linked source of every test. -/
def compileSteps (s : Setup) (tests : List Testable) : List CompileStep :=
  let ext := s.model.extensions
  tests.flatMap fun t => (t.sources.filter (!·.noLink)).map fun src =>
    let assembly := s.model.project.useAssembly && ext.assembly != "" && src.path.endsWith ext.assembly
    { test := t.key, source := src.path, object := src.object,
      depFile := trimSuffix src.object ext.object ++ ext.dependencies,
      flags := if assembly then t.assembleFlags else t.compileFlags,
      searchPaths := t.searchPaths, defines := t.defines }

/-- Compiles one step unless its object is up to date: the object and its digest, empty when
the digest cannot be taken. -/
def compileOne (s : Setup) (state : ObjectState) (step : CompileStep) : BuildM (String × String) := do
  let line ← match s.toolchain.compileLine step with
    | .ok l => pure l
    | .error e => throw (.stage stageCompile step.label e)
  match objectDigest (← BuildM.files) line step.source step.depFile with
  | .ok d => if state.upToDate (← BuildM.files) step.object d then return (step.object, d)
  | .error _ => pure ()
  match ← BuildM.attempt (s.toolchain.compile step) with
  | .error e => throw (.stage stageCompile step.label e)
  | .ok _ => pure ()
  match objectDigest (← BuildM.files) line step.source step.depFile with
  | .ok d => return (step.object, d)
  | .error _ => return (step.object, "")

/-- Compiles every object that is not up to date and saves the object state. -/
def compileObjectsOn (s : Setup) (plan : Plan) : BuildM Unit := do
  let steps := s.compileSteps (← get).tests
  let (state, warning) := ObjectState.load (← BuildM.files) s.layout.objectState
  if let some w := warning then BuildM.logAt .warn w
  BuildM.logAt .info "Running stage."
  let done ← mapItems s.compilePool plan steps (s.compileOne state)
  let state := state.recordBuilt done
  match state.save (← BuildM.files) with
  | .ok fs => BuildM.setFiles fs
  | .error _ => BuildM.logAt .warn "Failed to save object cache."

/-- The compile stage with its pool on its own: its steps compiled one at a time, in order. -/
def compileObjects (s : Setup) : BuildM Unit := s.compileObjectsOn (.given [])

def linkTest (s : Setup) (t : Testable) : BuildM Testable := do
  s.toolchain.link { test := t.key, objects := t.objects, executable := t.executable, flags := t.linkFlags }
  return t

/-! ### Running -/

/-- Stores a test's result in its result files: the path written or why it could not be, the
files being left as the store left them. -/
def storeResult (r : Result) (t : Testable) : BuildM (Except String String) := do
  let stored := r.store t.resultPass t.resultFail (← BuildM.files)
  BuildM.setFiles stored.2
  return stored.1

/-- Stores the result of a test that ran and runs the hooks after it. -/
def recordResult (s : Setup) (t : Testable) (r : Result) : BuildM Result := do
  if let .error w ← storeResult r t then throw (.plain w)
  if let .error e ← BuildM.attempt (s.hooks.postTest t r) then throw (.wrap "post-test hook failed" e)
  return r

/-- Runs a test's executable and records its result. -/
def runTest (s : Setup) (t : Testable) : BuildM Result := do
  if let .error e ← BuildM.attempt (s.hooks.preTest t) then throw (.wrap "pre-test hook failed" e)
  match ← BuildM.attempt (s.toolchain.execute { test := t.key, executable := t.executable }) with
  | .error e =>
    match ← storeResult (Result.unrunnable t.key t.file e.message) t with
    | .ok _ => throw e
    | .error w => throw (.joined [e, .plain w])
  | .ok run =>
    let r := Result.ofRun t.key t.file run
    if r.crashed then BuildM.logAt .warn "Test executable terminated abnormally."
    s.recordResult t r

/-- Runs every test's executable on the test pool, whatever the others give, and notes in item
order what each gave: its result, or why it could not be run, which is logged. -/
def execute (s : Setup) (plan : Plan) : BuildM Summary := do
  let tests := (← get).tests
  BuildM.logAt .info "Running stage."
  let outcomes ← collectItems s.testPool plan tests s.runTest
  (tests.zip outcomes).foldlM (fun summary (t, outcome) => do
    if let .error _ := outcome then BuildM.logAt .warn "Test could not be executed."
    return summary.note t.key outcome) { buildOnly := s.buildOnly }

/-! ### The whole build -/

/-- Loads one more test file: a file named before counts once, and a file whose key another
file has is a failure, after which nothing more is loaded. -/
def loadStep : List Testable × Option Fault → String → List Testable × Option Fault
  | (ts, some e), _ => (ts, some e)
  | (ts, none), f =>
    let key := keyFor f
    match ts.find? (·.key == key) with
    | some prior =>
      if Path.clean prior.file == Path.clean f then (ts, none)
      else (ts, some (.stage stagePaths key (.graph key f ("test name is also used by '" ++ prior.file ++ "'"))))
    | none => (ts ++ [{ key, file := f }], none)

/-- The tests of the test files, by key and sorted; a file named twice counts once, and two
files with one key are a failure, which leaves the tests loaded before it. -/
def loadTests (files : List String) : List Testable × Option Fault :=
  let loaded := files.foldl loadStep ([], none)
  (loaded.1.mergeSort fun a b => a.key ≤ b.key, loaded.2)

/-- The stages of a build, in order, each with its name, their pools moving as the schedule
says. -/
def stagesOn (s : Setup) (sched : Schedule) : List (String × BuildM Unit) :=
  let each (name : String) (f : Testable → BuildM Testable) :=
    (name, eachTest s.compilePool (sched name) name f)
  [each stagePaths s.preparePaths,
   each stageDirectives s.readTestDirectives,
   (stageResolve, do
     let base ← match s.baseSearchPaths with
       | .ok b => pure b
       | .error e => throw (.stage stageResolve "" e)
     eachTest s.compilePool (sched stageResolve) stageResolve fun t => pure (s.resolveContext base t)),
   each stageExtract readTestContext,
   each stagePlan s.plan,
   (stageHeaders, s.preprocessHeaders (sched stageHeaders)),
   (stageMocks, s.generateMocks (sched stageMocks)),
   (stagePreprocess, if s.preprocessing then (each stagePreprocess s.preprocessTest).2 else pure ()),
   each stageRunners s.generateRunner,
   each stageArtifacts s.resolveArtifacts,
   (stageCompile, s.compileObjectsOn (sched stageCompile)),
   each stageLink s.linkTest]

/-- Loads the tests of the test files given, or of every test of the project when none are
given, and runs the hooks before the build. -/
def start (s : Setup) (testFiles : List String) : BuildM Unit := do
  let files := if testFiles.isEmpty then s.collections.tests else testFiles
  let (tests, loadFault) := loadTests files
  modify fun st => { st with tests }
  if let some e := loadFault then throw e
  BuildM.logAt .info "Starting test build."
  if let .error e ← BuildM.attempt (s.hooks.preBuild (tests.map (·.key))) then
    throw (.wrap "pre-build hook failed" e)

/-- Runs a named stage; its failure is logged and stops the build. -/
def runStage (stage : String × BuildM Unit) : BuildM Unit := do
  if let .error e ← BuildM.attempt stage.2 then
    BuildM.logAt .error "Stage failed."
    throw e

/-- Runs the stages in order; the first that fails stops the build with its failure. -/
def runStagesOn (s : Setup) (sched : Schedule) : BuildM Unit := (s.stagesOn sched).forM runStage

/-- Records the configuration fingerprint when it is kept and runs the hooks after the build:
the failure of either, which the build reports beside its summary. -/
def conclude (s : Setup) (summary : Summary) : BuildM (Option Fault) := do
  if let some dir := s.fingerprints then
    match Cache.record (← BuildM.files) dir s.snap with
    | .ok (fs, _, _) => BuildM.setFiles fs
    | .error e => return some (.wrap "failed to record configuration fingerprint" e)
  if let .error e ← BuildM.attempt (s.hooks.postBuild summary) then
    return some (.wrap "post-build hook failed" e)
  BuildM.logAt .info "Test build finished."
  return none

/-- Builds the test files given, or every test of the project when none are given, the pools
moving as the schedule says: the summary, with the failure of a step after the results were
in. -/
def runOn (s : Setup) (sched : Schedule) (testFiles : List String) :
    BuildM (Summary × Option Fault) := do
  s.start testFiles
  s.runStagesOn sched
  let summary ← if s.buildOnly then pure { buildOnly := true } else s.execute (sched stageExecute)
  let summary := summary.sort
  return (summary, ← s.conclude summary)

/-- A build whose pools go on by themselves: every stage's items run one at a time, in order. -/
def run (s : Setup) (testFiles : List String) : BuildM (Summary × Option Fault) :=
  s.runOn .inOrder testFiles

end Setup

end TestRig.Build
