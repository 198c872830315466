import TestRig.Proofs.StagePools

/-!
# Stages of a build

A stage maps a step over its items on a worker pool. A stage over tests replaces the tests by
the steps' updates only when every step got through; a stage over labelled items runs each
item. This module states what they give (`eachTest_ok`, `eachTest_error`, `eachItem_error`),
that a failing stage over tests leaves the tests as they were when its steps leave them alone
(`eachTest_error_tests`), and which item a failing stage of a build names (`ItemFails`,
`stage_error`): one whose step failed, run from a session the stage passed through, whatever
the moves of its pool.
-/

namespace TestRig.Build

variable {stage label : String} {f : Testable → BuildM Testable} {σ σ' : Session}
  {e : Executor} {plan : Plan}

/-! ### Labelled steps -/

section Labelled

variable {x : BuildM α}

@[simp] lemma labelled_run (x : BuildM α) (σ : Session) :
    (labelled stage label x).run σ = match x.run σ with
      | .ok a σ' => .ok a σ'
      | .error err σ' => .error (.stage stage label err) σ' := by
  simp only [labelled, EStateM.run, tryCatch, tryCatchThe, MonadExceptOf.tryCatch,
    EStateM.tryCatch]
  cases x σ <;> rfl

@[simp] lemma effect_labelled (x : BuildM α) : effect (labelled stage label x) = effect x := by
  funext σ
  simp only [effect, labelled_run]
  cases x.run σ <;> rfl

lemma labelled_ok {a : α} : (labelled stage label x).run σ = .ok a σ' ↔ x.run σ = .ok a σ' := by
  rw [labelled_run]
  cases x.run σ <;> simp

lemma labelled_error {err : Fault} (h : (labelled stage label x).run σ = .error err σ') :
    ∃ cause, err = .stage stage label cause ∧ x.run σ = .error cause σ' := by
  rw [labelled_run] at h
  cases hx : x.run σ with
  | ok a σ₁ => simp [hx] at h
  | error cause σ₁ =>
    simp only [hx, EStateM.Result.error.injEq] at h
    obtain ⟨rfl, rfl⟩ := h
    exact ⟨cause, rfl, rfl⟩

lemma Keeps.labelled {view : Session → β} (h : Keeps view x) : Keeps view (labelled stage label x) :=
  fun σ => (congrArg view (congrFun (effect_labelled x) σ)).trans (h σ)

end Labelled

lemma logAt_then_error {l : Log.Level} {msg : String} {rest : Unit → BuildM β} {err : Fault}
    (h : (BuildM.logAt l msg >>= rest).run σ = .error err σ') :
    (rest ()).run { σ with log := σ.log ++ [⟨l, msg⟩] } = .error err σ' := by
  rwa [EStateM.run_bind, logAt_run] at h

/-! ### A stage over tests -/

/-- The session a stage's map starts from: the stage's start logged. -/
abbrev stageLogged (σ : Session) : Session := { σ with log := σ.log ++ [⟨.info, "Running stage."⟩] }

lemma eachTest_run_ok {u : Unit} (h : (eachTest e plan stage f).run σ = .ok u σ') :
    ∃ ts σ₁, (mapItems e plan σ.tests fun t => labelled stage t.key (f t)).run (stageLogged σ) =
      .ok ts σ₁ ∧ σ' = { σ₁ with tests := ts } := by
  simp only [eachTest, EStateM.run_bind, EStateM.run_get, logAt_run] at h
  split at h
  · rename_i ts σ₁ hm
    cases h
    exact ⟨ts, σ₁, hm, rfl⟩
  · cases h

/-- **A stage over tests that succeeds** replaces each test by a value its step returned. -/
theorem eachTest_ok {u : Unit} (h : (eachTest e plan stage f).run σ = .ok u σ') :
    ∃ (ts : List Testable) (σ₁ : Session), List.Forall₂ (fun t t' => ∃ σa σb, (f t).run σa = .ok t' σb) σ.tests ts ∧
      σ' = { σ₁ with tests := ts } := by
  obtain ⟨ts, σ₁, hm, rfl⟩ := eachTest_run_ok h
  refine ⟨ts, σ₁, List.Forall₂.imp (fun t t' h => ?_) (mapItems_ok hm), rfl⟩
  obtain ⟨σa, σb, -, hrun⟩ := h
  exact ⟨σa, σb, labelled_ok.mp hrun⟩

/-- **A failing stage over tests fails at one of its tests**: the step of that test, run from a
session the stage passed through, failed, and the failure names the stage and the test. -/
theorem eachTest_error {err : Fault} (h : (eachTest e plan stage f).run σ = .error err σ') :
    ∃ t ∈ σ.tests, ∃ cause σa σb, err = .stage stage t.key cause ∧
      Passes (σ.tests.map fun u => effect (f u)) σ σa ∧ (f t).run σa = .error cause σb := by
  simp only [eachTest, EStateM.run_bind, EStateM.run_get, logAt_run] at h
  split at h
  · cases h
  · rename_i err' σ₁ hm
    cases h
    obtain ⟨t, ht, σa, σb, hpass, hrun⟩ := mapItems_error hm
    obtain ⟨cause, rfl, hf⟩ := labelled_error hrun
    refine ⟨t, ht, cause, σa, σb, rfl, .log ⟨.info, "Running stage."⟩ ?_, hf⟩
    simpa only [effect_labelled] using hpass

/-- A failing stage over tests leaves the tests as they were, when its steps leave them alone:
the updates of the tests that got through are discarded. -/
theorem eachTest_error_tests (hf : ∀ t, KeepsTests (f t)) {err : Fault}
    (h : (eachTest e plan stage f).run σ = .error err σ') : σ'.tests = σ.tests := by
  simp only [eachTest, EStateM.run_bind, EStateM.run_get, logAt_run] at h
  split at h
  · cases h
  · rename_i err' σ₁ hm
    cases h
    exact Keeps.reached_of_run (mapItems_keeps (fun t _ => (hf t).labelled) e plan) hm

/-! ### A stage over labelled items -/

section Items

variable {items : List (String × BuildM Unit)}

/-- A failing stage over items fails at one of them: its step, run from a session the stage
passed through, failed, and the failure names the stage and the item's label. -/
theorem eachItem_error {err : Fault} (h : (eachItem e plan stage items).run σ = .error err σ') :
    ∃ item ∈ items, ∃ cause σa σb, err = .stage stage item.1 cause ∧
      Passes (items.map fun y => effect y.2) σ σa ∧ item.2.run σa = .error cause σb := by
  simp only [eachItem, EStateM.run_bind, logAt_run] at h
  obtain h | ⟨vs, σ₁, -, h₁⟩ := bind_run_error h
  · obtain ⟨⟨label, act⟩, hmem, σa, σb, hpass, hrun⟩ := mapItems_error h
    obtain ⟨cause, rfl, hact⟩ := labelled_error hrun
    refine ⟨(label, act), hmem, cause, σa, σb, rfl, .log ⟨.info, "Running stage."⟩ ?_, hact⟩
    have heff : (items.map fun y => effect (labelled stage y.1 y.2)) = items.map fun y => effect y.2 :=
      List.map_congr_left fun _ _ => effect_labelled _
    rwa [heff] at hpass
  · cases h₁

lemma eachItem_keepsTests (h : ∀ item ∈ items, KeepsTests item.2) :
    KeepsTests (eachItem e plan stage items) :=
  Keeps.bind (KeepsTests.logAt _ _) fun _ => Keeps.bind
    (mapItems_keeps (fun ⟨_, _⟩ hmem => (h _ hmem).labelled) e plan) fun _ => Keeps.pure _

end Items

/-! ### Stage steps leave the tests alone -/

/-- A toolchain whose steps of building leave the tests of a session alone: the tests are the
build's own record, which no tool sees. -/
structure Toolchain.LeavesTests (tc : Toolchain) : Prop where
  compile : ∀ step, KeepsTests (tc.compile step)
  link : ∀ step, KeepsTests (tc.link step)
  preprocess : ∀ step, KeepsTests (tc.preprocess step)

lemma failNamed_keeps {view : Session → β} (errors : List (String × String)) (name : String) :
    Keeps view (failNamed errors name) := by
  unfold failNamed
  split
  · exact Keeps.throw _
  · exact Keeps.pure _

/-- A scripted toolchain notes its steps and writes files; the tests are left alone. -/
theorem Toolchain.scripted_leavesTests (line : CompileStep → Outcome String) (sc : Script) :
    (Toolchain.scripted line sc).LeavesTests where
  compile _ := Keeps.bind (KeepsTests.noteCall _) fun _ =>
    Keeps.bind (failNamed_keeps _ _) fun _ => KeepsTests.change _ _
  link _ := Keeps.bind (KeepsTests.noteCall _) fun _ =>
    Keeps.bind (failNamed_keeps _ _) fun _ => KeepsTests.change _ _
  preprocess _ := Keeps.bind (KeepsTests.noteCall _) fun _ =>
    Keeps.bind (failNamed_keeps _ _) fun _ => Keeps.bind KeepsTests.files fun _ => by
      split
      · exact KeepsTests.change _ _
      · exact Keeps.throw _

namespace Setup

open TestRig.Files TestRig.CSource

section Frames

variable (s : Setup)

lemma locate_keepsTests (t : Testable) (name : String) (policy : Policy) :
    KeepsTests (s.locate t name policy) := by
  refine Keeps.bind (KeepsTests.lift _) fun p => ?_
  split
  · exact Keeps.bind (KeepsTests.logAt _ _) fun _ => Keeps.pure p
  · exact Keeps.pure p

lemma preparePaths_keepsTests (t : Testable) : KeepsTests (s.preparePaths t) := by
  refine Keeps.bind (Keeps.forM fun dir _ => KeepsTests.change _ _) fun _ => ?_
  refine Keeps.bind (Keeps.forM fun stale _ => ?_) fun _ => Keeps.pure _
  refine Keeps.bind KeepsTests.files fun fs => ?_
  split
  · exact KeepsTests.setFiles _
  · split
    · exact Keeps.pure _
    · exact Keeps.throw _

lemma readTestDirectives_keepsTests (t : Testable) : KeepsTests (s.readTestDirectives t) := by
  refine Keeps.bind KeepsTests.files fun fs => Keeps.bind (KeepsTests.lift _) fun d => ?_
  refine Keeps.bind (Keeps.mapM fun name _ => ?_) fun resolved => ?_
  · exact Keeps.bind (s.locate_keepsTests _ _ _) fun p => Keeps.pure _
  refine Keeps.bind KeepsTests.files fun fs =>
    Keeps.bind (Keeps.mapM fun dir _ => ?_) fun _ => Keeps.pure _
  dsimp only
  split
  · exact Keeps.pure _
  · exact Keeps.throw _

lemma readTestContext_keepsTests (t : Testable) : KeepsTests (readTestContext t) := by
  refine Keeps.bind KeepsTests.files fun fs => Keeps.bind (KeepsTests.lift _) fun c => ?_
  exact Keeps.ite (Keeps.bind (KeepsTests.logAt _ _) fun _ => Keeps.pure _) (Keeps.pure _)

lemma plan_keepsTests (t : Testable) : KeepsTests (s.plan t) := by
  dsimp only [Setup.plan]
  refine Keeps.ite (Keeps.pure _) ?_
  refine Keeps.bind (Keeps.foldlM (fun acc inc _ => ?_) _) fun _ => Keeps.pure _
  refine Keeps.ite (Keeps.pure _) (Keeps.ite (Keeps.pure _) ?_)
  exact Keeps.bind (s.locate_keepsTests _ _ _) fun _ => Keeps.pure _

lemma generateRunner_keepsTests (t : Testable) : KeepsTests (s.generateRunner t) :=
  Keeps.bind KeepsTests.files fun _ => Keeps.bind (KeepsTests.lift _) fun _ =>
    Keeps.bind (KeepsTests.setFiles _) fun _ => Keeps.pure _

lemma generateMock_keepsTests (job : Testable × MockModule) : KeepsTests (generateMock job) :=
  Keeps.bind KeepsTests.files fun _ => Keeps.bind (KeepsTests.lift _) fun _ =>
    KeepsTests.setFiles _

lemma generateMocks_keepsTests (plan : Plan) : KeepsTests (s.generateMocks plan) := by
  unfold generateMocks
  refine Keeps.ite (Keeps.pure _) (Keeps.bind KeepsTests.get fun σ => eachItem_keepsTests ?_)
  intro item hitem
  obtain ⟨job, -, rfl⟩ := List.mem_map.mp hitem
  exact generateMock_keepsTests job

lemma includedSources_keepsTests (t : Testable) : KeepsTests (s.includedSources t) := by
  refine Keeps.bind (Keeps.mapM fun inc _ => ?_) fun _ => Keeps.pure _
  dsimp only
  refine Keeps.ite (Keeps.pure _) ?_
  exact Keeps.bind (Keeps.mapM fun name _ => s.locate_keepsTests _ _ _) fun _ => Keeps.pure _

lemma resolveArtifacts_keepsTests (t : Testable) : KeepsTests (s.resolveArtifacts t) := by
  refine Keeps.bind (s.includedSources_keepsTests t) fun _ => ?_
  refine Keeps.bind (Keeps.mapM fun name _ => s.locate_keepsTests _ _ _) fun _ => ?_
  exact Keeps.bind (KeepsTests.lift _) fun _ => Keeps.pure _

variable {s} (hts : s.toolchain.LeavesTests)
include hts

lemma preprocessTest_keepsTests (t : Testable) : KeepsTests (s.preprocessTest t) :=
  Keeps.bind (hts.preprocess _) fun _ => Keeps.pure _

lemma linkTest_keepsTests (t : Testable) : KeepsTests (s.linkTest t) :=
  Keeps.bind (hts.link _) fun _ => Keeps.pure _

lemma preprocessHeaders_keepsTests (plan : Plan) : KeepsTests (s.preprocessHeaders plan) := by
  unfold preprocessHeaders
  refine Keeps.ite (Keeps.pure _) (Keeps.bind KeepsTests.get fun σ => eachItem_keepsTests ?_)
  intro item hitem
  obtain ⟨job, -, rfl⟩ := List.mem_map.mp hitem
  exact hts.preprocess _

lemma compileOne_keepsTests (state : ObjectState) (step : CompileStep) :
    KeepsTests (s.compileOne state step) := by
  unfold compileOne
  -- the do block names its continuations; each is shown to keep the tests once
  extract_lets checked
  have hchecked : ∀ line, KeepsTests (checked line) := by
    intro line
    refine Keeps.bind KeepsTests.files fun fs => ?_
    extract_lets digested compiled
    have hdigested : ∀ u, KeepsTests (digested u) := fun u =>
      Keeps.bind KeepsTests.files fun fs => by split <;> exact Keeps.pure _
    have hcompiled : ∀ u, KeepsTests (compiled u) := fun u => by
      refine Keeps.bind (Keeps.attempt (hts.compile step)) fun r => ?_
      split
      · exact Keeps.bind (Keeps.throw _) hdigested
      · exact hdigested ()
    split
    · exact Keeps.bind KeepsTests.files fun fs => Keeps.ite (Keeps.pure _) (hcompiled ())
    · exact hcompiled ()
  split
  · exact Keeps.bind (Keeps.pure _) hchecked
  · exact Keeps.bind (Keeps.throw _) hchecked

lemma compileObjectsOn_keepsTests (plan : Plan) : KeepsTests (s.compileObjectsOn plan) := by
  unfold compileObjectsOn
  refine Keeps.bind KeepsTests.get fun σ => Keeps.bind KeepsTests.files fun fs => ?_
  split
  extract_lets saved
  have hsaved : ∀ u, KeepsTests (saved u) := fun u =>
    Keeps.bind (KeepsTests.logAt _ _) fun _ =>
      Keeps.bind (mapItems_keeps (fun step _ => compileOne_keepsTests hts _ _) _ _) fun done =>
        Keeps.bind KeepsTests.files fun fs => by
          split
          · exact KeepsTests.setFiles _
          · exact KeepsTests.logAt _ _
  split
  · exact Keeps.bind (KeepsTests.logAt _ _) hsaved
  · exact hsaved ()

end Frames

/-! ### Which item a failing stage names -/

/-- The stages whose items are the tests, each with the step it runs on a test. -/
def testSteps (s : Setup) : List (String × (Testable → BuildM Testable)) :=
  [(stagePaths, s.preparePaths), (stageDirectives, s.readTestDirectives),
   (stageExtract, readTestContext), (stagePlan, s.plan), (stagePreprocess, s.preprocessTest),
   (stageRunners, s.generateRunner), (stageArtifacts, s.resolveArtifacts), (stageLink, s.linkTest)]

/-- The stages whose items are the mocks of the tests, each with the step it runs on a mock. -/
def mockSteps (s : Setup) : List (String × (Testable × MockModule → BuildM Unit)) :=
  [(stageHeaders, s.preprocessHeader), (stageMocks, generateMock)]

/-- The object state the compile stage reads, loaded from the files it starts with. -/
def loadedState (s : Setup) (σ : Session) : ObjectState :=
  (ObjectState.load σ.files s.layout.objectState).1

/-- The item labelled `item` of the stage `name`, started from `σ`, failed with `cause`: its
step, run from a session the stage passed through, failed; or, for the stage-wide item of
context resolution, the search paths could not be found. -/
inductive ItemFails (s : Setup) (σ : Session) : String → String → Fault → Prop
  | test {name : String} {f : Testable → BuildM Testable} {t : Testable} {σa σb : Session}
      {cause : Fault} (hf : (name, f) ∈ s.testSteps) (ht : t ∈ σ.tests)
      (hpass : Passes (σ.tests.map fun u => effect (f u)) σ σa)
      (hrun : (f t).run σa = .error cause σb) : ItemFails s σ name t.key cause
  | mock {name : String} {act : Testable × MockModule → BuildM Unit} {job : Testable × MockModule}
      {σa σb : Session} {cause : Fault} (hact : (name, act) ∈ s.mockSteps)
      (hjob : job ∈ mockJobs σ.tests)
      (hpass : Passes ((mockJobs σ.tests).map fun j => effect (act j)) σ σa)
      (hrun : (act job).run σa = .error cause σb) : ItemFails s σ name (mockLabel job) cause
  | compile {step : CompileStep} {σa σb : Session} {cause : Fault}
      (hstep : step ∈ s.compileSteps σ.tests)
      (hpass : Passes ((s.compileSteps σ.tests).map fun st => effect (s.compileOne (s.loadedState σ) st))
        σ σa)
      (hrun : (s.compileOne (s.loadedState σ) step).run σa =
        .error (.stage stageCompile step.label cause) σb) :
      ItemFails s σ stageCompile step.label cause
  | searchPaths {cause : Fault} (h : s.baseSearchPaths = .error cause) :
      ItemFails s σ stageResolve "" cause

variable {s : Setup} {name : String}

lemma testStage_error {f : Testable → BuildM Testable} (hf : (name, f) ∈ s.testSteps)
    (hkeep : ∀ t, KeepsTests (f t)) {err : Fault}
    (h : (eachTest e plan name f).run σ = .error err σ') :
    (∃ item cause, err = .stage name item cause ∧ s.ItemFails σ name item cause) ∧
      σ'.tests = σ.tests := by
  obtain ⟨t, ht, cause, σa, σb, rfl, hpass, hrun⟩ := eachTest_error h
  exact ⟨⟨t.key, cause, rfl, .test hf ht hpass hrun⟩, eachTest_error_tests hkeep h⟩

lemma mockStage_error {act : Testable × MockModule → BuildM Unit} (hact : (name, act) ∈ s.mockSteps)
    (hkeep : ∀ job, KeepsTests (act job)) {err : Fault}
    (h : (eachItem e plan name ((mockJobs σ.tests).map fun job => (mockLabel job, act job))).run σ =
      .error err σ') :
    (∃ item cause, err = .stage name item cause ∧ s.ItemFails σ name item cause) ∧
      σ'.tests = σ.tests := by
  have hkeeps : KeepsTests (eachItem e plan name ((mockJobs σ.tests).map fun job =>
      (mockLabel job, act job))) := eachItem_keepsTests fun item hitem => by
    obtain ⟨job, -, rfl⟩ := List.mem_map.mp hitem
    exact hkeep job
  have htests := Keeps.reached_of_run hkeeps h
  obtain ⟨item, hitem, cause, σa, σb, rfl, hpass, hrun⟩ := eachItem_error h
  obtain ⟨job, hjob, rfl⟩ := List.mem_map.mp hitem
  rw [List.map_map] at hpass
  exact ⟨⟨mockLabel job, cause, rfl, .mock hact hjob hpass hrun⟩, htests⟩

lemma compileOne_failsOnly (state : ObjectState) (step : CompileStep) :
    FailsOnly (fun e => ∃ cause, e = .stage stageCompile step.label cause)
      (s.compileOne state step) := by
  unfold compileOne
  extract_lets checked
  have hchecked : ∀ line,
      FailsOnly (fun e => ∃ cause, e = .stage stageCompile step.label cause) (checked line) := by
    intro line
    refine FailsOnly.bind FailsOnly.files fun fs => ?_
    extract_lets digested compiled
    have hdigested : ∀ u,
        FailsOnly (fun e => ∃ cause, e = .stage stageCompile step.label cause) (digested u) := fun u =>
      FailsOnly.bind FailsOnly.files fun fs => by split <;> exact FailsOnly.pure _
    have hcompiled : ∀ u,
        FailsOnly (fun e => ∃ cause, e = .stage stageCompile step.label cause) (compiled u) := fun u => by
      refine FailsOnly.bind (FailsOnly.attempt _) fun r => ?_
      split
      · exact FailsOnly.bind (FailsOnly.throw ⟨_, rfl⟩) hdigested
      · exact hdigested ()
    split
    · exact FailsOnly.bind FailsOnly.files fun fs =>
        FailsOnly.ite (FailsOnly.pure _) (hcompiled ())
    · exact hcompiled ()
  split
  · exact FailsOnly.bind (FailsOnly.pure _) hchecked
  · exact FailsOnly.bind (FailsOnly.throw ⟨_, rfl⟩) hchecked

lemma compileObjectsOn_error (hts : s.toolchain.LeavesTests) {err : Fault}
    (h : (s.compileObjectsOn plan).run σ = .error err σ') :
    (∃ item cause, err = .stage stageCompile item cause ∧ s.ItemFails σ stageCompile item cause) ∧
      σ'.tests = σ.tests := by
  refine ⟨?_, Keeps.reached_of_run (compileObjectsOn_keepsTests hts plan) h⟩
  simp only [compileObjectsOn, EStateM.run_bind, EStateM.run_get, files_run] at h
  rw [show (ObjectState.load σ.files s.layout.objectState).1 = s.loadedState σ from rfl] at h
  -- the map starts once the warning of the object state and the stage's start are logged
  have hmap : ∀ σl (rest : List (String × String) → BuildM Unit),
      (∀ done σ₁, ∃ σ₂, (rest done).run σ₁ = .ok () σ₂) →
      (mapItems s.compilePool plan (s.compileSteps σ.tests) (s.compileOne (s.loadedState σ)) >>= rest).run σl =
        .error err σ' →
      Passes ((s.compileSteps σ.tests).map fun st => effect (s.compileOne (s.loadedState σ) st)) σ σl →
      ∃ item cause, err = .stage stageCompile item cause ∧ s.ItemFails σ stageCompile item cause := by
    intro σl rest hrest hm hl
    obtain hm | ⟨done, σ₁, -, h₁⟩ := bind_run_error hm
    · obtain ⟨step, hstep, σa, σb, hpass, hrun⟩ := mapItems_error hm
      -- naming the failure rather than substituting it keeps the kernel's check small
      obtain ⟨cause, hcause⟩ := compileOne_failsOnly (s.loadedState σ) step _ _ _ hrun
      exact ⟨step.label, cause, hcause, .compile hstep (hl.trans hpass) (hcause ▸ hrun)⟩
    · obtain ⟨σ₂, h₂⟩ := hrest done σ₁
      rw [h₂] at h₁
      cases h₁
  split at h
  -- in both cases, saving the object state after the map never fails
  · refine hmap _ _ (fun done σ₁ => ?_) (logAt_then_error (logAt_then_error h))
      (.log _ (.log _ (.refl _)))
    simp only [EStateM.run_bind, files_run]
    split <;> exact ⟨_, rfl⟩
  · refine hmap _ _ (fun done σ₁ => ?_) (logAt_then_error h) (.log _ (.refl _))
    simp only [EStateM.run_bind, files_run]
    split <;> exact ⟨_, rfl⟩

/-- **A failing stage of a build fails at one of its items**, whatever the moves of its pool:
its failure names the stage and an item whose step failed in it, and the tests are left as the
stages before it committed them. -/
theorem stage_error (hts : s.toolchain.LeavesTests) {sched : Schedule} {stage : BuildM Unit}
    (hmem : (name, stage) ∈ s.stagesOn sched) {err : Fault} (h : stage.run σ = .error err σ') :
    (∃ item cause, err = .stage name item cause ∧ s.ItemFails σ name item cause) ∧
      σ'.tests = σ.tests := by
  simp only [stagesOn, List.mem_cons, Prod.mk.injEq, List.not_mem_nil, or_false] at hmem
  rcases hmem with ⟨rfl, rfl⟩ | ⟨rfl, rfl⟩ | ⟨rfl, rfl⟩ | ⟨rfl, rfl⟩ | ⟨rfl, rfl⟩ | ⟨rfl, rfl⟩ |
    ⟨rfl, rfl⟩ | ⟨rfl, rfl⟩ | ⟨rfl, rfl⟩ | ⟨rfl, rfl⟩ | ⟨rfl, rfl⟩ | ⟨rfl, rfl⟩
  · exact testStage_error (by simp [testSteps]) s.preparePaths_keepsTests h
  · exact testStage_error (by simp [testSteps]) s.readTestDirectives_keepsTests h
  · -- the search paths are found once, before any test is visited
    cases hbase : s.baseSearchPaths with
    | error cause =>
      simp only [hbase, EStateM.run_bind] at h
      cases h
      exact ⟨⟨"", cause, rfl, .searchPaths hbase⟩, rfl⟩
    | ok base =>
      simp only [hbase, EStateM.run_bind, EStateM.run_pure] at h
      -- resolving the context of a test never fails
      obtain ⟨t, -, cause, σa, σb, -, -, hrun⟩ := eachTest_error h
      cases hrun
  · exact testStage_error (by simp [testSteps]) readTestContext_keepsTests h
  · exact testStage_error (by simp [testSteps]) s.plan_keepsTests h
  · unfold preprocessHeaders at h
    split at h
    · cases h
    · rw [EStateM.run_bind, EStateM.run_get] at h
      exact mockStage_error (by simp [mockSteps]) (fun ⟨_, _⟩ => hts.preprocess _) h
  · unfold generateMocks at h
    split at h
    · cases h
    · rw [EStateM.run_bind, EStateM.run_get] at h
      exact mockStage_error (by simp [mockSteps]) generateMock_keepsTests h
  · split at h
    · exact testStage_error (by simp [testSteps]) (preprocessTest_keepsTests hts) h
    · cases h
  · exact testStage_error (by simp [testSteps]) s.generateRunner_keepsTests h
  · exact testStage_error (by simp [testSteps]) s.resolveArtifacts_keepsTests h
  · exact compileObjectsOn_error hts h
  · exact testStage_error (by simp [testSteps]) (linkTest_keepsTests hts) h

end Setup

end TestRig.Build
