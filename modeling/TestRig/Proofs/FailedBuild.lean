import TestRig.Proofs.Stages

/-!
# A build that fails at a stage

A build loads its tests, then runs its twelve stages in a fixed order, and stops at the first
stage that fails. Nothing of the build runs after that stage: no later stage, no executable,
no fingerprint, no hook after the build. The failure is the stage's own, and it names the stage
and the item of it that failed.

The statements here follow the build from the outside in:

* `runStage_ok`, `runStage_error`: a stage that succeeds leaves the session as it left it; one
  that fails stops the build, after logging the failure;
* `forM_runStage_of_runsThrough`: stages that succeed one after another pass straight through;
* `run_stops_at_failing_stage`: the main theorem, for every schedule of the stages' pools. The
  build ends in the session the failing stage left, with the failure logged, and the failure
  names the stage and an item of it whose step failed; the tests are those the stages before it
  committed.
-/

namespace TestRig.Build.Setup

variable {s : Setup} {σ σ₀ σ₁ σ₂ : Session} {e : Fault}

/-- The session a failing stage leaves, with the failure logged. -/
abbrev stageFailed (σ : Session) : Session :=
  { σ with log := σ.log ++ [⟨.error, "Stage failed."⟩] }

/-! ### One stage -/

lemma runStage_ok {p : String × BuildM Unit} {u u' : Unit} :
    (runStage p).run σ = .ok u σ₁ ↔ p.2.run σ = .ok u' σ₁ := by
  cases u
  cases u'
  simp only [runStage, EStateM.run_bind, attempt_run]
  cases p.2.run σ with
  | ok a σ' => exact ⟨fun h => by cases h; rfl, fun h => by cases h; rfl⟩
  | error e' σ' => exact ⟨nofun, nofun⟩

lemma runStage_error {p : String × BuildM Unit} (h : p.2.run σ = .error e σ₁) :
    (runStage p).run σ = .error e (stageFailed σ₁) := by
  simp only [runStage, EStateM.run_bind, attempt_run, h, answer_error, reached_error, logAt_run]
  rfl

lemma forM_runStage_of_runsThrough {pre : List (String × BuildM Unit)} {us : List Unit}
    (h : RunsThrough Prod.snd pre σ us σ₁) : (pre.forM runStage).run σ = .ok () σ₁ := by
  induction h with
  | nil σ => rfl
  | cons hx _ ih =>
    rw [List.forM_eq_forM, List.forM_cons, EStateM.run_bind, (runStage_ok (u := ())).mpr hx]
    rw [← List.forM_eq_forM]
    exact ih

/-! ### The whole build -/

lemma runStagesOn_error {sched : Schedule} {pre post : List (String × BuildM Unit)} {name : String}
    {stage : BuildM Unit} {us : List Unit} (hsplit : s.stagesOn sched = pre ++ (name, stage) :: post)
    (hpre : RunsThrough Prod.snd pre σ us σ₁) (hfail : stage.run σ₁ = .error e σ₂) :
    (s.runStagesOn sched).run σ = .error e (stageFailed σ₂) := by
  rw [runStagesOn, hsplit, List.forM_eq_forM, List.forM_append, EStateM.run_bind,
    ← List.forM_eq_forM, forM_runStage_of_runsThrough hpre]
  dsimp only
  rw [List.forM_eq_forM, List.forM_cons, EStateM.run_bind,
    runStage_error (p := (name, stage)) hfail]

/-- **A build stops at its first failing stage**, whatever the moves of its pools. When the
tests load and the hooks before the build pass, the stages before one all succeed and that stage
fails, the build fails with that stage's failure, and it ends in the session the stage left,
with the failure logged: no later stage or toolchain step runs, the fingerprint is not recorded
and no hook after the build runs. The failure names the stage and an item of it whose step
failed, run from a session the stage passed through, and the tests are those the stages before
it committed: the updates of the failing stage are discarded. -/
theorem run_stops_at_failing_stage (hts : s.toolchain.LeavesTests) (sched : Schedule)
    {files : List String} {pre post : List (String × BuildM Unit)} {name : String}
    {stage : BuildM Unit} {us : List Unit} (hstart : (s.start files).run σ = .ok () σ₀)
    (hsplit : s.stagesOn sched = pre ++ (name, stage) :: post)
    (hpre : RunsThrough Prod.snd pre σ₀ us σ₁) (hfail : stage.run σ₁ = .error e σ₂) :
    (s.runOn sched files).run σ = .error e (stageFailed σ₂) ∧
      (∃ item cause, e = .stage name item cause ∧ s.ItemFails σ₁ name item cause) ∧
      σ₂.tests = σ₁.tests := by
  have hmem : (name, stage) ∈ s.stagesOn sched := by
    rw [hsplit]
    exact List.mem_append_right _ List.mem_cons_self
  obtain ⟨hitem, htests⟩ := stage_error hts hmem hfail
  refine ⟨?_, hitem, htests⟩
  rw [runOn, EStateM.run_bind, hstart]
  dsimp only
  rw [EStateM.run_bind, runStagesOn_error hsplit hpre hfail]

/-- A project of no tests whose configuration names no directories to search. -/
def searchless : Setup where
  model := {}
  snap := ⟨"", .null .dynamic, []⟩
  collections := {}
  toolchain := .scripted (fun _ => .ok "") {}

/-- Without its search paths, a build of no tests stops at resolving the context, with the
stage-wide failure and its empty label, after the two stages before it passed. -/
theorem searchless_build_stops_at_resolution :
    (searchless.runOn .inOrder []).run { files := Files.Tree.empty "/" } =
        .error (.stage stageResolve "" (.config "collections.paths_include" "collection is not defined"))
          (stageFailed { files := Files.Tree.empty "/",
                         log := [⟨.info, "Starting test build."⟩, ⟨.info, "Running stage."⟩,
                                 ⟨.info, "Running stage."⟩] }) ∧
      (∃ item cause, Fault.stage stageResolve ""
          (.config "collections.paths_include" "collection is not defined") =
            .stage stageResolve item cause ∧
        searchless.ItemFails { files := Files.Tree.empty "/",
                               log := [⟨.info, "Starting test build."⟩, ⟨.info, "Running stage."⟩,
                                       ⟨.info, "Running stage."⟩] } stageResolve item cause) ∧
      ([] : List Testable) = [] :=
  run_stops_at_failing_stage (Toolchain.scripted_leavesTests _ _) .inOrder
    (by simp [start, loadTests, searchless, Registry.preBuild] :
      (searchless.start []).run { files := Files.Tree.empty "/" } =
        .ok () { files := Files.Tree.empty "/", log := [⟨.info, "Starting test build."⟩] })
    (rfl : searchless.stagesOn .inOrder =
      (searchless.stagesOn .inOrder).take 2 ++ (stageResolve, _) :: (searchless.stagesOn .inOrder).drop 3)
    (.cons rfl (.cons rfl (.nil _))) rfl

end TestRig.Build.Setup
