import TestRig.Proofs.FailedBuild
import TestRig.Proofs.Summary
import Mathlib.Data.List.Nodup

/-!
# Running the tests

After the stages, a build runs every test's executable on the test pool and notes in its
summary, in test order, what each gave: the result, or why the test could not be run. The steps of running a test are the
hooks before it, its executable, the store of its result in the result files, and the hooks
after it; the build's own steps are the store, the others are the toolchain's and the hooks'.

When those other steps are scripted by their own inputs (`Scripted`: they answer the same from
every session and leave the files and the tests alone), what running a test gives depends only
on the files it meets, and `testOutcome` computes it from them. The main statements:

* `testOutcome_error_iff`: a test's outcome is a failure exactly when one of its steps fails
  (`StepFails`);
* `runTest_answer`: running a test answers what `testOutcome` gives from the files as they
  stand, and `runTest_files`: it changes the files only by storing one of its results;
* `execute_run`: whatever the moves of the pool, the tests run one after another in some order,
  each meeting the files the one before it left (`FilesMet`), and the summary notes the
  outcome of each from the files it met;
* `noted_keys_perm`, `mem_notedResults_iff`, `mem_notedErrors_iff`: each test has one entry,
  and when the keys are distinct the entry under a test's key is its own outcome.
-/

namespace TestRig.Build

open TestRig.Files TestRig.Results

/-! ### Steps scripted by their own inputs -/

/-- The answer of a computation from the default session; for a scripted computation, its
answer from every session. -/
def answerOf (m : BuildM α) : Except Fault α := answer (m.run default)

/-- A computation scripted by its own inputs: it answers the same from every session and leaves
the files and the tests alone. -/
structure Scripted (m : BuildM α) : Prop where
  answer_eq : ∀ σ, answer (m.run σ) = answerOf m
  files : Keeps Session.files m
  tests : KeepsTests m

lemma Scripted.run_eq {m : BuildM α} (h : Scripted m) (σ : Session) :
    m.run σ = withAnswer (answerOf m) (reached (m.run σ)) := by
  rw [← h.answer_eq σ]
  exact run_eq_withAnswer _

/-- The steps of a build that are not its own, scripted by their own inputs: the toolchain
leaves the tests alone and runs executables as scripted, the hooks before the build leave the
tests alone, and the hooks around a test are scripted. -/
structure Setup.ScriptedSteps (s : Setup) : Prop where
  toolchain : s.toolchain.LeavesTests
  execute : ∀ step, Scripted (s.toolchain.execute step)
  preBuild : ∀ keys, KeepsTests (s.hooks.preBuild keys)
  preTest : ∀ t, Scripted (s.hooks.preTest t)
  postTest : ∀ t r, Scripted (s.hooks.postTest t r)

lemma failNamed_run (errors : List (String × String)) (name : String) (σ : Session) :
    (failNamed errors name).run σ = match errors.lookup name with
      | some msg => .error (.plain msg) σ
      | none => .ok () σ := by
  unfold failNamed
  cases errors.lookup name <;> rfl

/-- A scripted toolchain runs executables as its script says, from every session alike. -/
theorem Toolchain.scripted_execute (line : CompileStep → Outcome String) (sc : Script)
    (step : ExecStep) : Scripted ((Toolchain.scripted line sc).execute step) where
  answer_eq σ := by
    simp only [Toolchain.scripted, answerOf, EStateM.run_bind, noteCall_run, failNamed_run]
    cases sc.execErrors.lookup step.test <;> rfl
  files := Keeps.bind (fun _ => rfl) fun _ => Keeps.bind (failNamed_keeps _ _) fun _ => Keeps.pure _
  tests := Keeps.bind (KeepsTests.noteCall _) fun _ =>
    Keeps.bind (failNamed_keeps _ _) fun _ => Keeps.pure _

namespace Setup

variable {s : Setup}

/-- A build with a scripted toolchain and no hooks has its steps scripted. -/
theorem scriptedSteps_of_scripted {line : CompileStep → Outcome String} {sc : Script}
    (htool : s.toolchain = .scripted line sc) (hhooks : s.hooks = {}) : s.ScriptedSteps := by
  refine ⟨?_, fun step => ?_, fun keys => ?_, fun t => ?_, fun t r => ?_⟩
  · rw [htool]
    exact Toolchain.scripted_leavesTests _ _
  · rw [htool]
    exact Toolchain.scripted_execute _ _ _
  · rw [hhooks]
    exact fun _ => rfl
  · rw [hhooks]
    exact ⟨fun _ => rfl, fun _ => rfl, fun _ => rfl⟩
  · rw [hhooks]
    exact ⟨fun _ => rfl, fun _ => rfl, fun _ => rfl⟩

/-! ### What running a test gives -/

/-- What recording the result of a test that ran gives from the files `fs`: the failure to
store it, the failure of the hooks after the test, or the result. -/
def recordOutcome (s : Setup) (t : Testable) (r : Result) (fs : Tree) : Except Fault Result :=
  match (r.store t.resultPass t.resultFail fs).1 with
  | .error w => .error (.plain w)
  | .ok _ =>
    match answerOf (s.hooks.postTest t r) with
    | .error e => .error (.wrap "post-test hook failed" e)
    | .ok () => .ok r

/-- What running a test gives from the files `fs`, when its steps are scripted: the failure of
the hooks before it; the failure of its executable, joined with the failure to store the result
of a test that could not be run; or what recording the result of its run gives. -/
def testOutcome (s : Setup) (t : Testable) (fs : Tree) : Except Fault Result :=
  match answerOf (s.hooks.preTest t) with
  | .error e => .error (.wrap "pre-test hook failed" e)
  | .ok () =>
    match answerOf (s.toolchain.execute { test := t.key, executable := t.executable }) with
    | .error e =>
      match ((Result.unrunnable t.key t.file e.message).store t.resultPass t.resultFail fs).1 with
      | .ok _ => .error e
      | .error w => .error (.joined [e, .plain w])
    | .ok run => s.recordOutcome t (Result.ofRun t.key t.file run) fs

/-- A step of running the test fails from the files `fs`: the hooks before it, its executable,
or, for a test that ran, the store of its result or the hooks after it. -/
def StepFails (s : Setup) (t : Testable) (fs : Tree) : Prop :=
  (∃ e, answerOf (s.hooks.preTest t) = .error e) ∨
    (∃ e, answerOf (s.toolchain.execute { test := t.key, executable := t.executable }) = .error e) ∨
    ∃ run, answerOf (s.toolchain.execute { test := t.key, executable := t.executable }) = .ok run ∧
      ((∃ w, ((Result.ofRun t.key t.file run).store t.resultPass t.resultFail fs).1 = .error w) ∨
        ∃ e, answerOf (s.hooks.postTest t (Result.ofRun t.key t.file run)) = .error e)

lemma Result.ofRun_test (test source : String) (run : Run) :
    (Result.ofRun test source run).test = test := by
  unfold Result.ofRun
  split
  split
  dsimp only
  split
  · rfl
  · split <;> rfl

lemma recordOutcome_error_iff {t : Testable} {r : Result} {fs : Tree} :
    (∃ f, s.recordOutcome t r fs = .error f) ↔
      (∃ w, (r.store t.resultPass t.resultFail fs).1 = .error w) ∨
        ∃ e, answerOf (s.hooks.postTest t r) = .error e := by
  unfold recordOutcome
  cases (r.store t.resultPass t.resultFail fs).1 with
  | error w => simp
  | ok path => cases answerOf (s.hooks.postTest t r) <;> simp

theorem testOutcome_error_iff {t : Testable} {fs : Tree} :
    (∃ f, s.testOutcome t fs = .error f) ↔ s.StepFails t fs := by
  unfold testOutcome StepFails
  cases answerOf (s.hooks.preTest t) with
  | error e => simp
  | ok u =>
    cases u
    cases answerOf (s.toolchain.execute { test := t.key, executable := t.executable }) with
    | error e =>
      dsimp only
      -- either way the test fails: the store's own failure only adds to the message
      split <;> simp
    | ok run => simp [recordOutcome_error_iff]

lemma testOutcome_test {t : Testable} {fs : Tree} {r : Result} (h : s.testOutcome t fs = .ok r) :
    r.test = t.key := by
  unfold testOutcome recordOutcome at h
  split at h
  · cases h
  · split at h
    · split at h <;> cases h
    · split at h
      · cases h
      · split at h
        · cases h
        · cases h
          exact Result.ofRun_test ..


/-! ### The tests in turn -/

/-- The files each of the tests meets when they run in turn from the files `fs`: the first
meets `fs`, and each next one the files the one before it left, which are the files that one met
or those with one of its results stored. -/
inductive FilesMet : List Testable → Tree → List Tree → Prop
  | nil (fs : Tree) : FilesMet [] fs []
  | cons {t : Testable} {ts : List Testable} {fs fs' : Tree} {fss : List Tree} :
      (fs' = fs ∨ ∃ r : Result, fs' = (r.store t.resultPass t.resultFail fs).2) →
      FilesMet ts fs' fss → FilesMet (t :: ts) fs (fs :: fss)

lemma FilesMet.length_eq {ts : List Testable} {fs : Tree} {fss : List Tree}
    (h : FilesMet ts fs fss) : fss.length = ts.length := by
  induction h with
  | nil => rfl
  | cons _ _ ih => simp [ih]

/-- The summary `sm` with the outcome of each test, from the files it met, noted in turn. -/
def noteOutcomes (s : Setup) (sm : Summary) : List Testable → List Tree → Summary
  | t :: ts, fs :: fss => s.noteOutcomes (sm.note t.key (s.testOutcome t fs)) ts fss
  | _, _ => sm

/-- The results of the tests that ran, each from the files it met, in the order they ran. -/
def notedResults (s : Setup) (ts : List Testable) (fss : List Tree) : List Result :=
  (ts.zip fss).filterMap fun p => (s.testOutcome p.1 p.2).toOption

/-- The errors of the tests that could not be run, each from the files it met, in order. -/
def notedErrors (s : Setup) (ts : List Testable) (fss : List Tree) : List TestError :=
  (ts.zip fss).filterMap fun p => Summary.errorOf p.1.key (s.testOutcome p.1 p.2)

section Noted

variable {ts : List Testable} {fss : List Tree}

lemma noteOutcomes_results (sm : Summary) (ts : List Testable) (fss : List Tree) :
    (s.noteOutcomes sm ts fss).results = sm.results ++ s.notedResults ts fss := by
  induction ts generalizing sm fss with
  | nil => simp [noteOutcomes, notedResults]
  | cons t ts ih =>
    cases fss with
    | nil => simp [noteOutcomes, notedResults]
    | cons fs fss =>
      rw [noteOutcomes, ih, Summary.note_results]
      simp only [notedResults, List.zip_cons_cons, List.filterMap_cons]
      cases s.testOutcome t fs <;> simp [Except.toOption]

lemma noteOutcomes_errors (sm : Summary) (ts : List Testable) (fss : List Tree) :
    (s.noteOutcomes sm ts fss).errors = sm.errors ++ s.notedErrors ts fss := by
  induction ts generalizing sm fss with
  | nil => simp [noteOutcomes, notedErrors]
  | cons t ts ih =>
    cases fss with
    | nil => simp [noteOutcomes, notedErrors]
    | cons fs fss =>
      rw [noteOutcomes, ih, Summary.note_errors]
      simp only [notedErrors, List.zip_cons_cons, List.filterMap_cons]
      cases s.testOutcome t fs <;> simp [Summary.errorOf]

/-- Each test that ran has one entry, a result or an error, under its key. -/
theorem noted_keys_perm (hlen : fss.length = ts.length) :
    ((s.notedResults ts fss).map (·.test) ++ (s.notedErrors ts fss).map (·.test)).Perm
      (ts.map (·.key)) := by
  induction ts generalizing fss with
  | nil => simp [notedResults, notedErrors]
  | cons t ts ih =>
    cases fss with
    | nil => simp at hlen
    | cons fs fss =>
      have hrest := ih (by simpa using hlen)
      simp only [notedResults, notedErrors, List.zip_cons_cons, List.filterMap_cons,
        List.map_cons] at hrest ⊢
      cases hout : s.testOutcome t fs with
      | ok r =>
        simp only [Except.toOption, Summary.errorOf, List.map_cons, List.cons_append]
        rw [testOutcome_test hout]
        exact hrest.cons _
      | error f =>
        simp only [Except.toOption, Summary.errorOf]
        exact List.perm_middle.trans (hrest.cons _)

lemma zip_keys_nodup (hnodup : (ts.map (·.key)).Nodup) (hlen : fss.length = ts.length) :
    ((ts.zip fss).map (·.1.key)).Nodup := by
  have hkeys : (ts.zip fss).map (·.1.key) = ((ts.zip fss).map Prod.fst).map (·.key) := by simp
  rw [hkeys, List.map_fst_zip (by omega)]
  exact hnodup

lemma exists_of_mem_notedResults {r : Result} (h : r ∈ s.notedResults ts fss) :
    ∃ p ∈ ts.zip fss, r.test = p.1.key ∧ s.testOutcome p.1 p.2 = .ok r := by
  obtain ⟨p, hp, hout⟩ := List.mem_filterMap.mp h
  have hok : s.testOutcome p.1 p.2 = .ok r := by
    revert hout
    cases s.testOutcome p.1 p.2 <;> simp [Except.toOption]
  exact ⟨p, hp, testOutcome_test hok, hok⟩

lemma exists_of_mem_notedErrors {e : TestError} (h : e ∈ s.notedErrors ts fss) :
    ∃ p ∈ ts.zip fss, ∃ f, s.testOutcome p.1 p.2 = .error f ∧ e = ⟨p.1.key, f.message⟩ := by
  obtain ⟨p, hp, hout⟩ := List.mem_filterMap.mp h
  refine ⟨p, hp, ?_⟩
  revert hout
  cases s.testOutcome p.1 p.2 <;> simp [Summary.errorOf, eq_comm]

/-- With distinct keys, the result under a test's key is the one its own outcome gives. -/
theorem mem_notedResults_iff (hnodup : (ts.map (·.key)).Nodup) (hlen : fss.length = ts.length)
    {t : Testable} {fs : Tree} (hmem : (t, fs) ∈ ts.zip fss) {r : Result} :
    r ∈ s.notedResults ts fss ∧ r.test = t.key ↔ s.testOutcome t fs = .ok r := by
  constructor
  · rintro ⟨hr, hkey⟩
    obtain ⟨p, hp, hpkey, hout⟩ := exists_of_mem_notedResults hr
    -- the entry's key names one test only
    have : p = (t, fs) :=
      List.inj_on_of_nodup_map (zip_keys_nodup hnodup hlen) hp hmem (hpkey.symm.trans hkey)
    subst this
    exact hout
  · intro hout
    exact ⟨List.mem_filterMap.mpr ⟨(t, fs), hmem, by simp [hout, Except.toOption]⟩,
      testOutcome_test hout⟩

/-- With distinct keys, the error under a test's key is the one its own outcome gives. -/
theorem mem_notedErrors_iff (hnodup : (ts.map (·.key)).Nodup) (hlen : fss.length = ts.length)
    {t : Testable} {fs : Tree} (hmem : (t, fs) ∈ ts.zip fss) {e : TestError} :
    e ∈ s.notedErrors ts fss ∧ e.test = t.key ↔
      ∃ f, s.testOutcome t fs = .error f ∧ e = ⟨t.key, f.message⟩ := by
  constructor
  · rintro ⟨he, hkey⟩
    obtain ⟨p, hp, f, hout, rfl⟩ := exists_of_mem_notedErrors he
    have : p = (t, fs) := List.inj_on_of_nodup_map (zip_keys_nodup hnodup hlen) hp hmem hkey
    subst this
    exact ⟨f, hout, rfl⟩
  · rintro ⟨f, hout, rfl⟩
    exact ⟨List.mem_filterMap.mpr ⟨(t, fs), hmem, by simp [hout, Summary.errorOf]⟩, rfl⟩

lemma foldlM_notes {f : Summary → Testable × Except Fault Result → BuildM Summary}
    (hf : ∀ sm p σ, ∃ σ', (f sm p).run σ = .ok (sm.note p.1.key p.2) σ') :
    ∀ (ts : List Testable) (fss : List Tree) (sm : Summary) (σ : Session), ∃ σ',
      ((ts.zip ((ts.zip fss).map fun p => s.testOutcome p.1 p.2)).foldlM f sm).run σ =
        .ok (s.noteOutcomes sm ts fss) σ'
  | t :: ts, fs :: fss, sm, σ => by
    obtain ⟨σ₁, h₁⟩ := hf sm (t, s.testOutcome t fs) σ
    obtain ⟨σ', h'⟩ := foldlM_notes hf ts fss (sm.note t.key (s.testOutcome t fs)) σ₁
    refine ⟨σ', ?_⟩
    simp only [List.zip_cons_cons, List.map_cons, List.foldlM_cons, EStateM.run_bind, h₁]
    exact h'
  | [], _, sm, σ => ⟨σ, rfl⟩
  | _ :: _, [], sm, σ => ⟨σ, rfl⟩

end Noted

lemma map_getD_range (l : List γ) (d : γ) : (List.range l.length).map (fun i => l.getD i d) = l := by
  refine List.ext_getElem (by simp) fun i h₁ h₂ => ?_
  simp [List.getD_eq_getElem?_getD, List.getElem?_eq_getElem h₂]

/-! ### Running the tests, step by step -/

section Scripted

@[simp] lemma storeResult_run (r : Result) (t : Testable) (σ : Session) :
    (storeResult r t).run σ =
      .ok (r.store t.resultPass t.resultFail σ.files).1
        { σ with files := (r.store t.resultPass t.resultFail σ.files).2 } := rfl

variable (hs : s.ScriptedSteps)
include hs

lemma recordResult_answer (t : Testable) (r : Result) (σ : Session) :
    answer ((s.recordResult t r).run σ) = s.recordOutcome t r σ.files := by
  unfold recordOutcome
  cases hstore : (r.store t.resultPass t.resultFail σ.files).1 with
  | error w =>
    simp only [recordResult, EStateM.run_bind, storeResult_run, hstore]
    rfl
  | ok path =>
    have hpost := (hs.postTest t r).run_eq
      { σ with files := (r.store t.resultPass t.resultFail σ.files).2 }
    generalize reached ((s.hooks.postTest t r).run
      { σ with files := (r.store t.resultPass t.resultFail σ.files).2 }) = σ₁ at hpost
    simp only [recordResult, EStateM.run_bind, storeResult_run, hstore, attempt_run, hpost]
    cases answerOf (s.hooks.postTest t r) <;> rfl

/-- Running a test answers what `testOutcome` gives from the files as they stand. -/
theorem runTest_answer (t : Testable) (σ : Session) :
    answer ((s.runTest t).run σ) = s.testOutcome t σ.files := by
  have hpre := (hs.preTest t).run_eq σ
  have hpre_files : (reached ((s.hooks.preTest t).run σ)).files = σ.files := (hs.preTest t).files σ
  generalize reached ((s.hooks.preTest t).run σ) = σ₁ at hpre hpre_files
  unfold testOutcome
  cases hp : answerOf (s.hooks.preTest t) with
  | error e =>
    simp only [runTest, EStateM.run_bind, attempt_run, hpre, hp, withAnswer_error, answer_error,
      reached_error]
    rfl
  | ok u =>
    have hx := (hs.execute { test := t.key, executable := t.executable }).run_eq σ₁
    have hx_files := (hs.execute { test := t.key, executable := t.executable }).files σ₁
    generalize reached ((s.toolchain.execute { test := t.key, executable := t.executable }).run σ₁)
      = σ₂ at hx hx_files
    cases hr : answerOf (s.toolchain.execute { test := t.key, executable := t.executable }) with
    | error e =>
      simp only [runTest, EStateM.run_bind, attempt_run, hpre, hp, withAnswer_ok, answer_ok,
        reached_ok, hx, hr, withAnswer_error, answer_error, reached_error, storeResult_run]
      rw [hx_files, hpre_files]
      cases ((Result.unrunnable t.key t.file e.message).store t.resultPass t.resultFail σ.files).fst <;>
        rfl
    | ok run =>
      simp only [runTest, EStateM.run_bind, attempt_run, hpre, hp, withAnswer_ok, answer_ok,
        reached_ok, hx, hr]
      -- a crash is only logged: the result is recorded from the same files either way
      split
      · rw [EStateM.run_bind, logAt_run]
        exact (recordResult_answer hs t _ _).trans (by rw [hx_files, hpre_files])
      · exact (recordResult_answer hs t _ _).trans (by rw [hx_files, hpre_files])

lemma recordResult_files (t : Testable) (r : Result) (σ : Session) :
    (reached ((s.recordResult t r).run σ)).files = (r.store t.resultPass t.resultFail σ.files).2 := by
  cases hstore : (r.store t.resultPass t.resultFail σ.files).1 with
  | error w =>
    simp only [recordResult, EStateM.run_bind, storeResult_run, hstore, throw_run, reached_error]
  | ok path =>
    have hpost := (hs.postTest t r).files
      { σ with files := (r.store t.resultPass t.resultFail σ.files).2 }
    have hrun := (hs.postTest t r).run_eq
      { σ with files := (r.store t.resultPass t.resultFail σ.files).2 }
    generalize reached ((s.hooks.postTest t r).run
      { σ with files := (r.store t.resultPass t.resultFail σ.files).2 }) = σ₁ at hpost hrun
    -- the files the hooks met, read off the session they ran from
    dsimp only at hpost
    simp only [recordResult, EStateM.run_bind, storeResult_run, hstore, attempt_run, hrun]
    cases answerOf (s.hooks.postTest t r) with
    | error e =>
      simp only [withAnswer_error, answer_error, reached_error, EStateM.run_bind, throw_run]
      exact hpost
    | ok u =>
      simp only [withAnswer_ok, answer_ok, reached_ok, EStateM.run_pure]
      exact hpost

/-- Running a test changes the files only by storing one of its results. -/
theorem runTest_files (t : Testable) (σ : Session) :
    (reached ((s.runTest t).run σ)).files = σ.files ∨
      ∃ r : Result, (reached ((s.runTest t).run σ)).files =
        (r.store t.resultPass t.resultFail σ.files).2 := by
  have hpre := (hs.preTest t).run_eq σ
  have hpre_files : (reached ((s.hooks.preTest t).run σ)).files = σ.files := (hs.preTest t).files σ
  generalize reached ((s.hooks.preTest t).run σ) = σ₁ at hpre hpre_files
  cases hp : answerOf (s.hooks.preTest t) with
  | error e =>
    left
    simp only [runTest, EStateM.run_bind, attempt_run, hpre, hp, withAnswer_error, answer_error,
      reached_error]
    exact hpre_files
  | ok u =>
    right
    have hx := (hs.execute { test := t.key, executable := t.executable }).run_eq σ₁
    have hx_files := (hs.execute { test := t.key, executable := t.executable }).files σ₁
    generalize reached ((s.toolchain.execute { test := t.key, executable := t.executable }).run σ₁)
      = σ₂ at hx hx_files
    rw [← hpre_files, ← hx_files]
    cases hr : answerOf (s.toolchain.execute { test := t.key, executable := t.executable }) with
    | error e =>
      refine ⟨Result.unrunnable t.key t.file e.message, ?_⟩
      simp only [runTest, EStateM.run_bind, attempt_run, hpre, hp, withAnswer_ok, answer_ok,
        reached_ok, hx, hr, withAnswer_error, answer_error, reached_error, storeResult_run]
      cases ((Result.unrunnable t.key t.file e.message).store t.resultPass t.resultFail σ₂.files).fst <;>
        simp only [throw_run, reached_error]
    | ok run =>
      refine ⟨Result.ofRun t.key t.file run, ?_⟩
      simp only [runTest, EStateM.run_bind, attempt_run, hpre, hp, withAnswer_ok, answer_ok,
        reached_ok, hx, hr]
      split
      · rw [EStateM.run_bind, logAt_run]
        exact recordResult_files hs t _ _
      · exact recordResult_files hs t _ _

lemma runTests_calls {tests : List Testable} :
    ∀ {is : List Nat} {σ σ' : Session} {outs : List (Nat × Except Fault (Except Fault Result))},
    (∀ i ∈ is, i < tests.length) →
    (is.mapM (callOutcome (itemCall tests fun t => BuildM.attempt (s.runTest t)))).run σ =
      .ok outs σ' →
    ∃ fss, FilesMet (is.map fun i => tests.getD i default) σ.files fss ∧
      outs = (is.zip fss).map fun p => (p.1, .ok (s.testOutcome (tests.getD p.1 default) p.2))
  | [], σ, σ', outs, _, h => by
    simp only [List.mapM_nil, EStateM.run_pure, EStateM.Result.ok.injEq] at h
    obtain ⟨rfl, -⟩ := h
    exact ⟨[], .nil _, rfl⟩
  | i :: is, σ, σ', outs, hlt, h => by
    rw [List.mapM_cons] at h
    obtain ⟨v, σ₁, hv, h₁⟩ := bind_run_ok h
    obtain ⟨vs, σ₂, hvs, h₂⟩ := bind_run_ok h₁
    obtain ⟨rfl, rfl⟩ : v :: vs = outs ∧ σ₂ = σ' := by simpa using h₂
    have hi : i < tests.length := hlt i List.mem_cons_self
    have hcall : itemCall tests (fun t => BuildM.attempt (s.runTest t)) i =
        BuildM.attempt (s.runTest (tests.getD i default)) := by
      simp [itemCall, List.getElem?_eq_getElem hi, List.getD_eq_getElem?_getD]
    rw [callOutcome_run, hcall, attempt_run] at hv
    simp only [answer_ok, reached_ok, EStateM.Result.ok.injEq] at hv
    obtain ⟨rfl, rfl⟩ := hv
    obtain ⟨fss, hmet, rfl⟩ := runTests_calls (fun j hj => hlt j (List.mem_cons_of_mem i hj)) hvs
    refine ⟨σ.files :: fss, .cons (runTest_files hs _ σ) hmet, ?_⟩
    rw [runTest_answer hs]
    rfl

/-- **Running the tests**, whatever the moves of the test pool: the tests run one after another
in some order, each meeting the files the one before it left, and the summary notes, in test
order, the outcome of each from the files it met. -/
theorem execute_run (plan : Plan) (σ : Session) :
    ∃ order fss fssI σ', order.Perm σ.tests ∧ FilesMet order σ.files fss ∧
      fssI.length = σ.tests.length ∧ (σ.tests.zip fssI).Perm (order.zip fss) ∧
      (s.execute plan).run σ = .ok (s.noteOutcomes { buildOnly := s.buildOnly } σ.tests fssI) σ' := by
  obtain ⟨outs, σ₁, hnodup, hperm, htrace, hcollect⟩ :=
    collectItems_run s.testPool plan σ.tests s.runTest (stageLogged σ)
  have hlt : ∀ i ∈ outs.map Prod.fst, i < σ.tests.length := fun i hi =>
    List.mem_range.mp (hperm.mem_iff.mp hi)
  obtain ⟨fss, hmet, houts⟩ := runTests_calls hs hlt htrace
  -- the files each test met, by test
  set met := (outs.map Prod.fst).zip fss with hmet_def
  have hlen : fss.length = (outs.map Prod.fst).length := hmet.length_eq.trans (by simp)
  have hkeys : met.map Prod.fst = outs.map Prod.fst := List.map_fst_zip hlen.ge
  let fssI := (List.range σ.tests.length).map fun i => (met.lookup i).getD default
  have hlookups := perm_range_lookup (hkeys ▸ hnodup) (hkeys ▸ hperm) default
  have hlook : ∀ i < σ.tests.length, (i, (met.lookup i).getD default) ∈ met := fun i hi =>
    hlookups.mem_iff.mp (List.mem_map_of_mem (List.mem_range.mpr hi))
  -- by test, the outcome of the pool is the test's own from the files it met
  have houtcomes : (List.range σ.tests.length).map (fun i => (valueAt outs i).getD (.error notRun)) =
      (σ.tests.zip fssI).map fun p => s.testOutcome p.1 p.2 := by
    rw [← map_getD_range σ.tests default, List.length_map, List.length_range, List.zip_map',
      List.map_map]
    refine List.map_congr_left fun i hi => ?_
    have hmem : (i, Except.ok (s.testOutcome (σ.tests.getD i default) ((met.lookup i).getD default)))
        ∈ outs := by
      rw [houts]
      exact List.mem_map.mpr ⟨_, hlook i (List.mem_range.mp hi), rfl⟩
    have hnodup' : (outs.map Prod.fst).Nodup := hnodup
    simp only [valueAt, lookup_of_mem hnodup' hmem, Option.bind_some, Except.toOption,
      Option.getD_some, Function.comp_apply]
  -- the summary notes, in test order, those outcomes
  obtain ⟨σ', hrun⟩ : ∃ σ', (s.execute plan).run σ =
      .ok (s.noteOutcomes { buildOnly := s.buildOnly } σ.tests fssI) σ' := by
    simp only [execute, EStateM.run_bind, EStateM.run_get, logAt_run, hcollect, houtcomes]
    refine foldlM_notes (fun sm p σ => ?_) σ.tests fssI { buildOnly := s.buildOnly } σ₁
    obtain ⟨t, o⟩ := p
    cases o <;> exact ⟨_, rfl⟩
  refine ⟨(outs.map Prod.fst).map fun i => σ.tests.getD i default, fss, fssI, σ', ?_, hmet,
    by simp [fssI], ?_, hrun⟩
  · simpa only [map_getD_range] using hperm.map fun i => σ.tests.getD i default
  · have h := hlookups.map fun p => (σ.tests.getD p.1 default, p.2)
    simp only [List.map_map] at h
    rw [List.zip_map_left, ← hmet_def]
    convert h using 1
    · nth_rewrite 1 [← map_getD_range σ.tests default]
      rw [List.zip_map']
      rfl
    · rfl

end Scripted

end Setup

end TestRig.Build
