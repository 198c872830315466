import TestRig.Proofs.FailedBuild
import Mathlib.Tactic.SplitIfs
import Mathlib.Data.String.Basic

/-!
# The keys of a build's tests

A build names each test by a key, taken from the name of its file. Loading the test files gives
distinct keys: a file named twice counts once, and a second file with a key already taken stops
the load. Every stage then updates the tests in place and keeps each test's key, so the tests a
build runs at the end are the tests it loaded, under the keys they were loaded with.

* `loadTests_keys_nodup`: a load that did not fail gives distinct keys;
* `run_keys_tests_uniquely`: files that do not clash (give one key but are different files)
  load one test for each key, in order of key; the first clash stops the build before any hook
  or tool runs;
* `start_tests`: a build that started holds the tests it loaded;
* `stage_keepsKeys`, `runStagesOn_keepsKeys`: every stage, and so the stages in turn, keep the
  keys of the tests, whether they succeed or fail.
-/

namespace TestRig.Build

namespace Setup

/-! ### Loading the tests -/

lemma loadStep_nodup {acc : List Testable × Option Fault} (f : String)
    (h : acc.2 = none → (acc.1.map (·.key)).Nodup) :
    (loadStep acc f).2 = none → ((loadStep acc f).1.map (·.key)).Nodup := by
  obtain ⟨ts, _ | e⟩ := acc
  · have hts := h rfl
    simp only [loadStep]
    split
    · -- the key is taken: the same file again changes nothing, another file fails
      split <;> simp [hts]
    · next hnone =>
      -- a new key goes last, after keys that all differ from it
      intro _
      have hfresh : keyFor f ∉ ts.map (·.key) := by
        simp only [List.mem_map, not_exists, not_and]
        intro t ht hkey
        exact List.find?_eq_none.mp hnone t ht (by simp [hkey])
      simpa [List.nodup_append, hts] using hfresh
  · simp [loadStep]

lemma foldl_loadStep_nodup (files : List String) (acc : List Testable × Option Fault)
    (h : acc.2 = none → (acc.1.map (·.key)).Nodup) :
    (files.foldl loadStep acc).2 = none → ((files.foldl loadStep acc).1.map (·.key)).Nodup := by
  induction files generalizing acc with
  | nil => exact h
  | cons f files ih => exact ih _ (loadStep_nodup f h)

/-- A load that did not fail gives distinct keys. -/
theorem loadTests_keys_nodup {files : List String} (h : (loadTests files).2 = none) :
    ((loadTests files).1.map (·.key)).Nodup := by
  have hloaded := foldl_loadStep_nodup files ([], none) (fun _ => List.nodup_nil) h
  -- sorting keeps the tests
  exact ((List.mergeSort_perm _ _).map _).nodup_iff.mpr hloaded

variable {s : Setup}

/-- The test files a build loads: those given, or every test of the project when none are. -/
def testFiles (s : Setup) (files : List String) : List String :=
  if files.isEmpty then s.collections.tests else files

/-- A build that started, with hooks before it that leave the tests alone, holds the tests it
loaded, and their load did not fail. -/
theorem start_tests (hpre : ∀ keys, KeepsTests (s.hooks.preBuild keys)) {files : List String}
    {σ σ₀ : Session} (h : (s.start files).run σ = .ok () σ₀) :
    σ₀.tests = (loadTests (s.testFiles files)).1 ∧ (loadTests (s.testFiles files)).2 = none := by
  unfold start at h
  rw [← testFiles] at h
  dsimp only at h
  rcases hl : loadTests (s.testFiles files) with ⟨tests, fault⟩
  rw [hl] at h
  cases fault with
  | some e =>
    simp only [EStateM.run_bind, throw_run] at h
    cases h
  | none =>
    simp only [EStateM.run_bind, EStateM.run_modify, logAt_run, attempt_run] at h
    have hkeep := hpre (tests.map (·.key))
      { σ with tests := tests, log := σ.log ++ [⟨.info, "Starting test build."⟩] }
    generalize reached ((s.hooks.preBuild (tests.map (·.key))).run
      { σ with tests := tests, log := σ.log ++ [⟨.info, "Starting test build."⟩] }) = σ₁ at h hkeep
    -- the hooks before the build either stop it or leave the loaded tests in place
    split at h
    · cases h
    · cases h
      exact ⟨hkeep, rfl⟩

/-! ### Loading test files once each -/

/-- Two test files clash when they give one key but are different files however spelled. -/
def Clash (f g : String) : Prop := keyFor f = keyFor g ∧ Path.clean f ≠ Path.clean g

def NoClash (files : List String) : Prop := ∀ f ∈ files, ∀ g ∈ files, ¬ Clash f g

/-- The first of the files with the key `k`. -/
def firstWithKey (files : List String) (k : String) : Option String :=
  files.find? (keyFor · == k)

lemma firstWithKey_append_of_some {pre post : List String} {k p : String}
    (h : firstWithKey pre k = some p) : firstWithKey (pre ++ post) k = some p := by
  rw [firstWithKey, List.find?_append, ← firstWithKey, h, Option.some_or]

lemma firstWithKey_append_of_none {pre post : List String} {k : String}
    (h : firstWithKey pre k = none) : firstWithKey (pre ++ post) k = firstWithKey post k := by
  rw [firstWithKey, List.find?_append, ← firstWithKey, h, Option.none_or, firstWithKey]

/-- The tests `ts` are those of `files`, one for each key, from the first file with it. -/
structure LoadedOnce (files : List String) (ts : List Testable) : Prop where
  nodup : (ts.map (·.key)).Nodup
  covers : ∀ f ∈ files, ∃ t ∈ ts, t.key = keyFor f
  first_file : ∀ t ∈ ts, firstWithKey files t.key = some t.file

lemma LoadedOnce.nil : LoadedOnce [] [] := ⟨List.nodup_nil, nofun, nofun⟩

lemma LoadedOnce.mem_keys {files : List String} {ts : List Testable} (hl : LoadedOnce files ts)
    (k : String) : k ∈ ts.map (·.key) ↔ ∃ f ∈ files, keyFor f = k := by
  constructor
  · intro hk
    obtain ⟨t, ht, rfl⟩ := List.mem_map.mp hk
    have hfirst := hl.first_file t ht
    exact ⟨t.file, List.mem_of_find?_eq_some hfirst, by simpa using List.find?_some hfirst⟩
  · rintro ⟨f, hf, rfl⟩
    obtain ⟨t, ht, hkey⟩ := hl.covers f hf
    exact List.mem_map.mpr ⟨t, ht, hkey⟩

lemma LoadedOnce.perm {files : List String} {ts ts' : List Testable} (hl : LoadedOnce files ts)
    (hperm : ts'.Perm ts) : LoadedOnce files ts' where
  nodup := (hperm.map _).nodup_iff.mpr hl.nodup
  covers f hf := let ⟨t, ht, hkey⟩ := hl.covers f hf; ⟨t, hperm.mem_iff.mpr ht, hkey⟩
  first_file t ht := hl.first_file t (hperm.mem_iff.mp ht)

variable {pre : List String} {ts : List Testable} {f : String}

lemma LoadedOnce.find?_key (hl : LoadedOnce pre ts) :
    (ts.find? (·.key == keyFor f)).map (·.file) = firstWithKey pre (keyFor f) := by
  cases hfind : ts.find? (·.key == keyFor f) with
  | some prior =>
    have hkey : prior.key = keyFor f := by simpa using List.find?_some hfind
    rw [Option.map_some, ← hkey, hl.first_file prior (List.mem_of_find?_eq_some hfind)]
  | none =>
    -- no test has the key, so no file of `pre` has it
    refine (List.find?_eq_none.mpr fun g hg hgk => ?_).symm
    obtain ⟨t, ht, htk⟩ := hl.covers g hg
    exact absurd (List.find?_eq_none.mp hfind t ht) (by simpa [htk] using hgk)

lemma LoadedOnce.append_taken (hl : LoadedOnce pre ts) {t : Testable} (ht : t ∈ ts)
    (hkey : t.key = keyFor f) : LoadedOnce (pre ++ [f]) ts where
  nodup := hl.nodup
  covers g hg := by
    rcases List.mem_append.mp hg with hg | hg
    · exact hl.covers g hg
    · exact ⟨t, ht, by rw [hkey, List.mem_singleton.mp hg]⟩
  first_file t ht := firstWithKey_append_of_some (hl.first_file t ht)

lemma LoadedOnce.append_new (hl : LoadedOnce pre ts) (hnone : firstWithKey pre (keyFor f) = none) :
    LoadedOnce (pre ++ [f]) (ts ++ [{ key := keyFor f, file := f }]) where
  nodup := by
    have hfresh : ∀ t ∈ ts, t.key ≠ keyFor f := fun t ht hk => by
      simpa [hk, hnone] using hl.first_file t ht
    simpa [List.nodup_append, hl.nodup] using hfresh
  covers g hg := by
    rcases List.mem_append.mp hg with hg | hg
    · obtain ⟨t, ht, hkey⟩ := hl.covers g hg
      exact ⟨t, List.mem_append_left _ ht, hkey⟩
    · exact ⟨_, List.mem_append_right _ (List.mem_singleton_self _), by simp [List.mem_singleton.mp hg]⟩
  first_file t ht := by
    rcases List.mem_append.mp ht with ht | ht
    · exact firstWithKey_append_of_some (hl.first_file t ht)
    · rw [List.mem_singleton.mp ht, firstWithKey_append_of_none hnone]
      simp [firstWithKey]

lemma loadStep_loadedOnce (hl : LoadedOnce pre ts) (hnc : NoClash (pre ++ [f])) :
    ∃ ts', loadStep (ts, none) f = (ts', none) ∧ LoadedOnce (pre ++ [f]) ts' := by
  have hfind := hl.find?_key (f := f)
  simp only [loadStep]
  cases hprior : ts.find? (·.key == keyFor f) with
  | some prior =>
    -- the key is taken, by the first file with it: the same file, however spelled
    rw [hprior, Option.map_some] at hfind
    have hclean : Path.clean prior.file = Path.clean f := by
      by_contra hne
      exact hnc _ (List.mem_append_left _ (List.mem_of_find?_eq_some hfind.symm)) f (by simp)
        ⟨by simpa using List.find?_some hfind.symm, hne⟩
    exact ⟨ts, by simp [hclean], hl.append_taken (List.mem_of_find?_eq_some hprior)
      (by simpa using List.find?_some hprior)⟩
  | none =>
    rw [hprior, Option.map_none] at hfind
    exact ⟨_, rfl, hl.append_new hfind.symm⟩

lemma loadStep_keyTaken (hl : LoadedOnce pre ts) {p : String}
    (hp : firstWithKey pre (keyFor f) = some p) (hclash : Path.clean p ≠ Path.clean f) :
    loadStep (ts, none) f =
      (ts, some (.stage stagePaths (keyFor f) (.graph (keyFor f) f
        ("test name is also used by '" ++ p ++ "'")))) := by
  have hfind := hl.find?_key (f := f)
  rw [hp] at hfind
  obtain ⟨prior, hprior, rfl⟩ := Option.map_eq_some_iff.mp hfind
  simp [loadStep, hprior, hclash]

lemma foldl_loadStep_fault (e : Fault) (rest : List String) :
    rest.foldl loadStep (ts, some e) = (ts, some e) := by
  induction rest with
  | nil => rfl
  | cons f rest ih => exact ih

lemma foldl_loadStep_loadedOnce (rest : List String) (hl : LoadedOnce pre ts)
    (hnc : NoClash (pre ++ rest)) :
    ∃ ts', rest.foldl loadStep (ts, none) = (ts', none) ∧ LoadedOnce (pre ++ rest) ts' := by
  induction rest generalizing pre ts with
  | nil => exact ⟨ts, rfl, by simpa using hl⟩
  | cons f rest ih =>
    have hnc' : NoClash ((pre ++ [f]) ++ rest) := by simpa using hnc
    obtain ⟨ts₁, hstep, hl₁⟩ := loadStep_loadedOnce hl fun g hg h hh =>
      hnc' g (List.mem_append_left _ hg) h (List.mem_append_left _ hh)
    obtain ⟨ts', hfold, hl'⟩ := ih hl₁ hnc'
    refine ⟨ts', ?_, by simpa using hl'⟩
    rw [List.foldl_cons, hstep, hfold]

lemma exists_first_clash (acc rest : List String) (hacc : NoClash acc)
    (h : ¬ NoClash (acc ++ rest)) :
    ∃ pre f post p, acc ++ rest = pre ++ f :: post ∧ NoClash pre ∧
      firstWithKey pre (keyFor f) = some p ∧ Path.clean p ≠ Path.clean f := by
  induction rest generalizing acc with
  | nil => exact absurd (by simpa using hacc) h
  | cons x rest ih =>
    by_cases hx : NoClash (acc ++ [x])
    · obtain ⟨pre, f, post, p, hsplit, hrest⟩ := ih (acc ++ [x]) hx (by simpa using h)
      exact ⟨pre, f, post, p, by simpa using hsplit, hrest⟩
    · -- `x` clashes with an earlier file `g`, spelled like the first file with its key
      have hclash : ∃ g ∈ acc, Clash g x := by
        simp only [NoClash, List.mem_append, List.mem_singleton, not_forall, not_not] at hx
        obtain ⟨f, hf, g, hg, hfg⟩ := hx
        rcases hf with hf | rfl <;> rcases hg with hg | rfl
        · exact absurd hfg (hacc f hf g hg)
        · exact ⟨f, hf, hfg⟩
        · exact ⟨g, hg, hfg.1.symm, hfg.2.symm⟩
        · exact absurd rfl hfg.2
      obtain ⟨g, hg, hkey, hne⟩ := hclash
      obtain ⟨p, hp⟩ : ∃ p, firstWithKey acc (keyFor x) = some p :=
        Option.isSome_iff_exists.mp (List.find?_isSome.mpr ⟨g, hg, by simp [hkey]⟩)
      have hpkey : keyFor p = keyFor g := by simpa [hkey] using List.find?_some hp
      have hpg : Path.clean p = Path.clean g := by
        by_contra hpg
        exact hacc p (List.mem_of_find?_eq_some hp) g hg ⟨hpkey, hpg⟩
      exact ⟨acc, x, rest, p, rfl, hacc, hp, hpg ▸ hne⟩

lemma loadTests_of_noClash {files : List String} (h : NoClash files) :
    (loadTests files).2 = none ∧ LoadedOnce files (loadTests files).1 ∧
      ((loadTests files).1.map (·.key)).Pairwise (· < ·) := by
  obtain ⟨ts, hfold, hl⟩ := foldl_loadStep_loadedOnce files .nil (by simpa using h)
  rw [List.nil_append] at hl
  have hl' := hl.perm (List.mergeSort_perm ts fun a b => a.key ≤ b.key)
  -- sorting by key puts the keys in order, and distinct keys in strict order
  have hsorted : (ts.mergeSort fun a b => a.key ≤ b.key).Pairwise (fun a b => a.key ≤ b.key) := by
    simpa using @List.pairwise_mergeSort _ (fun a b : Testable => decide (a.key ≤ b.key))
      (fun a b c hab hbc => by simpa using le_trans (by simpa using hab) (by simpa using hbc))
      (fun a b => by simpa using le_total a.key b.key) ts
  refine ⟨by simp [loadTests, hfold], by simpa [loadTests, hfold] using hl', ?_⟩
  simp only [loadTests, hfold, List.pairwise_map]
  exact (hsorted.and (List.pairwise_map.mp hl'.nodup)).imp fun h => lt_of_le_of_ne h.1 h.2

lemma loadTests_of_clash {pre post : List String} {f p : String} (hnc : NoClash pre)
    (hp : firstWithKey pre (keyFor f) = some p) (hclash : Path.clean p ≠ Path.clean f) :
    loadTests (pre ++ f :: post) = ((loadTests pre).1, some (.stage stagePaths (keyFor f)
      (.graph (keyFor f) f ("test name is also used by '" ++ p ++ "'")))) := by
  obtain ⟨ts, hfold, hl⟩ := foldl_loadStep_loadedOnce pre .nil (by simpa using hnc)
  rw [List.nil_append] at hl
  simp only [loadTests, List.foldl_append, List.foldl_cons, hfold, loadStep_keyTaken hl hp hclash,
    foldl_loadStep_fault]

lemma run_of_load_fault {files : List String} {ts : List Testable} {e : Fault} (σ : Session)
    (h : loadTests (s.testFiles files) = (ts, some e)) :
    (s.run files).run σ = .error e { σ with tests := ts } := by
  have hstart : (s.start files).run σ = .error e { σ with tests := ts } := by
    unfold start
    rw [← testFiles]
    dsimp only
    rw [h]
    rfl
  simp only [run, runOn, EStateM.run_bind, hstart]

/-- Loading keys the tests of a build uniquely. Test files that do not clash load without a
fault: one test for each key of theirs, from the first file with that key, in strict order of
key. Files that clash stop the build at the first file that clashes with an earlier one, before
any hook or tool runs: the failure is the path-preparation stage's, for that key, and names the
file and the earlier one; the session is left as it was but for the tests loaded before. -/
theorem run_keys_tests_uniquely (s : Setup) (files : List String) (σ : Session) :
    (NoClash (s.testFiles files) →
      (loadTests (s.testFiles files)).2 = none ∧
      LoadedOnce (s.testFiles files) (loadTests (s.testFiles files)).1 ∧
      ((loadTests (s.testFiles files)).1.map (·.key)).Pairwise (· < ·) ∧
      ∀ k, k ∈ (loadTests (s.testFiles files)).1.map (·.key) ↔
        ∃ f ∈ s.testFiles files, keyFor f = k) ∧
    (¬ NoClash (s.testFiles files) → ∃ pre f post p, s.testFiles files = pre ++ f :: post ∧
      NoClash pre ∧ firstWithKey pre (keyFor f) = some p ∧ Path.clean p ≠ Path.clean f ∧
      (s.run files).run σ = .error (.stage stagePaths (keyFor f) (.graph (keyFor f) f
        ("test name is also used by '" ++ p ++ "'"))) { σ with tests := (loadTests pre).1 }) := by
  refine ⟨fun h => ?_, fun hclash => ?_⟩
  · obtain ⟨hok, hl, hsorted⟩ := loadTests_of_noClash h
    exact ⟨hok, hl, hsorted, hl.mem_keys⟩
  obtain ⟨pre, f, post, p, hsplit, hnc, hp, hne⟩ :=
    exists_first_clash [] _ nofun (by simpa using hclash)
  rw [List.nil_append] at hsplit
  refine ⟨pre, f, post, p, hsplit, hnc, hp, hne, run_of_load_fault σ ?_⟩
  rw [hsplit, loadTests_of_clash hnc hp hne]

/-- Two test files of one name in two directories stop the build at the second. -/
theorem clashing_test_files_stop_build :
    ¬ NoClash ["test/test_a.c", "lib/test_a.c"] ∧ ∃ pre f post p,
      ["test/test_a.c", "lib/test_a.c"] = pre ++ f :: post ∧ NoClash pre ∧
      firstWithKey pre (keyFor f) = some p ∧ Path.clean p ≠ Path.clean f ∧
      (searchless.run ["test/test_a.c", "lib/test_a.c"]).run { files := Files.Tree.empty "/" } =
        .error (.stage stagePaths (keyFor f) (.graph (keyFor f) f
          ("test name is also used by '" ++ p ++ "'")))
          { files := Files.Tree.empty "/", tests := (loadTests pre).1 } := by
  have hclash : ¬ NoClash ["test/test_a.c", "lib/test_a.c"] := fun h =>
    h "test/test_a.c" (by simp) "lib/test_a.c" (by simp) ⟨by decide +kernel, by decide⟩
  exact ⟨hclash, (run_keys_tests_uniquely searchless ["test/test_a.c", "lib/test_a.c"] _).2 hclash⟩

end Setup

/-! ### The stages keep the keys -/

/-- Computations that leave the keys of the tests of a session as they are. -/
abbrev KeepsKeys (m : BuildM α) : Prop := Keeps (fun σ => σ.tests.map (·.key)) m

lemma KeepsTests.keys {m : BuildM α} (h : KeepsTests m) : KeepsKeys m := Keeps.map _ h

lemma eachTest_keepsKeys {e : Executor} {plan : Plan} {stage : String}
    {f : Testable → BuildM Testable} (hf : ∀ t, KeepsTests (f t))
    (hkey : ∀ t, Returns (·.key = t.key) (f t)) : KeepsKeys (eachTest e plan stage f) := by
  intro σ
  cases h : (eachTest e plan stage f).run σ with
  | ok u σ' =>
    obtain ⟨ts, σ₁, hvals, rfl⟩ := eachTest_ok h
    -- each value a step returned has the key of its test
    have hkeys : List.Forall₂ (· = ·) (ts.map (·.key)) (σ.tests.map (·.key)) := by
      rw [List.forall₂_map_left_iff, List.forall₂_map_right_iff]
      exact (hvals.imp fun t t' ⟨σa, σb, hrun⟩ => hkey t σa t' σb hrun).flip
    exact List.forall₂_eq_eq_eq ▸ hkeys
  | error e σ' =>
    exact congrArg (List.map (·.key)) (eachTest_error_tests hf h)

namespace Setup

section Bodies

variable (s : Setup) (t : Testable)

lemma preparePaths_key : Returns (·.key = t.key) (s.preparePaths t) := by
  refine Returns.bind fun _ => Returns.bind fun _ => Returns.pure ?_
  split_ifs <;> rfl

lemma readTestDirectives_key : Returns (·.key = t.key) (s.readTestDirectives t) :=
  Returns.bind fun _ => Returns.bind fun _ => Returns.bind fun _ => Returns.bind fun _ =>
    Returns.bind fun _ => Returns.pure rfl

lemma readTestContext_key : Returns (·.key = t.key) (readTestContext t) :=
  Returns.bind fun _ => Returns.bind fun _ => by
    dsimp only
    exact Returns.ite (Returns.bind fun _ => Returns.pure rfl) (Returns.pure rfl)

lemma plan_key : Returns (·.key = t.key) (s.plan t) := by
  dsimp only [plan]
  exact Returns.ite (Returns.pure rfl) (Returns.bind fun _ => Returns.pure rfl)

lemma preprocessTest_key : Returns (·.key = t.key) (s.preprocessTest t) :=
  Returns.bind fun _ => Returns.pure rfl

lemma generateRunner_key : Returns (·.key = t.key) (s.generateRunner t) :=
  Returns.bind fun _ => Returns.bind fun _ => Returns.bind fun _ => Returns.pure rfl

lemma resolveArtifacts_key : Returns (·.key = t.key) (s.resolveArtifacts t) :=
  Returns.bind fun _ => Returns.bind fun _ => Returns.bind fun _ => Returns.pure rfl

lemma linkTest_key : Returns (·.key = t.key) (s.linkTest t) :=
  Returns.bind fun _ => Returns.pure rfl

end Bodies

variable {s : Setup}

/-- Every stage keeps the keys of the tests, whether it succeeds or fails, whatever the moves of
its pool. -/
theorem stage_keepsKeys (hts : s.toolchain.LeavesTests) {sched : Schedule}
    {p : String × BuildM Unit} (hmem : p ∈ s.stagesOn sched) : KeepsKeys p.2 := by
  simp only [stagesOn, List.mem_cons, List.not_mem_nil, or_false] at hmem
  rcases hmem with rfl | rfl | rfl | rfl | rfl | rfl | rfl | rfl | rfl | rfl | rfl | rfl
  · exact eachTest_keepsKeys s.preparePaths_keepsTests s.preparePaths_key
  · exact eachTest_keepsKeys s.readTestDirectives_keepsTests s.readTestDirectives_key
  · -- the search paths are found once, before any test is visited
    have hstage : ∀ base, KeepsKeys (eachTest s.compilePool (sched stageResolve) stageResolve
        fun t => pure (s.resolveContext base t)) :=
      fun base => eachTest_keepsKeys (fun _ => Keeps.pure _) fun _ => Returns.pure rfl
    dsimp only
    split
    · exact Keeps.bind (Keeps.pure _) hstage
    · exact Keeps.bind (Keeps.throw _) hstage
  · exact eachTest_keepsKeys readTestContext_keepsTests readTestContext_key
  · exact eachTest_keepsKeys s.plan_keepsTests s.plan_key
  · exact (preprocessHeaders_keepsTests hts (sched stageHeaders)).keys
  · exact (s.generateMocks_keepsTests (sched stageMocks)).keys
  · exact Keeps.ite (eachTest_keepsKeys (preprocessTest_keepsTests hts) s.preprocessTest_key)
      (Keeps.pure _)
  · exact eachTest_keepsKeys s.generateRunner_keepsTests s.generateRunner_key
  · exact eachTest_keepsKeys s.resolveArtifacts_keepsTests s.resolveArtifacts_key
  · exact (compileObjectsOn_keepsTests hts (sched stageCompile)).keys
  · exact eachTest_keepsKeys (linkTest_keepsTests hts) s.linkTest_key

/-- The stages in turn keep the keys of the tests. -/
theorem runStagesOn_keepsKeys (hts : s.toolchain.LeavesTests) (sched : Schedule) :
    KeepsKeys (s.runStagesOn sched) :=
  Keeps.forM fun p hp => Keeps.bind (Keeps.attempt (stage_keepsKeys hts hp)) fun r => by
    split
    · exact Keeps.bind (KeepsTests.logAt _ _).keys fun _ => Keeps.throw _
    · exact Keeps.pure _

end Setup

end TestRig.Build
