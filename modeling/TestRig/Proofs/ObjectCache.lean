import TestRig.Proofs.StagePools

/-!
# The object cache

A compile stage keeps, for each object, the digest of the inputs it was last built from: its
command line, its source, and what its dependency file lists. A step is compiled unless its
object exists and its inputs give the digest recorded for it. Compiling takes the digest again,
from the dependency file the compiler wrote; when the source cannot be read by then there is no
digest, and the object keeps the one recorded before. Once every step ran, the digests taken
are recorded and the state is saved; a step that fails stops the stage before anything is saved.

* `lookup_recordBuilt`: after recording, an object's entry is the digest its last build took,
  or else the entry it had;
* `compileOne_ok`, `compileOne_skips_up_to_date`: a step answers without running anything
  exactly when its object is up to date, and is otherwise compiled (`StepBuilt`);
* `compileObjects_ok`, `compileObjects_fails_at_step`: a compile stage either runs every step
  and saves the state with the digests recorded, or stops at a failing step with nothing saved;
* `restored_source_skipped`: an object compiled while its source could not be read keeps the
  digest of its build before, so when that source comes back as it was, the step is skipped
  although the object was last compiled from something else;
* `compile_stage_records_taken_digests`: the cache across a stage, as the stage has it: each
  object's entry is the digest its last build took, not always that of its last build.
-/

namespace TestRig.Build

open TestRig.Files TestRig.Digest

/-! ### Digests -/

lemma objectDigest_error {fs : Tree} {line source depFile e : String}
    (h : objectDigest fs line source depFile = .error e) : ∃ e', fs.readFile source = .error e' := by
  unfold objectDigest at h
  cases hsrc : fs.readFile source with
  | error e' => exact ⟨e', rfl⟩
  | ok src =>
    rw [hsrc] at h
    cases h

/-! ### Recording digests -/

namespace ObjectState

lemma lookup_map_replace (es : List (String × String)) (object digest o : String) :
    (es.map fun (k, d) => if k == object then (k, digest) else (k, d)).lookup o =
      (es.lookup o).map fun d => if o == object then digest else d := by
  induction es with
  | nil => rfl
  | cons e es ih =>
    obtain ⟨k, d⟩ := e
    by_cases ho : o = k
    · subst ho
      by_cases hk : o = object <;> simp [hk]
    · -- another key: its entry keeps its key and is passed over
      have hne : (o == k) = false := by simpa using ho
      have hhead : (if (k == object) = true then (k, digest) else (k, d)) =
          (k, if (k == object) = true then digest else d) := by
        split <;> rfl
      simp only [List.map_cons, hhead, List.lookup_cons, hne] at ih ⊢
      exact ih

@[simp] lemma lookup_record (st : ObjectState) (object digest o : String) :
    (st.record object digest).entries.lookup o =
      if o = object then some digest else st.entries.lookup o := by
  unfold record
  split
  · next hany =>
    rw [lookup_map_replace]
    by_cases ho : o = object
    · subst ho
      -- the object has an entry already, which now holds the new digest
      have hsome : (st.entries.lookup o).isSome := List.lookup_isSome_iff.mpr (by simpa using hany)
      obtain ⟨d, hd⟩ := Option.isSome_iff_exists.mp hsome
      simp [hd]
    · simp [ho]
  · next hnone =>
    rw [List.lookup_append]
    by_cases ho : o = object
    · subst ho
      have hlookup : st.entries.lookup o = none := by
        rw [List.lookup_eq_none_iff]
        intro p hp
        have hp' : p.1 ≠ o := fun he => hnone (List.any_eq_true.mpr ⟨p, hp, by simp [he]⟩)
        simpa using Ne.symm hp'
      simp [hlookup]
    · simp [ho]

/-- The digest that builds in turn leave for `object`: that of its last build that took one. -/
def builtDigest (done : List (String × String)) (object : String) : Option String :=
  (done.reverse.find? fun b => b.1 == object && b.2 != "").map (·.2)

/-- **Recording what was built**: an object's entry is the digest of its last build that took
one, or else the entry it had. -/
theorem lookup_recordBuilt (st : ObjectState) (done : List (String × String)) (o : String) :
    (st.recordBuilt done).entries.lookup o = (builtDigest done o).or (st.entries.lookup o) := by
  induction done generalizing st with
  | nil => simp [recordBuilt, builtDigest]
  | cons b done ih =>
    obtain ⟨obj, d⟩ := b
    have hstep : st.recordBuilt ((obj, d) :: done) =
        (if d == "" then st else st.record obj d).recordBuilt done := rfl
    rw [hstep, ih]
    -- the later builds are looked at first, this one after them
    simp only [builtDigest, List.reverse_cons, List.find?_append, Option.map_or, Option.or_assoc,
      List.find?_singleton]
    congr 1
    by_cases hd : d = ""
    · simp [hd]
    · by_cases ho : o = obj
      · subst ho
        simp [hd]
      · simp [hd, ho, Ne.symm ho]

/-- An object none of whose builds took a digest keeps the entry it had. -/
theorem lookup_recordBuilt_of_no_digest (st : ObjectState) {done : List (String × String)}
    {o : String} (h : ∀ b ∈ done, b.1 = o → b.2 = "") :
    (st.recordBuilt done).entries.lookup o = st.entries.lookup o := by
  have hnone : builtDigest done o = none := by
    simp only [builtDigest, Option.map_eq_none_iff, List.find?_eq_none, List.mem_reverse]
    intro b hb
    by_cases ho : b.1 = o
    · simp [h b hb ho]
    · simp [ho]
  rw [lookup_recordBuilt, hnone, Option.none_or]

/-- A step must be compiled from the tree `fs`: no digest of its inputs can be taken, or the
one taken is not up to date. -/
def NeedsCompile (state : ObjectState) (fs : Tree) (line : String) (step : CompileStep) : Prop :=
  ∀ d, objectDigest fs line step.source step.depFile = .ok d →
    state.upToDate fs step.object d = false

end ObjectState

/-! ### One step -/

namespace Setup

/-- What compiling one step from the state `state` did, going from `σ` to `σ'`: it answers the
object and the digest to record for it, the empty digest recording nothing. -/
inductive StepBuilt (s : Setup) (state : ObjectState) (step : CompileStep) (σ : Session) :
    String × String → Session → Prop
  /-- The object exists and its inputs give the digest recorded for it: nothing is run. -/
  | upToDate {line d : String} : s.toolchain.compileLine step = .ok line →
      objectDigest σ.files line step.source step.depFile = .ok d →
      state.upToDate σ.files step.object d = true → StepBuilt s state step σ (step.object, d) σ
  /-- The step is compiled, and the digest of its inputs is taken after. -/
  | compiled {line d : String} {σ' : Session} : s.toolchain.compileLine step = .ok line →
      state.NeedsCompile σ.files line step → (s.toolchain.compile step).run σ = .ok () σ' →
      objectDigest σ'.files line step.source step.depFile = .ok d →
      StepBuilt s state step σ (step.object, d) σ'
  /-- The step is compiled, but its source cannot be read after: no digest is taken. -/
  | compiledUnread {line : String} {σ' : Session} {e : IoError} :
      s.toolchain.compileLine step = .ok line →
      state.NeedsCompile σ.files line step → (s.toolchain.compile step).run σ = .ok () σ' →
      σ'.files.readFile step.source = .error e → StepBuilt s state step σ (step.object, "") σ'

variable {s : Setup} {state : ObjectState} {step : CompileStep}

lemma StepBuilt.of_compile {line : String} {σ σ' : Session} {r : String × String}
    (hline : s.toolchain.compileLine step = .ok line) (hneeds : state.NeedsCompile σ.files line step)
    (h : (do
          let x ← BuildM.attempt (s.toolchain.compile step)
          match x with
          | .error e => do
            throw (Fault.stage stageCompile step.label e)
            let fs ← BuildM.files
            match objectDigest fs line step.source step.depFile with
            | .ok d => pure (step.object, d)
            | .error _ => pure (step.object, "")
          | .ok _ => do
            let fs ← BuildM.files
            match objectDigest fs line step.source step.depFile with
            | .ok d => pure (step.object, d)
            | .error _ => pure (step.object, "") : BuildM (String × String)).run σ = .ok r σ') :
    StepBuilt s state step σ r σ' := by
  obtain ⟨x, σ₁, h1, h⟩ := bind_run_ok h
  rw [attempt_run] at h1
  cases h1
  cases hc : (s.toolchain.compile step).run σ with
  | ok u σ₁ =>
    rw [hc, answer_ok, reached_ok] at h
    obtain ⟨fs, σ₂, h2, h⟩ := bind_run_ok h
    cases h2
    split at h
    · next d hd =>
      cases h
      exact .compiled hline hneeds hc hd
    · next e hd =>
      cases h
      obtain ⟨e', hsrc⟩ := objectDigest_error hd
      exact .compiledUnread hline hneeds hc hsrc
  | error e σ₁ =>
    rw [hc, answer_error, reached_error] at h
    obtain ⟨u, σ₂, h2, h⟩ := bind_run_ok h
    cases h2

-- The digest stays folded while the steps of the block are matched against `StepBuilt.of_compile`:
-- unfolding it would compute a hash of terms that are not known.
attribute [local irreducible] objectDigest in
/-- **Compiling one step**: a step that succeeds did what `StepBuilt` says. -/
theorem compileOne_ok {σ σ' : Session} {r : String × String}
    (h : (s.compileOne state step).run σ = .ok r σ') : StepBuilt s state step σ r σ' := by
  unfold compileOne at h
  dsimp only at h
  split at h
  · next line hline =>
    obtain ⟨l, σ₁, h1, h⟩ := bind_run_ok h
    cases h1
    obtain ⟨fs, σ₂, h2, h⟩ := bind_run_ok h
    cases h2
    split at h
    · next d hd =>
      obtain ⟨fs, σ₂, h2, h⟩ := bind_run_ok h
      cases h2
      split at h
      · next hup =>
        cases h
        exact .upToDate hline hd hup
      · next hup =>
        refine StepBuilt.of_compile hline (fun d' hd' => ?_) h
        rw [hd] at hd'
        cases hd'
        simpa using hup
    · next e hd =>
      refine StepBuilt.of_compile hline (fun d' hd' => ?_) h
      rw [hd] at hd'
      cases hd'
  · obtain ⟨l, σ₁, h1, h⟩ := bind_run_ok h
    cases h1

/-- **A step that is up to date is skipped**: it answers its object and the digest of its inputs
and leaves the session as it was, so nothing is compiled. -/
theorem compileOne_skips_up_to_date {σ : Session} {line d : String}
    (hline : s.toolchain.compileLine step = .ok line)
    (hd : objectDigest σ.files line step.source step.depFile = .ok d)
    (hup : state.upToDate σ.files step.object d = true) :
    (s.compileOne state step).run σ = .ok (step.object, d) σ := by
  unfold compileOne
  dsimp only
  rw [hline]
  dsimp only
  rw [EStateM.run_bind, EStateM.run_pure]
  dsimp only
  rw [EStateM.run_bind, files_run]
  dsimp only
  rw [hd]
  dsimp only
  rw [EStateM.run_bind, files_run]
  dsimp only
  rw [if_pos hup, EStateM.run_pure]

/-! ### A compile stage -/

/-- The steps, one after another from `σ`, did what `StepBuilt` says, answering `done` and
stopping in `σ'`. -/
inductive BuiltThrough (s : Setup) (state : ObjectState) :
    List CompileStep → Session → List (String × String) → Session → Prop
  | nil (σ : Session) : BuiltThrough s state [] σ [] σ
  | cons {step : CompileStep} {steps : List CompileStep} {r : String × String}
      {done : List (String × String)} {σ σ₁ σ₂ : Session} :
      StepBuilt s state step σ r σ₁ → BuiltThrough s state steps σ₁ done σ₂ →
      BuiltThrough s state (step :: steps) σ (r :: done) σ₂

lemma RunsThrough.built {steps : List CompileStep} {σ σ' : Session} {done : List (String × String)}
    (h : RunsThrough (s.compileOne state) steps σ done σ') : BuiltThrough s state steps σ done σ' := by
  induction h with
  | nil σ => exact .nil σ
  | cons hstep _ ih => exact .cons (compileOne_ok hstep) ih

/-- **A compile stage that succeeds** ran every step from the state it loaded, one after another,
and then saved that state with the digests the steps took; a save that fails leaves the files as
the steps left them. -/
theorem compileObjects_ok {σ σ' : Session} {u : Unit} (h : s.compileObjects.run σ = .ok u σ') :
    let state := (ObjectState.load σ.files s.layout.objectState).1
    ∃ σ₀ done σ₁, σ₀.files = σ.files ∧ BuiltThrough s state (s.compileSteps σ.tests) σ₀ done σ₁ ∧
      σ'.files = ((state.recordBuilt done).save σ₁.files).toOption.getD σ₁.files := by
  intro state
  unfold compileObjects compileObjectsOn at h
  obtain ⟨σg, σ₁, hg, h⟩ := bind_run_ok h
  cases hg
  obtain ⟨fs, σ₂, hf, h⟩ := bind_run_ok h
  cases hf
  split at h
  next st warning hload =>
  have hst : state = st := by simp only [state, hload]
  extract_lets jp at h
  subst hst
  -- after the warning, if any, the steps run and the state is saved
  have hjp : ∀ σ₃, σ₃.files = σ.files → (jp ()).run σ₃ = .ok u σ' → ∃ σ₀ done σ₁,
      σ₀.files = σ.files ∧ BuiltThrough s state (s.compileSteps σ.tests) σ₀ done σ₁ ∧
        σ'.files = ((state.recordBuilt done).save σ₁.files).toOption.getD σ₁.files := by
    intro σ₃ hσ₃ hrun
    simp only [jp] at hrun
    obtain ⟨_, σ₄, hlog, hrun⟩ := bind_run_ok hrun
    rw [logAt_run] at hlog
    cases hlog
    obtain ⟨done, σ₅, hmap, hrun⟩ := bind_run_ok hrun
    obtain ⟨fs, σ₆, hf, hrun⟩ := bind_run_ok hrun
    cases hf
    refine ⟨{ σ₃ with log := σ₃.log ++ [⟨.info, "Running stage."⟩] }, done, σ₅, hσ₃,
      RunsThrough.built (mapM_run_ok.mp ((mapItems_inOrder _ _ _ _).symm.trans hmap)), ?_⟩
    split at hrun
    · next fs hsave =>
      rw [setFiles_run] at hrun
      cases hrun
      rw [hsave]
      rfl
    · next e hsave =>
      rw [logAt_run] at hrun
      cases hrun
      rw [hsave]
      rfl
  split at h
  · obtain ⟨_, σ₃, hlog, h⟩ := bind_run_ok h
    rw [logAt_run] at hlog
    cases hlog
    exact hjp _ (by rfl) h
  · exact hjp _ (by rfl) h

/-- **A failing compile stage saves nothing**: it stops where its failing step stopped, after
the steps before it ran through. -/
theorem compileObjects_fails_at_step {σ σ' : Session} {e : Fault}
    (h : s.compileObjects.run σ = .error e σ') :
    let state := (ObjectState.load σ.files s.layout.objectState).1
    ∃ σ₀ pre step post done σ₁, σ₀.files = σ.files ∧ s.compileSteps σ.tests = pre ++ step :: post ∧
      BuiltThrough s state pre σ₀ done σ₁ ∧ (s.compileOne state step).run σ₁ = .error e σ' := by
  intro state
  unfold compileObjects compileObjectsOn at h
  rcases bind_run_error h with hg | ⟨σg, σ₁, hg, h⟩
  · cases hg
  cases hg
  rcases bind_run_error h with hf | ⟨fs, σ₂, hf, h⟩
  · cases hf
  cases hf
  split at h
  next st warning hload =>
  have hst : state = st := by simp only [state, hload]
  extract_lets jp at h
  subst hst
  -- after the warning, if any, only a step can fail: logging and saving do not
  have hjp : ∀ σ₃, σ₃.files = σ.files → (jp ()).run σ₃ = .error e σ' → ∃ σ₀ pre step post done σ₁,
      σ₀.files = σ.files ∧ s.compileSteps σ.tests = pre ++ step :: post ∧
        BuiltThrough s state pre σ₀ done σ₁ ∧ (s.compileOne state step).run σ₁ = .error e σ' := by
    intro σ₃ hσ₃ hrun
    simp only [jp] at hrun
    rcases bind_run_error hrun with hlog | ⟨_, σ₄, hlog, hrun⟩
    · cases hlog
    rw [logAt_run] at hlog
    cases hlog
    rcases bind_run_error hrun with hmap | ⟨done, σ₅, hmap, hrun⟩
    · obtain ⟨pre, step, post, done, σ₁, hsplit, hpre, hstep⟩ :=
        mapM_run_error_split ((mapItems_inOrder _ _ _ _).symm.trans hmap)
      exact ⟨_, pre, step, post, done, σ₁, by simpa using hσ₃, hsplit, RunsThrough.built hpre, hstep⟩
    rcases bind_run_error hrun with hf | ⟨fs, σ₆, hf, hrun⟩
    · cases hf
    cases hf
    split at hrun
    · cases hrun
    · cases hrun
  split at h
  · rcases bind_run_error h with hlog | ⟨_, σ₃, hlog, h⟩
    · cases hlog
    rw [logAt_run] at hlog
    cases hlog
    exact hjp _ (by rfl) h
  · exact hjp _ (by rfl) h

/-! ### An object compiled while its source could not be read -/

/-- **A stale entry skips a restored source.** When a compile stage took no digest for an
object (its source could not be read after compiling), the state it records keeps the entry of
the object's build before. A later step whose inputs give that old digest again, with the object
present, is then skipped, although the object was last compiled from other inputs. -/
theorem restored_source_skipped {σ : Session} {done : List (String × String)} {line d : String}
    (hnone : ∀ b ∈ done, b.1 = step.object → b.2 = "")
    (hentry : state.entries.lookup step.object = some d)
    (hline : s.toolchain.compileLine step = .ok line)
    (hd : objectDigest σ.files line step.source step.depFile = .ok d)
    (hexists : σ.files.exists_ step.object = true) :
    (s.compileOne (state.recordBuilt done) step).run σ = .ok (step.object, d) σ := by
  refine compileOne_skips_up_to_date hline hd ?_
  simp [ObjectState.upToDate, ObjectState.lookup_recordBuilt_of_no_digest _ hnone, hentry, hexists]

/-! ### The cache across a compile stage -/

/-- **The object cache across a compile stage.** A step answers without running anything only
when its object exists and its inputs give the digest recorded for it, and is otherwise compiled.
A stage that succeeds ran every step from the state it loaded and saved that state with each
object's entry the digest its last build took, or, when no build of it took one, the entry it
had. A stage that fails stops at its failing step, after the steps before it, and saves
nothing. -/
theorem compile_stage_records_taken_digests (s : Setup) :
    (∀ (state : ObjectState) (step : CompileStep) (σ σ' : Session) (r : String × String),
      (s.compileOne state step).run σ = .ok r σ' → StepBuilt s state step σ r σ') ∧
    (∀ (σ σ' : Session) (u : Unit), s.compileObjects.run σ = .ok u σ' →
      let state := (ObjectState.load σ.files s.layout.objectState).1
      ∃ σ₀ done σ₁, σ₀.files = σ.files ∧ BuiltThrough s state (s.compileSteps σ.tests) σ₀ done σ₁ ∧
        σ'.files = ((state.recordBuilt done).save σ₁.files).toOption.getD σ₁.files ∧
        ∀ o, (state.recordBuilt done).entries.lookup o =
          (ObjectState.builtDigest done o).or (state.entries.lookup o)) ∧
    (∀ (σ σ' : Session) (e : Fault), s.compileObjects.run σ = .error e σ' →
      let state := (ObjectState.load σ.files s.layout.objectState).1
      ∃ σ₀ pre step post done σ₁, σ₀.files = σ.files ∧ s.compileSteps σ.tests = pre ++ step :: post ∧
        BuiltThrough s state pre σ₀ done σ₁ ∧ (s.compileOne state step).run σ₁ = .error e σ') := by
  refine ⟨fun _ _ _ _ _ h => compileOne_ok h, fun σ σ' u h => ?_,
    fun _ _ _ h => compileObjects_fails_at_step h⟩
  obtain ⟨σ₀, done, σ₁, h₀, hbuilt, hsave⟩ := compileObjects_ok h
  exact ⟨σ₀, done, σ₁, h₀, hbuilt, hsave, ObjectState.lookup_recordBuilt _ done⟩

end Setup

end TestRig.Build
