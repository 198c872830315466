import TestRig.Build.Run
import Mathlib

/-!
# Runs of build computations

A build computation runs from a session to an answer, a value or a failure, and to the session
it stopped in; a failure keeps that session. This module names the two halves of a run
(`answer`, `reached`), opens the combinators builds are written with (`BuildM.attempt`, `mapM`,
`forM`, `foldlM`) as statements about runs, and gives the frame property later proofs rest on:

* `Keeps view m`: whatever `m` answers, the view `view` of the session is as it was;
* `RunsThrough g xs σ ys σ'`: the computations `g x` for the `xs`, one after another from `σ`,
  all succeed with the values `ys` and stop in `σ'`;
* `FailsOnly P m`, `Returns P m`: every failure of `m`, and every value it answers, has `P`.

The main statements are `mapM_run_ok` and `mapM_run_error_split`: a list of computations run
one after another succeeds exactly when each succeeds from where the one before stopped, and
otherwise fails at one of them, after those before it ran through.
-/

namespace TestRig.Build

/-! ### The two halves of a run -/

/-- The answer of a run: its value, or its failure. -/
def answer : EStateM.Result Fault Session α → Except Fault α
  | .ok a _ => .ok a
  | .error e _ => .error e

/-- The session a run stopped in. -/
def reached : EStateM.Result Fault Session α → Session
  | .ok _ σ => σ
  | .error _ σ => σ

@[simp] lemma answer_ok (a : α) (σ : Session) : answer (.ok a σ : EStateM.Result Fault Session α) = .ok a :=
  rfl

@[simp] lemma answer_error (e : Fault) (σ : Session) :
    answer (.error e σ : EStateM.Result Fault Session α) = .error e := rfl

@[simp] lemma reached_ok (a : α) (σ : Session) : reached (.ok a σ : EStateM.Result Fault Session α) = σ :=
  rfl

@[simp] lemma reached_error (e : Fault) (σ : Session) :
    reached (.error e σ : EStateM.Result Fault Session α) = σ := rfl

/-- The run with an answer that stops in `σ`. -/
def withAnswer : Except Fault α → Session → EStateM.Result Fault Session α
  | .ok a, σ => .ok a σ
  | .error e, σ => .error e σ

@[simp] lemma withAnswer_ok (a : α) (σ : Session) : withAnswer (.ok a) σ = .ok a σ := rfl

@[simp] lemma withAnswer_error (e : Fault) (σ : Session) :
    withAnswer (.error e : Except Fault α) σ = .error e σ := rfl

lemma run_eq_withAnswer (r : EStateM.Result Fault Session α) : r = withAnswer (answer r) (reached r) := by
  cases r <;> rfl

/-! ### The primitives of a build -/

section Primitives

variable (σ : Session)

@[simp] lemma logAt_run (l : Log.Level) (msg : String) :
    (BuildM.logAt l msg).run σ = .ok () { σ with log := σ.log ++ [⟨l, msg⟩] } := rfl

@[simp] lemma noteCall_run (c : StepCall) :
    (BuildM.noteCall c).run σ = .ok () { σ with calls := σ.calls ++ [c] } := rfl

@[simp] lemma noteJournal_run (entry : String) :
    (BuildM.noteJournal entry).run σ = .ok () { σ with journal := σ.journal ++ [entry] } := rfl

@[simp] lemma print_run (text : String) :
    (BuildM.print text).run σ = .ok () { σ with console := σ.console ++ text } := rfl

@[simp] lemma throw_run (e : Fault) : (throw e : BuildM α).run σ = .error e σ := rfl

@[simp] lemma files_run : BuildM.files.run σ = .ok σ.files σ := rfl

@[simp] lemma setFiles_run (t : Files.Tree) :
    (BuildM.setFiles t).run σ = .ok () { σ with files := t } := rfl

@[simp] lemma attempt_run (x : BuildM α) :
    (BuildM.attempt x).run σ = .ok (answer (x.run σ)) (reached (x.run σ)) := by
  simp only [BuildM.attempt, EStateM.run, tryCatch, tryCatchThe, MonadExceptOf.tryCatch,
    EStateM.tryCatch, EStateM.map]
  cases x σ <;> rfl

end Primitives

/-! ### Peeling a computation off the front of another

A run of `x >>= f` is taken apart here once, so that a long `do` block is read one statement at
a time without rewriting the whole block. -/

lemma bind_run_ok {x : BuildM α} {f : α → BuildM β} {σ σ' : Session} {b : β}
    (h : (x >>= f).run σ = .ok b σ') : ∃ a σ₁, x.run σ = .ok a σ₁ ∧ (f a).run σ₁ = .ok b σ' := by
  rw [EStateM.run_bind] at h
  cases hx : x.run σ with
  | ok a σ₁ =>
    rw [hx] at h
    exact ⟨a, σ₁, rfl, h⟩
  | error e σ₁ =>
    rw [hx] at h
    cases h

lemma bind_run_error {x : BuildM α} {f : α → BuildM β} {σ σ' : Session} {e : Fault}
    (h : (x >>= f).run σ = .error e σ') :
    x.run σ = .error e σ' ∨ ∃ a σ₁, x.run σ = .ok a σ₁ ∧ (f a).run σ₁ = .error e σ' := by
  rw [EStateM.run_bind] at h
  cases hx : x.run σ with
  | ok a σ₁ =>
    rw [hx] at h
    exact .inr ⟨a, σ₁, rfl, h⟩
  | error e' σ₁ =>
    rw [hx] at h
    cases h
    exact .inl rfl

/-! ### What a computation leaves alone -/

/-- Whatever `m` answers, the view `view` of the session is as it was. -/
def Keeps (view : Session → β) (m : BuildM α) : Prop :=
  ∀ σ, view (reached (m.run σ)) = view σ

namespace Keeps

variable {view : Session → β}

lemma pure (a : α) : Keeps view (Pure.pure a : BuildM α) := fun _ => rfl

lemma throw (e : Fault) : Keeps view (MonadExcept.throw e : BuildM α) := fun _ => rfl

lemma bind {x : BuildM α} {f : α → BuildM γ} (hx : Keeps view x) (hf : ∀ a, Keeps view (f a)) :
    Keeps view (x >>= f) := by
  intro σ
  rw [EStateM.run_bind]
  cases hr : x.run σ with
  | ok a σ₁ =>
    have h := hx σ
    rw [hr] at h
    rw [hf a σ₁]
    exact h
  | error e σ₁ =>
    have h := hx σ
    rw [hr] at h
    exact h

lemma reached_of_run {m : BuildM α} {σ : Session} {r : EStateM.Result Fault Session α}
    (hk : Keeps view m) (h : m.run σ = r) : view (reached r) = view σ :=
  h ▸ hk σ

lemma ite {c : Prop} [Decidable c] {x y : BuildM α} (hx : Keeps view x) (hy : Keeps view y) :
    Keeps view (if c then x else y) := by
  split
  · exact hx
  · exact hy

lemma map (g : β → γ) {m : BuildM α} (h : Keeps view m) : Keeps (fun σ => g (view σ)) m :=
  fun σ => congrArg g (h σ)

lemma attempt {x : BuildM α} (hx : Keeps view x) : Keeps view (BuildM.attempt x) := by
  intro σ
  rw [attempt_run]
  exact hx σ

lemma mapM {g : α → BuildM β'} : ∀ {xs : List α}, (∀ a ∈ xs, Keeps view (g a)) →
    Keeps view (xs.mapM g)
  | [], _ => pure []
  | x :: _, hg => by
    rw [List.mapM_cons]
    exact bind (hg x List.mem_cons_self) fun _ =>
      bind (mapM fun a ha => hg a (List.mem_cons_of_mem x ha)) fun _ => pure _

lemma forM {g : α → BuildM PUnit} : ∀ {xs : List α}, (∀ a ∈ xs, Keeps view (g a)) →
    Keeps view (xs.forM g)
  | [], _ => pure PUnit.unit
  | x :: xs, hg => by
    rw [List.forM_eq_forM, List.forM_cons]
    refine bind (hg x List.mem_cons_self) fun _ => ?_
    rw [← List.forM_eq_forM]
    exact forM fun a ha => hg a (List.mem_cons_of_mem x ha)

lemma foldlM {g : γ → α → BuildM γ} : ∀ {xs : List α}, (∀ c, ∀ a ∈ xs, Keeps view (g c a)) →
    ∀ c, Keeps view (xs.foldlM g c)
  | [], _, c => pure c
  | x :: _, hg, c => by
    rw [List.foldlM_cons]
    exact bind (hg c x List.mem_cons_self) fun c' =>
      foldlM (fun c a ha => hg c a (List.mem_cons_of_mem x ha)) c'

end Keeps

/-- Computations that leave the tests of a session as they are. -/
abbrev KeepsTests (m : BuildM α) : Prop := Keeps Session.tests m

section Tests

lemma KeepsTests.get : KeepsTests (MonadState.get : BuildM Session) := fun _ => rfl
lemma KeepsTests.logAt (l : Log.Level) (msg : String) : KeepsTests (BuildM.logAt l msg) :=
  fun _ => rfl
lemma KeepsTests.noteCall (c : StepCall) : KeepsTests (BuildM.noteCall c) := fun _ => rfl
lemma KeepsTests.noteJournal (entry : String) : KeepsTests (BuildM.noteJournal entry) :=
  fun _ => rfl
lemma KeepsTests.print (text : String) : KeepsTests (BuildM.print text) := fun _ => rfl
lemma KeepsTests.files : KeepsTests BuildM.files := fun _ => rfl
lemma KeepsTests.setFiles (t : Files.Tree) : KeepsTests (BuildM.setFiles t) := fun _ => rfl

lemma KeepsTests.lift (x : Except Fault α) : KeepsTests (BuildM.lift x) := by
  intro σ
  cases x <;> rfl

lemma KeepsTests.change (op : Files.Tree → Except Files.IoError Files.Tree)
    (why : Files.IoError → Fault) : KeepsTests (BuildM.change op why) := by
  intro σ
  simp only [BuildM.change, EStateM.run_bind, files_run]
  cases op σ.files <;> rfl

end Tests

/-! ### Lists of computations run one after another -/

/-- The computations `g x` for the `xs`, one after another from `σ`, all succeed with the
values `ys` and stop in `σ'`. -/
inductive RunsThrough (g : α → BuildM β) : List α → Session → List β → Session → Prop
  | nil (σ : Session) : RunsThrough g [] σ [] σ
  | cons {x : α} {xs : List α} {y : β} {ys : List β} {σ σ₁ σ₂ : Session} :
      (g x).run σ = .ok y σ₁ → RunsThrough g xs σ₁ ys σ₂ → RunsThrough g (x :: xs) σ (y :: ys) σ₂

/-- A list of computations run one after another succeeds exactly when each succeeds from where
the one before stopped. -/
theorem mapM_run_ok {g : α → BuildM β} {xs : List α} {σ σ' : Session} {ys : List β} :
    (xs.mapM g).run σ = .ok ys σ' ↔ RunsThrough g xs σ ys σ' := by
  induction xs generalizing σ ys with
  | nil =>
    constructor
    · intro h
      cases h
      exact .nil _
    · intro h
      cases h
      rfl
  | cons x xs ih =>
    rw [List.mapM_cons, EStateM.run_bind]
    constructor
    · intro h
      cases hx : (g x).run σ with
      | ok y σ₁ =>
        rw [hx] at h
        simp only [EStateM.run_bind] at h
        cases hxs : (xs.mapM g).run σ₁ with
        | ok ys' σ₂ =>
          rw [hxs] at h
          cases h
          exact .cons hx (ih.mp hxs)
        | error e σ₂ =>
          rw [hxs] at h
          cases h
      | error e σ₁ =>
        rw [hx] at h
        cases h
    · intro h
      cases h with
      | cons hx hxs =>
        rw [hx]
        simp only [EStateM.run_bind]
        rw [ih.mpr hxs]
        rfl

/-- A list of computations run one after another fails at one of them: those before it ran
through, and it failed from where they stopped. -/
theorem mapM_run_error_split {g : α → BuildM β} {xs : List α} {σ σ' : Session} {e : Fault}
    (h : (xs.mapM g).run σ = .error e σ') :
    ∃ pre x post ys σ₁, xs = pre ++ x :: post ∧ RunsThrough g pre σ ys σ₁ ∧
      (g x).run σ₁ = .error e σ' := by
  induction xs generalizing σ with
  | nil => cases h
  | cons x xs ih =>
    rw [List.mapM_cons, EStateM.run_bind] at h
    cases hx : (g x).run σ with
    | ok y σ₁ =>
      rw [hx] at h
      simp only [EStateM.run_bind] at h
      cases hxs : (xs.mapM g).run σ₁ with
      | ok ys σ₂ =>
        rw [hxs] at h
        cases h
      | error e' σ₂ =>
        rw [hxs] at h
        cases h
        obtain ⟨pre, x', post, ys, σ₃, rfl, hpre, hx'⟩ := ih hxs
        exact ⟨x :: pre, x', post, y :: ys, σ₃, rfl, .cons hx hpre, hx'⟩
    | error e' σ₁ =>
      rw [hx] at h
      cases h
      exact ⟨[], x, xs, [], σ, rfl, .nil σ, hx⟩

/-! ### What a computation can fail with -/

/-- Every failure of `m` satisfies `P`. -/
def FailsOnly (P : Fault → Prop) (m : BuildM α) : Prop :=
  ∀ σ e σ', m.run σ = .error e σ' → P e

namespace FailsOnly

variable {P Q : Fault → Prop}

lemma mono {m : BuildM α} (h : FailsOnly P m) (hPQ : ∀ e, P e → Q e) : FailsOnly Q m :=
  fun σ e σ' hr => hPQ e (h σ e σ' hr)

lemma pure (a : α) : FailsOnly P (Pure.pure a : BuildM α) := fun _ _ _ h => nomatch h

lemma throw {e : Fault} (he : P e) : FailsOnly P (MonadExcept.throw e : BuildM α) := by
  intro σ e' σ' h
  cases h
  exact he

lemma bind {x : BuildM α} {f : α → BuildM γ} (hx : FailsOnly P x) (hf : ∀ a, FailsOnly P (f a)) :
    FailsOnly P (x >>= f) := by
  intro σ e σ' h
  rw [EStateM.run_bind] at h
  cases hr : x.run σ with
  | ok a σ₁ =>
    rw [hr] at h
    exact hf a σ₁ e σ' h
  | error e' σ₁ =>
    rw [hr] at h
    cases h
    exact hx _ _ _ hr

lemma ite {c : Prop} [Decidable c] {x y : BuildM α} (hx : FailsOnly P x) (hy : FailsOnly P y) :
    FailsOnly P (if c then x else y) := by
  split
  · exact hx
  · exact hy

lemma attempt (x : BuildM α) : FailsOnly P (BuildM.attempt x) := by
  intro σ e σ' h
  rw [attempt_run] at h
  cases h

lemma logAt (l : Log.Level) (msg : String) : FailsOnly P (BuildM.logAt l msg) :=
  fun _ _ _ h => nomatch h

lemma files : FailsOnly P BuildM.files := fun _ _ _ h => nomatch h

lemma setFiles (t : Files.Tree) : FailsOnly P (BuildM.setFiles t) := fun _ _ _ h => nomatch h

end FailsOnly

/-! ### What a computation can answer -/

/-- Every answer of `m` satisfies `P`. -/
def Returns (P : α → Prop) (m : BuildM α) : Prop :=
  ∀ σ a σ', m.run σ = .ok a σ' → P a

namespace Returns

variable {P : α → Prop}

lemma pure {a : α} (ha : P a) : Returns P (Pure.pure a : BuildM α) := by
  intro σ a' σ' h
  cases h
  exact ha

lemma throw (e : Fault) : Returns P (MonadExcept.throw e : BuildM α) := fun _ _ _ h => nomatch h

lemma bind {x : BuildM γ} {f : γ → BuildM α} (hf : ∀ c, Returns P (f c)) : Returns P (x >>= f) := by
  intro σ a σ' h
  rw [EStateM.run_bind] at h
  cases hr : x.run σ with
  | ok c σ₁ =>
    rw [hr] at h
    exact hf c σ₁ a σ' h
  | error e σ₁ =>
    rw [hr] at h
    cases h

lemma ite {c : Prop} [Decidable c] {x y : BuildM α} (hx : Returns P x) (hy : Returns P y) :
    Returns P (if c then x else y) := by
  split
  · exact hx
  · exact hy

end Returns

end TestRig.Build
