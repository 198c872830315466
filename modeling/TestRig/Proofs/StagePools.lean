import TestRig.Proofs.Session
import TestRig.Proofs.WorkerPool

/-!
# Stages on worker pools

A stage hands its items to a worker pool (`dispatch`). The moves of the pool are followed here
one by one (`Advance`): the pool moves as `Pool.step` says, and a call that returns runs whole,
from the session the calls before it left. The pool keeps the invariant of its runs throughout
(`DInv`), with the failures its calls gave. The statements:

* `dispatch_run`, `dispatch_calls`: a dispatch ends with every worker stopped; its outcomes are
  those of calls on distinct items, run one after another from where it started, and when none
  of them failed, every item was called;
* `dispatch_inOrder`, `mapItems_inOrder`: a pool left to itself from its start calls the items
  in order, so a map over it is its items' steps run one after another;
* `mapItems_error`: a map that fails fails with the step of one of its items, run from a session
  the map passed through.
-/

namespace TestRig.Build

open Pool

variable {α : Type} {c : Nat → BuildM α}

/-! ### What one move does -/

/-- What one move of a dispatch does to it and to the session: a call returns, running whole
from the session, and its outcome is noted while its pool notes its failure; or the pool alone
moves; or nothing happens. -/
inductive Advance (c : Nat → BuildM α) : Dispatch α × Session → Dispatch α × Session → Prop where
  | finish {d : Dispatch α} {σ : Session} {i : Nat} {q : Pool}
      (hq : Moves (fun _ => failText (answer ((c i).run σ))) d.pool (.finish i) q) :
      Advance c (d, σ) (⟨q, d.outcomes ++ [(i, answer ((c i).run σ))]⟩, reached ((c i).run σ))
  | pool {d : Dispatch α} {σ : Session} {m : Move} {q : Pool} (hm : ∀ i, m ≠ .finish i)
      (hc : m ≠ .cancel) (hq : Moves (fun _ => none) d.pool m q) :
      Advance c (d, σ) ({ d with pool := q }, σ)
  | stay (x : Dispatch α × Session) : Advance c x x

lemma move_advance (d : Dispatch α) (m : Move) (σ : Session) :
    ∃ d' σ', (d.move c m).run σ = .ok d' σ' ∧ Advance c (d, σ) (d', σ') := by
  cases m with
  | finish i =>
    by_cases hi : i ∈ d.pool.calling
    · refine ⟨_, _, ?_, .finish (.finish hi)⟩
      simp only [Dispatch.move, hi, if_true, EStateM.run_bind, attempt_run]
      simp [Pool.step, hi]
    · exact ⟨d, σ, by simp [Dispatch.move, hi], .stay _⟩
  | cancel => exact ⟨d, σ, rfl, .stay _⟩
  | receive =>
    cases h : d.pool.step (fun _ => none) .receive with
    | none => exact ⟨d, σ, by simp [Dispatch.move, h], .stay _⟩
    | some q =>
      exact ⟨_, σ, by simp [Dispatch.move, h], .pool (by simp) (by simp) (step_iff.mp h)⟩
  | begin i =>
    cases h : d.pool.step (fun _ => none) (.begin i) with
    | none => exact ⟨d, σ, by simp [Dispatch.move, h], .stay _⟩
    | some q =>
      exact ⟨_, σ, by simp [Dispatch.move, h], .pool (by simp) (by simp) (step_iff.mp h)⟩


lemma moves_advance (d : Dispatch α) (ms : List Move) (σ : Session) :
    ∃ d' σ', (Dispatch.moves c d ms).run σ = .ok d' σ' ∧
      Relation.ReflTransGen (Advance c) (d, σ) (d', σ') := by
  induction ms generalizing d σ with
  | nil => exact ⟨d, σ, rfl, .refl⟩
  | cons m ms ih =>
    obtain ⟨d₁, σ₁, h₁, ha⟩ := move_advance (c := c) d m σ
    obtain ⟨d', σ', h', hrest⟩ := ih d₁ σ₁
    exact ⟨d', σ', by rw [Dispatch.moves, EStateM.run_bind, h₁]; exact h', .head ha hrest⟩

lemma nextMove_eq_none {p : Pool} : p.nextMove = none ↔ p.done = true := by
  rw [done_iff]
  unfold Pool.nextMove
  split <;> simp_all

lemma nextMove_moves {p : Pool} {m : Move} (h : p.nextMove = some m) (fail : Nat → Option String) :
    ∃ q, Moves fail p m q := by
  rcases hc : p.calling with _ | ⟨i, _⟩
  · rcases hh : p.holding with _ | ⟨i, _⟩
    · obtain ⟨hidle, rfl⟩ : p.idle ≠ 0 ∧ m = .receive := by
        simp only [Pool.nextMove, hc, hh] at h
        split at h <;> simp_all
      obtain ⟨k, hk⟩ := Nat.exists_eq_succ_of_ne_zero hidle
      rcases hr : p.ready with _ | ⟨j, rest⟩
      · exact ⟨_, .stop hk hr⟩
      · exact ⟨_, .take hk hr⟩
    · obtain rfl : m = .begin i := by simp_all [Pool.nextMove]
      cases hcan : (p.pooled && p.cancelled)
      · exact ⟨_, .call (by simp [hh]) hcan⟩
      · exact ⟨_, .skip (by simp [hh]) hcan⟩
  · obtain rfl : m = .finish i := by simp_all [Pool.nextMove]
    exact ⟨_, .finish (by simp [hc])⟩

lemma move_measure_lt {d d' : Dispatch α} {m : Move} {σ σ' : Session}
    (hn : d.pool.nextMove = some m) (h : (d.move c m).run σ = .ok d' σ') :
    d'.pool.measure < d.pool.measure := by
  cases m with
  | finish i =>
    obtain ⟨q, hq⟩ := nextMove_moves hn (fun _ => failText (answer ((c i).run σ)))
    have hi : i ∈ d.pool.calling := by cases hq; assumption
    simp only [Dispatch.move, hi, if_true, EStateM.run_bind, attempt_run, hq.step] at h
    cases h
    exact hq.measure_lt
  | cancel => simp_all [Pool.nextMove]; split at hn <;> simp at hn
  | receive =>
    obtain ⟨q, hq⟩ := nextMove_moves hn (fun _ => none)
    simp only [Dispatch.move, hq.step] at h
    cases h
    exact hq.measure_lt
  | begin i =>
    obtain ⟨q, hq⟩ := nextMove_moves hn (fun _ => none)
    simp only [Dispatch.move, hq.step] at h
    cases h
    exact hq.measure_lt

lemma drive_advance (d : Dispatch α) (fuel : Nat) (σ : Session) :
    ∃ d' σ', (Dispatch.drive c fuel d).run σ = .ok d' σ' ∧
      Relation.ReflTransGen (Advance c) (d, σ) (d', σ') ∧
      (d.pool.measure ≤ fuel → d'.pool.done = true) := by
  induction fuel generalizing d σ with
  | zero =>
    refine ⟨d, σ, rfl, .refl, fun h => done_iff.mpr ?_⟩
    have h0 : d.pool.measure = 0 := by omega
    simp only [Pool.measure] at h0
    split at h0 <;> simp_all
  | succ fuel ih =>
    cases hn : d.pool.nextMove with
    | none => exact ⟨d, σ, by simp [Dispatch.drive, hn], .refl, fun _ => nextMove_eq_none.mp hn⟩
    | some m =>
      obtain ⟨d₁, σ₁, h₁, ha⟩ := move_advance (c := c) d m σ
      obtain ⟨d', σ', h', hrest, hdone⟩ := ih d₁ σ₁
      refine ⟨d', σ', ?_, .head ha hrest, fun hle => hdone ?_⟩
      · rw [Dispatch.drive, hn]
        simp only [EStateM.run_bind, h₁]
        exact h'
      · have := move_measure_lt hn h₁
        omega


/-! ### The pool of a dispatch -/

/-- The failure the call on `i` gave its pool, as the outcomes note it. -/
def failOf (outs : List (Nat × Except Fault α)) (i : Nat) : Option String :=
  (outs.lookup i).bind failText

section Moves

variable {f g : Nat → Option String} {p q : Pool} {m : Move}

lemma Pool.Moves.fail_irrel (h : Moves f p m q) (hm : ∀ i, m ≠ .finish i) : Moves g p m q := by
  cases h with
  | finish => exact absurd rfl (hm _)
  | stop hidle hready => exact .stop hidle hready
  | take hidle hready => exact .take hidle hready
  | skip hi hc => exact .skip hi hc
  | call hi hc => exact .call hi hc
  | cancel hc => exact .cancel hc

lemma Pool.Moves.finish_congr {i : Nat} (h : Moves f p (.finish i) q) (hfg : g i = f i) :
    Moves g p (.finish i) q := by
  cases h with
  | finish hi => rw [← hfg]; exact .finish hi

lemma Pool.Moves.finished_of_ne (h : Moves f p m q) (hm : ∀ i, m ≠ .finish i) :
    q.finished = p.finished := by
  cases h with
  | finish => exact absurd rfl (hm _)
  | _ => rfl

lemma findSome?_eq_of_eqOn {l : List Nat} {f g : Nat → Option β} (h : ∀ x ∈ l, f x = g x) :
    l.findSome? f = l.findSome? g := by
  induction l with
  | nil => rfl
  | cons x l ih =>
    simp only [List.findSome?_cons, h x List.mem_cons_self,
      ih fun y hy => h y (List.mem_cons_of_mem x hy)]

variable {k n : Nat}

lemma Pool.Inv.fail_congr (hinv : Inv f k n p) (h : ∀ i ∈ p.finished, g i = f i) :
    Inv g k n p :=
  { hinv with firstErr := hinv.firstErr.trans (findSome?_eq_of_eqOn fun i hi => (h i hi).symm) }

lemma Pool.Inv.started_nodup (hinv : Inv f k n p) : p.started.Nodup :=
  (hinv.accounted.nodup_iff.mpr List.nodup_range).sublist
    (((List.sublist_append_left _ _).trans (List.sublist_append_left _ _)).trans
      (List.sublist_append_left _ _))

lemma Pool.Inv.not_finished_of_calling (hinv : Inv f k n p) {i : Nat} (hi : i ∈ p.calling) :
    i ∉ p.finished := fun hf =>
  (List.nodup_append.mp (hinv.returned.nodup_iff.mpr hinv.started_nodup)).2.2 i hf i hi rfl

end Moves

lemma lookup_ne_none_of_mem {outs : List (Nat × β)} {j : Nat} (hj : j ∈ outs.map Prod.fst) :
    outs.lookup j ≠ none := by
  obtain ⟨o, ho, rfl⟩ := List.mem_map.mp hj
  rw [Ne, List.lookup_eq_none_iff]
  exact fun h => by simpa using h o ho

lemma failOf_append_of_mem {outs new : List (Nat × Except Fault α)} {j : Nat}
    (hj : j ∈ outs.map Prod.fst) : failOf (outs ++ new) j = failOf outs j := by
  obtain ⟨r, hr⟩ := Option.ne_none_iff_exists'.mp (lookup_ne_none_of_mem hj)
  simp [failOf, List.lookup_append, hr]

lemma failOf_append_new {outs : List (Nat × Except Fault α)} {i : Nat} {r : Except Fault α}
    (hi : i ∉ outs.map Prod.fst) : failOf (outs ++ [(i, r)]) i = failText r := by
  have hnone : outs.lookup i = none := List.lookup_eq_none_iff.mpr fun o ho => by
    have : i ≠ o.1 := fun h => hi (List.mem_map.mpr ⟨o, ho, h.symm⟩)
    simpa using this
  simp [failOf, List.lookup_append, hnone]

/-- What every state of a dispatch of `n` items over `k` workers satisfies: its pool keeps the
invariant of a run whose calls fail as the outcomes say, the calls that returned are those whose
outcomes are noted, in order, and nobody cancelled it. -/
structure DInv (k n : Nat) (d : Dispatch α) : Prop where
  pool : Inv (failOf d.outcomes) k n d.pool
  finished : d.pool.finished = d.outcomes.map Prod.fst
  uncancelled : d.pool.parentCancelled = false

lemma DInv.start (e : Executor) (n : Nat) :
    DInv (min e.workers n) n (⟨e.pool n, []⟩ : Dispatch α) :=
  ⟨Inv.start e n, rfl, rfl⟩

lemma Advance.dinv {k n : Nat} {x y : Dispatch α × Session} (h : Advance c x y)
    (hx : DInv k n x.1) : DInv k n y.1 := by
  cases h with
  | stay => exact hx
  | pool hm hc hq =>
    exact ⟨hx.pool.step (hq.fail_irrel hm), (hq.finished_of_ne hm).trans hx.finished,
      (hq.parentCancelled hc).trans hx.uncancelled⟩
  | @finish d σ i q hq =>
    have hi : i ∈ d.pool.calling := by cases hq; assumption
    have hnew : i ∉ d.outcomes.map Prod.fst := hx.finished ▸ hx.pool.not_finished_of_calling hi
    -- the outcome noted last is the only one of its call, so the failures of the others stay
    have hinv : Inv (failOf (d.outcomes ++ [(i, answer ((c i).run σ))])) k n d.pool :=
      hx.pool.fail_congr fun j hj => failOf_append_of_mem (hx.finished ▸ hj)
    refine ⟨hinv.step (hq.finish_congr (failOf_append_new hnew)), ?_, ?_⟩
    · cases hq
      simpa using hx.finished
    · cases hq
      exact hx.uncancelled

/-! ### The calls of a dispatch -/

/-- The call on `i`, with its outcome. -/
def callOutcome (c : Nat → BuildM α) (i : Nat) : BuildM (Nat × Except Fault α) := do
  return (i, ← BuildM.attempt (c i))

@[simp] lemma callOutcome_run (i : Nat) (σ : Session) :
    (callOutcome c i).run σ = .ok (i, answer ((c i).run σ)) (reached ((c i).run σ)) := by
  simp [callOutcome]

/-- The outcomes of a dispatch so far are those of its calls, one after another from the
session it started in. -/
def Traced (c : Nat → BuildM α) (σ₀ : Session) (x : Dispatch α × Session) : Prop :=
  ((x.1.outcomes.map Prod.fst).mapM (callOutcome c)).run σ₀ = .ok x.1.outcomes x.2

lemma Advance.traced {σ₀ : Session} {x y : Dispatch α × Session} (h : Advance c x y)
    (hx : Traced c σ₀ x) : Traced c σ₀ y := by
  cases h with
  | stay => exact hx
  | pool => exact hx
  | finish hq =>
    unfold Traced at *
    simp only [List.map_append, List.map_cons, List.map_nil, List.mapM_append, EStateM.run_bind, hx]
    simp

lemma advance_keeps {P : Dispatch α × Session → Prop} (hstep : ∀ x y, Advance c x y → P x → P y)
    {x y : Dispatch α × Session} (h : Relation.ReflTransGen (Advance c) x y) (hx : P x) : P y := by
  induction h with
  | refl => exact hx
  | tail _ hab ih => exact hstep _ _ hab ih

/-- A dispatch never fails; it ends with every worker stopped, its pool keeping the invariant,
and its outcomes are those of its calls run one after another. -/
theorem dispatch_run (e : Executor) (ms : List Move) (n : Nat) (σ : Session) :
    ∃ d σ', (dispatch e ms n c).run σ = .ok d.outcomes σ' ∧
      DInv (min e.workers n) n d ∧ Traced c σ (d, σ') ∧ d.pool.done = true := by
  obtain ⟨d₁, σ₁, h₁, ha₁⟩ := moves_advance (c := c) ⟨e.pool n, []⟩ ms σ
  obtain ⟨d, σ', h₂, ha₂, hdone⟩ := drive_advance (c := c) d₁ d₁.pool.measure σ₁
  have ha := ha₁.trans ha₂
  refine ⟨d, σ', ?_, advance_keeps (P := fun x => DInv _ n x.1) (fun _ _ h hx => h.dinv hx) ha
      (DInv.start e n), advance_keeps (fun _ _ h hx => h.traced hx) ha rfl, hdone le_rfl⟩
  simp only [dispatch, EStateM.run_bind, h₁, h₂]
  rfl


/-- The outcomes of a dispatch are the calls of some of its items, each at most once, run one
after another from where it started; when none of them failed, every item was called. -/
theorem dispatch_calls (e : Executor) (ms : List Move) (n : Nat) (σ : Session) :
    ∃ outs σ', (dispatch e ms n c).run σ = .ok outs σ' ∧
      ((outs.map Prod.fst).mapM (callOutcome c)).run σ = .ok outs σ' ∧
      (outs.map Prod.fst).Nodup ∧ (∀ i ∈ outs.map Prod.fst, i < n) ∧
      (firstFailure outs = none → (outs.map Prod.fst).Perm (List.range n)) := by
  obtain ⟨d, σ', hrun, hinv, htrace, hdone⟩ := dispatch_run (c := c) e ms n σ
  have hret : (d.outcomes.map Prod.fst).Perm d.pool.started :=
    hinv.finished ▸ hinv.pool.done_returned hdone
  refine ⟨d.outcomes, σ', hrun, htrace, hret.nodup_iff.mpr hinv.pool.started_nodup,
    fun i hi => ?_, fun hok => ?_⟩
  · have := hinv.pool.accounted.subset (List.mem_append_left _ (List.mem_append_left _
      (List.mem_append_left _ (hret.subset hi))))
    simpa using this
  · -- no call failed, so nothing cancelled the pool and it skipped no item
    have hfirst : d.pool.firstErr = none := by
      rw [hinv.pool.firstErr, hinv.finished, List.findSome?_eq_none_iff]
      intro j hj
      obtain ⟨r, hr⟩ := Option.ne_none_iff_exists'.mp (lookup_ne_none_of_mem hj)
      obtain ⟨l₁, l₂, hsplit, -⟩ := List.lookup_eq_some_iff.mp hr
      have hmem : (j, r) ∈ d.outcomes := by simp [hsplit]
      have hr_ok : failureOf r = none := List.findSome?_eq_none_iff.mp hok _ hmem
      simp [failOf, hr, failText, hr_ok]
    have hskipped : d.pool.skipped = [] := by
      rcases hinv.pool.skips with h | h
      · exact h
      · simp [cancelled, hinv.uncancelled, hfirst] at h
    exact hret.trans (by simpa [hskipped] using hinv.pool.done_accounted hdone)


lemma Plan.moves_run (p : Plan) (e : Executor) (n : Nat) (c : Nat → BuildM α) (σ : Session) :
    ∃ ms, (p.moves e n c).run σ = .ok ms σ := by
  cases p with
  | given ms => exact ⟨ms, rfl⟩
  | timed => exact ⟨_, rfl⟩

/-! ### A pool on its own -/

lemma move_of_moves {f : Nat → Option String} {d : Dispatch α} {m : Move} {q : Pool}
    (hm : ∀ i, m ≠ .finish i) (hc : m ≠ .cancel) (h : Moves f d.pool m q) (σ : Session) :
    (d.move c m).run σ = .ok { d with pool := q } σ := by
  have hstep := (h.fail_irrel (g := fun _ => none) hm).step
  cases m with
  | finish i => exact absurd rfl (hm i)
  | cancel => exact absurd rfl hc
  | receive => simp [Dispatch.move, hstep]
  | begin i => simp [Dispatch.move, hstep]

lemma move_finish {d : Dispatch α} {i : Nat} {σ : Session} {q : Pool}
    (hq : Moves (fun _ => failText (answer ((c i).run σ))) d.pool (.finish i) q) :
    (d.move c (.finish i)).run σ =
      .ok ⟨q, d.outcomes ++ [(i, answer ((c i).run σ))]⟩ (reached ((c i).run σ)) := by
  have hi : i ∈ d.pool.calling := by cases hq; assumption
  simp [Dispatch.move, hi, hq.step]

/-- A pool with no call in progress that is cancelled, or has nothing held or left in the
channel: it calls nothing more. -/
def Quiet (p : Pool) : Prop :=
  p.calling = [] ∧ ((p.holding = [] ∧ p.ready = []) ∨ (p.pooled && p.cancelled) = true)

lemma Quiet.moves {f : Nat → Option String} {p q : Pool} {m : Move} (hp : Quiet p)
    (h : Moves f p m q) : Quiet q ∧ ∀ i, m ≠ .finish i := by
  obtain ⟨hcalling, hrest⟩ := hp
  cases h with
  | finish hi => simp [hcalling] at hi
  | call hi hc =>
    rcases hrest with ⟨hh, -⟩ | hcan
    · simp [hh] at hi
    · simp [hcan] at hc
  | stop => exact ⟨⟨hcalling, by simpa [cancelled] using hrest⟩, by simp⟩
  | take _ hready =>
    rcases hrest with ⟨-, hr⟩ | hcan
    · simp [hr] at hready
    · exact ⟨⟨hcalling, .inr hcan⟩, by simp⟩
  | skip hi hc => exact ⟨⟨hcalling, .inr hc⟩, by simp⟩
  | cancel => exact ⟨⟨hcalling, by rcases hrest with h | h <;> simp_all [cancelled]⟩, by simp⟩

lemma drive_quiet (fuel : Nat) (d : Dispatch α) (σ : Session) (hq : Quiet d.pool) :
    ∃ p, (Dispatch.drive c fuel d).run σ = .ok ⟨p, d.outcomes⟩ σ := by
  induction fuel generalizing d with
  | zero => exact ⟨d.pool, rfl⟩
  | succ fuel ih =>
    cases hn : d.pool.nextMove with
    | none => exact ⟨d.pool, by simp [Dispatch.drive, hn]⟩
    | some m =>
      obtain ⟨q, hmove⟩ := nextMove_moves hn (fun _ => none)
      obtain ⟨hq', hm⟩ := hq.moves hmove
      have hc : m ≠ .cancel := by
        rintro rfl
        simp only [Pool.nextMove] at hn
        split at hn <;> simp at hn
      obtain ⟨p, hp⟩ := ih { d with pool := q } hq'
      exact ⟨p, by rw [Dispatch.drive, hn]; simp only [EStateM.run_bind, move_of_moves hm hc hmove]; exact hp⟩

/-- The calls on the indices in order, up to and with the first that fails. -/
def callsInOrder (c : Nat → BuildM α) : List Nat → BuildM (List (Nat × Except Fault α))
  | [] => pure []
  | i :: is => do
    let r ← BuildM.attempt (c i)
    match r with
    | .ok _ => return (i, r) :: (← callsInOrder c is)
    | .error _ => return [(i, r)]

lemma callsInOrder_run (is : List Nat) (σ : Session) :
    ∃ new σ', (callsInOrder c is).run σ = .ok new σ' := by
  induction is generalizing σ with
  | nil => exact ⟨[], σ, rfl⟩
  | cons i is ih =>
    cases hr : answer ((c i).run σ) with
    | error e => exact ⟨[(i, .error e)], reached ((c i).run σ), by simp [callsInOrder, hr]⟩
    | ok a =>
      obtain ⟨new, σ', h⟩ := ih (reached ((c i).run σ))
      exact ⟨(i, .ok a) :: new, σ', by simp [callsInOrder, hr, h]⟩

lemma drive_inOrder (is : List Nat) (p : Pool) (outs : List (Nat × Except Fault α))
    (fuel : Nat) (σ : Session) (hcalling : p.calling = []) (hholding : p.holding = [])
    (hready : p.ready = is) (hfirst : p.firstErr = none) (hparent : p.parentCancelled = false)
    (hidle : is ≠ [] → 0 < p.idle) (hpooled : p.pooled = true ∨ is.length ≤ 1)
    (hfuel : p.measure ≤ fuel) {new : List (Nat × Except Fault α)} {σ' : Session}
    (h : (callsInOrder c is).run σ = .ok new σ') :
    ∃ p', (Dispatch.drive c fuel ⟨p, outs⟩).run σ = .ok ⟨p', outs ++ new⟩ σ' := by
  induction is generalizing p outs fuel σ new with
  | nil =>
    simp only [callsInOrder] at h
    cases h
    simpa using drive_quiet (c := c) fuel ⟨p, outs⟩ _ ⟨hcalling, .inl ⟨hholding, hready⟩⟩
  | cons i is ih =>
    obtain ⟨k, hk⟩ := Nat.exists_eq_succ_of_ne_zero (Nat.pos_iff_ne_zero.mp (hidle (by simp)))
    -- three moves: a worker takes `i`, begins it, and the call returns
    obtain ⟨fuel, rfl⟩ : ∃ f, fuel = f + 3 := ⟨fuel - 3, by simp [Pool.measure, hready, hparent] at hfuel; omega⟩
    have hcan : (p.pooled && p.cancelled) = false := by simp [cancelled, hfirst, hparent]
    set p₁ : Pool := { p with ready := is, idle := k, holding := i :: p.holding }
    set p₂ : Pool := { p₁ with holding := p₁.holding.erase i, calling := i :: p₁.calling,
                               started := p₁.started ++ [i] }
    have hm₁ : Moves (fun _ => none) p .receive p₁ := .take hk hready
    have hm₂ : Moves (fun _ => none) p₁ (.begin i) p₂ := .call (by simp [p₁]) (by simpa [p₁, cancelled] using hcan)
    have hn₁ : p.nextMove = some .receive := by simp [Pool.nextMove, hcalling, hholding, hk]
    have hn₂ : p₁.nextMove = some (.begin i) := by simp [Pool.nextMove, p₁, hcalling, hholding]
    have hn₃ : p₂.nextMove = some (.finish i) := by simp [Pool.nextMove, p₂]
    set p₃ : Pool :=
      { p₂ with calling := p₂.calling.erase i, idle := p₂.idle + 1, finished := p₂.finished ++ [i],
                firstErr := p₂.firstErr <|> failText (answer ((c i).run σ)) }
    have hm₃ : Moves (fun _ => failText (answer ((c i).run σ))) p₂ (.finish i) p₃ :=
      .finish (by simp [p₂])
    have hp₃ : p₃.calling = [] ∧ p₃.holding = [] ∧ p₃.ready = is ∧ p₃.idle = k + 1 ∧
        p₃.pooled = p.pooled ∧ p₃.parentCancelled = false ∧ p₃.measure + 3 = p.measure := by
      simp [p₃, p₂, p₁, hcalling, hholding, hparent, Pool.measure, hready, hk]
      omega
    simp only [Dispatch.drive, hn₁, EStateM.run_bind,
      move_of_moves (d := ⟨p, outs⟩) (by simp) (by simp) hm₁]
    simp only [hn₂, EStateM.run_bind, move_of_moves (d := ⟨p₁, outs⟩) (by simp) (by simp) hm₂]
    simp only [hn₃, EStateM.run_bind, move_finish (d := ⟨p₂, outs⟩) hm₃]
    simp only [callsInOrder, EStateM.run_bind, attempt_run] at h
    cases hr : answer ((c i).run σ) with
    | ok a =>
      -- the call went through: the pool takes the next index as it took this one
      rw [hr] at h
      obtain ⟨rest, σ₁, hrest, hcons⟩ := bind_run_ok h
      obtain ⟨rfl, rfl⟩ : (i, Except.ok a) :: rest = new ∧ σ₁ = σ' := by simpa using hcons
      have hfirst₃ : p₃.firstErr = none := by simp [p₃, p₂, p₁, hfirst, hr, failText, failureOf]
      obtain ⟨p', hp'⟩ := ih p₃ (outs ++ [(i, .ok a)]) fuel _ hp₃.1 hp₃.2.1 hp₃.2.2.1 hfirst₃
        hp₃.2.2.2.2.2.1 (fun _ => by omega) (by rcases hpooled with h | h <;> simp_all)
        (by omega) hrest
      exact ⟨p', by simpa [hr] using hp'⟩
    | error e =>
      -- the call failed: the pool is cancelled, or it had nothing left to take
      rw [hr] at h
      obtain ⟨rfl, rfl⟩ : [(i, Except.error e)] = new ∧ reached ((c i).run σ) = σ' := by
        simpa using h
      have hquiet : Quiet p₃ := by
        refine ⟨hp₃.1, ?_⟩
        rcases hpooled with h | h
        · exact .inr (by simp [p₃, p₂, p₁, h, cancelled, hr, failText, failureOf])
        · exact .inl ⟨hp₃.2.1, by simpa [hp₃.2.2.1] using h⟩
      obtain ⟨p', hp'⟩ := drive_quiet (c := c) fuel ⟨p₃, outs ++ [(i, .error e)]⟩ _ hquiet
      exact ⟨p', by simpa [hr] using hp'⟩


/-- **A pool left to itself from its start calls its items one at a time, in order**, up to and
with the first that fails: the run of a stage with one worker, or with no schedule of its own. -/
theorem dispatch_inOrder (e : Executor) (n : Nat) (σ : Session) :
    (dispatch e [] n c).run σ = (callsInOrder c (List.range n)).run σ := by
  obtain ⟨new, σ', h⟩ := callsInOrder_run (c := c) (List.range n) σ
  have hidle : List.range n ≠ [] → 0 < (e.pool n).idle := fun hn => by
    have := e.workers_pos
    simp only [ne_eq, List.range_eq_nil] at hn
    simp only [Executor.pool]
    omega
  have hpooled : (e.pool n).pooled = true ∨ (List.range n).length ≤ 1 := by
    by_cases hn : 2 ≤ n
    · exact .inl (by simp [Executor.pool, hn])
    · exact .inr (by simp only [List.length_range]; omega)
  obtain ⟨p', hp'⟩ := drive_inOrder (c := c) (List.range n) (e.pool n) [] (e.pool n).measure σ
    rfl rfl rfl rfl rfl hidle hpooled le_rfl h
  rw [h]
  simp only [dispatch, Dispatch.moves, EStateM.run_bind, EStateM.run_pure]
  simp [hp']

lemma callsInOrder_of_mapM_ok {is : List Nat} {σ σ' : Session} {vs : List α}
    (h : (is.mapM c).run σ = .ok vs σ') :
    (callsInOrder c is).run σ = .ok (is.zip (vs.map .ok)) σ' ∧ vs.length = is.length := by
  induction is generalizing σ vs with
  | nil =>
    simp only [List.mapM_nil, EStateM.run_pure] at h
    cases h
    exact ⟨rfl, rfl⟩
  | cons i is ih =>
    rw [List.mapM_cons] at h
    obtain ⟨v, σ₁, hv, h₁⟩ := bind_run_ok h
    obtain ⟨vs', σ₂, hvs, h₂⟩ := bind_run_ok h₁
    obtain ⟨rfl, rfl⟩ : v :: vs' = vs ∧ σ₂ = σ' := by simpa using h₂
    obtain ⟨hcalls, hlen⟩ := ih hvs
    refine ⟨?_, by simp [hlen]⟩
    simp [callsInOrder, hv, hcalls]

lemma callsInOrder_of_mapM_error {is : List Nat} {σ σ' : Session} {e : Fault}
    (h : (is.mapM c).run σ = .error e σ') :
    ∃ outs, (callsInOrder c is).run σ = .ok outs σ' ∧ firstFailure outs = some e := by
  induction is generalizing σ with
  | nil => simp at h
  | cons i is ih =>
    rw [List.mapM_cons] at h
    rcases bind_run_error h with hi | ⟨v, σ₁, hv, h₁⟩
    · exact ⟨[(i, .error e)], by simp [callsInOrder, hi], by simp [firstFailure, failureOf]⟩
    · rcases bind_run_error h₁ with hrest | ⟨_, _, _, h₂⟩
      · obtain ⟨outs, hcalls, hfirst⟩ := ih hrest
        exact ⟨(i, .ok v) :: outs, by simp [callsInOrder, hv, hcalls],
          by simpa [firstFailure, failureOf] using hfirst⟩
      · simp at h₂

lemma mapM_range_itemCall [Inhabited α] (items : List β) (step : β → BuildM α) :
    (List.range items.length).mapM (itemCall items step) = items.mapM step := by
  induction items with
  | nil => rfl
  | cons x xs ih =>
    have hshift : itemCall (x :: xs) step ∘ Nat.succ = itemCall xs step := rfl
    rw [List.length_cons, List.range_succ_eq_map, List.mapM_cons, List.mapM_map, hshift, ih,
      List.mapM_cons]
    rfl

lemma lookup_map_succ (l : List (Nat × γ)) (j : Nat) :
    (l.map (Prod.map Nat.succ id)).lookup (j + 1) = l.lookup j := by
  induction l with
  | nil => rfl
  | cons o l ih =>
    obtain ⟨i, c⟩ := o
    by_cases hij : j = i
    · simp [hij]
    · simp [List.lookup_cons, ih]

lemma valueAt_zip_range (vs : List α) (i : Nat) :
    valueAt ((List.range vs.length).zip (vs.map .ok)) i = vs[i]? := by
  induction vs generalizing i with
  | nil => simp [valueAt]
  | cons v vs ih =>
    rw [List.length_cons, List.range_succ_eq_map, List.map_cons, List.zip_cons_cons,
      List.zip_map_left]
    cases i with
    | zero =>
      simp only [valueAt, List.lookup_cons, BEq.rfl, Option.bind_some]
      rfl
    | succ j =>
      have := ih j
      simp only [valueAt] at this ⊢
      rw [List.lookup_cons]
      simpa [lookup_map_succ] using this

/-- **A map over a pool left to itself is the items' steps run one after another**: all values
in item order, or the failure of the first step to fail, after the steps before it. -/
theorem mapItems_inOrder [Inhabited α] (e : Executor) (items : List β) (step : β → BuildM α)
    (σ : Session) : (mapItems e (.given []) items step).run σ = (items.mapM step).run σ := by
  simp only [mapItems, Plan.moves, EStateM.run_bind, EStateM.run_pure, dispatch_inOrder]
  cases h : (items.mapM step).run σ with
  | ok vs σ' =>
    rw [← mapM_range_itemCall] at h
    obtain ⟨hcalls, hlen⟩ := callsInOrder_of_mapM_ok h
    rw [hcalls]
    have hnone : firstFailure ((List.range items.length).zip (vs.map Except.ok)) = none := by
      refine List.findSome?_eq_none_iff.mpr fun o ho => ?_
      obtain ⟨v, -, hv⟩ := List.mem_map.mp (List.of_mem_zip ho).2
      rw [← hv]
      rfl
    have hvals : (List.range items.length).map (fun i =>
        (valueAt ((List.range items.length).zip (vs.map .ok)) i).getD default) = vs := by
      have hl : vs.length = items.length := by simpa using hlen
      rw [← hl]
      refine List.ext_getElem (by simp) fun i h₁ h₂ => ?_
      simp [valueAt_zip_range, List.getElem?_eq_getElem h₂]
    simp [hnone, hvals]
  | error e σ' =>
    rw [← mapM_range_itemCall] at h
    obtain ⟨outs, hcalls, hfirst⟩ := callsInOrder_of_mapM_error h
    simp [hcalls, hfirst]


/-! ### Maps over a pool -/

/-- What a computation does to the session, whatever it answers. -/
def effect (x : BuildM β) (σ : Session) : Session := reached (x.run σ)

/-- The sessions a stage passes through from where it starts: the effect of a step of one of its
items, or a record logged, one after another. -/
inductive Passes (effects : List (Session → Session)) : Session → Session → Prop where
  | refl (σ : Session) : Passes effects σ σ
  | step {f : Session → Session} {σ τ : Session} (hf : f ∈ effects) (h : Passes effects (f σ) τ) :
      Passes effects σ τ
  | log {σ τ : Session} (r : Log.Record) (h : Passes effects { σ with log := σ.log ++ [r] } τ) :
      Passes effects σ τ

lemma Passes.trans {effects : List (Session → Session)} {σ τ υ : Session}
    (h₁ : Passes effects σ τ) (h₂ : Passes effects τ υ) : Passes effects σ υ := by
  induction h₁ with
  | refl => exact h₂
  | step hf _ ih => exact .step hf (ih h₂)
  | log r _ ih => exact .log r (ih h₂)

lemma calls_split {pre post : List (Nat × Except Fault α)} {o : Nat × Except Fault α}
    {σ σ' : Session}
    (h : (((pre ++ o :: post).map Prod.fst).mapM (callOutcome c)).run σ = .ok (pre ++ o :: post) σ') :
    ∃ σa, ((pre.map Prod.fst).mapM (callOutcome c)).run σ = .ok pre σa ∧
      answer ((c o.1).run σa) = o.2 := by
  induction pre generalizing σ with
  | nil =>
    simp only [List.nil_append, List.map_cons, List.mapM_cons] at h
    obtain ⟨v, σ₁, hv, h₁⟩ := bind_run_ok h
    obtain ⟨vs, σ₂, -, h₂⟩ := bind_run_ok h₁
    obtain ⟨⟨rfl, -⟩, -⟩ : (v = o ∧ vs = post) ∧ σ₂ = σ' := by simpa using h₂
    simp only [callOutcome_run, EStateM.Result.ok.injEq] at hv
    exact ⟨σ, rfl, congrArg Prod.snd hv.1⟩
  | cons p pre ih =>
    simp only [List.cons_append, List.map_cons, List.mapM_cons] at h
    obtain ⟨v, σ₁, hv, h₁⟩ := bind_run_ok h
    obtain ⟨vs, σ₂, hvs, h₂⟩ := bind_run_ok h₁
    obtain ⟨⟨rfl, rfl⟩, rfl⟩ : (v = p ∧ vs = pre ++ o :: post) ∧ σ₂ = σ' := by simpa using h₂
    obtain ⟨σa, hpre, ho⟩ := ih hvs
    refine ⟨σa, ?_, ho⟩
    simp only [List.map_cons, List.mapM_cons, EStateM.run_bind, hv, hpre]
    rfl

lemma passes_of_calls {effects : List (Session → Session)} {is : List Nat}
    (hcall : ∀ i ∈ is, effect (c i) ∈ effects) {outs : List (Nat × Except Fault α)}
    {σ σ' : Session} (h : (is.mapM (callOutcome c)).run σ = .ok outs σ') : Passes effects σ σ' := by
  induction is generalizing σ outs with
  | nil =>
    simp only [List.mapM_nil, EStateM.run_pure] at h
    cases h
    exact .refl _
  | cons i is ih =>
    rw [List.mapM_cons] at h
    obtain ⟨v, σ₁, hv, h₁⟩ := bind_run_ok h
    obtain ⟨vs, σ₂, hvs, h₂⟩ := bind_run_ok h₁
    obtain ⟨-, rfl⟩ : v :: vs = outs ∧ σ₂ = σ' := by simpa using h₂
    rw [callOutcome_run] at hv
    cases hv
    exact .step (hcall i List.mem_cons_self)
      (ih (fun j hj => hcall j (List.mem_cons_of_mem i hj)) hvs)

lemma effect_itemCall [Inhabited α] {items : List β} {step : β → BuildM α} {i : Nat}
    (hi : i < items.length) :
    effect (itemCall items step i) ∈ items.map fun x => effect (step x) := by
  simp only [itemCall, List.getElem?_eq_getElem hi]
  exact List.mem_map_of_mem (List.getElem_mem hi)

/-- **A map over a pool that fails fails with a step of one of its items**, run from a session
the map passed through: its failure is the first to return. -/
theorem mapItems_error [Inhabited α] {e : Executor} {plan : Plan} {items : List β}
    {step : β → BuildM α} {σ σ' : Session} {err : Fault}
    (h : (mapItems e plan items step).run σ = .error err σ') :
    ∃ x ∈ items, ∃ σa σb, Passes (items.map fun y => effect (step y)) σ σa ∧
      (step x).run σa = .error err σb := by
  obtain ⟨ms, hms⟩ := plan.moves_run e items.length (itemCall items step) σ
  obtain ⟨outs, σ₁, hrun, htrace, -, hlt, -⟩ :=
    dispatch_calls (c := itemCall items step) e ms items.length σ
  simp only [mapItems, EStateM.run_bind, hms, hrun] at h
  cases hf : firstFailure outs with
  | none => simp [hf] at h
  | some err' =>
    simp only [hf, throw_run] at h
    cases h
    obtain ⟨o, ho, hfo⟩ := List.exists_of_findSome?_eq_some hf
    obtain ⟨pre, post, rfl⟩ := List.append_of_mem ho
    obtain ⟨σa, hpre, hans⟩ := calls_split htrace
    have hi : o.1 < items.length := hlt _ (List.mem_map_of_mem ho)
    have herr : o.2 = .error err := by
      revert hfo
      cases o.2 <;> simp [failureOf]
    refine ⟨items[o.1], List.getElem_mem hi, σa, reached ((step items[o.1]).run σa),
      passes_of_calls (fun j hj => effect_itemCall (hlt j (by
        simp only [List.map_append, List.mem_append]
        exact .inl hj))) hpre, ?_⟩
    rw [herr] at hans
    have hcall : itemCall items step o.1 = step items[o.1] := by
      simp [itemCall, List.getElem?_eq_getElem hi]
    rw [hcall] at hans
    rw [run_eq_withAnswer ((step items[o.1]).run σa), hans]
    rfl

lemma lookup_of_mem {outs : List (Nat × β)} (hnodup : (outs.map Prod.fst).Nodup)
    {o : Nat × β} (ho : o ∈ outs) : outs.lookup o.1 = some o.2 := by
  rw [List.lookup_eq_some_iff]
  obtain ⟨l₁, l₂, rfl⟩ := List.append_of_mem ho
  refine ⟨l₁, l₂, rfl, fun p hp => ?_⟩
  simp only [List.map_append, List.map_cons, List.nodup_append, List.nodup_cons] at hnodup
  simp only [bne_iff_ne, ne_eq]
  intro heq
  exact hnodup.2.2 _ (List.mem_map_of_mem hp) _ List.mem_cons_self heq.symm

lemma outcome_of_mem {outs : List (Nat × Except Fault α)} {σ σ' : Session}
    (htrace : ((outs.map Prod.fst).mapM (callOutcome c)).run σ = .ok outs σ')
    (hnodup : (outs.map Prod.fst).Nodup) {o : Nat × Except Fault α} (ho : o ∈ outs) :
    outs.lookup o.1 = some o.2 ∧ ∃ (pre : List (Nat × Except Fault α)) (σa : Session), (∀ p ∈ pre, p ∈ outs) ∧
      ((pre.map Prod.fst).mapM (callOutcome c)).run σ = .ok pre σa ∧
      answer ((c o.1).run σa) = o.2 := by
  refine ⟨lookup_of_mem hnodup ho, ?_⟩
  obtain ⟨pre, post, rfl⟩ := List.append_of_mem ho
  obtain ⟨σa, hpre, hans⟩ := calls_split htrace
  exact ⟨pre, σa, fun p hp => List.mem_append_left _ hp, hpre, hans⟩

/-- **A map over a pool that succeeds gives each item a value its step returned**, run from a
session the map passed through. -/
theorem mapItems_ok [Inhabited α] {e : Executor} {plan : Plan} {items : List β}
    {step : β → BuildM α} {σ σ' : Session} {vs : List α}
    (h : (mapItems e plan items step).run σ = .ok vs σ') :
    List.Forall₂ (fun x v => ∃ σa σb, Passes (items.map fun y => effect (step y)) σ σa ∧
      (step x).run σa = .ok v σb) items vs := by
  obtain ⟨ms, hms⟩ := plan.moves_run e items.length (itemCall items step) σ
  obtain ⟨outs, σ₁, hrun, htrace, hnodup, hlt, hall⟩ :=
    dispatch_calls (c := itemCall items step) e ms items.length σ
  simp only [mapItems, EStateM.run_bind, hms, hrun] at h
  cases hf : firstFailure outs with
  | some err => simp [hf] at h
  | none =>
    simp only [hf, EStateM.run_pure, EStateM.Result.ok.injEq] at h
    obtain ⟨rfl, -⟩ := h
    refine List.forall₂_iff_get.mpr ⟨by simp, fun i h₁ h₂ => ?_⟩
    -- no call failed, so every item was called once
    obtain ⟨o, ho, rfl⟩ := List.mem_map.mp ((hall hf).mem_iff.mpr (List.mem_range.mpr h₁))
    obtain ⟨hlook, pre, σa, hsub, hpre, hans⟩ := outcome_of_mem htrace hnodup ho
    obtain ⟨v, hv⟩ : ∃ v, o.2 = .ok v := by
      have := List.findSome?_eq_none_iff.mp hf o ho
      revert this
      cases o.2 <;> simp [failureOf]
    have hcall : itemCall items step o.1 = step items[o.1] := by
      simp [itemCall, List.getElem?_eq_getElem h₁]
    rw [hcall, hv] at hans
    refine ⟨σa, reached ((step items[o.1]).run σa),
      passes_of_calls (fun j hj => effect_itemCall (hlt j (by
        obtain ⟨p, hp, rfl⟩ := List.mem_map.mp hj
        exact List.mem_map_of_mem (hsub p hp)))) hpre, ?_⟩
    simp only [List.get_eq_getElem, List.getElem_map, List.getElem_range, valueAt, hlook, hv,
      Option.bind_some, Except.toOption, Option.getD_some]
    rw [run_eq_withAnswer ((step items[o.1]).run σa), hans]
    rfl

lemma mapItems_keeps [Inhabited α] {view : Session → γ} {items : List β} {step : β → BuildM α}
    (h : ∀ x ∈ items, Keeps view (step x)) (e : Executor) (plan : Plan) :
    Keeps view (mapItems e plan items step) := by
  intro σ
  obtain ⟨ms, hms⟩ := plan.moves_run e items.length (itemCall items step) σ
  obtain ⟨outs, σ₁, hrun, htrace, -⟩ :=
    dispatch_calls (c := itemCall items step) e ms items.length σ
  have hcalls : Keeps view ((outs.map Prod.fst).mapM (callOutcome (itemCall items step))) :=
    Keeps.mapM fun i _ => Keeps.bind (Keeps.attempt (by
      unfold itemCall
      split
      · exact h _ (List.mem_of_getElem? ‹_›)
      · exact Keeps.pure _)) fun _ => Keeps.pure _
  have hview := Keeps.reached_of_run hcalls htrace
  simp only [mapItems, EStateM.run_bind, hms, hrun]
  rcases hf : firstFailure outs with _ | err
  · simpa [hf] using hview
  · simpa [hf] using hview

/-! ### Collections over a pool -/

lemma perm_range_lookup {met : List (Nat × β)} {n : Nat} (hnodup : (met.map Prod.fst).Nodup)
    (hperm : (met.map Prod.fst).Perm (List.range n)) (d : β) :
    ((List.range n).map fun i => (i, (met.lookup i).getD d)).Perm met := by
  have hinj : Function.Injective fun i => (i, (met.lookup i).getD d) := fun i j h =>
    congrArg Prod.fst h
  refine (List.perm_ext_iff_of_nodup (List.nodup_range.map hinj)
    (List.Nodup.of_map Prod.fst hnodup)).mpr fun ⟨i, v⟩ => ⟨fun h => ?_, fun h => ?_⟩
  · obtain ⟨j, hj, hji⟩ := List.mem_map.mp h
    obtain ⟨rfl, rfl⟩ := Prod.mk.inj hji
    obtain ⟨o, ho, rfl⟩ := List.mem_map.mp (hperm.mem_iff.mpr hj)
    rw [lookup_of_mem hnodup ho]
    exact ho
  · refine List.mem_map.mpr ⟨i, hperm.mem_iff.mp (List.mem_map_of_mem h), ?_⟩
    rw [lookup_of_mem hnodup h]
    rfl

lemma answer_itemCall_attempt (items : List β) (step : β → BuildM α) (i : Nat)
    (σ : Session) : ∃ r, answer ((itemCall items fun x => BuildM.attempt (step x)) i |>.run σ) = .ok r := by
  unfold itemCall
  split
  · exact ⟨_, by rw [attempt_run]; rfl⟩
  · exact ⟨_, rfl⟩

/-- **A collection over a pool calls every item once, in some order**, one after another from
where it started, whatever the plan; its outcomes, by item, are what the items' steps gave. -/
theorem collectItems_run (e : Executor) (plan : Plan) (items : List β) (step : β → BuildM α)
    (σ : Session) : ∃ outs σ', (outs.map Prod.fst).Nodup ∧
      (outs.map Prod.fst).Perm (List.range items.length) ∧
      ((outs.map Prod.fst).mapM (callOutcome (itemCall items fun x => BuildM.attempt (step x)))).run σ =
        .ok outs σ' ∧
      (collectItems e plan items step).run σ =
        .ok ((List.range items.length).map fun i => (valueAt outs i).getD (.error notRun)) σ' := by
  obtain ⟨ms, hms⟩ := plan.moves_run e items.length (itemCall items fun x => BuildM.attempt (step x)) σ
  obtain ⟨outs, σ', hrun, htrace, hnodup, -, hall⟩ :=
    dispatch_calls (c := itemCall items fun x => BuildM.attempt (step x)) e ms items.length σ
  -- the calls are attempts, so none failed and the pool was never cancelled
  have hnone : firstFailure outs = none := by
    refine List.findSome?_eq_none_iff.mpr fun o ho => ?_
    obtain ⟨-, pre, σa, -, -, hans⟩ := outcome_of_mem htrace hnodup ho
    obtain ⟨r, hr⟩ := answer_itemCall_attempt items step o.1 σa
    rw [← hans, hr]
    rfl
  refine ⟨outs, σ', hnodup, hall hnone, htrace, ?_⟩
  simp only [collectItems, EStateM.run_bind, hms, hrun]
  rfl

end TestRig.Build
